import SchemaClosure.Proofs.Snapshot.Validity

namespace SchemaClosure.Snapshot

open Relation

/-- Lists that are related place by place have related elements at the first places that answer a test. -/
theorem rel_find?_of_forall₂ {α β : Type} {Related : α → β → Prop} {test : α → Bool} {test' : β → Bool} {first : List α} {second : List β}
    (h : List.Forall₂ Related first second) (htest : ∀ {a b}, Related a b → test a = test' b) :
    Option.Rel Related (first.find? test) (second.find? test') := by
  induction h with
  | nil => exact .none
  | cons hhead hrest ih =>
    rw [List.find?_cons, List.find?_cons, ← htest hhead]
    split
    · exact .some hhead
    · exact ih

/-- Walks through levels that are alike, as far as a walk looks at them, end alike. -/
theorem checkNesting_congr {Alike : Declaration → Declaration → Prop} {first second : Snapshot}
    (hname : ∀ {declaration declaration'}, Alike declaration declaration' → declaration.name = declaration'.name)
    (hcontaining : ∀ {declaration declaration'}, Alike declaration declaration' →
      declaration.containingType = declaration'.containingType)
    (houter : ∀ {declaration declaration' containing}, Alike declaration declaration' → declaration.containingType = some containing →
      Option.Rel Alike (first.find? containing) (second.find? containing))
    {start : String} {fuel : Nat} {current current' : Declaration} {inner inner' levels : List Declaration}
    (hcurrent : Alike current current') (hinner : List.Forall₂ Alike inner inner')
    (h : first.checkNesting start fuel inner current = .ok levels) :
    ∃ levels', second.checkNesting start fuel inner' current' = .ok levels' ∧ List.Forall₂ Alike levels levels' := by
  induction fuel generalizing current current' inner inner' with
  | zero => simp [checkNesting] at h
  | succ fuel ih =>
    have hpassed : List.Forall₂ Alike (current :: inner) (current' :: inner') := .cons hcurrent hinner
    have hnames : (current' :: inner').map (·.name) = (current :: inner).map (·.name) := by
      rw [eq_comm, ← List.forall₂_eq_eq_eq, List.forall₂_map_left_iff, List.forall₂_map_right_iff]
      exact hpassed.imp fun _ _ => hname
    have hany (containing : String) : (current' :: inner').any (·.name == containing) = (current :: inner).any (·.name == containing) := by
      have hsame := congrArg (List.any · (· == containing)) hnames
      rwa [List.any_map, List.any_map] at hsame
    unfold checkNesting at h ⊢
    rw [← hcontaining hcurrent]
    split at h
    · rw [← Except.ok.inj h]
      exact ⟨_, rfl, List.rel_reverse hpassed⟩
    · rename_i containing hnested
      simp only [hany]
      split at h
      · simp at h
      · rename_i hnew
        rw [if_neg hnew]
        have hfound := houter hcurrent hnested
        split at h
        · simp at h
        · rename_i outer hfind
          rw [hfind] at hfound
          cases hfound' : second.find? containing with
          | none =>
            rw [hfound'] at hfound
            cases hfound
          | some outer' =>
            rw [hfound'] at hfound
            cases hfound with
            | some halike => exact ih halike hpassed h

theorem checkNesting_mono {snapshot : Snapshot} {start : String} {fuel fuel' : Nat} {current : Declaration} {inner levels : List Declaration}
    (h : snapshot.checkNesting start fuel inner current = .ok levels) (hle : fuel ≤ fuel') :
    snapshot.checkNesting start fuel' inner current = .ok levels := by
  induction fuel generalizing fuel' current inner with
  | zero => simp [checkNesting] at h
  | succ fuel ih =>
    obtain ⟨more, rfl⟩ : ∃ more, fuel' = more + 1 := ⟨fuel' - 1, by omega⟩
    unfold checkNesting at h ⊢
    split at h
    · exact h
    · split at h
      · simp at h
      · rename_i hnew
        rw [if_neg hnew]
        split at h
        · simp at h
        · exact ih h (Nat.le_of_succ_le_succ hle)

variable {snapshot ordered : Snapshot} {declarations : List Declaration} {declaration completed : Declaration}

theorem containingType_of_complete (h : ordered.complete declaration = .ok completed) :
    completed.containingType = declaration.containingType := by
  obtain ⟨levels, -, hcompleted⟩ := bind_eq_ok_iff.mp h
  rw [← Except.ok.inj hcompleted]
  rfl

/-- A completed snapshot has the nesting that it had before. -/
theorem checkNesting_of_complete
    (h : List.Forall₂ (fun declaration completed => ordered.complete declaration = .ok completed) ordered.declarations
      snapshot.declarations)
    (hcompleted : ordered.complete declaration = .ok completed) :
    ∃ levels levels', ordered.checkNesting declaration.name ordered.size [] declaration = .ok levels ∧
      completed = ({ declaration with namespaceName := namespaceOf levels } : Declaration).bindParameters (scopeOf levels) ∧
      snapshot.checkNesting completed.name snapshot.size [] completed = .ok levels' ∧
      List.Forall₂ (fun declaration completed => ordered.complete declaration = .ok completed) levels levels' := by
  obtain ⟨levels, hlevels, hdeclaration⟩ := bind_eq_ok_iff.mp hcompleted
  have hfind (containing : String) : Option.Rel (fun declaration completed => ordered.complete declaration = .ok completed)
      (ordered.find? containing) (snapshot.find? containing) :=
    rel_find?_of_forall₂ h fun hcompleted => by rw [name_of_complete hcompleted]
  obtain ⟨levels', hlevels', halike⟩ := checkNesting_congr (fun hcompleted => (name_of_complete hcompleted).symm)
    (fun hcompleted => (containingType_of_complete hcompleted).symm) (fun _ _ => hfind _) hcompleted .nil hlevels
  have hsize : snapshot.size = ordered.size := h.length_eq.symm
  refine ⟨levels, levels', hlevels, (Except.ok.inj hdeclaration).symm, ?_, halike⟩
  rw [name_of_complete hcompleted, hsize]
  exact hlevels'

/-- Nesting does not come back to where it was. -/
theorem not_transGen_isNestedIn_self (h : ofDeclarations declarations = .ok snapshot) (declaration : Declaration) :
    ¬TransGen (IsNestedIn snapshot.declarations) declaration declaration := by
  intro hcycle
  obtain ⟨-, ordered, -, hcomplete, -⟩ := ofDeclarations_eq_ok h
  obtain ⟨inner, -, hmem, -⟩ := TransGen.tail'_iff.mp hcycle
  obtain ⟨given, -, hgiven⟩ := exists_of_mem_mapM hcomplete hmem
  obtain ⟨-, levels, -, -, hlevels, -⟩ := checkNesting_of_complete hcomplete hgiven
  rcases complete_cases (nodup_names h) hmem with ⟨-, -, hend⟩ | ⟨error, herror, -⟩
  · exact hend.not_reachesCycle (isNestedIn_rightUnique (nodup_names h)) ⟨declaration, .refl, hcycle⟩
  · rw [complete, hlevels] at herror
    simp [bind, Except.bind, pure, Except.pure] at herror

variable {fuel fuel' : Nat} {current outer level : Declaration}

theorem isNestedIn_of_find? (h : current.containingType.bind snapshot.find? = some outer) :
    IsNestedIn snapshot.declarations current outer := by
  obtain ⟨containing, hcontaining, hfind⟩ := Option.bind_eq_some_iff.mp h
  exact ⟨List.mem_of_find?_eq_some hfind, by rw [hcontaining, name_eq_of_find? hfind]⟩

/-- Going outward from a declaration is looking its containing type up. -/
theorem isNestedIn_iff_find? (h : ofDeclarations declarations = .ok snapshot) :
    IsNestedIn snapshot.declarations current outer ↔ current.containingType.bind snapshot.find? = some outer := by
  refine ⟨?_, isNestedIn_of_find?⟩
  rintro ⟨hmem, hcontaining⟩
  rw [hcontaining, Option.bind_some, find?_name_of_mem h hmem]

theorem reflTransGen_of_mem_enclosing (h : level ∈ snapshot.enclosing fuel current) :
    ReflTransGen (IsNestedIn snapshot.declarations) current level := by
  induction fuel generalizing current with
  | zero =>
    rw [List.mem_singleton.mp h]
  | succ fuel ih =>
    unfold enclosing at h
    split at h
    · rw [List.mem_singleton.mp h]
    · rename_i outer houter
      rcases List.mem_cons.mp h with rfl | h
      · exact .refl
      · exact .head (isNestedIn_of_find? houter) (ih h)

theorem nodup_enclosing (hacyclic : ∀ declaration, ¬TransGen (IsNestedIn snapshot.declarations) declaration declaration) :
    (snapshot.enclosing fuel current).Nodup := by
  induction fuel generalizing current with
  | zero => exact List.nodup_singleton _
  | succ fuel ih =>
    unfold enclosing
    split
    · exact List.nodup_singleton _
    · rename_i outer houter
      refine List.nodup_cons.mpr ⟨?_, ih⟩
      intro hmem
      exact hacyclic current (.head' (isNestedIn_of_find? houter) (reflTransGen_of_mem_enclosing hmem))

/-- A list of levels that is shorter than it may be is complete. -/
theorem enclosing_of_length_le (h : (snapshot.enclosing fuel current).length ≤ fuel) (hle : fuel ≤ fuel') :
    snapshot.enclosing fuel' current = snapshot.enclosing fuel current := by
  induction fuel generalizing fuel' current with
  | zero => simp [enclosing] at h
  | succ fuel ih =>
    obtain ⟨more, rfl⟩ : ∃ more, fuel' = more + 1 := ⟨fuel' - 1, by omega⟩
    unfold enclosing at h ⊢
    split at h
    · rfl
    · rw [ih (Nat.le_of_succ_le_succ h) (Nat.le_of_succ_le_succ hle)]

theorem length_enclosing_le (h : ofDeclarations declarations = .ok snapshot) (hmem : current ∈ snapshot.declarations) :
    (snapshot.enclosing snapshot.size current).length ≤ snapshot.size := by
  have hsubset : snapshot.enclosing snapshot.size current ⊆ snapshot.declarations := by
    intro level hlevel
    rcases ReflTransGen.cases_tail (reflTransGen_of_mem_enclosing hlevel) with rfl | ⟨inner, -, houter, -⟩
    · exact hmem
    · exact houter
  exact (List.subperm_of_subset (nodup_enclosing (not_transGen_isNestedIn_self h)) hsubset).length_le

/-- An accepted snapshot has all levels around a declaration among its first levels, as many as it has declarations. -/
theorem enclosing_of_size_le (h : ofDeclarations declarations = .ok snapshot) (hmem : current ∈ snapshot.declarations)
    (hle : snapshot.size ≤ fuel) : snapshot.enclosing fuel current = snapshot.enclosing snapshot.size current :=
  enclosing_of_length_le (length_enclosing_le h hmem) hle

end SchemaClosure.Snapshot
