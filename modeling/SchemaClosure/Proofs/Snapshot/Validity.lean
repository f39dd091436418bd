import Mathlib.Data.List.Sort
import SchemaClosure.Proofs.Snapshot.Scope
import SchemaClosure.Proofs.Walk

/-!
The check of a snapshot is exact. Declarations are accepted if and only if they are valid: they have names that differ, they are nested in declared types, and neither nesting nor bases come back to where they were. What a refusal says is true, and the order of the declarations plays no part in it once their names are in order.
-/

namespace SchemaClosure

open Relation

namespace TypeRef

/-- Binding takes the name of a type away where it is the name of a parameter in scope, and stands alone. -/
theorem name?_bindParameters_eq_some_iff {scope : List String} {type : TypeRef} {name : String} :
    (type.bindParameters scope).name? = some name ↔ type.name? = some name ∧ ¬(type.arguments = [] ∧ name ∈ scope) := by
  cases type with
  | named own arguments =>
    cases arguments with
    | nil =>
      rw [bindParameters]
      split
      · rename_i hbound
        simp only [name?, arguments, Option.some.injEq, reduceCtorEq, true_and, false_iff, not_and, not_not]
        rintro rfl
        simpa using hbound
      · rename_i hfree
        simp only [name?, arguments, Option.some.injEq, true_and, iff_self_and]
        rintro rfl
        simpa using hfree
    | cons first rest => simp [bindParameters, name?, arguments]
  | parameter own => simp [bindParameters, name?]
  | array element rank => simp [bindParameters, name?]
  | tuple elements => simp [bindParameters, name?]

end TypeRef

namespace Snapshot

/-- The names that a declaration may use for type parameters: of its own, and of the declarations around it. -/
def InScope (declarations : List Declaration) (declaration : Declaration) (name : String) : Prop :=
  name ∈ declaration.parameterNames ∨ IsOuterParameter declarations declaration name

/-- The declared type called `name` has a base called `base`. Arrays, tuples and type parameters in scope are called nothing. -/
def IsBasedOn (declarations : List Declaration) (name base : String) : Prop :=
  ∃ declaration ∈ declarations, declaration.name = name ∧ ∃ type, declaration.base = some type ∧ type.name? = some base ∧
    ¬(type.arguments = [] ∧ InScope declarations declaration base)

structure IsValid (declarations : List Declaration) : Prop where
  named : "" ∉ declarations.map (·.name)
  distinct : (declarations.map (·.name)).Nodup
  contained : ∀ declaration ∈ declarations, ∀ containing, declaration.containingType = some containing →
    containing ∈ declarations.map (·.name)
  nesting : ∀ declaration, ¬TransGen (IsNestedIn declarations) declaration declaration
  bases : ∀ name, ¬TransGen (IsBasedOn declarations) name name

end Snapshot

/-- What an error says about the declarations that are refused with it. -/
def SnapshotError.IsTrueOf (declarations : List Declaration) : SnapshotError → Prop
  | .emptyName => "" ∈ declarations.map (·.name)
  | .duplicateType name => 2 ≤ (declarations.map (·.name)).count name
  | .unknownContainingType name containing =>
    (∃ declaration ∈ declarations, declaration.name = name ∧ declaration.containingType = some containing) ∧
      containing ∉ declarations.map (·.name)
  | .cyclicNesting name =>
    ∃ declaration ∈ declarations, declaration.name = name ∧ ReachesCycle (Snapshot.IsNestedIn declarations) declaration
  | .cyclicBase name => name ∈ declarations.map (·.name) ∧ ReachesCycle (Snapshot.IsBasedOn declarations) name

namespace Snapshot

variable {snapshot ordered : Snapshot} {declarations reordered : List Declaration} {declaration current : Declaration}

/-- Nothing that an error says is true of valid declarations. -/
theorem IsValid.not_isTrueOf (h : IsValid declarations) {error : SnapshotError} : ¬error.IsTrueOf declarations := by
  cases error with
  | emptyName => exact h.named
  | duplicateType name => exact fun htwice => absurd (List.nodup_iff_count_le_one.mp h.distinct name) (Nat.not_le.mpr htwice)
  | unknownContainingType name containing =>
    rintro ⟨⟨declaration, hmem, -, hcontaining⟩, hunknown⟩
    exact hunknown (h.contained declaration hmem containing hcontaining)
  | cyclicNesting name =>
    rintro ⟨-, -, -, cyclic, -, hcycle⟩
    exact h.nesting cyclic hcycle
  | cyclicBase name =>
    rintro ⟨-, cyclic, -, hcycle⟩
    exact h.bases cyclic hcycle

/-! The relations do not depend on the order of the declarations. -/

theorem isNestedIn_eq_of_perm (h : reordered.Perm declarations) : IsNestedIn reordered = IsNestedIn declarations := by
  funext inner outer
  simp only [IsNestedIn, h.mem_iff]

theorem isBasedOn_eq_of_perm (h : reordered.Perm declarations) : IsBasedOn reordered = IsBasedOn declarations := by
  funext name base
  simp only [IsBasedOn, InScope, IsOuterParameter, isNestedIn_eq_of_perm h, h.mem_iff]

theorem IsValid.of_perm (h : reordered.Perm declarations) (hvalid : IsValid reordered) : IsValid declarations where
  named := fun hempty => hvalid.named ((h.map _).mem_iff.mpr hempty)
  distinct := (h.map _).nodup_iff.mp hvalid.distinct
  contained := fun declaration hmem containing hcontaining =>
    (h.map _).mem_iff.mp (hvalid.contained declaration (h.mem_iff.mpr hmem) containing hcontaining)
  nesting := isNestedIn_eq_of_perm h ▸ hvalid.nesting
  bases := isBasedOn_eq_of_perm h ▸ hvalid.bases

theorem isTrueOf_iff_of_perm (h : reordered.Perm declarations) {error : SnapshotError} :
    error.IsTrueOf reordered ↔ error.IsTrueOf declarations := by
  cases error <;>
    simp only [SnapshotError.IsTrueOf, isNestedIn_eq_of_perm h, isBasedOn_eq_of_perm h, h.mem_iff, (h.map _).mem_iff, (h.map _).count_eq]

theorem named_of_checkNames {seen : List String} (h : checkNames seen declarations = .ok ()) : "" ∉ declarations.map (·.name) := by
  induction declarations generalizing seen with
  | nil => exact List.not_mem_nil
  | cons declaration rest ih =>
    unfold checkNames at h
    split at h
    · simp at h
    · rename_i hnamed
      split at h
      · simp at h
      · rw [List.map_cons, List.mem_cons, not_or]
        exact ⟨Ne.symm hnamed, ih h⟩

theorem checkNames_of_nodup {seen : List String} (hnamed : "" ∉ declarations.map (·.name))
    (hdistinct : (declarations.map (·.name)).Nodup) (hfresh : ∀ declaration ∈ declarations, declaration.name ∉ seen) :
    checkNames seen declarations = .ok () := by
  induction declarations generalizing seen with
  | nil => rfl
  | cons declaration rest ih =>
    rw [List.map_cons, List.mem_cons, not_or] at hnamed
    obtain ⟨hother, hrest⟩ := List.nodup_cons.mp hdistinct
    obtain ⟨hhead, htail⟩ := List.forall_mem_cons.mp hfresh
    rw [checkNames, if_neg (Ne.symm hnamed.1), if_neg (by simpa using hhead)]
    apply ih hnamed.2 hrest
    intro later hlater hmem
    rcases List.mem_cons.mp hmem with heq | hmem
    · exact hother (List.mem_map.mpr ⟨later, hlater, heq⟩)
    · exact htail later hlater hmem

/-- A name that is refused is empty, or it has been used before. -/
theorem checkNames_eq_error {seen : List String} {error : SnapshotError} (h : checkNames seen declarations = .error error) :
    error = .emptyName ∧ "" ∈ declarations.map (·.name) ∨
      ∃ name, error = .duplicateType name ∧ 2 ≤ (seen ++ declarations.map (·.name)).count name := by
  induction declarations generalizing seen with
  | nil => simp [checkNames] at h
  | cons declaration rest ih =>
    unfold checkNames at h
    split at h
    · rename_i hempty
      exact Or.inl ⟨(Except.error.inj h).symm, hempty ▸ List.mem_cons_self⟩
    · split at h
      · rename_i hseen
        refine Or.inr ⟨declaration.name, (Except.error.inj h).symm, ?_⟩
        have hbefore : 0 < seen.count declaration.name := List.count_pos_iff.mpr (by simpa using hseen)
        rw [List.count_append, List.map_cons, List.count_cons_self]
        omega
      · rcases ih h with ⟨rfl, hempty⟩ | ⟨name, rfl, htwice⟩
        · exact Or.inl ⟨rfl, List.mem_cons_of_mem _ hempty⟩
        · refine Or.inr ⟨name, rfl, ?_⟩
          rw [List.cons_append, List.count_cons, List.count_append] at htwice
          rw [List.count_append, List.map_cons, List.count_cons]
          omega

theorem isTrueOf_of_checkNames {error : SnapshotError} (h : checkNames [] declarations = .error error) :
    error.IsTrueOf declarations := by
  rcases checkNames_eq_error h with ⟨rfl, hempty⟩ | ⟨name, rfl, htwice⟩
  · exact hempty
  · exact htwice

theorem isNestedIn_rightUnique (hdistinct : (declarations.map (·.name)).Nodup) : Relator.RightUnique (IsNestedIn declarations) := by
  rintro inner outer outer' ⟨hmem, hcontaining⟩ ⟨hmem', hcontaining'⟩
  rw [hcontaining] at hcontaining'
  exact eq_of_mem_of_name_eq hdistinct hmem hmem' (Option.some.inj hcontaining')

theorem not_isNestedIn_of_outermost {outermost : Declaration} (h : outermost.containingType = none) (outer : Declaration) :
    ¬IsNestedIn declarations outermost outer := by
  rintro ⟨-, hcontaining⟩
  simp [h] at hcontaining

/-- The walk through the levels around a declaration ends outside, or at a level in an undeclared type, or it comes round. There are too few declarations for the fuel to run out. -/
theorem checkNesting_cases (hdistinct : (ordered.declarations.map (·.name)).Nodup) (start : String) (fuel : Nat)
    {inner : List Declaration} (hlevels : current :: inner ⊆ ordered.declarations)
    (htrail : IsTrail (IsNestedIn ordered.declarations) inner current) (hfresh : current ∉ inner)
    (hfuel : ordered.size < fuel + (current :: inner).length) :
    (∃ levels, ordered.checkNesting start fuel inner current = .ok levels ∧
        ∃ outermost, ReflTransGen (IsNestedIn ordered.declarations) current outermost ∧ outermost.containingType = none) ∨
      (∃ level ∈ ordered.declarations, ∃ containing, level.containingType = some containing ∧
        containing ∉ ordered.declarations.map (·.name) ∧
        ordered.checkNesting start fuel inner current = .error (.unknownContainingType level.name containing)) ∨
      (ordered.checkNesting start fuel inner current = .error (.cyclicNesting start) ∧
        ReachesCycle (IsNestedIn ordered.declarations) current) := by
  induction fuel generalizing inner current with
  | zero =>
    have hlength := (List.subperm_of_subset (List.nodup_cons.mpr ⟨hfresh, htrail.nodup⟩) hlevels).length_le
    rw [Nat.zero_add] at hfuel
    exact absurd hlength (Nat.not_le.mpr hfuel)
  | succ fuel ih =>
    unfold checkNesting
    cases hcontaining : current.containingType with
    | none => exact Or.inl ⟨_, rfl, current, .refl, hcontaining⟩
    | some containing =>
      have hnext {outer : Declaration} (houter : outer ∈ ordered.declarations) (hname : outer.name = containing) :
          IsNestedIn ordered.declarations current outer := ⟨houter, by rw [hcontaining, hname]⟩
      simp only
      split
      · rename_i hback
        obtain ⟨level, hlevel, hname⟩ := List.any_eq_true.mp hback
        have hnested := hnext (hlevels hlevel) (eq_of_beq hname)
        exact Or.inr (Or.inr ⟨rfl, ((htrail.push hfresh hnested).reachesCycle hlevel).of_step hnested⟩)
      · rename_i hnew
        cases hfind : ordered.find? containing with
        | none =>
          refine Or.inr (Or.inl ⟨current, hlevels List.mem_cons_self, containing, hcontaining, ?_, rfl⟩)
          intro hdeclared
          obtain ⟨declaration, hdeclaration, hname⟩ := List.mem_map.mp hdeclared
          rw [(find?_eq_some_iff_of_nodup hdistinct).mpr ⟨hdeclaration, hname⟩] at hfind
          simp at hfind
        | some outer =>
          obtain ⟨houter, hname⟩ := (find?_eq_some_iff_of_nodup hdistinct).mp hfind
          have hnested := hnext houter hname
          have hfreshOuter : outer ∉ current :: inner :=
            fun hpassed => hnew (List.any_eq_true.mpr ⟨outer, hpassed, beq_iff_eq.mpr hname⟩)
          have hfuel : ordered.size < fuel + (outer :: current :: inner).length := by
            rw [List.length_cons]
            omega
          rcases ih (List.cons_subset.mpr ⟨houter, hlevels⟩) (htrail.push hfresh hnested) hfreshOuter hfuel with
            ⟨levels, hok, outermost, hpath, hend⟩ | hunknown | ⟨herror, hcycle⟩
          · exact Or.inl ⟨levels, hok, outermost, hpath.head hnested, hend⟩
          · exact Or.inr (Or.inl hunknown)
          · exact Or.inr (Or.inr ⟨herror, hcycle.of_step hnested⟩)

theorem contained_of_complete {completed : Declaration} (h : ordered.complete declaration = .ok completed) {containing : String}
    (hcontaining : declaration.containingType = some containing) : containing ∈ ordered.declarations.map (·.name) := by
  obtain ⟨levels, hlevels, -⟩ := bind_eq_ok_iff.mp h
  cases hsize : ordered.size with
  | zero => simp [hsize, checkNesting] at hlevels
  | succ fuel =>
    rw [hsize, checkNesting, hcontaining] at hlevels
    simp only at hlevels
    split at hlevels
    · simp at hlevels
    · split at hlevels
      · simp at hlevels
      · rename_i outer hfind
        exact List.mem_map.mpr ⟨outer, List.mem_of_find?_eq_some hfind, name_eq_of_find? hfind⟩

theorem complete_cases (hdistinct : (ordered.declarations.map (·.name)).Nodup) (hmem : declaration ∈ ordered.declarations) :
    (∃ completed, ordered.complete declaration = .ok completed ∧
        ReachesEnd (IsNestedIn ordered.declarations) declaration) ∨
      ∃ error, ordered.complete declaration = .error error ∧ error.IsTrueOf ordered.declarations := by
  have hwalk := checkNesting_cases hdistinct declaration.name ordered.size (List.cons_subset.mpr ⟨hmem, List.nil_subset _⟩)
    (.nil _ _) List.not_mem_nil (Nat.lt_succ_self _)
  rcases hwalk with ⟨levels, hlevels, outermost, hpath, hend⟩ | ⟨level, hlevel, containing, hcontaining, hunknown, herror⟩ | ⟨herror, hcycle⟩
  · have hcomplete : ordered.complete declaration = .ok _ := bind_eq_ok_iff.mpr ⟨levels, hlevels, rfl⟩
    exact Or.inl ⟨_, hcomplete, outermost, hpath, not_isNestedIn_of_outermost hend⟩
  · have hcomplete : ordered.complete declaration = .error (.unknownContainingType level.name containing) :=
      bind_eq_error_iff.mpr (Or.inl herror)
    exact Or.inr ⟨_, hcomplete, ⟨level, hlevel, rfl, hcontaining⟩, hunknown⟩
  · have hcomplete : ordered.complete declaration = .error (.cyclicNesting declaration.name) := bind_eq_error_iff.mpr (Or.inl herror)
    exact Or.inr ⟨_, hcomplete, declaration, hmem, rfl, hcycle⟩

def baseName? (snapshot : Snapshot) (name : String) : Option String :=
  (snapshot.find? name).bind fun declaration => declaration.base.bind TypeRef.name?

theorem basesEnd_succ (snapshot : Snapshot) (fuel : Nat) (seen : List String) (name : String) :
    snapshot.basesEnd (fuel + 1) seen name =
      if seen.contains name then false else (snapshot.baseName? name).elim true (snapshot.basesEnd fuel (name :: seen)) := by
  rw [basesEnd, baseName?]
  split
  · rfl
  · cases (snapshot.find? name).bind fun declaration => declaration.base.bind TypeRef.name? <;> rfl

/-- The walk through the bases above a name ends, or it comes round. There are too few declared names for the fuel to run out. -/
theorem basesEnd_cases (snapshot : Snapshot) (fuel : Nat) {seen : List String} (name : String)
    (hdeclared : seen ⊆ snapshot.declarations.map (·.name))
    (htrail : IsTrail (fun name base => snapshot.baseName? name = some base) seen name)
    (hfuel : snapshot.size + 2 ≤ fuel + seen.length) :
    (snapshot.basesEnd fuel seen name = true ∧ ReachesEnd (fun name base => snapshot.baseName? name = some base) name) ∨
      (snapshot.basesEnd fuel seen name = false ∧ ReachesCycle (fun name base => snapshot.baseName? name = some base) name) := by
  induction fuel generalizing seen name with
  | zero =>
    have hlength := htrail.length_le hdeclared
    rw [List.length_map] at hlength
    have hsize : snapshot.size = snapshot.declarations.length := rfl
    omega
  | succ fuel ih =>
    rw [basesEnd_succ]
    split
    · rename_i hback
      exact Or.inr ⟨rfl, htrail.reachesCycle (List.contains_iff_mem.mp hback)⟩
    · rename_i hnew
      cases hbase : snapshot.baseName? name with
      | none => exact Or.inl ⟨rfl, name, .refl, fun next hnext => by simp [hbase] at hnext⟩
      | some base =>
        obtain ⟨declaration, hfind, -⟩ := Option.bind_eq_some_iff.mp hbase
        have hname : name ∈ snapshot.declarations.map (·.name) :=
          List.mem_map.mpr ⟨declaration, List.mem_of_find?_eq_some hfind, name_eq_of_find? hfind⟩
        have hfresh : name ∉ seen := fun hmem => hnew (List.contains_iff_mem.mpr hmem)
        have hfuel : snapshot.size + 2 ≤ fuel + (name :: seen).length := by
          rw [List.length_cons]
          omega
        rcases ih base (List.cons_subset.mpr ⟨hname, hdeclared⟩) (htrail.push hfresh hbase) hfuel with
          ⟨hresult, hend⟩ | ⟨hresult, hcycle⟩
        · exact Or.inl ⟨hresult, hend.of_step hbase⟩
        · exact Or.inr ⟨hresult, hcycle.of_step hbase⟩

theorem checkBases_cases (snapshot : Snapshot) (declaration : Declaration) :
    (snapshot.checkBases declaration = .ok () ∧
        ReachesEnd (fun name base => snapshot.baseName? name = some base) declaration.name) ∨
      (snapshot.checkBases declaration = .error (.cyclicBase declaration.name) ∧
        ReachesCycle (fun name base => snapshot.baseName? name = some base) declaration.name) := by
  unfold checkBases
  rcases basesEnd_cases snapshot (snapshot.size + 2) declaration.name (List.nil_subset _) (.nil _ _) (Nat.le_refl _) with
    ⟨hresult, hend⟩ | ⟨hresult, hcycle⟩
  · rw [if_pos hresult]
    exact Or.inl ⟨rfl, hend⟩
  · rw [if_neg (by simp [hresult])]
    exact Or.inr ⟨rfl, hcycle⟩

/-! What the walk through the levels collects is every level around a declaration. -/

theorem mem_of_checkNesting (hdistinct : (ordered.declarations.map (·.name)).Nodup) {start : String} {fuel : Nat}
    {inner levels : List Declaration} (h : ordered.checkNesting start fuel inner current = .ok levels) {level : Declaration}
    (hlevel : level ∈ current :: inner ∨ TransGen (IsNestedIn ordered.declarations) current level) : level ∈ levels := by
  induction fuel generalizing inner current with
  | zero => simp [checkNesting] at h
  | succ fuel ih =>
    unfold checkNesting at h
    split at h
    · rename_i houtermost
      rw [← Except.ok.inj h, List.mem_reverse]
      refine hlevel.resolve_right ?_
      intro habove
      obtain ⟨outer, hnested, -⟩ := TransGen.head'_iff.mp habove
      exact not_isNestedIn_of_outermost houtermost outer hnested
    · rename_i containing hcontaining
      split at h
      · simp at h
      · split at h
        · simp at h
        · rename_i outer hfind
          apply ih h
          rcases hlevel with hpassed | habove
          · exact Or.inl (List.mem_cons_of_mem _ hpassed)
          · obtain ⟨next, ⟨hnext, hname⟩, hrest⟩ := TransGen.head'_iff.mp habove
            have hsame : next = outer := by
              obtain ⟨houter, houterName⟩ := (find?_eq_some_iff_of_nodup hdistinct).mp hfind
              refine eq_of_mem_of_name_eq hdistinct hnext houter ?_
              rw [houterName]
              exact Option.some.inj (hname.symm.trans hcontaining)
            subst hsame
            rcases reflTransGen_iff_eq_or_transGen.mp hrest with rfl | hrest
            · exact Or.inl List.mem_cons_self
            · exact Or.inr hrest

theorem mem_scopeOf_iff (hdistinct : (ordered.declarations.map (·.name)).Nodup) {start : String} {fuel : Nat}
    {levels : List Declaration} (h : ordered.checkNesting start fuel [] declaration = .ok levels) {name : String} :
    name ∈ scopeOf levels ↔ InScope ordered.declarations declaration name := by
  rw [scopeOf, List.mem_flatMap]
  constructor
  · rintro ⟨level, hlevel, hname⟩
    rcases transGen_of_checkNesting (List.Subset.refl _) h hlevel with hself | habove
    · rw [List.mem_singleton.mp hself] at hname
      exact Or.inl hname
    · exact Or.inr ⟨level, habove, hname⟩
  · rintro (hname | ⟨outer, habove, hname⟩)
    · exact ⟨declaration, mem_of_checkNesting hdistinct h (Or.inl List.mem_cons_self), hname⟩
    · exact ⟨outer, mem_of_checkNesting hdistinct h (Or.inr habove), hname⟩

/-- The bases in a completed snapshot are those of the given declarations, without the parameters in scope. -/
theorem baseName?_completed_iff (hdistinct : (ordered.declarations.map (·.name)).Nodup) {completed : List Declaration}
    (h : ordered.declarations.mapM ordered.complete = .ok completed) {name base : String} :
    (Snapshot.mk completed).baseName? name = some base ↔ IsBasedOn ordered.declarations name base := by
  have hcompleted := mapM_eq_ok_iff.mp h
  have hnames : completed.map (·.name) = ordered.declarations.map (·.name) := names_of_complete hcompleted
  have hdistinct' : ((Snapshot.mk completed).declarations.map (·.name)).Nodup := by
    rw [hnames]
    exact hdistinct
  have hbase {given bound : Declaration} (hbound : ordered.complete given = .ok bound) :
      bound.base.bind TypeRef.name? = some base ↔ ∃ type, given.base = some type ∧ type.name? = some base ∧
        ¬(type.arguments = [] ∧ InScope ordered.declarations given base) := by
    obtain ⟨levels, hlevels, hok⟩ := bind_eq_ok_iff.mp hbound
    rw [← Except.ok.inj hok]
    simp only [Declaration.bindParameters, Option.bind_eq_some_iff, Option.map_eq_some_iff, ← mem_scopeOf_iff hdistinct hlevels]
    constructor
    · rintro ⟨-, ⟨type, htype, rfl⟩, hname⟩
      exact ⟨type, htype, TypeRef.name?_bindParameters_eq_some_iff.mp hname⟩
    · rintro ⟨type, htype, hname⟩
      exact ⟨_, ⟨type, htype, rfl⟩, TypeRef.name?_bindParameters_eq_some_iff.mpr hname⟩
  constructor
  · intro hstep
    obtain ⟨bound, hfind, hboundBase⟩ := Option.bind_eq_some_iff.mp hstep
    obtain ⟨hmem, hname⟩ := (find?_eq_some_iff_of_nodup hdistinct').mp hfind
    obtain ⟨given, hgiven, hbound⟩ := exists_of_mem_mapM hcompleted hmem
    exact ⟨given, hgiven, (name_of_complete hbound).symm.trans hname, (hbase hbound).mp hboundBase⟩
  · rintro ⟨given, hgiven, hname, hgivenBase⟩
    obtain ⟨bound, hmem, hbound⟩ := exists_mem_of_mapM hcompleted hgiven
    have hfind : (Snapshot.mk completed).find? name = some bound :=
      (find?_eq_some_iff_of_nodup hdistinct').mpr ⟨hmem, (name_of_complete hbound).trans hname⟩
    exact Option.bind_eq_some_iff.mpr ⟨bound, hfind, (hbase hbound).mpr hgivenBase⟩

/-- What is left of the check once the names are in order. -/
theorem ofDeclarations_of_nodup (hnamed : "" ∉ declarations.map (·.name)) (hdistinct : (declarations.map (·.name)).Nodup) :
    ofDeclarations declarations = do
      let ordered : Snapshot := ⟨declarations.mergeSort fun first second => first.name ≤ second.name⟩
      let snapshot : Snapshot := ⟨← ordered.declarations.mapM ordered.complete⟩
      snapshot.declarations.forM snapshot.checkBases
      return snapshot := by
  rw [ofDeclarations, checkNames_of_nodup hnamed hdistinct (fun _ _ => List.not_mem_nil)]
  rfl

/-- The order of the names. -/
theorem pairwise_mergeSort_name (declarations : List Declaration) :
    (declarations.mergeSort fun first second => first.name ≤ second.name).Pairwise fun first second => first.name ≤ second.name := by
  have htrans (first second third : Declaration) (hfirst : decide (first.name ≤ second.name) = true)
      (hsecond : decide (second.name ≤ third.name) = true) : decide (first.name ≤ third.name) = true :=
    decide_eq_true (String.le_trans (of_decide_eq_true hfirst) (of_decide_eq_true hsecond))
  have htotal (first second : Declaration) : (decide (first.name ≤ second.name) || decide (second.name ≤ first.name)) = true := by
    simpa using String.le_total first.name second.name
  exact (List.pairwise_mergeSort htrans htotal declarations).imp of_decide_eq_true

theorem mergeSort_eq_of_perm (hperm : reordered.Perm declarations) (hdistinct : (declarations.map (·.name)).Nodup) :
    (reordered.mergeSort fun first second => first.name ≤ second.name) =
      declarations.mergeSort fun first second => first.name ≤ second.name := by
  refine List.Perm.eq_of_pairwise ?_ (pairwise_mergeSort_name reordered) (pairwise_mergeSort_name declarations)
    (((List.mergeSort_perm _ _).trans hperm).trans (List.mergeSort_perm _ _).symm)
  intro first second hfirst hsecond hle hge
  rw [List.mem_mergeSort] at hfirst hsecond
  exact eq_of_mem_of_name_eq hdistinct (hperm.mem_iff.mp hfirst) hsecond (String.le_antisymm hle hge)

theorem isTrueOf_of_ofDeclarations {error : SnapshotError} (h : ofDeclarations declarations = .error error) :
    error.IsTrueOf declarations := by
  rcases bind_eq_error_iff.mp h with hnames | ⟨⟨⟩, hnames, h⟩
  · exact isTrueOf_of_checkNames hnames
  · have hperm := List.mergeSort_perm declarations fun first second => decide (first.name ≤ second.name)
    set ordered : Snapshot := ⟨declarations.mergeSort fun first second => first.name ≤ second.name⟩ with hordered
    have hdistinct : (ordered.declarations.map (·.name)).Nodup := (hperm.map _).nodup_iff.mpr (nodup_of_checkNames hnames).1
    rw [← isTrueOf_iff_of_perm hperm]
    rcases bind_eq_error_iff.mp h with hcomplete | ⟨completed, hcomplete, h⟩
    · obtain ⟨declaration, hmem, herror⟩ := exists_of_mapM_eq_error hcomplete
      rcases complete_cases hdistinct hmem with ⟨completed, hok, -⟩ | ⟨cause, hcause, htrue⟩
      · rw [hok] at herror
        simp at herror
      · rw [hcause] at herror
        rwa [← Except.error.inj herror]
    · rcases bind_eq_error_iff.mp h with hbases | ⟨⟨⟩, -, h⟩
      · obtain ⟨declaration, hmem, herror⟩ := exists_of_forM_eq_error hbases
        rcases checkBases_cases ⟨completed⟩ declaration with ⟨hok, -⟩ | ⟨hcause, hcycle⟩
        · rw [hok] at herror
          simp at herror
        · rw [hcause] at herror
          rw [← Except.error.inj herror]
          refine ⟨?_, ?_⟩
          · rw [← names_of_complete (mapM_eq_ok_iff.mp hcomplete)]
            exact List.mem_map_of_mem hmem
          · simpa only [baseName?_completed_iff hdistinct hcomplete] using hcycle
      · simp [pure, Except.pure] at h

theorem isValid_of_ofDeclarations (h : ofDeclarations declarations = .ok snapshot) : IsValid declarations := by
  obtain ⟨⟨⟩, hnames, h⟩ := bind_eq_ok_iff.mp h
  obtain ⟨completed, hcomplete, h⟩ := bind_eq_ok_iff.mp h
  obtain ⟨⟨⟩, hbases, -⟩ := bind_eq_ok_iff.mp h
  have hperm := List.mergeSort_perm declarations fun first second => decide (first.name ≤ second.name)
  set ordered : Snapshot := ⟨declarations.mergeSort fun first second => first.name ≤ second.name⟩ with hordered
  have hdistinct : (ordered.declarations.map (·.name)).Nodup := (hperm.map _).nodup_iff.mpr (nodup_of_checkNames hnames).1
  have hcompleted := mapM_eq_ok_iff.mp hcomplete
  refine IsValid.of_perm hperm ⟨?_, hdistinct, ?_, ?_, ?_⟩
  · exact fun hempty => named_of_checkNames hnames ((hperm.map _).mem_iff.mp hempty)
  · intro declaration hmem containing hcontaining
    obtain ⟨bound, -, hbound⟩ := exists_mem_of_mapM hcompleted hmem
    exact contained_of_complete hbound hcontaining
  · intro declaration hcycle
    obtain ⟨inner, -, hmem, -⟩ := TransGen.tail'_iff.mp hcycle
    obtain ⟨bound, -, hbound⟩ := exists_mem_of_mapM hcompleted hmem
    rcases complete_cases hdistinct hmem with ⟨-, -, hend⟩ | ⟨error, herror, -⟩
    · exact hend.not_reachesCycle (isNestedIn_rightUnique hdistinct) ⟨declaration, .refl, hcycle⟩
    · rw [hbound] at herror
      simp at herror
  · intro name hcycle
    obtain ⟨next, ⟨given, hgiven, hname, -⟩, -⟩ := TransGen.head'_iff.mp hcycle
    obtain ⟨bound, hmem, hbound⟩ := exists_mem_of_mapM hcompleted hgiven
    have hchecked := forM_eq_ok_iff.mp hbases bound hmem
    rcases checkBases_cases ⟨completed⟩ bound with ⟨-, hend⟩ | ⟨herror, -⟩
    · refine hend.not_reachesCycle ?_ ⟨name, ?_, ?_⟩
      · intro start first second hfirst hsecond
        exact Option.some.inj (hfirst.symm.trans hsecond)
      · rw [name_of_complete hbound, hname]
      · simpa only [baseName?_completed_iff hdistinct hcomplete] using hcycle
    · rw [hchecked] at herror
      simp at herror

/-- **The check of a snapshot is exact.** It accepts what is valid and nothing else, what it says of a list that it refuses is true of it, and where the names are in order the outcome is the same for every order of the declarations. -/
theorem ofDeclarations_isExact (declarations : List Declaration) :
    ((∃ snapshot, ofDeclarations declarations = .ok snapshot) ↔ IsValid declarations) ∧
      (∀ error, ofDeclarations declarations = .error error → error.IsTrueOf declarations) ∧
      ("" ∉ declarations.map (·.name) → (declarations.map (·.name)).Nodup →
        ∀ reordered, reordered.Perm declarations → ofDeclarations reordered = ofDeclarations declarations) := by
  refine ⟨⟨?_, ?_⟩, fun error => isTrueOf_of_ofDeclarations, ?_⟩
  · rintro ⟨snapshot, h⟩
    exact isValid_of_ofDeclarations h
  · intro hvalid
    cases h : ofDeclarations declarations with
    | ok snapshot => exact ⟨snapshot, rfl⟩
    | error error => exact absurd (isTrueOf_of_ofDeclarations h) hvalid.not_isTrueOf
  · intro hnamed hdistinct reordered hperm
    rw [ofDeclarations_of_nodup hnamed hdistinct, ofDeclarations_of_nodup (fun h => hnamed ((hperm.map _).mem_iff.mp h))
      ((hperm.map _).nodup_iff.mpr hdistinct), mergeSort_eq_of_perm hperm hdistinct]

/-- A seed is based on the type parameter of the pod around it. -/
def podDeclarations : List Declaration := [
  { name := "Demo.Pod", parameters := [{ name := "T" }] },
  { name := "Demo.Pod.Seed", containingType := some "Demo.Pod", base := some (.named "T" []) }]

/-- Two classes are based on each other, and a third one, which comes first in the order of the names, on one of them. -/
def ringDeclarations : List Declaration := [
  { name := "Demo.Above", base := some (.named "Demo.Left" []) },
  { name := "Demo.Left", base := some (.named "Demo.Right" []) },
  { name := "Demo.Right", base := some (.named "Demo.Left" []) }]

theorem ofDeclarations_podDeclarations :
    ofDeclarations podDeclarations = .ok ⟨[{ name := "Demo.Pod", namespaceName := some "Demo", parameters := [{ name := "T" }] },
      { name := "Demo.Pod.Seed", namespaceName := some "Demo", containingType := some "Demo.Pod", base := some (.parameter "T") }]⟩ := by
  rw [ofDeclarations_of_sorted (by decide +kernel)]
  rfl

theorem ofDeclarations_ringDeclarations : ofDeclarations ringDeclarations = .error (.cyclicBase "Demo.Above") := by
  rw [ofDeclarations_of_sorted (by decide +kernel)]
  rfl

/-- The pod is valid in either order; of the ring the class is reported that is not on it. -/
theorem isValid_podDeclarations :
    IsValid podDeclarations ∧ ofDeclarations podDeclarations.reverse = ofDeclarations podDeclarations ∧
      ReachesCycle (IsBasedOn ringDeclarations) "Demo.Above" :=
  ⟨(ofDeclarations_isExact podDeclarations).1.mp ⟨_, ofDeclarations_podDeclarations⟩,
    (ofDeclarations_isExact podDeclarations).2.2 (by decide +kernel) (by decide +kernel) _ (List.reverse_perm _),
    ((ofDeclarations_isExact ringDeclarations).2.1 _ ofDeclarations_ringDeclarations).2⟩

end Snapshot

end SchemaClosure
