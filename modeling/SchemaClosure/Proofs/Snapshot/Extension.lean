import SchemaClosure.Proofs.Snapshot.Nesting
import SchemaClosure.Proofs.Snapshot.Supertypes
import SchemaClosure.Proofs.TypeRef.Names

/-!
Snapshots with further declarations. A snapshot looks up names that occur in what it is asked about, and names that its declarations use; where these are found as before, every answer is as before.
-/

namespace SchemaClosure

/-- A name that a declaration refers to: of the type around it, or one used in a type that it mentions. -/
def Declaration.RefersTo (declaration : Declaration) (name : String) : Prop :=
  declaration.containingType = some name ∨ ∃ type ∈ declaration.mentionedTypes, name ∈ type.names

instance (declaration : Declaration) (name : String) : Decidable (declaration.RefersTo name) := inferInstanceAs (Decidable (_ ∨ _))

namespace Snapshot

open Relation

/-- What another snapshot has under the known names is the same, and the declarations of the snapshot refer to known names only. -/
structure IsExtendedBy (snapshot extended : Snapshot) (known : String → Prop) : Prop where
  find? : ∀ {name}, known name → extended.find? name = snapshot.find? name
  refers : ∀ {declaration}, declaration ∈ snapshot.declarations → ∀ {name}, declaration.RefersTo name → known name
  levels : ∀ {declaration}, declaration ∈ snapshot.declarations →
    extended.enclosing extended.size declaration = snapshot.enclosing snapshot.size declaration

namespace IsExtendedBy

variable {snapshot extended : Snapshot} {known : String → Prop} {type base mentioned : TypeRef} {declaration : Declaration}
  {name parent : String} {limit : Nat}

theorem usesOnly (h : snapshot.IsExtendedBy extended known) (hmem : declaration ∈ snapshot.declarations)
    (hmentioned : mentioned ∈ declaration.mentionedTypes) : mentioned.UsesOnly known :=
  fun _ hname => h.refers hmem (Or.inr ⟨mentioned, hmentioned, hname⟩)

theorem declaration?_eq (h : snapshot.IsExtendedBy extended known) (htype : type.UsesOnly known) :
    extended.declaration? type = snapshot.declaration? type := by
  unfold declaration?
  cases hname : type.name? with
  | none => rfl
  | some name => exact h.find? (htype name (TypeRef.mem_names_of_name? hname))

theorem usesOnly_substitute (h : snapshot.IsExtendedBy extended known) (htype : type.UsesOnly known)
    (hdeclaration : snapshot.declaration? type = some declaration) (hmentioned : mentioned ∈ declaration.mentionedTypes) :
    (mentioned.substitute (declaration.bindings type)).UsesOnly known :=
  (h.usesOnly (mem_of_declaration? hdeclaration) hmentioned).substitute
    fun _ hbinding => htype.of_mem_arguments (Declaration.mem_arguments_of_mem_bindings hbinding).2

theorem lineage_eq (h : snapshot.IsExtendedBy extended known) (htype : type.UsesOnly known) :
    extended.lineage limit type = snapshot.lineage limit type := by
  induction limit generalizing type with
  | zero => rfl
  | succ limit ih =>
    unfold lineage
    rw [h.declaration?_eq htype]
    split
    · rfl
    · rename_i declaration hdeclaration
      simp only
      split
      · rfl
      · rename_i base hbase
        rw [ih (h.usesOnly_substitute htype hdeclaration (Declaration.base_mem_mentionedTypes hbase))]

theorem usesOnly_of_mem_lineage (h : snapshot.IsExtendedBy extended known) (htype : type.UsesOnly known)
    {levels : List (Declaration × TypeRef.Bindings)} (hlevels : snapshot.lineage limit type = some levels)
    {level : Declaration × TypeRef.Bindings} (hlevel : level ∈ levels) (hmentioned : mentioned ∈ level.1.mentionedTypes) :
    (mentioned.substitute level.2).UsesOnly known := by
  induction limit generalizing type levels with
  | zero => simp [lineage] at hlevels
  | succ limit ih =>
    unfold lineage at hlevels
    split at hlevels
    · rw [← Option.some.inj hlevels] at hlevel
      exact absurd hlevel List.not_mem_nil
    · rename_i declaration hdeclaration
      simp only at hlevels
      split at hlevels
      · rw [← Option.some.inj hlevels] at hlevel
        rw [List.mem_singleton.mp hlevel] at hmentioned ⊢
        exact h.usesOnly_substitute htype hdeclaration hmentioned
      · rename_i base hbase
        obtain ⟨above, habove, rfl⟩ := Option.map_eq_some_iff.mp hlevels
        rcases List.mem_cons.mp hlevel with rfl | hlevel
        · exact h.usesOnly_substitute htype hdeclaration hmentioned
        · exact ih (h.usesOnly_substitute htype hdeclaration (Declaration.base_mem_mentionedTypes hbase)) habove hlevel

theorem members_eq (h : snapshot.IsExtendedBy extended known) (htype : type.UsesOnly known) :
    extended.members limit type = snapshot.members limit type := by
  rw [members, members, h.lineage_eq htype]

theorem constructors_eq (h : snapshot.IsExtendedBy extended known) (htype : type.UsesOnly known) :
    extended.constructors type = snapshot.constructors type := by
  unfold constructors
  rw [h.declaration?_eq htype]

theorem isParent_iff (h : snapshot.IsExtendedBy extended known) (hname : known name) :
    snapshot.IsParent name parent ↔ extended.IsParent name parent := by
  rw [IsParent, IsParent, h.find? hname]

theorem known_of_isParent (h : snapshot.IsExtendedBy extended known) (hparent : snapshot.IsParent name parent) : known parent := by
  obtain ⟨declaration, hfind, hmem⟩ := hparent
  obtain ⟨type, htype, hname⟩ := List.mem_filterMap.mp hmem
  have hmentioned : type ∈ declaration.mentionedTypes := by
    simp only [Declaration.mentionedTypes, List.append_assoc] at htype ⊢
    rw [← List.append_assoc]
    exact List.mem_append_left _ htype
  exact h.usesOnly (List.mem_of_find?_eq_some hfind) hmentioned parent (TypeRef.mem_names_of_name? hname)

theorem contains_supertypes (h : snapshot.IsExtendedBy extended known) (hname : known name) :
    (extended.supertypes name).contains parent = (snapshot.supertypes name).contains parent := by
  rw [Bool.eq_iff_iff, List.contains_iff_mem, List.contains_iff_mem, mem_supertypes_iff, mem_supertypes_iff]
  have hsame : TransGen snapshot.IsParent name parent ↔ TransGen extended.IsParent name parent :=
    transGen_congr h.isParent_iff (fun _ => h.known_of_isParent) hname
  exact hsame.symm

theorem implementsInterface_eq (h : snapshot.IsExtendedBy extended known) (htype : type.UsesOnly known) (interface : String) :
    extended.implementsInterface type interface = snapshot.implementsInterface type interface := by
  unfold implementsInterface
  cases hname : type.name? with
  | none => rfl
  | some name => exact h.contains_supertypes (htype name (TypeRef.mem_names_of_name? hname))

theorem isSubtype_eq (h : snapshot.IsExtendedBy extended known) (htype : type.UsesOnly known) (base : TypeRef) :
    extended.isSubtype type base = snapshot.isSubtype type base := by
  unfold isSubtype
  cases hname : type.name? with
  | none => rfl
  | some name =>
    cases base.name? with
    | none => rfl
    | some baseName => simp only [h.contains_supertypes (htype name (TypeRef.mem_names_of_name? hname))]

theorem accessibility_eq (h : snapshot.IsExtendedBy extended known) (htype : type.UsesOnly known) :
    extended.accessibility type = snapshot.accessibility type := by
  unfold accessibility
  rw [h.declaration?_eq htype]
  cases hdeclaration : snapshot.declaration? type with
  | none => rfl
  | some declaration => simp only [h.levels (mem_of_declaration? hdeclaration)]

theorem isDefinition_eq (h : snapshot.IsExtendedBy extended known) (htype : type.UsesOnly known) :
    extended.isDefinition type = snapshot.isDefinition type := by
  rw [isDefinition, isDefinition, definition?, definition?, h.declaration?_eq htype]

theorem declaresMethod_eq (h : snapshot.IsExtendedBy extended known) (htype : type.UsesOnly known) (name : String) :
    extended.declaresMethod type name = snapshot.declaresMethod type name := by
  rw [declaresMethod, declaresMethod, h.declaration?_eq htype]

theorem underlyingType?_eq (h : snapshot.IsExtendedBy extended known) (htype : type.UsesOnly known) :
    extended.underlyingType? type = snapshot.underlyingType? type := by
  rw [underlyingType?, underlyingType?, h.declaration?_eq htype]

mutual

theorem bindArguments_eq (h : snapshot.IsExtendedBy extended known) {scope : List String} : {type : TypeRef} → type.UsesOnly known →
    extended.bindArguments scope type = snapshot.bindArguments scope type
  | .named name [], htype => by
    have hname : known name := htype name (TypeRef.mem_names_of_name? rfl)
    rw [bindArguments, bindArguments, contains, contains, h.find? hname]
  | .named name (first :: rest), htype => by
    have hname : known name := htype name (TypeRef.mem_names_of_name? rfl)
    rw [bindArguments, bindArguments, h.find? hname, bindArguments_eq h (htype.of_mem_arguments List.mem_cons_self),
      bindAllArguments_eq h fun type hmem => htype.of_mem_arguments (List.mem_cons_of_mem _ hmem)]
  | .parameter _, _ => rfl
  | .array element rank, htype => by
    have helement : element.UsesOnly known := htype
    rw [bindArguments, bindArguments, bindArguments_eq h helement]
  | .tuple elements, htype => by
    rw [bindArguments, bindArguments, bindAllArguments_eq h fun type hmem name hname =>
      htype name (TypeRef.mem_names_tuple.mpr (Or.inr ⟨type, hmem, hname⟩))]

theorem bindAllArguments_eq (h : snapshot.IsExtendedBy extended known) {scope : List String} : {types : List TypeRef} →
    (∀ type ∈ types, type.UsesOnly known) → extended.bindAllArguments scope types = snapshot.bindAllArguments scope types
  | [], _ => rfl
  | type :: rest, htypes => by
    obtain ⟨htype, hrest⟩ := List.forall_mem_cons.mp htypes
    rw [bindAllArguments, bindAllArguments, bindArguments_eq h htype, bindAllArguments_eq h hrest]

end

theorem resolveType_eq (h : snapshot.IsExtendedBy extended known) {text : String}
    (htext : ∀ type, TypeRef.parse text = .ok type → type.UsesOnly known) :
    extended.resolveType text = snapshot.resolveType text := by
  unfold resolveType
  cases hparse : TypeRef.parse text with
  | error error => rfl
  | ok type => exact congrArg Except.ok (h.bindArguments_eq (htext type hparse))

end IsExtendedBy

variable {snapshot extended ordered ordered' : Snapshot} {declarations further all : List Declaration} {declaration completed : Declaration}

theorem enclosing_eq {known : String → Prop} (hfind : ∀ {name}, known name → extended.find? name = snapshot.find? name)
    (hcontaining : ∀ {declaration}, declaration ∈ snapshot.declarations → ∀ {containing}, declaration.containingType = some containing →
      known containing) {fuel : Nat} (hmem : declaration ∈ snapshot.declarations) :
    extended.enclosing fuel declaration = snapshot.enclosing fuel declaration := by
  induction fuel generalizing declaration with
  | zero => rfl
  | succ fuel ih =>
    have houter : declaration.containingType.bind extended.find? = declaration.containingType.bind snapshot.find? := by
      cases hcontains : declaration.containingType with
      | none => rfl
      | some containing => exact hfind (hcontaining hmem hcontains)
    unfold enclosing
    rw [houter]
    split
    · rfl
    · rename_i outer hfound
      obtain ⟨containing, -, hfound⟩ := Option.bind_eq_some_iff.mp hfound
      rw [ih (List.mem_of_find?_eq_some hfound)]

theorem size_of_ofDeclarations (h : ofDeclarations declarations = .ok snapshot) : snapshot.size = declarations.length := by
  obtain ⟨-, ordered, hperm, hcomplete, -⟩ := ofDeclarations_eq_ok h
  exact hcomplete.length_eq.symm.trans hperm.length_eq

/-- A declaration of an accepted snapshot refers to what the given one refers to. -/
theorem refersTo_of_complete {name : String} (hcompleted : ordered.complete declaration = .ok completed) (h : completed.RefersTo name) :
    declaration.RefersTo name := by
  obtain ⟨levels, -, hok⟩ := bind_eq_ok_iff.mp hcompleted
  rw [← Except.ok.inj hok] at h
  rcases h with hcontaining | ⟨type, htype, hname⟩
  · exact Or.inl hcontaining
  · rw [Declaration.mentionedTypes_bindParameters] at htype
    obtain ⟨given, hgiven, rfl⟩ := List.mem_map.mp htype
    exact Or.inr ⟨given, hgiven, TypeRef.mem_names_of_bindParameters hname⟩

/-- A declaration that is nested as before is completed as before, where its levels refer to what is found as before. -/
theorem complete_eq {known : String → Prop} (hfind : ∀ {name}, known name → ordered'.find? name = ordered.find? name)
    (hcontaining : ∀ {declaration}, declaration ∈ ordered.declarations → ∀ {containing}, declaration.containingType = some containing →
      known containing)
    (hsize : ordered.size ≤ ordered'.size) (hmem : declaration ∈ ordered.declarations) (h : ordered.complete declaration = .ok completed) :
    ordered'.complete declaration = .ok completed := by
  obtain ⟨levels, hlevels, hcompleted⟩ := bind_eq_ok_iff.mp h
  have houter {declaration declaration' : Declaration} {containing : String}
      (hsame : declaration = declaration' ∧ declaration ∈ ordered.declarations) (hnested : declaration.containingType = some containing) :
      Option.Rel (fun declaration declaration' => declaration = declaration' ∧ declaration ∈ ordered.declarations)
        (ordered.find? containing) (ordered'.find? containing) := by
    rw [hfind (hcontaining hsame.2 hnested)]
    cases houter : ordered.find? containing with
    | none => exact .none
    | some outer => exact .some ⟨rfl, List.mem_of_find?_eq_some houter⟩
  obtain ⟨levels', hlevels', hsame⟩ := checkNesting_congr (fun h => congrArg _ h.1) (fun h => congrArg _ h.1) houter ⟨rfl, hmem⟩ .nil hlevels
  have heq : levels' = levels := (List.forall₂_eq_eq_eq ▸ hsame.imp fun _ _ h => h.1 : levels = levels').symm
  rw [heq] at hlevels'
  exact bind_eq_ok_iff.mpr ⟨levels, checkNesting_mono hlevels' hsize, hcompleted⟩

theorem find?_eq_of_mem_iff (hdistinct : (snapshot.declarations.map (·.name)).Nodup)
    (hdistinct' : (extended.declarations.map (·.name)).Nodup) {name : String}
    (hmem : ∀ declaration : Declaration, declaration.name = name →
      (declaration ∈ extended.declarations ↔ declaration ∈ snapshot.declarations)) :
    extended.find? name = snapshot.find? name := by
  apply Option.ext
  intro declaration
  rw [find?_eq_some_iff_of_nodup hdistinct', find?_eq_some_iff_of_nodup hdistinct]
  exact and_congr_left (hmem declaration)

/-- Under a known name there is the same completed declaration, where the same one was given and it is completed as before. -/
theorem mem_completed_iff
    (hcomplete : List.Forall₂ (fun declaration completed => ordered.complete declaration = .ok completed) ordered.declarations
      snapshot.declarations)
    (hcomplete' : List.Forall₂ (fun declaration completed => ordered'.complete declaration = .ok completed) ordered'.declarations
      extended.declarations)
    (hmem : ∀ declaration : Declaration, declaration.name = completed.name →
      (declaration ∈ ordered'.declarations ↔ declaration ∈ ordered.declarations))
    (hkept : ∀ declaration ∈ ordered.declarations, ∀ completed, ordered.complete declaration = .ok completed →
      ordered'.complete declaration = .ok completed) :
    completed ∈ extended.declarations ↔ completed ∈ snapshot.declarations := by
  constructor
  · intro hcompleted
    obtain ⟨given, hgiven', hok'⟩ := exists_of_mem_mapM hcomplete' hcompleted
    have hgiven := (hmem given (name_of_complete hok').symm).mp hgiven'
    obtain ⟨same, hsame, hok⟩ := exists_mem_of_mapM hcomplete hgiven
    rwa [Except.ok.inj (hok'.symm.trans (hkept given hgiven same hok))]
  · intro hcompleted
    obtain ⟨given, hgiven, hok⟩ := exists_of_mem_mapM hcomplete hcompleted
    have hgiven' := (hmem given (name_of_complete hok).symm).mpr hgiven
    obtain ⟨same, hsame, hok'⟩ := exists_mem_of_mapM hcomplete' hgiven'
    rwa [Except.ok.inj ((hkept given hgiven completed hok).symm.trans hok')]

/-- **Declarations that nothing refers to extend a snapshot.** -/
theorem isExtendedBy_of_perm (h : ofDeclarations declarations = .ok snapshot) (h' : ofDeclarations all = .ok extended)
    (hperm : all.Perm (declarations ++ further))
    (hfresh : ∀ added ∈ further, ∀ declaration ∈ declarations, ¬declaration.RefersTo added.name) :
    snapshot.IsExtendedBy extended (· ∉ further.map (·.name)) := by
  obtain ⟨hnames, ordered, hordered, hcomplete, -⟩ := ofDeclarations_eq_ok h
  obtain ⟨hnames', ordered', hordered', hcomplete', -⟩ := ofDeclarations_eq_ok h'
  have hdistinct : (ordered.declarations.map (·.name)).Nodup := (hordered.map _).nodup_iff.mpr (nodup_of_checkNames hnames).1
  have hdistinct' : (ordered'.declarations.map (·.name)).Nodup := (hordered'.map _).nodup_iff.mpr (nodup_of_checkNames hnames').1
  have hrefers {declaration : Declaration} (hmem : declaration ∈ ordered.declarations) {name : String}
      (hname : declaration.RefersTo name) : name ∉ further.map (·.name) := by
    rintro hadded
    obtain ⟨added, hmemAdded, rfl⟩ := List.mem_map.mp hadded
    exact hfresh added hmemAdded declaration (hordered.mem_iff.mp hmem) hname
  have hrefersCompleted {completed : Declaration} (hmem : completed ∈ snapshot.declarations) {name : String}
      (hname : completed.RefersTo name) : name ∉ further.map (·.name) := by
    obtain ⟨given, hgiven, hok⟩ := exists_of_mem_mapM hcomplete hmem
    exact hrefers hgiven (refersTo_of_complete hok hname)
  -- the given declarations are found as before, so they are completed as before, so the completed ones are found as before
  have hmem (declaration : Declaration) (hknown : declaration.name ∉ further.map (·.name)) :
      declaration ∈ ordered'.declarations ↔ declaration ∈ ordered.declarations := by
    rw [hordered'.mem_iff, hperm.mem_iff, List.mem_append, hordered.mem_iff, or_iff_left]
    exact fun hadded => hknown (List.mem_map_of_mem hadded)
  have hfind {name : String} (hknown : name ∉ further.map (·.name)) : ordered'.find? name = ordered.find? name :=
    find?_eq_of_mem_iff hdistinct hdistinct' fun declaration hname => hmem declaration (hname ▸ hknown)
  have hsize : snapshot.size ≤ extended.size := by
    rw [size_of_ofDeclarations h, size_of_ofDeclarations h', hperm.length_eq, List.length_append]
    exact Nat.le_add_right _ _
  have hsizeOrdered : ordered.size ≤ ordered'.size := by
    rwa [size, size, hcomplete.length_eq, hcomplete'.length_eq]
  have hkept (declaration : Declaration) (hmem : declaration ∈ ordered.declarations) (completed : Declaration)
      (hcompleted : ordered.complete declaration = .ok completed) : ordered'.complete declaration = .ok completed :=
    complete_eq hfind (fun hmem _ hcontaining => hrefers hmem (Or.inl hcontaining)) hsizeOrdered hmem hcompleted
  have hfindCompleted {name : String} (hknown : name ∉ further.map (·.name)) : extended.find? name = snapshot.find? name :=
    find?_eq_of_mem_iff (nodup_names h) (nodup_names h') fun completed hname =>
      mem_completed_iff hcomplete hcomplete' (fun given hgiven => hmem given (by rwa [hgiven, hname])) hkept
  refine ⟨hfindCompleted, hrefersCompleted, fun hmem => ?_⟩
  rw [enclosing_eq hfindCompleted (fun hmem _ hcontaining => hrefersCompleted hmem (Or.inl hcontaining)) hmem]
  exact enclosing_of_size_le h hmem hsize

end Snapshot

end SchemaClosure
