import SchemaClosure.Proofs.Snapshot.Instantiation
import SchemaClosure.Proofs.TypeRef.Subterm

/-!
Snapshots whose generic types do not expand. Where a declaration hands closed types and bare parameters to generic types, and nothing larger, everything that can be built from some roots has a part written in the snapshot as its pattern, filled with types from a fixed list. What a built type inherits and has as members is built again: `IsBuilt.members`.
-/

namespace SchemaClosure

namespace Declaration

/-- The types that a closure takes from a declaration: those of its base, its union cases and its members. -/
def collectedTypes (declaration : Declaration) : List TypeRef :=
  declaration.base.toList ++ declaration.attributes.unions.map (·.2) ++ declaration.fields.map (·.type) ++
    declaration.properties.map (·.type)

variable {declaration : Declaration}

theorem base_mem_collectedTypes {base : TypeRef} (h : declaration.base = some base) : base ∈ declaration.collectedTypes := by
  simp [collectedTypes, h]

theorem unionCase_mem_collectedTypes {case : Int32 × TypeRef} (h : case ∈ declaration.attributes.unions) :
    case.2 ∈ declaration.collectedTypes := by
  have hcollected : case.2 ∈ declaration.attributes.unions.map (·.2) := List.mem_map_of_mem h
  simp only [collectedTypes, List.mem_append, hcollected, true_or, or_true]

theorem field_mem_collectedTypes {field : Field} (h : field ∈ declaration.fields) : field.type ∈ declaration.collectedTypes := by
  have hcollected : field.type ∈ declaration.fields.map (·.type) := List.mem_map_of_mem h
  simp only [collectedTypes, List.mem_append, hcollected, true_or, or_true]

theorem property_mem_collectedTypes {property : Property} (h : property ∈ declaration.properties) :
    property.type ∈ declaration.collectedTypes := by
  have hcollected : property.type ∈ declaration.properties.map (·.type) := List.mem_map_of_mem h
  simp only [collectedTypes, List.mem_append, hcollected, or_true]

end Declaration

namespace Snapshot

/-- Whether a type applies a declared generic type. -/
def appliesGeneric (snapshot : Snapshot) (type : TypeRef) : Bool := (snapshot.declaration? type).any Declaration.isGeneric

/-- Inside every declaration each argument of a declared generic type is closed or a bare type parameter, once tuples are packed. -/
def IsNonExpanding (snapshot : Snapshot) : Prop :=
  ∀ declaration ∈ snapshot.declarations, ∀ type ∈ declaration.collectedTypes, ∀ part ∈ type.normalize.subterms,
    snapshot.appliesGeneric part = true → ∀ argument ∈ part.arguments, argument.isOpen = false ∨ argument.isParameter = true

instance (snapshot : Snapshot) : Decidable snapshot.IsNonExpanding := inferInstanceAs (Decidable (∀ _ ∈ _, _))

variable {snapshot : Snapshot} {roots : List TypeRef} {declaration : Declaration} {type part : TypeRef}

theorem isNonExpanding_of_isGeneric_eq_false (h : ∀ declaration ∈ snapshot.declarations, declaration.isGeneric = false) :
    snapshot.IsNonExpanding := by
  intro _ _ _ _ part _ happlies
  obtain ⟨generic, hdeclaration, hgeneric⟩ := (Option.any_eq_true _ _).mp happlies
  simp [h generic (mem_of_declaration? hdeclaration)] at hgeneric

/-- The parts of the types written in a snapshot, tuples packed, and of the generic definitions. -/
def writtenParts (snapshot : Snapshot) : List TypeRef :=
  snapshot.declarations.flatMap fun declaration =>
    (declaration.definition :: declaration.collectedTypes.map TypeRef.normalize).flatMap TypeRef.subterms

/-- What can come to stand for a type parameter: a part of a root, or a closed type or parameter that is written somewhere. -/
def atoms (snapshot : Snapshot) (roots : List TypeRef) : List TypeRef :=
  (roots.map TypeRef.normalize).flatMap TypeRef.subterms ++ snapshot.writtenParts.filter fun part => !part.isOpen || part.isParameter

/-- An atom, or a written part with atoms put for its parameters. -/
inductive IsBuilt (snapshot : Snapshot) (roots : List TypeRef) : TypeRef → Prop where
  | atom {type : TypeRef} (h : type ∈ snapshot.atoms roots) : IsBuilt snapshot roots type
  | filled {part : TypeRef} {bindings : TypeRef.Bindings} (hpart : part ∈ snapshot.writtenParts)
      (hbindings : ∀ binding ∈ bindings, binding.2 ∈ snapshot.atoms roots) : IsBuilt snapshot roots (part.substitute bindings)

theorem IsBuilt.written (h : part ∈ snapshot.writtenParts) : snapshot.IsBuilt roots part := by
  have hnone : TypeRef.Bindings.IsIdentity [] := fun _ hmem => absurd hmem List.not_mem_nil
  rw [← TypeRef.substitute_of_isIdentity hnone part]
  exact .filled h fun _ hmem => absurd hmem List.not_mem_nil

/-- All types that can be built. -/
def buildable (snapshot : Snapshot) (roots : List TypeRef) : List TypeRef :=
  snapshot.atoms roots ++ snapshot.writtenParts.flatMap (TypeRef.instances (snapshot.atoms roots))

theorem IsBuilt.mem_buildable (h : snapshot.IsBuilt roots type) : type ∈ snapshot.buildable roots := by
  cases h with
  | atom h => exact List.mem_append_left _ h
  | filled hpart hbindings =>
    exact List.mem_append_right _ (List.mem_flatMap.mpr ⟨_, hpart, TypeRef.substitute_mem_instances hbindings _⟩)

theorem mem_writtenParts_iff : part ∈ snapshot.writtenParts ↔
    ∃ declaration ∈ snapshot.declarations, part ∈ declaration.definition.subterms ∨
      ∃ type ∈ declaration.collectedTypes, part ∈ type.normalize.subterms := by
  simp only [writtenParts, List.mem_flatMap, List.mem_cons, List.mem_map]
  constructor
  · rintro ⟨declaration, hdeclaration, _, rfl | ⟨type, htype, rfl⟩, hpart⟩
    · exact ⟨declaration, hdeclaration, Or.inl hpart⟩
    · exact ⟨declaration, hdeclaration, Or.inr ⟨type, htype, hpart⟩⟩
  · rintro ⟨declaration, hdeclaration, hpart | ⟨type, htype, hpart⟩⟩
    · exact ⟨declaration, hdeclaration, _, Or.inl rfl, hpart⟩
    · exact ⟨declaration, hdeclaration, _, Or.inr ⟨type, htype, rfl⟩, hpart⟩

theorem normalize_mem_writtenParts (hmem : declaration ∈ snapshot.declarations) (htype : type ∈ declaration.collectedTypes) :
    type.normalize ∈ snapshot.writtenParts :=
  mem_writtenParts_iff.mpr ⟨declaration, hmem, Or.inr ⟨type, htype, TypeRef.mem_subterms_self _⟩⟩

theorem definition_mem_writtenParts (hmem : declaration ∈ snapshot.declarations) : declaration.definition ∈ snapshot.writtenParts :=
  mem_writtenParts_iff.mpr ⟨declaration, hmem, Or.inl (TypeRef.mem_subterms_self _)⟩

theorem mem_writtenParts_of_mem_arguments {argument : TypeRef} (h : part ∈ snapshot.writtenParts) (hmem : argument ∈ part.arguments) :
    argument ∈ snapshot.writtenParts := by
  obtain ⟨declaration, hdeclaration, hpart⟩ := mem_writtenParts_iff.mp h
  refine mem_writtenParts_iff.mpr ⟨declaration, hdeclaration, ?_⟩
  rcases hpart with hpart | ⟨type, htype, hpart⟩
  · exact Or.inl (TypeRef.mem_subterms_of_mem_arguments hmem hpart)
  · exact Or.inr ⟨type, htype, TypeRef.mem_subterms_of_mem_arguments hmem hpart⟩

theorem isTupleFree_of_mem_writtenParts (h : part ∈ snapshot.writtenParts) : part.isTupleFree = true := by
  obtain ⟨declaration, -, hpart | ⟨type, -, hpart⟩⟩ := mem_writtenParts_iff.mp h
  · exact TypeRef.isTupleFree_of_mem_subterms (Declaration.isTupleFree_definition declaration) hpart
  · exact TypeRef.isTupleFree_of_mem_subterms (TypeRef.isTupleFree_normalize type) hpart

theorem mem_atoms_iff : type ∈ snapshot.atoms roots ↔
    (∃ root ∈ roots, type ∈ root.normalize.subterms) ∨
      type ∈ snapshot.writtenParts ∧ (type.isOpen = false ∨ type.isParameter = true) := by
  simp [atoms, List.mem_flatMap]

theorem normalize_mem_atoms {root : TypeRef} (h : root ∈ roots) : root.normalize ∈ snapshot.atoms roots :=
  mem_atoms_iff.mpr (Or.inl ⟨root, h, TypeRef.mem_subterms_self _⟩)

theorem mem_atoms_of_mem_arguments {argument : TypeRef} (h : type ∈ snapshot.atoms roots) (hmem : argument ∈ type.arguments) :
    argument ∈ snapshot.atoms roots := by
  rcases mem_atoms_iff.mp h with ⟨root, hroot, hpart⟩ | ⟨hpart, hclosed | hparameter⟩
  · exact mem_atoms_iff.mpr (Or.inl ⟨root, hroot, TypeRef.mem_subterms_of_mem_arguments hmem hpart⟩)
  · exact mem_atoms_iff.mpr (Or.inr ⟨mem_writtenParts_of_mem_arguments hpart hmem, Or.inl (TypeRef.isOpen_of_mem_arguments hclosed hmem)⟩)
  · cases type <;> simp [TypeRef.isParameter, TypeRef.arguments] at hparameter hmem

theorem normalize_of_mem_atoms (h : type ∈ snapshot.atoms roots) : type.normalize = type := by
  apply TypeRef.normalize_eq_self
  rcases mem_atoms_iff.mp h with ⟨root, -, hpart⟩ | ⟨hpart, -⟩
  · exact TypeRef.isTupleFree_of_mem_subterms (TypeRef.isTupleFree_normalize root) hpart
  · exact isTupleFree_of_mem_writtenParts hpart

theorem IsBuilt.normalize_eq (h : snapshot.IsBuilt roots type) : type.normalize = type := by
  cases h with
  | atom h => exact normalize_of_mem_atoms h
  | filled hpart hbindings =>
    rename_i part bindings
    have hsame : bindings.mapTypes TypeRef.normalize = bindings := by
      refine (List.map_congr_left ?_).trans (List.map_id bindings)
      intro binding hmem
      rw [Prod.map, normalize_of_mem_atoms (hbindings binding hmem)]
      rfl
    rw [TypeRef.normalize_substitute, hsame, TypeRef.normalize_eq_self (isTupleFree_of_mem_writtenParts hpart)]

/-- Filling a parameter or a closed part gives an atom. -/
theorem substitute_mem_atoms {bindings : TypeRef.Bindings} (hpart : part ∈ snapshot.writtenParts)
    (hbindings : ∀ binding ∈ bindings, binding.2 ∈ snapshot.atoms roots) (h : part.isOpen = false ∨ part.isParameter = true) :
    part.substitute bindings ∈ snapshot.atoms roots := by
  have hatom : part ∈ snapshot.atoms roots := mem_atoms_iff.mpr (Or.inr ⟨hpart, h⟩)
  rcases h with hclosed | hparameter
  · rwa [TypeRef.substitute_of_isOpen_eq_false hclosed]
  · cases part with
    | parameter name =>
      rcases TypeRef.substitute_parameter_cases name with hstays | ⟨binding, hmem, hbound⟩
      · rwa [hstays]
      · rw [hbound]
        exact hbindings binding hmem
    | named name arguments => simp [TypeRef.isParameter] at hparameter
    | array element rank => simp [TypeRef.isParameter] at hparameter
    | tuple elements => simp [TypeRef.isParameter] at hparameter

/-- The arguments of a filled part are those of an atom, or filled themselves. -/
theorem mem_arguments_substitute {bindings : TypeRef.Bindings} {argument : TypeRef} (hpart : part ∈ snapshot.writtenParts)
    (hbindings : ∀ binding ∈ bindings, binding.2 ∈ snapshot.atoms roots) (hmem : argument ∈ (part.substitute bindings).arguments) :
    argument ∈ snapshot.atoms roots ∨
      (∀ parameter, part ≠ .parameter parameter) ∧ ∃ inner ∈ part.arguments, inner.substitute bindings = argument := by
  by_cases hparameter : part.isParameter = true
  · exact Or.inl (mem_atoms_of_mem_arguments (substitute_mem_atoms hpart hbindings (Or.inr hparameter)) hmem)
  · have hrooted : ∀ parameter, part ≠ .parameter parameter := by
      rintro parameter rfl
      exact hparameter rfl
    rw [arguments_substitute hrooted] at hmem
    exact Or.inr ⟨hrooted, List.mem_map.mp hmem⟩

theorem IsBuilt.argument {argument : TypeRef} (h : snapshot.IsBuilt roots type) (hmem : argument ∈ type.arguments) :
    snapshot.IsBuilt roots argument := by
  cases h with
  | atom h => exact .atom (mem_atoms_of_mem_arguments h hmem)
  | filled hpart hbindings =>
    rcases mem_arguments_substitute hpart hbindings hmem with hatom | ⟨-, inner, hinner, rfl⟩
    · exact .atom hatom
    · exact .filled (mem_writtenParts_of_mem_arguments hpart hinner) hbindings

/-- The only part of a definition that has arguments is the definition itself. -/
theorem isParameter_of_mem_definition {argument : TypeRef} (hpart : part ∈ declaration.definition.subterms)
    (hmem : argument ∈ part.arguments) : argument.isParameter = true := by
  rw [Declaration.definition, TypeRef.subterms, List.mem_cons, TypeRef.mem_allSubterms_iff] at hpart
  rcases hpart with rfl | ⟨type, htype, hpart⟩
  · obtain ⟨parameter, -, rfl⟩ := List.mem_map.mp hmem
    rfl
  · obtain ⟨parameter, -, rfl⟩ := List.mem_map.mp htype
    rw [TypeRef.subterms, List.mem_singleton] at hpart
    simp [hpart, TypeRef.arguments] at hmem

theorem closed_or_parameter_of_mem_arguments (hsnapshot : snapshot.IsNonExpanding) (hpart : part ∈ snapshot.writtenParts)
    (happlies : snapshot.appliesGeneric part = true) {argument : TypeRef} (hmem : argument ∈ part.arguments) :
    argument.isOpen = false ∨ argument.isParameter = true := by
  obtain ⟨declaration, hdeclaration, hdefinition | ⟨type, htype, hwritten⟩⟩ := mem_writtenParts_iff.mp hpart
  · exact Or.inr (isParameter_of_mem_definition hdefinition hmem)
  · exact hsnapshot declaration hdeclaration type htype part hwritten happlies argument hmem

/-- What a generic type is applied to is an atom: nothing that is built puts a larger type for a parameter. -/
theorem IsBuilt.argument_mem_atoms (hsnapshot : snapshot.IsNonExpanding) (h : snapshot.IsBuilt roots type)
    (happlies : snapshot.appliesGeneric type = true) {argument : TypeRef} (hmem : argument ∈ type.arguments) :
    argument ∈ snapshot.atoms roots := by
  cases h with
  | atom h => exact mem_atoms_of_mem_arguments h hmem
  | filled hpart hbindings =>
    rcases mem_arguments_substitute hpart hbindings hmem with hatom | ⟨hrooted, inner, hinner, rfl⟩
    · exact hatom
    · rw [appliesGeneric, declaration?_substitute hrooted] at happlies
      exact substitute_mem_atoms (mem_writtenParts_of_mem_arguments hpart hinner) hbindings
        (closed_or_parameter_of_mem_arguments hsnapshot hpart happlies hinner)

theorem IsBuilt.binding_mem_atoms (hsnapshot : snapshot.IsNonExpanding) (h : snapshot.IsBuilt roots type.normalize)
    (hdeclaration : snapshot.declaration? type = some declaration) {binding : String × TypeRef}
    (hmem : binding ∈ declaration.bindings type) : binding.2.normalize ∈ snapshot.atoms roots := by
  obtain ⟨hgeneric, hargument⟩ := Declaration.mem_arguments_of_mem_bindings hmem
  have htype := eq_named_of_declaration? hdeclaration
  have hnormal : type.normalize = .named declaration.name (type.arguments.map TypeRef.normalize) := by
    rw [htype, TypeRef.normalize, TypeRef.normalizeAll_eq_map, TypeRef.arguments]
  have happlies : snapshot.appliesGeneric type.normalize = true := by
    have hsame : snapshot.declaration? type.normalize = snapshot.declaration? type := by
      rw [hnormal, htype]
      rfl
    rw [appliesGeneric, hsame, hdeclaration, Option.any_some, hgeneric]
  apply h.argument_mem_atoms hsnapshot happlies
  rw [hnormal]
  exact List.mem_map_of_mem hargument

theorem IsBuilt.substitute {written : TypeRef} {bindings : TypeRef.Bindings} (hmem : declaration ∈ snapshot.declarations)
    (hwritten : written ∈ declaration.collectedTypes) (hbindings : ∀ binding ∈ bindings, binding.2.normalize ∈ snapshot.atoms roots) :
    snapshot.IsBuilt roots (written.substitute bindings).normalize := by
  rw [TypeRef.normalize_substitute]
  apply IsBuilt.filled (normalize_mem_writtenParts hmem hwritten)
  intro binding hbinding
  obtain ⟨given, hgiven, rfl⟩ := List.mem_map.mp hbinding
  exact hbindings given hgiven

/-- Along the bases of a built type only atoms are bound. -/
theorem IsBuilt.lineage (hsnapshot : snapshot.IsNonExpanding) {limit : Nat} {levels : List (Declaration × TypeRef.Bindings)}
    (h : snapshot.IsBuilt roots type.normalize) (hlevels : snapshot.lineage limit type = some levels) :
    ∀ level ∈ levels, level.1 ∈ snapshot.declarations ∧ ∀ binding ∈ level.2, binding.2.normalize ∈ snapshot.atoms roots := by
  induction limit generalizing type levels with
  | zero => simp [Snapshot.lineage] at hlevels
  | succ limit ih =>
    unfold Snapshot.lineage at hlevels
    split at hlevels
    · simp [← Option.some.inj hlevels]
    · rename_i declaration hdeclaration
      have hmem := mem_of_declaration? hdeclaration
      have hhead : ∀ binding ∈ declaration.bindings type, binding.2.normalize ∈ snapshot.atoms roots :=
        fun binding hbinding => h.binding_mem_atoms hsnapshot hdeclaration hbinding
      simp only at hlevels
      split at hlevels
      · rw [← Option.some.inj hlevels, List.forall_mem_singleton]
        exact ⟨hmem, hhead⟩
      · rename_i base hbase
        obtain ⟨above, habove, rfl⟩ := Option.map_eq_some_iff.mp hlevels
        have hnext := IsBuilt.substitute hmem (Declaration.base_mem_collectedTypes hbase) hhead
        exact List.forall_mem_cons.mpr ⟨⟨hmem, hhead⟩, ih hnext habove⟩

/-- The members of a built type have built types. -/
theorem IsBuilt.members (hsnapshot : snapshot.IsNonExpanding) {limit : Nat} {members : Members}
    (h : snapshot.IsBuilt roots type.normalize) (hmembers : snapshot.members limit type = some members) :
    (∀ field ∈ members.fields, snapshot.IsBuilt roots field.type.normalize) ∧
      ∀ property ∈ members.properties, snapshot.IsBuilt roots property.type.normalize := by
  obtain ⟨levels, hlevels, rfl⟩ := Option.map_eq_some_iff.mp hmembers
  constructor
  · intro field hmem
    simp only [Members.ofLevels, List.mem_flatMap, List.mem_map] at hmem
    obtain ⟨-, ⟨⟨declaration, bindings⟩, hlevel, rfl⟩, hfield⟩ := hmem
    obtain ⟨hdeclaration, hbindings⟩ := h.lineage hsnapshot hlevels _ hlevel
    obtain ⟨declared, hdeclared, rfl⟩ := List.mem_map.mp hfield
    exact IsBuilt.substitute hdeclaration (Declaration.field_mem_collectedTypes hdeclared) hbindings
  · intro property hmem
    simp only [Members.ofLevels, List.mem_flatMap, List.mem_map] at hmem
    obtain ⟨-, ⟨⟨declaration, bindings⟩, hlevel, rfl⟩, hproperty⟩ := hmem
    obtain ⟨hdeclaration, hbindings⟩ := h.lineage hsnapshot hlevels _ hlevel
    obtain ⟨declared, hdeclared, rfl⟩ := List.mem_map.mp hproperty
    exact IsBuilt.substitute hdeclaration (Declaration.property_mem_collectedTypes hdeclared) hbindings

end Snapshot

end SchemaClosure
