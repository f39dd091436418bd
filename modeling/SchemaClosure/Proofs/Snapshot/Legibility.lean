import SchemaClosure.Proofs.TypeRef.Legibility

namespace SchemaClosure

namespace Declaration

def mentionedTypes (declaration : Declaration) : List TypeRef :=
  declaration.base.toList ++ declaration.interfaces ++ declaration.attributes.unions.map (·.2) ++
    declaration.fields.map (·.type) ++ declaration.properties.map (·.type) ++
    declaration.parameters.flatMap (·.constraintTypes) ++
    declaration.constructors.flatMap fun constructor => constructor.parameters.map (·.type)

def isLegible (scope : List String) (declaration : Declaration) : Bool :=
  (declaration.parameters.all fun parameter => (TypeRef.parameter parameter.name).isLegible scope) &&
    declaration.mentionedTypes.all (·.isLegible scope)

variable {scope : List String} {declaration : Declaration}

theorem isLegible_parameter (h : declaration.isLegible scope = true) {parameter : GenericParameter}
    (hmem : parameter ∈ declaration.parameters) : (TypeRef.parameter parameter.name).isLegible scope = true := by
  rw [isLegible, Bool.and_eq_true, List.all_eq_true] at h
  exact h.1 parameter hmem

theorem isLegible_of_mem_mentionedTypes (h : declaration.isLegible scope = true) {type : TypeRef}
    (hmem : type ∈ declaration.mentionedTypes) : type.isLegible scope = true := by
  rw [isLegible, Bool.and_eq_true, List.all_eq_true, List.all_eq_true] at h
  exact h.2 type hmem

theorem base_mem_mentionedTypes {base : TypeRef} (h : declaration.base = some base) : base ∈ declaration.mentionedTypes := by
  simp [mentionedTypes, h]

theorem unionCase_mem_mentionedTypes {case : Int32 × TypeRef} (h : case ∈ declaration.attributes.unions) :
    case.2 ∈ declaration.mentionedTypes := by
  have hmentioned : case.2 ∈ declaration.attributes.unions.map (·.2) := List.mem_map_of_mem h
  simp only [mentionedTypes, List.mem_append, hmentioned, true_or, or_true]

theorem field_mem_mentionedTypes {field : Field} (h : field ∈ declaration.fields) : field.type ∈ declaration.mentionedTypes := by
  have hmentioned : field.type ∈ declaration.fields.map (·.type) := List.mem_map_of_mem h
  simp only [mentionedTypes, List.mem_append, hmentioned, true_or, or_true]

theorem property_mem_mentionedTypes {property : Property} (h : property ∈ declaration.properties) :
    property.type ∈ declaration.mentionedTypes := by
  have hmentioned : property.type ∈ declaration.properties.map (·.type) := List.mem_map_of_mem h
  simp only [mentionedTypes, List.mem_append, hmentioned, true_or, or_true]

theorem parameter_mem_mentionedTypes {constructor : Constructor} (h : constructor ∈ declaration.constructors)
    {parameter : Parameter} (hparameter : parameter ∈ constructor.parameters) : parameter.type ∈ declaration.mentionedTypes := by
  apply List.mem_append_right
  exact List.mem_flatMap.mpr ⟨constructor, h, List.mem_map_of_mem hparameter⟩

/-- Only a generic declaration binds anything, and it binds arguments. -/
theorem mem_arguments_of_mem_bindings {type : TypeRef} {binding : String × TypeRef} (h : binding ∈ declaration.bindings type) :
    declaration.isGeneric = true ∧ binding.2 ∈ type.arguments := by
  rw [bindings] at h
  split at h
  · rw [List.mem_reverse] at h
    obtain ⟨hname, hargument⟩ := List.of_mem_zip h
    obtain ⟨parameter, hparameter, -⟩ := List.mem_map.mp hname
    refine ⟨?_, hargument⟩
    rw [isGeneric, Bool.not_eq_true', List.isEmpty_eq_false_iff]
    exact List.ne_nil_of_mem hparameter
  · exact absurd h List.not_mem_nil

theorem isLegible_bindings {type : TypeRef} (h : ∀ argument ∈ type.arguments, argument.isLegible scope = true)
    {binding : String × TypeRef} (hmem : binding ∈ declaration.bindings type) : binding.2.isLegible scope = true :=
  h binding.2 (mem_arguments_of_mem_bindings hmem).2

theorem isTupleFree_definition (declaration : Declaration) : declaration.definition.isTupleFree = true := by
  rw [definition, TypeRef.isTupleFree, TypeRef.allTupleFree_eq_all, List.all_map, List.all_eq_true]
  intro parameter _
  rfl

theorem isLegible_definition (h : declaration.isLegible scope = true) (hname : TypeRef.isPath declaration.name.toList = true)
    (hgeneric : declaration.isGeneric = true) : declaration.definition.isLegible scope = true := by
  rw [definition, TypeRef.isLegible_named_iff]
  refine ⟨hname, ?_, ?_⟩
  · intro hnil
    rw [List.map_eq_nil_iff] at hnil
    simp [isGeneric, hnil] at hgeneric
  · intro argument hmem
    obtain ⟨parameter, hparameter, rfl⟩ := List.mem_map.mp hmem
    exact isLegible_parameter h hparameter

end Declaration

namespace Snapshot

def isLegible (scope : List String) (snapshot : Snapshot) : Bool := snapshot.declarations.all (·.isLegible scope)

variable {snapshot : Snapshot} {scope : List String}

theorem name_eq_of_find? {name : String} {declaration : Declaration} (h : snapshot.find? name = some declaration) :
    declaration.name = name := by
  have hfound := List.find?_some h
  exact eq_of_beq hfound

theorem eq_named_of_declaration? {type : TypeRef} {declaration : Declaration} (h : snapshot.declaration? type = some declaration) :
    type = .named declaration.name type.arguments := by
  obtain ⟨name, hname, hfind⟩ := Option.bind_eq_some_iff.mp h
  cases type with
  | named name' arguments =>
    rw [name_eq_of_find? hfind, ← Option.some.inj hname]
    rfl
  | parameter name' => simp [TypeRef.name?] at hname
  | array element rank => simp [TypeRef.name?] at hname
  | tuple elements => simp [TypeRef.name?] at hname

theorem eq_of_name_eq {type type' : TypeRef} {declaration declaration' : Declaration} (h : snapshot.declaration? type = some declaration)
    (h' : snapshot.declaration? type' = some declaration') (hname : declaration.name = declaration'.name) : declaration = declaration' := by
  obtain ⟨name, -, hfind⟩ := Option.bind_eq_some_iff.mp h
  obtain ⟨name', -, hfind'⟩ := Option.bind_eq_some_iff.mp h'
  rw [name_eq_of_find? hfind, name_eq_of_find? hfind'] at hname
  rw [hname, hfind'] at hfind
  exact (Option.some.inj hfind).symm

theorem mem_of_declaration? {type : TypeRef} {declaration : Declaration} (h : snapshot.declaration? type = some declaration) :
    declaration ∈ snapshot.declarations := by
  obtain ⟨name, -, hfind⟩ := Option.bind_eq_some_iff.mp h
  exact List.mem_of_find?_eq_some hfind

theorem isLegible_declaration (h : snapshot.isLegible scope = true) {declaration : Declaration}
    (hmem : declaration ∈ snapshot.declarations) : declaration.isLegible scope = true := by
  rw [isLegible, List.all_eq_true] at h
  exact h declaration hmem

theorem isLegible_declaration? (h : snapshot.isLegible scope = true) {type : TypeRef} {declaration : Declaration}
    (hdeclaration : snapshot.declaration? type = some declaration) : declaration.isLegible scope = true :=
  isLegible_declaration h (mem_of_declaration? hdeclaration)

/-- The declaration of a legible type has a name that can be read, so its definition is legible. -/
theorem isLegible_definition (h : snapshot.isLegible scope = true) {type : TypeRef} (htype : type.isLegible scope = true)
    {declaration : Declaration} (hdeclaration : snapshot.declaration? type = some declaration)
    (hgeneric : declaration.isGeneric = true) : declaration.definition.isLegible scope = true := by
  rw [eq_named_of_declaration? hdeclaration] at htype
  exact Declaration.isLegible_definition (isLegible_declaration? h hdeclaration) (TypeRef.isLegible_named_iff.mp htype).1 hgeneric

theorem isLegible_lineage (h : snapshot.isLegible scope = true) {limit : Nat} {type : TypeRef}
    {levels : List (Declaration × TypeRef.Bindings)} (htype : ∀ argument ∈ type.arguments, argument.isLegible scope = true)
    (hlevels : snapshot.lineage limit type = some levels) {level : Declaration × TypeRef.Bindings} (hmem : level ∈ levels) :
    level.1.isLegible scope = true ∧ ∀ binding ∈ level.2, binding.2.isLegible scope = true := by
  induction limit generalizing type levels with
  | zero => simp [lineage] at hlevels
  | succ limit ih =>
    unfold lineage at hlevels
    split at hlevels
    · rw [← Option.some.inj hlevels] at hmem
      exact absurd hmem List.not_mem_nil
    · rename_i declaration hdeclaration
      have hhead : declaration.isLegible scope = true ∧
          ∀ binding ∈ declaration.bindings type, binding.2.isLegible scope = true :=
        ⟨isLegible_declaration? h hdeclaration, fun binding hbinding => Declaration.isLegible_bindings htype hbinding⟩
      simp only at hlevels
      split at hlevels
      · rw [← Option.some.inj hlevels] at hmem
        rw [List.mem_singleton.mp hmem]
        exact hhead
      · rename_i base hbase
        obtain ⟨above, habove, rfl⟩ := Option.map_eq_some_iff.mp hlevels
        have hbaseLegible : (base.substitute (declaration.bindings type)).isLegible scope = true :=
          TypeRef.isLegible_substitute hhead.2 (Declaration.isLegible_of_mem_mentionedTypes hhead.1 (Declaration.base_mem_mentionedTypes hbase))
        rcases List.mem_cons.mp hmem with rfl | hmem
        · exact hhead
        · exact ih (fun _ => TypeRef.isLegible_of_mem_arguments hbaseLegible) habove hmem

/-- The fields and properties of a lineage have the types that its levels mention, each with the arguments of its level. -/
theorem Members.exists_level_of_mem {levels : List (Declaration × TypeRef.Bindings)} :
    (∀ field ∈ (ofLevels levels).fields, ∃ level ∈ levels, ∃ mentioned ∈ level.1.mentionedTypes,
        field.type = mentioned.substitute level.2) ∧
      ∀ property ∈ (ofLevels levels).properties, ∃ level ∈ levels, ∃ mentioned ∈ level.1.mentionedTypes,
        property.type = mentioned.substitute level.2 := by
  constructor
  · intro field hmem
    simp only [ofLevels, List.mem_flatMap, List.mem_map] at hmem
    obtain ⟨-, ⟨level, hlevel, rfl⟩, hfield⟩ := hmem
    obtain ⟨declared, hdeclared, rfl⟩ := List.mem_map.mp hfield
    exact ⟨level, hlevel, _, Declaration.field_mem_mentionedTypes hdeclared, rfl⟩
  · intro property hmem
    simp only [ofLevels, List.mem_flatMap, List.mem_map] at hmem
    obtain ⟨-, ⟨level, hlevel, rfl⟩, hproperty⟩ := hmem
    obtain ⟨declared, hdeclared, rfl⟩ := List.mem_map.mp hproperty
    exact ⟨level, hlevel, _, Declaration.property_mem_mentionedTypes hdeclared, rfl⟩

theorem isLegible_members (h : snapshot.isLegible scope = true) {limit : Nat} {type : TypeRef} {members : Members}
    (htype : ∀ argument ∈ type.arguments, argument.isLegible scope = true) (hmembers : snapshot.members limit type = some members) :
    (∀ field ∈ members.fields, field.type.isLegible scope = true) ∧
      ∀ property ∈ members.properties, property.type.isLegible scope = true := by
  obtain ⟨levels, hlevels, rfl⟩ := Option.map_eq_some_iff.mp hmembers
  have hlegible (level : Declaration × TypeRef.Bindings) (hlevel : level ∈ levels) (mentioned : TypeRef)
      (hmentioned : mentioned ∈ level.1.mentionedTypes) : (mentioned.substitute level.2).isLegible scope = true := by
    obtain ⟨hdeclaration, hbindings⟩ := isLegible_lineage h htype hlevels hlevel
    exact TypeRef.isLegible_substitute hbindings (Declaration.isLegible_of_mem_mentionedTypes hdeclaration hmentioned)
  constructor
  · intro field hmem
    obtain ⟨level, hlevel, mentioned, hmentioned, htype⟩ := Members.exists_level_of_mem.1 field hmem
    rw [htype]
    exact hlegible level hlevel mentioned hmentioned
  · intro property hmem
    obtain ⟨level, hlevel, mentioned, hmentioned, htype⟩ := Members.exists_level_of_mem.2 property hmem
    rw [htype]
    exact hlegible level hlevel mentioned hmentioned

theorem isLegible_constructors (h : snapshot.isLegible scope = true) {type : TypeRef}
    (htype : ∀ argument ∈ type.arguments, argument.isLegible scope = true) {constructor : Constructor}
    (hmem : constructor ∈ snapshot.constructors type) : ∀ parameter ∈ constructor.parameters, parameter.type.isLegible scope = true := by
  unfold constructors at hmem
  split at hmem
  · exact absurd hmem List.not_mem_nil
  · rename_i declaration hdeclaration
    split at hmem
    · rw [List.mem_singleton.mp hmem]
      exact fun parameter hparameter => absurd hparameter List.not_mem_nil
    · obtain ⟨declared, hdeclared, rfl⟩ := List.mem_map.mp hmem
      rw [List.forall_mem_map]
      intro parameter hparameter
      exact TypeRef.isLegible_substitute (fun binding hbinding => Declaration.isLegible_bindings htype hbinding)
        (Declaration.isLegible_of_mem_mentionedTypes (isLegible_declaration? h hdeclaration)
          (Declaration.parameter_mem_mentionedTypes hdeclared hparameter))

end Snapshot

end SchemaClosure
