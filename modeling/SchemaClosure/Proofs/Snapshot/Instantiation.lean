import SchemaClosure.Proofs.Snapshot.Lineage
import SchemaClosure.Proofs.TypeRef.Substitution

/-!
What a snapshot says about a type after a substitution is what it says about the type, with the substitution done in every type that it mentions: `lineage_substitute`, `members_substitute` and `constructors_substitute`. Each declaration has to mention its own parameters only, and bases need an argument for each parameter.
-/

namespace SchemaClosure

namespace Snapshot

/-- A declared type has an argument for each parameter, and no type is a bare parameter. -/
structure IsSaturated (snapshot : Snapshot) (type : TypeRef) : Prop where
  rooted : ∀ parameter, type ≠ .parameter parameter
  arity : ∀ declaration, snapshot.declaration? type = some declaration → type.arguments.length = declaration.parameters.length

/-- A snapshot that is accepted and reads as one would think: its types come from texts, nothing is nested in a generic type, the parameters of a declaration are told apart by their names, bases are saturated, and a name in `scope` is that of a type parameter and of no type. -/
structure IsRegular (snapshot : Snapshot) (declarations : List Declaration) (scope : List String) : Prop where
  accepted : ofDeclarations declarations = .ok snapshot
  parsed : ∀ declaration ∈ declarations, ∀ type ∈ declaration.mentionedTypes, ∃ text, TypeRef.parse text = .ok type
  flat : ∀ declaration ∈ declarations, ∀ outer ∈ declarations,
    declaration.containingType = some outer.name → outer.isGeneric = false
  distinct : ∀ declaration ∈ declarations, declaration.parameterNames.Nodup
  saturated : ∀ declaration ∈ snapshot.declarations, ∀ base, declaration.base = some base → snapshot.IsSaturated base
  legible : snapshot.isLegible scope = true

variable {snapshot : Snapshot} {declarations : List Declaration} {scope : List String} {declaration : Declaration}
  {type : TypeRef} {outer : TypeRef.Bindings}

namespace IsRegular

/-- A declaration mentions its own parameters only. -/
theorem isLegible_own (h : snapshot.IsRegular declarations scope) (hmem : declaration ∈ snapshot.declarations) :
    ∀ type ∈ declaration.mentionedTypes, type.isLegible declaration.parameterNames = true := by
  obtain ⟨given, hgiven, namespaceName, rfl⟩ := exists_bindParameters_of_mem h.accepted h.flat hmem
  rw [Declaration.parameterNames_bindParameters, Declaration.mentionedTypes_bindParameters, List.forall_mem_map]
  intro type htype
  obtain ⟨text, hparse⟩ := h.parsed given hgiven type htype
  exact TypeRef.isLegible_iff_exists_parse.mpr ⟨text, _, hparse, rfl⟩

theorem nodup_parameterNames (h : snapshot.IsRegular declarations scope) (hmem : declaration ∈ snapshot.declarations) :
    declaration.parameterNames.Nodup := by
  obtain ⟨given, hgiven, namespaceName, rfl⟩ := exists_bindParameters_of_mem h.accepted h.flat hmem
  rw [Declaration.parameterNames_bindParameters]
  exact h.distinct given hgiven

end IsRegular

theorem arguments_substitute (htype : ∀ parameter, type ≠ .parameter parameter) :
    (type.substitute outer).arguments = type.arguments.map (·.substitute outer) := by
  cases type with
  | named name arguments => rw [TypeRef.substitute, TypeRef.arguments, TypeRef.substituteAll_eq_map, TypeRef.arguments]
  | parameter name => exact absurd rfl (htype name)
  | array element rank => rfl
  | tuple elements => rfl

theorem declaration?_substitute (htype : ∀ parameter, type ≠ .parameter parameter) :
    snapshot.declaration? (type.substitute outer) = snapshot.declaration? type := by
  rw [declaration?, name?_substitute htype, declaration?]

theorem bindings_substitute (htype : ∀ parameter, type ≠ .parameter parameter) (declaration : Declaration) :
    declaration.bindings (type.substitute outer) = (declaration.bindings type).mapTypes (·.substitute outer) := by
  rw [Declaration.bindings, arguments_substitute htype, List.length_map, Declaration.bindings]
  split
  · rw [List.zip_map_right, TypeRef.Bindings.mapTypes, List.map_reverse]
  · rfl

theorem covers_bindings (h : type.arguments.length = declaration.parameters.length) :
    (declaration.bindings type).Covers declaration.parameterNames := by
  intro name hname
  have hkeys : ((declaration.parameters.map (·.name)).zip type.arguments).map Prod.fst = declaration.parameterNames :=
    List.map_fst_zip (Nat.le_of_eq (by rw [List.length_map, h]))
  rw [← hkeys] at hname
  obtain ⟨binding, hmem, rfl⟩ := List.mem_map.mp hname
  rw [List.lookup_isSome_iff, Declaration.bindings, if_pos h]
  exact ⟨binding, List.mem_reverse.mpr hmem, beq_self_eq_true _⟩

theorem IsSaturated.substitute (h : snapshot.IsSaturated type) (outer : TypeRef.Bindings) :
    snapshot.IsSaturated (type.substitute outer) where
  rooted parameter := by
    have hrooted := h.rooted
    cases type with
    | named name arguments => simp [TypeRef.substitute]
    | parameter name => exact absurd rfl (hrooted name)
    | array element rank => simp [TypeRef.substitute]
    | tuple elements => simp [TypeRef.substitute]
  arity declaration hdeclaration := by
    rw [declaration?_substitute h.rooted] at hdeclaration
    rw [arguments_substitute h.rooted, List.length_map]
    exact h.arity declaration hdeclaration

namespace IsRegular

/-- Substituting in what a type expression of a declaration stands for is substituting in the bindings. -/
theorem substitute_substitute (h : snapshot.IsRegular declarations scope) (hmem : declaration ∈ snapshot.declarations)
    {bindings : TypeRef.Bindings} (hcovers : bindings.Covers declaration.parameterNames) {mentioned : TypeRef}
    (hmentioned : mentioned ∈ declaration.mentionedTypes) :
    mentioned.substitute (bindings.mapTypes (·.substitute outer)) = (mentioned.substitute bindings).substitute outer :=
  (TypeRef.substitute_substitute hcovers (h.isLegible_own hmem mentioned hmentioned)).symm

end IsRegular

/-- The levels of a lineage are declared, and each binds all parameters of its declaration. -/
theorem covers_of_mem_lineage (hregular : snapshot.IsRegular declarations scope) {limit : Nat}
    {levels : List (Declaration × TypeRef.Bindings)} (htype : snapshot.IsSaturated type)
    (h : snapshot.lineage limit type = some levels) :
    ∀ level ∈ levels, level.1 ∈ snapshot.declarations ∧ level.2.Covers level.1.parameterNames := by
  induction limit generalizing type levels with
  | zero => simp [lineage] at h
  | succ limit ih =>
    unfold lineage at h
    split at h
    · simp [← Option.some.inj h]
    · rename_i declaration hdeclaration
      have hmem := mem_of_declaration? hdeclaration
      have hhead : declaration ∈ snapshot.declarations ∧ (declaration.bindings type).Covers declaration.parameterNames :=
        ⟨hmem, covers_bindings (htype.arity declaration hdeclaration)⟩
      simp only at h
      split at h
      · rw [← Option.some.inj h]
        exact List.forall_mem_singleton.mpr hhead
      · rename_i base hbase
        obtain ⟨above, habove, rfl⟩ := Option.map_eq_some_iff.mp h
        exact List.forall_mem_cons.mpr ⟨hhead, ih ((hregular.saturated declaration hmem base hbase).substitute _) habove⟩

theorem lineage_substitute (hregular : snapshot.IsRegular declarations scope) (limit : Nat) (htype : snapshot.IsSaturated type) :
    snapshot.lineage limit (type.substitute outer) =
      (snapshot.lineage limit type).map (List.map (Prod.map id (TypeRef.Bindings.mapTypes (·.substitute outer)))) := by
  induction limit generalizing type with
  | zero => rfl
  | succ limit ih =>
    unfold lineage
    rw [declaration?_substitute htype.rooted]
    cases hdeclaration : snapshot.declaration? type with
    | none => rfl
    | some declaration =>
      have hmem := mem_of_declaration? hdeclaration
      have hcovers := covers_bindings (htype.arity declaration hdeclaration)
      simp only [bindings_substitute htype.rooted]
      cases hbase : declaration.base with
      | none => rfl
      | some base =>
        have hbelow : base.substitute ((declaration.bindings type).mapTypes (·.substitute outer)) =
            (base.substitute (declaration.bindings type)).substitute outer :=
          hregular.substitute_substitute hmem hcovers (Declaration.base_mem_mentionedTypes hbase)
        simp only [hbelow, ih ((hregular.saturated declaration hmem base hbase).substitute _), Option.map_map]
        rfl

namespace Members

/-- The same members, each with the image of its type. -/
def retype (f : TypeRef → TypeRef) (members : Members) : Members :=
  { fields := members.fields.map fun field => { field with type := f field.type }
    properties := members.properties.map fun property => { property with type := f property.type } }

theorem ofDeclaration_mapTypes (hregular : snapshot.IsRegular declarations scope) (hmem : declaration ∈ snapshot.declarations)
    {bindings : TypeRef.Bindings} (hcovers : bindings.Covers declaration.parameterNames) :
    ofDeclaration declaration (bindings.mapTypes (·.substitute outer)) =
      (ofDeclaration declaration bindings).retype (·.substitute outer) := by
  rw [ofDeclaration, ofDeclaration, retype, List.map_map, List.map_map]
  congr 1
  · apply List.map_congr_left
    intro field hfield
    simp only [Function.comp_apply, hregular.substitute_substitute hmem hcovers (Declaration.field_mem_mentionedTypes hfield)]
  · apply List.map_congr_left
    intro property hproperty
    simp only [Function.comp_apply, hregular.substitute_substitute hmem hcovers (Declaration.property_mem_mentionedTypes hproperty)]

end Members

theorem members_substitute (hregular : snapshot.IsRegular declarations scope) (limit : Nat) (htype : snapshot.IsSaturated type) :
    snapshot.members limit (type.substitute outer) =
      (snapshot.members limit type).map (Members.retype (·.substitute outer)) := by
  rw [members, members, lineage_substitute hregular limit htype]
  cases hlevels : snapshot.lineage limit type with
  | none => rfl
  | some levels =>
    have hretype : (levels.map (Prod.map id (TypeRef.Bindings.mapTypes (·.substitute outer)))).map
        (fun level => Members.ofDeclaration level.1 level.2) =
          (levels.map fun level => Members.ofDeclaration level.1 level.2).map (Members.retype (·.substitute outer)) := by
      rw [List.map_map, List.map_map]
      apply List.map_congr_left
      intro level hlevel
      obtain ⟨hmem, hcovers⟩ := covers_of_mem_lineage hregular htype hlevels level hlevel
      exact Members.ofDeclaration_mapTypes hregular hmem hcovers
    simp only [Option.map_some, Members.ofLevels, hretype]
    simp [Members.retype, List.map_flatMap, List.flatMap_map]

end Snapshot

/-- The same constructor, each parameter with the image of its type. -/
def Constructor.retype (f : TypeRef → TypeRef) (constructor : Constructor) : Constructor :=
  { constructor with parameters := constructor.parameters.map fun parameter => { parameter with type := f parameter.type } }

namespace Snapshot

variable {snapshot : Snapshot} {declarations : List Declaration} {scope : List String} {type : TypeRef} {outer : TypeRef.Bindings}

theorem constructors_substitute (hregular : snapshot.IsRegular declarations scope) (htype : snapshot.IsSaturated type) :
    snapshot.constructors (type.substitute outer) = (snapshot.constructors type).map (Constructor.retype (·.substitute outer)) := by
  rw [constructors, declaration?_substitute htype.rooted, constructors]
  cases hdeclaration : snapshot.declaration? type with
  | none => rfl
  | some declaration =>
    have hmem := mem_of_declaration? hdeclaration
    have hcovers := covers_bindings (htype.arity declaration hdeclaration)
    simp only [bindings_substitute htype.rooted]
    split
    · rfl
    · rw [List.map_map]
      apply List.map_congr_left
      intro constructor hconstructor
      simp only [Function.comp_apply, Constructor.retype, List.map_map]
      congr 1
      apply List.map_congr_left
      intro parameter hparameter
      simp only [Function.comp_apply, hregular.substitute_substitute hmem hcovers
        (Declaration.parameter_mem_mentionedTypes hconstructor hparameter)]

end Snapshot

end SchemaClosure
