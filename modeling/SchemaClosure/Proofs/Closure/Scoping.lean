import SchemaClosure.Proofs.Closure.Reachability
import SchemaClosure.Proofs.Snapshot.Scope

/-!
The type parameters of objects. The members of an object mention its own parameters, as they should, and besides them only parameters of types around the object or around one of its bases. Those have no arguments, so they are left over; an object whose levels are nested in no generic type has none of them.
-/

namespace SchemaClosure

open Relation

namespace Context

variable {context : Context} {roots : List TypeRef} {type : TypeRef} {shape : Shape} {declaration : Declaration} {name : String}

theorem bindings_eq_nil (hplain : declaration.isGeneric = false) (type : TypeRef) : declaration.bindings type = [] := by
  have hparameters : declaration.parameters = [] := by simpa [Declaration.isGeneric] using hplain
  simp [Declaration.bindings, hparameters]

/-- The bases of an object are those of its definition, whatever the type is applied to. -/
theorem lineage_definition (hshape : context.classify type = .ok shape) (hobject : shape.object? = some declaration) (limit : Nat) :
    context.snapshot.lineage limit type = context.snapshot.lineage limit declaration.definition := by
  by_cases hgeneric : declaration.isGeneric = true
  · rw [eq_definition_of_classify hshape (Or.inl hobject) hgeneric]
  · obtain ⟨hdeclaration, -⟩ := declaration?_of_classify hshape (Shape.declaration?_of_object? hobject)
    have hplain := eq_false_of_ne_true hgeneric
    cases limit with
    | zero => rfl
    | succ limit =>
      unfold Snapshot.lineage
      simp only [hdeclaration, declaration?_definition hdeclaration, bindings_eq_nil hplain]

theorem mentions_definition (h : declaration.definition.Mentions name) : name ∈ declaration.parameterNames := by
  obtain ⟨argument, hargument, hmentions⟩ := TypeRef.mentions_named_iff.mp h
  obtain ⟨parameter, hparameter, rfl⟩ := List.mem_map.mp hargument
  rw [TypeRef.mentions_parameter_iff.mp hmentions]
  exact List.mem_map_of_mem hparameter

theorem fitsArity_definition (hdeclaration : context.snapshot.declaration? type = some declaration) :
    context.snapshot.fitsArity declaration.definition = true := by
  rw [Snapshot.fitsArity_iff]
  intro part hpart found hfound
  rw [Declaration.definition, TypeRef.subterms, List.mem_cons, TypeRef.mem_allSubterms_iff] at hpart
  rcases hpart with rfl | ⟨argument, hargument, hpart⟩
  · have hsame : context.snapshot.declaration? declaration.definition = some found := hfound
    rw [declaration?_definition hdeclaration] at hsame
    rw [← Option.some.inj hsame, TypeRef.arguments, List.length_map]
  · obtain ⟨parameter, -, rfl⟩ := List.mem_map.mp hargument
    rw [TypeRef.subterms, List.mem_singleton] at hpart
    rw [hpart] at hfound
    simp [Snapshot.declaration?, TypeRef.name?] at hfound

/-- The types of the members of an object come from the levels of its lineage. -/
theorem exists_level_of_mem_members {limit : Nat} {schema : ObjectSchema} {edges : List Edge}
    (h : context.resolveObject limit type declaration = some (.ok (schema, edges))) :
    ∃ levels, context.snapshot.lineage limit type = some levels ∧
      ∀ member ∈ schema.members, ∃ level ∈ levels, ∃ mentioned ∈ level.1.mentionedTypes,
        member.declaredType = mentioned.substitute level.2 := by
  obtain ⟨layout, hlayout, hschema, -⟩ := layout_of_resolveObject h
  obtain ⟨members, hmembers, hlaid⟩ := ofMembers_of_layout hlayout
  obtain ⟨levels, hlevels, rfl⟩ := Option.map_eq_some_iff.mp hmembers
  refine ⟨levels, hlevels, ?_⟩
  intro member hmember
  rw [(objectOfLayout_eq_ok hschema).2.2.1] at hmember
  rcases Layout.declaredType_of_mem_members hlaid hmember with ⟨property, hproperty, htype⟩ | ⟨field, hfield, htype⟩
  · rw [htype]
    exact Snapshot.Members.exists_level_of_mem.2 property hproperty
  · rw [htype]
    exact Snapshot.Members.exists_level_of_mem.1 field hfield

/-- What the members of an object mention, if bases have the right numbers of arguments: its own parameters, and outer parameters of a level of its lineage. If no level is nested in a generic type, the members mention nothing but its own parameters; an object that is not open then has no open member. -/
theorem mentions_of_collects {declarations : List Declaration} {model : Model} {text : String} {schema : ObjectSchema}
    (haccepted : Snapshot.ofDeclarations declarations = .ok context.snapshot)
    (hwritten : ∀ given ∈ declarations, ∀ type ∈ given.mentionedTypes, type.isOpen = false)
    (hbases : ∀ declaration ∈ context.snapshot.declarations, ∀ base, declaration.base = some base →
      context.snapshot.fitsArity base = true)
    (h : context.Collects roots (.ok model)) (hheld : model.objects.find? text = some schema) :
    ∃ type limit levels, context.Reachable roots type ∧ type.identity = schema.identity ∧
      context.snapshot.lineage limit type = some levels ∧
      (∀ member ∈ schema.members, ∀ name, member.declaredType.Mentions name →
        name ∈ schema.genericParameters.map (·.name) ∨
          ∃ level ∈ levels, Snapshot.IsOuterParameter declarations level.1 name) ∧
      ((∀ level ∈ levels, ∀ outer, TransGen (Snapshot.IsNestedIn declarations) level.1 outer → outer.isGeneric = false) →
        ∀ member ∈ schema.members,
          (∀ name, member.declaredType.Mentions name → name ∈ schema.genericParameters.map (·.name)) ∧
          (schema.isOpenGeneric = false → member.declaredType.isOpen = false)) := by
  have hentry : model.find? ⟨.object, text⟩ = some (.object schema) := congrArg (Option.map Entry.object) hheld
  obtain ⟨-, type, hreachable, hyields⟩ := held_of_collects h hentry
  obtain ⟨shape, declaration, limit, edges, hshape, hobject, hresolve⟩ := hyields.object_cases
  obtain ⟨hdeclaration, -⟩ := declaration?_of_classify hshape (Shape.declaration?_of_object? hobject)
  obtain ⟨layout, -, hschema, -⟩ := layout_of_resolveObject hresolve
  obtain ⟨hopen, hparameters, -, -⟩ := declared_of_objectOfLayout hschema
  obtain ⟨levels, hlevels, hmembers⟩ := exists_level_of_mem_members hresolve
  have hmentions : ∀ member ∈ schema.members, ∀ name, member.declaredType.Mentions name →
      name ∈ declaration.parameterNames ∨ ∃ level ∈ levels, Snapshot.IsOuterParameter declarations level.1 name := by
    intro member hmember name hname
    obtain ⟨level, hlevel, mentioned, hmentioned, htype⟩ := hmembers member hmember
    rw [htype] at hname
    exact (Snapshot.mentions_of_mem_lineage haccepted hwritten hbases (fitsArity_definition hdeclaration)
      (lineage_definition hshape hobject limit ▸ hlevels) hlevel hmentioned hname).imp_left mentions_definition
  rw [hparameters]
  refine ⟨type, limit, levels, hreachable, (hyields.identity_eq (by simp [Entry.kind])).symm, hlevels, hmentions, ?_⟩
  intro hflat member hmember
  have hown : ∀ name, member.declaredType.Mentions name → name ∈ declaration.parameterNames := by
    intro name hname
    refine (hmentions member hmember name hname).resolve_right ?_
    rintro ⟨level, hlevel, outer, hnested, houter⟩
    have hplain := hflat level hlevel outer hnested
    simp [Declaration.isGeneric] at hplain
    simp [Declaration.parameterNames, hplain] at houter
  refine ⟨hown, ?_⟩
  intro hclosed
  rw [TypeRef.isOpen_eq_false_iff]
  intro name hname
  have hplain : declaration.parameters = [] := by simpa [Declaration.isGeneric, hclosed] using hopen.symm
  simpa [Declaration.parameterNames, hplain] using hown name hname

def crateDeclaration : Declaration where
  name := "Demo.Crate"
  namespaceName := some "Demo"
  parameters := [{ name := "T" }]
  properties := [{ name := "Content", type := .named "T" [] }]

def shelfDeclaration : Declaration where
  name := "Demo.Shelf"
  namespaceName := some "Demo"
  parameters := [{ name := "S" }]
  attributes := [.serializableObject true]
  base := some (.named "Demo.Crate" [.named "System.Collections.Generic.List" [.named "S" []]])

/-- A shelf that inherits from a crate of lists. -/
def shelfContext : Context where
  snapshot := ⟨[crateDeclaration.bindParameters ["T"], shelfDeclaration.bindParameters ["S"]]⟩
  options := {}

def shelfType : TypeRef := .named "Demo.Shelf" [.parameter "S"]

theorem ofDeclarations_shelfContext :
    Snapshot.ofDeclarations [crateDeclaration, shelfDeclaration] = .ok shelfContext.snapshot := by
  rw [Snapshot.ofDeclarations_of_sorted (by decide +kernel)]
  rfl

/-- The content of the shelf is a list of its parameter. -/
theorem mentions_shelf :
    ∃ model schema, shelfContext.Collects [shelfType] (.ok model) ∧ model.objects.find? "Demo.Shelf<S>" = some schema ∧
      schema.members.map (·.declaredType) = [.named "System.Collections.Generic.List" [.parameter "S"]] ∧
      ∀ member ∈ schema.members, ∀ name, member.declaredType.Mentions name → name ∈ schema.genericParameters.map (·.name) := by
  have hfound : ((shelfContext.collect .never 20 [shelfType]).bind Except.toOption).bind (fun model =>
      (model.objects.find? "Demo.Shelf<S>").map fun schema => schema.members.map (·.declaredType)) =
        some [.named "System.Collections.Generic.List" [.parameter "S"]] := by decide +kernel
  obtain ⟨model, hmodel, hfound⟩ := Option.bind_eq_some_iff.mp hfound
  obtain ⟨schema, hschema, htypes⟩ := Option.map_eq_some_iff.mp hfound
  have hcollects : shelfContext.Collects [shelfType] (.ok model) := ⟨20, eq_ok_of_toOption hmodel⟩
  have hwritten : ∀ given ∈ [crateDeclaration, shelfDeclaration], ∀ type ∈ given.mentionedTypes, type.isOpen = false := by
    decide +kernel
  have hbases : ∀ declaration ∈ shelfContext.snapshot.declarations, ∀ base, declaration.base = some base →
      shelfContext.snapshot.fitsArity base = true := by
    have hall : ∀ declaration ∈ shelfContext.snapshot.declarations, declaration.base.all shelfContext.snapshot.fitsArity = true := by
      decide +kernel
    intro declaration hmem base hbase
    simpa [hbase] using hall declaration hmem
  have houtermost : ∀ declaration ∈ shelfContext.snapshot.declarations, declaration.containingType = none := by decide +kernel
  obtain ⟨type, limit, levels, -, -, hlevels, -, hflat⟩ :=
    mentions_of_collects ofDeclarations_shelfContext hwritten hbases hcollects hschema
  refine ⟨model, schema, hcollects, hschema, htypes, ?_⟩
  intro member hmember
  refine (hflat ?_ member hmember).1
  intro level hlevel outer hnested
  obtain ⟨first, hfirst, -⟩ := TransGen.head'_iff.mp hnested
  have hnone := houtermost level.1 (Snapshot.mem_of_mem_lineage hlevels hlevel)
  simp [Snapshot.IsNestedIn, hnone] at hfirst

def shellDeclaration : Declaration where
  name := "Demo.Shell"
  namespaceName := some "Demo"
  parameters := [{ name := "T" }]

def coreDeclaration : Declaration where
  name := "Demo.Shell.Core"
  namespaceName := some "Demo"
  containingType := some "Demo.Shell"
  attributes := [.serializableObject true]
  properties := [{ name := "Value", type := .named "T" [] }]

/-- A core inside a shell with a parameter. -/
def shellContext : Context where
  snapshot := ⟨[shellDeclaration, coreDeclaration.bindParameters ["T"]]⟩
  options := {}

def coreType : TypeRef := .named "Demo.Shell.Core" []

theorem ofDeclarations_shellContext :
    Snapshot.ofDeclarations [shellDeclaration, coreDeclaration] = .ok shellContext.snapshot := by
  rw [Snapshot.ofDeclarations_of_sorted (by decide +kernel)]
  rfl

/-- The core has no parameter and is not open, but its member has the parameter of the shell for its type. -/
theorem mentions_core :
    Snapshot.ofDeclarations [shellDeclaration, coreDeclaration] = .ok shellContext.snapshot ∧
      (∀ declaration ∈ shellContext.snapshot.declarations, ∀ type ∈ declaration.mentionedTypes,
        shellContext.snapshot.fitsArity type = true) ∧
      ∃ model schema, shellContext.Collects [coreType] (.ok model) ∧ model.objects.find? "Demo.Shell.Core" = some schema ∧
        schema.isOpenGeneric = false ∧ schema.genericParameters = [] ∧ ∃ member ∈ schema.members, member.declaredType.Mentions "T" := by
  have hfound : ((shellContext.collect .never 20 [coreType]).bind Except.toOption).bind (fun model =>
      (model.objects.find? "Demo.Shell.Core").map fun schema =>
        (schema.isOpenGeneric, schema.genericParameters, schema.members.map (·.declaredType))) =
          some (false, [], [.parameter "T"]) := by decide +kernel
  obtain ⟨model, hmodel, hfound⟩ := Option.bind_eq_some_iff.mp hfound
  obtain ⟨schema, hschema, hparts⟩ := Option.map_eq_some_iff.mp hfound
  obtain ⟨hopen, hparts⟩ := Prod.mk.inj hparts
  obtain ⟨hparameters, htypes⟩ := Prod.mk.inj hparts
  have hmem : TypeRef.parameter "T" ∈ schema.members.map (·.declaredType) := by simp [htypes]
  obtain ⟨member, hmember, htype⟩ := List.mem_map.mp hmem
  refine ⟨ofDeclarations_shellContext, by decide +kernel, model, schema, ⟨20, eq_ok_of_toOption hmodel⟩, hschema, hopen, hparameters,
    member, hmember, ?_⟩
  rw [htype]
  exact TypeRef.mem_subterms_self _

end Context

end SchemaClosure
