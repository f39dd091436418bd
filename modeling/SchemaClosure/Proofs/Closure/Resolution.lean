import SchemaClosure.Proofs.Closure.Discovery

/-!
Resolving a type. The limit on the walk along bases does not show in the result, so a type resolves in one way if at all; its steps visit what it leads to and record what it yields.
-/

namespace SchemaClosure

/-- A search that keeps its result under larger limits has one result. -/
theorem eq_of_mono {α : Type} {search : Nat → Option α} {limit limit' : Nat} {result result' : α}
    (hmono : ∀ {limit limit' : Nat} {result : α}, search limit = some result → limit ≤ limit' → search limit' = some result)
    (h : search limit = some result) (h' : search limit' = some result') : result = result' := by
  have hfirst := hmono h (Nat.le_max_left limit limit')
  have hsecond := hmono h' (Nat.le_max_right limit limit')
  rw [hfirst] at hsecond
  exact Option.some.inj hsecond

namespace Context

variable {context : Context} {limit limit' : Nat} {type : TypeRef} {declaration : Declaration}

/-! A larger limit gives the same result. -/

theorem layout_mono {outcome : Except CollectError Layout} (h : context.layout limit type declaration = some outcome)
    (hle : limit ≤ limit') : context.layout limit' type declaration = some outcome := by
  obtain ⟨members, hmembers, rfl⟩ := Option.map_eq_some_iff.mp h
  obtain ⟨levels, hlevels, rfl⟩ := Option.map_eq_some_iff.mp hmembers
  rw [layout, Snapshot.members, Snapshot.lineage_mono hlevels hle]
  rfl

theorem resolveObject_mono {outcome : Except CollectError (ObjectSchema × List Edge)}
    (h : context.resolveObject limit type declaration = some outcome) (hle : limit ≤ limit') :
    context.resolveObject limit' type declaration = some outcome := by
  obtain ⟨layout, hlayout, rfl⟩ := Option.map_eq_some_iff.mp h
  rw [resolveObject, layout_mono hlayout hle]
  rfl

theorem objectSteps_mono {outcome : Except CollectError Resolution}
    (h : context.objectSteps limit type declaration = some outcome) (hle : limit ≤ limit') :
    context.objectSteps limit' type declaration = some outcome := by
  obtain ⟨resolved, hresolved, rfl⟩ := Option.map_eq_some_iff.mp h
  rw [objectSteps, resolveObject_mono hresolved hle]
  rfl

theorem definitionSteps_mono {outcome : Except CollectError Resolution}
    (h : context.definitionSteps limit type declaration = some outcome) (hle : limit ≤ limit') :
    context.definitionSteps limit' type declaration = some outcome := by
  obtain ⟨resolved, hresolved, rfl⟩ := Option.map_eq_some_iff.mp h
  apply Option.map_eq_some_iff.mpr
  refine ⟨resolved, ?_, rfl⟩
  split at hresolved
  · rename_i hbase
    rw [if_pos hbase]
    exact hresolved
  · rename_i hbase
    rw [if_neg hbase]
    exact objectSteps_mono hresolved hle

theorem instantiationSteps_mono {outcome : Except CollectError Resolution}
    (h : context.instantiationSteps limit type declaration = some outcome) (hle : limit ≤ limit') :
    context.instantiationSteps limit' type declaration = some outcome := by
  unfold instantiationSteps at h ⊢
  simp only at h ⊢
  split at h
  · rename_i hbase
    rw [if_pos hbase]
    exact h
  · rename_i hbase
    obtain ⟨layout, hlayout, rfl⟩ := Option.map_eq_some_iff.mp h
    rw [if_neg hbase, layout_mono hlayout hle]
    rfl

theorem resolve_mono {outcome : Except CollectError Resolution} (h : context.resolve limit type = some outcome)
    (hle : limit ≤ limit') : context.resolve limit' type = some outcome := by
  unfold resolve at h ⊢
  split at h
  · exact h
  · rename_i shape hshape
    cases shape with
    | definition declaration => exact definitionSteps_mono h hle
    | instantiation declaration => exact instantiationSteps_mono h hle
    | object declaration => exact objectSteps_mono h hle
    | served => exact h
    | array element template => exact h
    | nullable inner => exact h
    | container template => exact h
    | enumeration declaration => exact h
    | union declaration => exact h

theorem resolve_unique {outcome outcome' : Except CollectError Resolution} (h : context.resolve limit type = some outcome)
    (h' : context.resolve limit' type = some outcome') : outcome = outcome' :=
  eq_of_mono (fun h hle => resolve_mono h hle) h h'

theorem resolveObject_unique {outcome outcome' : Except CollectError (ObjectSchema × List Edge)}
    (h : context.resolveObject limit type declaration = some outcome)
    (h' : context.resolveObject limit' type declaration = some outcome') : outcome = outcome' :=
  eq_of_mono (fun h hle => resolveObject_mono h hle) h h'

theorem layout_unique {outcome outcome' : Except CollectError Layout} (h : context.layout limit type declaration = some outcome)
    (h' : context.layout limit' type declaration = some outcome') : outcome = outcome' :=
  eq_of_mono (fun h hle => layout_mono h hle) h h'

theorem ofMembers_of_layout {layout : Layout} (h : context.layout limit type declaration = some (.ok layout)) :
    ∃ members, context.snapshot.members limit type = some members ∧
      Layout.ofMembers context.options type.identity declaration.attributes members = .ok layout :=
  Option.map_eq_some_iff.mp h

theorem layout_of_resolveObject {schema : ObjectSchema} {edges : List Edge}
    (h : context.resolveObject limit type declaration = some (.ok (schema, edges))) :
    ∃ layout, context.layout limit type declaration = some (.ok layout) ∧
      context.objectOfLayout type declaration layout = .ok schema ∧ edges = layout.edges := by
  obtain ⟨outcome, hlayout, hresolved⟩ := Option.map_eq_some_iff.mp h
  obtain ⟨layout, rfl, hlaid⟩ := bind_eq_ok_iff.mp hresolved
  obtain ⟨resolved, hschema, hpair⟩ := bind_eq_ok_iff.mp hlaid
  obtain ⟨rfl, rfl⟩ := Prod.mk.inj (Except.ok.inj hpair)
  exact ⟨layout, hlayout, hschema, rfl⟩

theorem objectOfLayout_eq_ok {layout : Layout} {schema : ObjectSchema}
    (h : context.objectOfLayout type declaration layout = .ok schema) :
    Binding.bind (context.snapshot.constructors type) layout.members layout.keyMode declaration.kind.isReference =
        .ok schema.constructorBinding ∧
      schema.keyMode = layout.keyMode ∧ schema.members = layout.members ∧ schema.diagnostics = layout.diagnostics := by
  unfold objectOfLayout at h
  simp only at h
  split at h
  · simp at h
  · rename_i binding hbinding
    rw [← Except.ok.inj h]
    exact ⟨hbinding, rfl, rfl, rfl⟩

theorem identity_of_objectOfLayout {layout : Layout} {schema : ObjectSchema}
    (h : context.objectOfLayout type declaration layout = .ok schema) : schema.identity = type.identity := by
  unfold objectOfLayout at h
  simp only at h
  split at h
  · simp at h
  · rw [← Except.ok.inj h]

/-- What a schema takes over from the declaration. -/
theorem declared_of_objectOfLayout {layout : Layout} {schema : ObjectSchema}
    (h : context.objectOfLayout type declaration layout = .ok schema) :
    schema.isOpenGeneric = declaration.isGeneric ∧
      schema.genericParameters.map (·.name) = declaration.parameters.map (·.name) ∧
      schema.codecName = CodecName.ofDeclaration declaration ∧ schema.namespaceName = declaration.namespaceName := by
  unfold objectOfLayout at h
  simp only at h
  split at h
  · simp at h
  · rw [← Except.ok.inj h]
    refine ⟨rfl, ?_, rfl, rfl⟩
    rw [List.map_map]
    rfl

theorem identity_of_resolveObject {schema : ObjectSchema} {edges : List Edge}
    (h : context.resolveObject limit type declaration = some (.ok (schema, edges))) : schema.identity = type.identity := by
  obtain ⟨layout, -, hschema, -⟩ := layout_of_resolveObject h
  exact identity_of_objectOfLayout hschema

theorem identity_of_resolveUnion {schema : UnionSchema} {edges : List Edge}
    (h : context.resolveUnion type declaration = .ok (schema, edges)) : schema.identity = type.identity := by
  unfold resolveUnion at h
  simp only at h
  split at h
  · simp at h
  · rw [← (Prod.mk.inj (Except.ok.inj h)).1]

theorem declared_of_resolveUnion {schema : UnionSchema} {edges : List Edge}
    (h : context.resolveUnion type declaration = .ok (schema, edges)) :
    (schema.namespaceName, schema.codecName) = (declaration.namespaceName, declaration.simpleName) := by
  unfold resolveUnion at h
  simp only at h
  split at h
  · simp at h
  · rw [← (Prod.mk.inj (Except.ok.inj h)).1]

theorem objectSteps_eq_ok {resolution : Resolution} (h : context.objectSteps limit type declaration = some (.ok resolution)) :
    ∃ schema edges, context.resolveObject limit type declaration = some (.ok (schema, edges)) ∧
      resolution.steps = .record (.object schema) :: edges.map .visit := by
  obtain ⟨outcome, hresolved, hmap⟩ := Option.map_eq_some_iff.mp h
  obtain ⟨⟨schema, edges⟩, rfl, rfl⟩ := map_eq_ok_iff.mp hmap
  exact ⟨schema, edges, hresolved, rfl⟩

theorem unionSteps_eq_ok {resolution : Resolution} (h : context.unionSteps type declaration = .ok resolution) :
    ∃ schema edges, context.resolveUnion type declaration = .ok (schema, edges) ∧
      resolution.steps = .record (.union schema) :: edges.map .visit := by
  obtain ⟨⟨schema, edges⟩, hresolved, rfl⟩ := map_eq_ok_iff.mp h
  exact ⟨schema, edges, hresolved, rfl⟩

theorem definitionSteps_eq_ok {resolution : Resolution}
    (h : context.definitionSteps limit type declaration = some (.ok resolution)) :
    ∃ inner : Resolution, resolution.steps =
        inner.steps ++ [generic type (CodecName.ofInstantiation declaration type.arguments) true] ∧
      (declaration.isPolymorphicBase = true ∧ context.unionSteps type declaration = .ok inner ∨
        declaration.isPolymorphicBase = false ∧ context.objectSteps limit type declaration = some (.ok inner)) := by
  obtain ⟨outcome, hresolved, hmap⟩ := Option.map_eq_some_iff.mp h
  obtain ⟨inner, rfl, rfl⟩ := map_eq_ok_iff.mp hmap
  refine ⟨inner, rfl, ?_⟩
  split at hresolved
  · rename_i hbase
    exact Or.inl ⟨hbase, Option.some.inj hresolved⟩
  · rename_i hbase
    exact Or.inr ⟨eq_false_of_ne_true hbase, hresolved⟩

/-- An instantiation has the edges of its members, unless it is a polymorphic base, and then its definition, arguments and entry. -/
theorem instantiationSteps_eq_ok {resolution : Resolution}
    (h : context.instantiationSteps limit type declaration = some (.ok resolution)) :
    ∃ edges : List Edge, resolution.steps = edges.map .visit ++ (visits (declaration.definition :: type.arguments) ++
        [generic type (CodecName.ofInstantiation declaration type.arguments) type.isOpen]) ∧
      (declaration.isPolymorphicBase = true ∧ edges = [] ∨ declaration.isPolymorphicBase = false ∧
        ∃ layout, context.layout limit type declaration = some (.ok layout) ∧ edges = layout.edges) := by
  unfold instantiationSteps at h
  simp only at h
  split at h
  · rename_i hbase
    refine ⟨[], ?_, Or.inl ⟨hbase, rfl⟩⟩
    rw [← Except.ok.inj (Option.some.inj h)]
    rfl
  · rename_i hbase
    obtain ⟨outcome, hlayout, hmap⟩ := Option.map_eq_some_iff.mp h
    obtain ⟨layout, rfl, rfl⟩ := map_eq_ok_iff.mp hmap
    exact ⟨layout.edges, rfl, Or.inr ⟨eq_false_of_ne_true hbase, layout, hlayout, rfl⟩⟩

theorem mem_edges_of_layout {layout : Layout} (h : context.layout limit type declaration = some (.ok layout)) {edge : Edge} :
    edge ∈ layout.edges ↔
      ∃ member ∈ layout.members, member.overrideCodec = none ∧ edge = .ofMember member.sourceName member.declaredType := by
  obtain ⟨members, -, hlayout⟩ := ofMembers_of_layout h
  exact Layout.mem_edges_iff hlayout

theorem discovers_iff {shape : Shape} (hshape : context.classify type = .ok shape) {edge : Edge} :
    context.Discovers type edge ↔
      (∃ template, shape = .container template ∧ edge ∈ type.arguments.map .ofType) ∨
      (∃ inner, shape = .nullable inner ∧ edge = .ofType inner) ∨
      (∃ declaration limit layout, shape.laidOut? = some declaration ∧
        context.layout limit type declaration = some (.ok layout) ∧ edge ∈ layout.edges) ∨
      (∃ declaration, shape.union? = some declaration ∧
        ∃ case : Int32 × TypeRef, declaration.attributes.unions.lookup case.1 = some case.2 ∧ edge = .ofType case.2) ∨
      (∃ declaration, shape = .instantiation declaration ∧ edge ∈ (declaration.definition :: type.arguments).map .ofType) := by
  constructor
  · intro h
    cases h with
    | containerArgument hshape' hmem =>
      rw [hshape] at hshape'
      exact Or.inl ⟨_, Except.ok.inj hshape', List.mem_map_of_mem hmem⟩
    | optionalValue hshape' =>
      rw [hshape] at hshape'
      exact Or.inr (Or.inl ⟨_, Except.ok.inj hshape', rfl⟩)
    | member hshape' hlaidOut hlayout hmem hcodec =>
      rw [hshape] at hshape'
      rw [← Except.ok.inj hshape'] at hlaidOut
      exact Or.inr (Or.inr (Or.inl ⟨_, _, _, hlaidOut, hlayout, (mem_edges_of_layout hlayout).mpr ⟨_, hmem, hcodec, rfl⟩⟩))
    | unionCase hshape' hunion hkept =>
      rw [hshape] at hshape'
      rw [← Except.ok.inj hshape'] at hunion
      exact Or.inr (Or.inr (Or.inr (Or.inl ⟨_, hunion, _, hkept, rfl⟩)))
    | definition hshape' =>
      rw [hshape] at hshape'
      exact Or.inr (Or.inr (Or.inr (Or.inr ⟨_, Except.ok.inj hshape', List.mem_cons_self⟩)))
    | instanceArgument hshape' hmem =>
      rw [hshape] at hshape'
      exact Or.inr (Or.inr (Or.inr (Or.inr ⟨_, Except.ok.inj hshape', List.mem_cons_of_mem _ (List.mem_map_of_mem hmem)⟩)))
  · rintro (⟨template, rfl, hmem⟩ | ⟨inner, rfl, rfl⟩ | ⟨declaration, limit, layout, hlaidOut, hlayout, hmem⟩ |
      ⟨declaration, hunion, case, hkept, rfl⟩ | ⟨declaration, rfl, hmem⟩)
    · obtain ⟨argument, hargument, rfl⟩ := List.mem_map.mp hmem
      exact .containerArgument hshape hargument
    · exact .optionalValue hshape
    · obtain ⟨member, hmember, hcodec, rfl⟩ := (mem_edges_of_layout hlayout).mp hmem
      exact .member hshape hlaidOut hlayout hmember hcodec
    · exact .unionCase hshape hunion hkept
    · rcases List.mem_cons.mp hmem with rfl | hmem
      · exact .definition hshape
      · obtain ⟨argument, hargument, rfl⟩ := List.mem_map.mp hmem
        exact .instanceArgument hshape hargument

theorem classify_of_resolve {resolution : Resolution} (h : context.resolve limit type = some (.ok resolution)) :
    ∃ shape, context.classify type = .ok shape ∧ context.stepsOfShape limit type shape = some (.ok resolution) := by
  unfold resolve at h
  split at h
  · simp at h
  · rename_i shape hshape
    exact ⟨shape, hshape, h⟩

theorem mem_edges_objectSteps {resolution : Resolution}
    (h : context.objectSteps limit type declaration = some (.ok resolution)) {edge : Edge} :
    edge ∈ Step.edges resolution.steps ↔
      ∃ limit layout, context.layout limit type declaration = some (.ok layout) ∧ edge ∈ layout.edges := by
  obtain ⟨schema, edges, hschema, hsteps⟩ := objectSteps_eq_ok h
  obtain ⟨layout, hlayout, -, rfl⟩ := layout_of_resolveObject hschema
  rw [hsteps, Step.edges_cons_record, Step.edges_map_visit]
  constructor
  · intro hmem
    exact ⟨limit, layout, hlayout, hmem⟩
  · rintro ⟨limit', layout', hlayout', hmem⟩
    rwa [Except.ok.inj (layout_unique hlayout hlayout')]

theorem mem_edges_unionSteps {resolution : Resolution} (h : context.unionSteps type declaration = .ok resolution) {edge : Edge} :
    edge ∈ Step.edges resolution.steps ↔
      ∃ case : Int32 × TypeRef, declaration.attributes.unions.lookup case.1 = some case.2 ∧ edge = .ofType case.2 := by
  obtain ⟨schema, edges, hschema, hsteps⟩ := unionSteps_eq_ok h
  rw [hsteps, Step.edges_cons_record, Step.edges_map_visit]
  exact mem_edges_resolveUnion hschema

theorem lookupCompanions_eq (lookup : TypeRef) :
    lookupCompanions lookup = (companionsOf lookup).filterMap fun companion =>
      (Catalog.containerTemplate? companion.unboundSignature).map fun template =>
        containerEntry companion template lookup.isOpen := by
  unfold lookupCompanions companionsOf
  generalize lookup.arguments = arguments
  match arguments with
  | [] => rfl
  | [_] => rfl
  | _ :: _ :: _ => rfl

theorem edges_lookupCompanions (lookup : TypeRef) : Step.edges (lookupCompanions lookup) = [] := by
  rw [lookupCompanions_eq, Step.edges, List.filterMap_filterMap, List.filterMap_eq_nil_iff]
  intro companion _
  cases Catalog.containerTemplate? companion.unboundSignature <;> rfl

theorem edges_containerSteps (template : String) : Step.edges (containerSteps type template) = type.arguments.map .ofType := by
  unfold containerSteps
  split
  · simp [containerEntry, generic, edges_lookupCompanions]
  · simp [containerEntry, generic]

theorem edges_nullableSteps (inner : TypeRef) : Step.edges (context.nullableSteps type inner) = [.ofType inner] := by
  unfold nullableSteps
  split <;> simp [generic]

/-- The visits of a resolved type are the edges along which it leads to others. -/
theorem mem_edges_iff {resolution : Resolution} (h : context.resolve limit type = some (.ok resolution)) {edge : Edge} :
    edge ∈ Step.edges resolution.steps ↔ context.Discovers type edge := by
  obtain ⟨shape, hshape, hsteps⟩ := classify_of_resolve h
  rw [discovers_iff hshape]
  cases shape with
  | served =>
    rw [← Except.ok.inj (Option.some.inj hsteps)]
    simp [Shape.laidOut?, Shape.object?, Shape.union?]
  | array element template =>
    rw [← Except.ok.inj (Option.some.inj hsteps)]
    simp [Shape.laidOut?, Shape.object?, Shape.union?, generic]
  | nullable inner =>
    rw [← Except.ok.inj (Option.some.inj hsteps), edges_nullableSteps, List.mem_singleton]
    simp [Shape.laidOut?, Shape.object?, Shape.union?]
  | container template =>
    rw [← Except.ok.inj (Option.some.inj hsteps), edges_containerSteps]
    simp [Shape.laidOut?, Shape.object?, Shape.union?]
  | enumeration declaration =>
    rw [← Except.ok.inj (Option.some.inj hsteps)]
    simp [Shape.laidOut?, Shape.object?, Shape.union?, enumEntry]
  | union declaration =>
    rw [mem_edges_unionSteps (Option.some.inj hsteps)]
    simp [Shape.laidOut?, Shape.object?, Shape.union?]
  | object declaration =>
    rw [mem_edges_objectSteps hsteps]
    simp [Shape.laidOut?, Shape.object?, Shape.union?]
  | definition declaration =>
    obtain ⟨inner, hinner, hcase⟩ := definitionSteps_eq_ok hsteps
    have hedges : Step.edges resolution.steps = Step.edges inner.steps := by
      rw [hinner, Step.edges_append]
      exact List.append_nil _
    rw [hedges]
    rcases hcase with ⟨hbase, hunion⟩ | ⟨hbase, hobject⟩
    · rw [mem_edges_unionSteps hunion]
      simp [Shape.laidOut?, Shape.object?, Shape.union?, hbase]
    · rw [mem_edges_objectSteps hobject]
      simp [Shape.laidOut?, Shape.object?, Shape.union?, hbase]
  | instantiation declaration =>
    obtain ⟨edges, hall, hcase⟩ := instantiationSteps_eq_ok hsteps
    have hedges : Step.edges resolution.steps = edges ++ (declaration.definition :: type.arguments).map .ofType := by
      rw [hall]
      simp [generic]
    rw [hedges, List.mem_append]
    rcases hcase with ⟨hbase, rfl⟩ | ⟨hbase, layout, hlayout, rfl⟩
    · simp [Shape.laidOut?, Shape.union?, hbase]
    · have hlayouts : (∃ limit layout, context.layout limit type declaration = some (.ok layout) ∧ edge ∈ layout.edges) ↔
          edge ∈ layout.edges := by
        constructor
        · rintro ⟨limit', layout', hlayout', hmem⟩
          rwa [Except.ok.inj (layout_unique hlayout hlayout')]
        · intro hmem
          exact ⟨limit, layout, hlayout, hmem⟩
      simp [Shape.laidOut?, Shape.union?, hbase, ← hlayouts]

/-- The visits of a resolved type go to the types that it leads to. -/
theorem mem_targets_iff {resolution : Resolution} (h : context.resolve limit type = some (.ok resolution)) {target : TypeRef} :
    target ∈ Step.targets resolution.steps ↔ context.LeadsTo type target := by
  simp only [Step.targets_eq_map_edges, List.mem_map, mem_edges_iff h, LeadsTo]

theorem mem_entries_lookupCompanions {lookup : TypeRef} {entry : Entry} :
    entry ∈ Step.entries (lookupCompanions lookup) ↔
      ∃ companion ∈ companionsOf lookup, ∃ template, Catalog.containerTemplate? companion.unboundSignature = some template ∧
        entry = .generic ⟨companion.identity, Catalog.instantiate template (CodecName.ofArguments companion.arguments), lookup.isOpen⟩ := by
  have hentries : Step.entries (lookupCompanions lookup) = (companionsOf lookup).filterMap fun companion =>
      (Catalog.containerTemplate? companion.unboundSignature).map fun template => .generic
        ⟨companion.identity, Catalog.instantiate template (CodecName.ofArguments companion.arguments), lookup.isOpen⟩ := by
    rw [lookupCompanions_eq, Step.entries, List.filterMap_filterMap]
    congr 1
    funext companion
    cases Catalog.containerTemplate? companion.unboundSignature <;> rfl
  simp only [hentries, List.mem_filterMap, Option.map_eq_some_iff, eq_comm (a := entry)]

theorem yields_iff {shape : Shape} (hshape : context.classify type = .ok shape) {entry : Entry} :
    context.Yields type entry ↔
      (∃ declaration limit schema edges, shape.object? = some declaration ∧
        context.resolveObject limit type declaration = some (.ok (schema, edges)) ∧ entry = .object schema) ∨
      (∃ declaration schema edges, shape.union? = some declaration ∧
        context.resolveUnion type declaration = .ok (schema, edges) ∧ entry = .union schema) ∨
      (∃ declaration, shape = .enumeration declaration ∧ .record entry = context.enumEntry type declaration) ∨
      (∃ schema, context.ownGeneric? type shape = some schema ∧ entry = .generic schema) ∨
      (∃ template, shape = .container template ∧ type.unboundSignature = Catalog.lookupSignature ∧
        entry ∈ Step.entries (lookupCompanions type)) := by
  constructor
  · intro h
    cases h with
    | object hshape' hobject hschema =>
      rw [hshape] at hshape'
      rw [← Except.ok.inj hshape'] at hobject
      exact Or.inl ⟨_, _, _, _, hobject, hschema, rfl⟩
    | union hshape' hunion hschema =>
      rw [hshape] at hshape'
      rw [← Except.ok.inj hshape'] at hunion
      exact Or.inr (Or.inl ⟨_, _, _, hunion, hschema, rfl⟩)
    | enumeration hshape' =>
      rw [hshape] at hshape'
      exact Or.inr (Or.inr (Or.inl ⟨_, Except.ok.inj hshape', rfl⟩))
    | generic hshape' hschema =>
      rw [hshape] at hshape'
      rw [← Except.ok.inj hshape'] at hschema
      exact Or.inr (Or.inr (Or.inr (Or.inl ⟨_, hschema, rfl⟩)))
    | companion hshape' hlookup hmem htemplate =>
      rw [hshape] at hshape'
      exact Or.inr (Or.inr (Or.inr (Or.inr ⟨_, Except.ok.inj hshape', hlookup,
        mem_entries_lookupCompanions.mpr ⟨_, hmem, _, htemplate, rfl⟩⟩)))
  · rintro (⟨declaration, limit, schema, edges, hobject, hschema, rfl⟩ | ⟨declaration, schema, edges, hunion, hschema, rfl⟩ |
      ⟨declaration, rfl, hentry⟩ | ⟨schema, hschema, rfl⟩ | ⟨template, rfl, hlookup, hmem⟩)
    · exact .object hshape hobject hschema
    · exact .union hshape hunion hschema
    · rw [Step.record.inj hentry]
      exact .enumeration hshape
    · exact .generic hshape hschema
    · obtain ⟨companion, hcompanion, template', htemplate, rfl⟩ := mem_entries_lookupCompanions.mp hmem
      exact .companion hshape hlookup hcompanion htemplate

theorem mem_entries_objectSteps {resolution : Resolution}
    (h : context.objectSteps limit type declaration = some (.ok resolution)) {entry : Entry} :
    entry ∈ Step.entries resolution.steps ↔ ∃ limit schema edges,
      context.resolveObject limit type declaration = some (.ok (schema, edges)) ∧ entry = .object schema := by
  obtain ⟨schema, edges, hschema, hsteps⟩ := objectSteps_eq_ok h
  rw [hsteps, Step.entries_cons_record, Step.entries_map_visit, List.mem_singleton]
  constructor
  · intro hentry
    exact ⟨limit, schema, edges, hschema, hentry⟩
  · rintro ⟨limit', schema', edges', hschema', rfl⟩
    rw [(Prod.mk.inj (Except.ok.inj (resolveObject_unique hschema hschema'))).1]

theorem mem_entries_unionSteps {resolution : Resolution} (h : context.unionSteps type declaration = .ok resolution) {entry : Entry} :
    entry ∈ Step.entries resolution.steps ↔
      ∃ schema edges, context.resolveUnion type declaration = .ok (schema, edges) ∧ entry = .union schema := by
  obtain ⟨schema, edges, hschema, hsteps⟩ := unionSteps_eq_ok h
  rw [hsteps, Step.entries_cons_record, Step.entries_map_visit, List.mem_singleton]
  constructor
  · intro hentry
    exact ⟨schema, edges, hschema, hentry⟩
  · rintro ⟨schema', edges', hschema', rfl⟩
    rw [hschema] at hschema'
    rw [(Prod.mk.inj (Except.ok.inj hschema')).1]

theorem mem_entries_containerSteps {template : String} {entry : Entry} :
    entry ∈ Step.entries (containerSteps type template) ↔
      entry = .generic ⟨type.identity, Catalog.instantiate template (CodecName.ofArguments type.arguments), type.isOpen⟩ ∨
        type.unboundSignature = Catalog.lookupSignature ∧ entry ∈ Step.entries (lookupCompanions type) := by
  unfold containerSteps
  split
  · rename_i hlookup
    simp [containerEntry, generic, hlookup]
  · rename_i hlookup
    simp [containerEntry, generic, hlookup]

theorem mem_entries_iff {resolution : Resolution} (h : context.resolve limit type = some (.ok resolution)) {entry : Entry} :
    entry ∈ Step.entries resolution.steps ↔ context.Yields type entry := by
  obtain ⟨shape, hshape, hsteps⟩ := classify_of_resolve h
  rw [yields_iff hshape]
  cases shape with
  | served =>
    rw [← Except.ok.inj (Option.some.inj hsteps)]
    simp [Shape.object?, Shape.union?, ownGeneric?]
  | array element template =>
    rw [← Except.ok.inj (Option.some.inj hsteps)]
    simp [Shape.object?, Shape.union?, ownGeneric?, generic]
  | nullable inner =>
    rw [← Except.ok.inj (Option.some.inj hsteps)]
    simp only [nullableSteps, ownGeneric?, Shape.object?, Shape.union?]
    split <;> simp [generic]
  | container template =>
    rw [← Except.ok.inj (Option.some.inj hsteps), mem_entries_containerSteps]
    simp [Shape.object?, Shape.union?, ownGeneric?]
  | enumeration declaration =>
    rw [← Except.ok.inj (Option.some.inj hsteps)]
    simp [Shape.object?, Shape.union?, ownGeneric?, enumEntry]
  | union declaration =>
    rw [mem_entries_unionSteps (Option.some.inj hsteps)]
    simp [Shape.object?, Shape.union?, ownGeneric?]
  | object declaration =>
    rw [mem_entries_objectSteps hsteps]
    simp [Shape.object?, Shape.union?, ownGeneric?]
  | definition declaration =>
    obtain ⟨inner, hinner, hcase⟩ := definitionSteps_eq_ok hsteps
    have hentries : Step.entries resolution.steps = Step.entries inner.steps ++
        [.generic ⟨type.identity, CodecName.ofInstantiation declaration type.arguments, true⟩] := by
      rw [hinner, Step.entries_append]
      rfl
    rw [hentries, List.mem_append, List.mem_singleton]
    rcases hcase with ⟨hbase, hunion⟩ | ⟨hbase, hobject⟩
    · rw [mem_entries_unionSteps hunion]
      simp [Shape.object?, Shape.union?, ownGeneric?, hbase]
    · rw [mem_entries_objectSteps hobject]
      simp [Shape.object?, Shape.union?, ownGeneric?, hbase]
  | instantiation declaration =>
    obtain ⟨edges, hall, hcase⟩ := instantiationSteps_eq_ok hsteps
    have hentries : Step.entries resolution.steps =
        [.generic ⟨type.identity, CodecName.ofInstantiation declaration type.arguments, type.isOpen⟩] := by
      rw [hall]
      simp [generic]
    rw [hentries, List.mem_singleton]
    simp [Shape.object?, Shape.union?, ownGeneric?]

end Context

end SchemaClosure
