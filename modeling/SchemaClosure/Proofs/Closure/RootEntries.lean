import SchemaClosure.Proofs.Closure.Reachability
import SchemaClosure.Snapshot.Validation

/-!
The entries of the roots. A collection takes types with one identity for one type, so a root surely comes into the model only if it is told apart from everything else that can be reached. Legible roots in a legible snapshot are; a declared type with the name of a type parameter is not, and can be lost.
-/

namespace SchemaClosure

namespace Context

/-- A type whose codec comes from elsewhere. -/
inductive ServedElsewhere (context : Context) (type : TypeRef) : Prop where
  | leaf (h : Catalog.isLeaf type.identity.text = true) : ServedElsewhere context type
  | ignored (h : context.options.ignoredTypeNames.contains type.identity.text = true) : ServedElsewhere context type
  | customCodec (h : (context.options.customCodec? type.identity.text).isSome = true) : ServedElsewhere context type
  | formatter {declaration : Declaration} (hdeclaration : context.snapshot.declaration? type = some declaration)
      (h : declaration.attributes.formatter?.isSome = true) : ServedElsewhere context type
  | container (hgeneric : type.isGeneric = true) (h : (Catalog.containerTemplate? type.unboundSignature).isSome = true) :
      ServedElsewhere context type
  | nullable (h : type.isNullable = true) : ServedElsewhere context type
  | external {declaration : Declaration} (hdeclaration : context.snapshot.declaration? type = some declaration)
      (hplain : declaration.isGeneric = false) (h : declaration.isExternal = true) : ServedElsewhere context type

theorem servedElsewhere_iff {context : Context} {type : TypeRef} :
    context.ServedElsewhere type ↔
      context.options.isTerminal type.identity.text = true ∨ (context.options.customCodec? type.identity.text).isSome = true ∨
        (∃ declaration ∈ context.snapshot.declaration? type,
          declaration.attributes.formatter?.isSome = true ∨ declaration.isGeneric = false ∧ declaration.isExternal = true) ∨
        (type.isGeneric = true ∧ (Catalog.containerTemplate? type.unboundSignature).isSome = true) ∨ type.isNullable = true := by
  rw [Options.isTerminal, Bool.or_eq_true]
  constructor
  · rintro (h | h | h | ⟨hdeclaration, h⟩ | ⟨hgeneric, h⟩ | h | ⟨hdeclaration, hplain, h⟩)
    · exact Or.inl (Or.inl h)
    · exact Or.inl (Or.inr h)
    · exact Or.inr (Or.inl h)
    · exact Or.inr (Or.inr (Or.inl ⟨_, hdeclaration, Or.inl h⟩))
    · exact Or.inr (Or.inr (Or.inr (Or.inl ⟨hgeneric, h⟩)))
    · exact Or.inr (Or.inr (Or.inr (Or.inr h)))
    · exact Or.inr (Or.inr (Or.inl ⟨_, hdeclaration, Or.inr ⟨hplain, h⟩⟩))
  · rintro ((h | h) | h | ⟨declaration, hdeclaration, h | ⟨hplain, h⟩⟩ | ⟨hgeneric, h⟩ | h)
    · exact .leaf h
    · exact .ignored h
    · exact .customCodec h
    · exact .formatter hdeclaration h
    · exact .external hdeclaration hplain h
    · exact .container hgeneric h
    · exact .nullable h

instance (context : Context) (type : TypeRef) : Decidable (context.ServedElsewhere type) :=
  decidable_of_iff _ servedElsewhere_iff.symm

/-- No other type with the identity of this one can be reached. -/
def IsAlone (context : Context) (roots : List TypeRef) (type : TypeRef) : Prop :=
  ∀ other, context.Reachable roots other → other.identity = type.identity → other = type

/-- A root that is told apart from everything else that can be reached, as is the definition that it leads to if it is generic. -/
structure IsToldApart (context : Context) (roots : List TypeRef) (root : TypeRef) : Prop where
  type : context.IsAlone roots root.normalize
  definition : ∀ definition, context.snapshot.definition? root.normalize = some definition → context.IsAlone roots definition

end Context

/-- The model has an entry of this kind for the type. -/
def Model.HasEntry (model : Model) (kind : EntryKind) (type : TypeRef) : Prop :=
  ∃ entry, model.find? ⟨kind, type.identity.text⟩ = some entry ∧ entry.identity = type.identity

/-- The kind of entry that a class, a structure or an interface calls for. -/
def Declaration.ownKind (declaration : Declaration) : EntryKind := if declaration.isPolymorphicBase then .union else .object

namespace Context

/-- The model has for the type what its declaration calls for. A generic type needs an entry of its own and one of its definition. -/
inductive IsEntered (context : Context) (model : Model) (type : TypeRef) : Prop where
  | enumeration {declaration : Declaration} (hdeclaration : context.snapshot.declaration? type = some declaration)
      (hkind : declaration.kind = .enumType) (hentry : model.HasEntry .enumeration type) : IsEntered context model type
  | plain {declaration : Declaration} (hdeclaration : context.snapshot.declaration? type = some declaration)
      (hkind : declaration.kind ≠ .enumType) (hplain : declaration.isGeneric = false)
      (hentry : model.HasEntry declaration.ownKind type) : IsEntered context model type
  | generic {declaration : Declaration} (hdeclaration : context.snapshot.declaration? type = some declaration)
      (hkind : declaration.kind ≠ .enumType) (hgeneric : declaration.isGeneric = true) (hentry : model.HasEntry .generic type)
      (hdefinition : ¬context.ServedElsewhere declaration.definition →
        model.HasEntry declaration.ownKind declaration.definition) : IsEntered context model type

variable {context : Context} {scope : List String} {roots : List TypeRef} {model : Model} {type root : TypeRef}
  {declaration : Declaration} {shape : Shape}

theorem classify_eq_classifyDeclared (hdeclaration : context.snapshot.declaration? type = some declaration)
    (helsewhere : ¬context.ServedElsewhere type) : context.classify type = context.classifyDeclared type declaration := by
  have hnamed := Snapshot.eq_named_of_declaration? hdeclaration
  have hterminal : context.options.isTerminal type.identity.text = false := by
    rw [Options.isTerminal, Bool.or_eq_false_iff]
    exact ⟨eq_false_of_ne_true fun h => helsewhere (.leaf h), eq_false_of_ne_true fun h => helsewhere (.ignored h)⟩
  have harray : type.arrayParts? = none := by rw [hnamed]; rfl
  have hparameter : type.isParameter = false := by rw [hnamed]; rfl
  have hcodec : (context.options.customCodec? type.identity.text).isSome = false :=
    eq_false_of_ne_true fun h => helsewhere (.customCodec h)
  have hnullable : type.nullableInner? = none := by
    rw [← Option.not_isSome_iff_eq_none]
    exact fun h => helsewhere (.nullable h)
  have hcontainer : (if type.isGeneric then Catalog.containerTemplate? type.unboundSignature else none) = none := by
    split
    · rename_i hgeneric
      rw [← Option.not_isSome_iff_eq_none]
      exact fun h => helsewhere (.container hgeneric h)
    · rfl
  simp only [classify, hterminal, harray, hcodec, hparameter, hnullable, classifyNamed, hcontainer, hdeclaration, Bool.or_self,
    Bool.false_eq_true, if_false]

theorem eq_ownShape_of_classifyDeclared (hdeclaration : context.snapshot.declaration? type = some declaration)
    (helsewhere : ¬context.ServedElsewhere type) (hshape : context.classifyDeclared type declaration = .ok shape) :
    shape = context.ownShape type declaration := by
  rcases classifyDeclared_eq_ok hshape with ⟨hformatter | ⟨hplain, hexternal⟩, -⟩ | hown
  · exact absurd (.formatter hdeclaration hformatter) helsewhere
  · exact absurd (.external hdeclaration hplain hexternal) helsewhere
  · exact hown

theorem exists_steps_of_serves (hserves : context.Serves type) (hdeclaration : context.snapshot.declaration? type = some declaration)
    (helsewhere : ¬context.ServedElsewhere type) :
    context.classify type = .ok (context.ownShape type declaration) ∧
      ∃ limit resolution, context.stepsOfShape limit type (context.ownShape type declaration) = some (.ok resolution) := by
  obtain ⟨limit, resolution, hresolve⟩ := hserves
  obtain ⟨shape, hshape, hsteps⟩ := classify_of_resolve hresolve
  have hdeclared := hshape
  rw [classify_eq_classifyDeclared hdeclaration helsewhere] at hdeclared
  rw [eq_ownShape_of_classifyDeclared hdeclaration helsewhere hdeclared] at hshape hsteps
  exact ⟨hshape, limit, resolution, hsteps⟩


/-- Whether it is generic or not, a polymorphic base is resolved as a union, and any other class or structure as an object. -/
theorem exists_yields_ownKind (hshape : context.classify type = .ok shape) {limit : Nat} {resolution : Resolution}
    (hsteps : context.stepsOfShape limit type shape = some (.ok resolution))
    (hown : shape = .definition declaration ∨ shape = if declaration.isPolymorphicBase then .union declaration else .object declaration) :
    ∃ entry, context.Yields type entry ∧ entry.kind = declaration.ownKind ∧ entry.identity = type.identity := by
  by_cases hbase : declaration.isPolymorphicBase = true
  · rw [if_pos hbase] at hown
    obtain ⟨hunion, inner, hinner⟩ : shape.union? = some declaration ∧ ∃ inner, context.unionSteps type declaration = .ok inner := by
      rcases hown with rfl | rfl
      · obtain ⟨inner, -, ⟨-, hinner⟩ | ⟨hbase', -⟩⟩ := definitionSteps_eq_ok hsteps
        · exact ⟨if_pos hbase, inner, hinner⟩
        · simp [hbase] at hbase'
      · exact ⟨rfl, resolution, Option.some.inj hsteps⟩
    obtain ⟨schema, edges, hschema, -⟩ := unionSteps_eq_ok hinner
    refine ⟨.union schema, .union hshape hunion hschema, ?_, identity_of_resolveUnion hschema⟩
    rw [Declaration.ownKind, if_pos hbase, Entry.kind]
  · rw [if_neg hbase] at hown
    obtain ⟨hobject, inner, hinner⟩ : shape.object? = some declaration ∧
        ∃ inner, context.objectSteps limit type declaration = some (.ok inner) := by
      rcases hown with rfl | rfl
      · obtain ⟨inner, -, ⟨hbase', -⟩ | ⟨-, hinner⟩⟩ := definitionSteps_eq_ok hsteps
        · exact absurd hbase' hbase
        · exact ⟨if_neg hbase, inner, hinner⟩
      · exact ⟨rfl, resolution, hsteps⟩
    obtain ⟨schema, edges, hschema, -⟩ := objectSteps_eq_ok hinner
    refine ⟨.object schema, .object hshape hobject hschema, ?_, identity_of_resolveObject hschema⟩
    rw [Declaration.ownKind, if_neg hbase, Entry.kind]

theorem ownShape_definition (hdeclaration : context.snapshot.declaration? type = some declaration)
    (hkind : declaration.kind ≠ .enumType) (hgeneric : declaration.isGeneric = true) :
    context.ownShape declaration.definition declaration = .definition declaration := by
  have hdefinition : context.snapshot.isDefinition declaration.definition = true := by
    rw [Snapshot.isDefinition, definition?_of_isGeneric (declaration?_definition hdeclaration) hgeneric]
    exact beq_self_eq_true _
  rw [ownShape, if_neg hkind, if_pos hgeneric, if_pos hdefinition]

end Context

namespace Collection

variable {context : Context} {roots : List TypeRef} {collection next : Collection}

/-- What a collection keeps without a word on legibility: a type that is told apart has been seen to once it has been visited. -/
structure Tracks (context : Context) (roots : List TypeRef) (collection : Collection) : Prop where
  targets : ∀ {target : TypeRef}, target ∈ Step.targets collection.pending → context.Reachable roots target.normalize
  attends : ∀ {type : TypeRef}, context.IsAlone roots type → type.identity ∈ collection.visited →
    context.Serves type ∧ collection.Attends context type
  keyed : ∀ {key : EntryKey} {entry : Entry}, collection.model.find? key = some entry → entry.key = key

theorem tracks_start : (start (roots.map TypeRef.normalize)).Tracks context roots where
  targets hmem := consistent_start_reachable.targets hmem
  attends _ hmem := absurd hmem List.not_mem_nil
  keyed hheld := by simp [start] at hheld

theorem Tracks.moves (h : collection.Tracks context roots) (hmoves : collection.Moves context next) : next.Tracks context roots := by
  have hkept {type : TypeRef} (halone : context.IsAlone roots type) (hmem : type.identity ∈ collection.visited) :
      context.Serves type ∧ next.Attends context type :=
    ⟨(h.attends halone hmem).1, (h.attends halone hmem).2.moves hmoves⟩
  rcases moves_cases hmoves with ⟨entry, rest, hsteps, rfl⟩ | ⟨edge, rest, hsteps, hvisited, rfl⟩ |
      ⟨edge, rest, limit, resolution, hsteps, hfresh, hresolve, rfl⟩
  · refine ⟨fun hmem => h.targets (by rw [hsteps]; exact hmem), hkept, ?_⟩
    intro key held hheld
    rcases Model.eq_of_find?_record hheld with hheld | ⟨rfl, hkey⟩
    · exact h.keyed hheld
    · exact hkey
  · exact ⟨fun hmem => h.targets (by rw [hsteps]; exact List.mem_cons_of_mem _ hmem), hkept, h.keyed⟩
  · have htarget : context.Reachable roots edge.target.normalize := h.targets (by rw [hsteps]; exact List.mem_cons_self)
    refine ⟨?_, ?_, h.keyed⟩
    · intro target hmem
      rw [discover, Step.targets_append, Step.targets_map_reachedThrough] at hmem
      rcases List.mem_append.mp hmem with hmem | hmem
      · exact .edge htarget ((Context.mem_targets_iff hresolve).mp hmem)
      · exact h.targets (by rw [hsteps]; exact List.mem_cons_of_mem _ hmem)
    · intro type halone hmem
      rcases List.mem_cons.mp hmem with hidentity | hmem
      · -- nothing else has the identity of the type, so it is the discovered type that is asked about
        rw [← halone _ htarget hidentity.symm]
        exact ⟨⟨limit, resolution, hresolve⟩, attends_discover _ _ hresolve⟩
      · exact hkept halone hmem

/-- A collection that succeeds comes to a state with nothing left to do, in which all its roots have been visited. -/
theorem exists_tracks_of_collects {model : Model} (h : context.Collects roots (.ok model)) :
    ∃ last : Collection, last.Tracks context roots ∧ last.pending = [] ∧ (∀ root ∈ roots, root.normalize.identity ∈ last.visited) ∧
      model = last.model := by
  have hends := (Context.collects_iff_ends (Context.checked_of_collects h)).mp h
  obtain ⟨last, hlast, hsteps, hend⟩ := hends.invariant tracks_start fun htracks hmoves => htracks.moves hmoves
  rcases hend with ⟨hpending, hmodel⟩ | ⟨error, -, hmodel⟩
  · refine ⟨last, hlast, hpending, ?_, Except.ok.inj hmodel⟩
    intro root hroot
    have hvisited := ((reaches_start hroot).steps hsteps).mem_visited hpending
    rwa [TypeRef.normalize_normalize] at hvisited
  · simp at hmodel

/-- A visited type that is told apart has in the model what it yields. -/
theorem Tracks.hasEntry (h : collection.Tracks context roots) (hpending : collection.pending = []) {type : TypeRef}
    (halone : context.IsAlone roots type) (hvisited : type.identity ∈ collection.visited) {entry : Entry}
    (hyields : context.Yields type entry) (hidentity : entry.identity = type.identity) : collection.model.HasEntry entry.kind type := by
  obtain ⟨held, hheld⟩ := Option.isSome_iff_exists.mp (((h.attends halone hvisited).2.covers hyields).isSome hpending)
  have hkey := h.keyed hheld
  rw [Entry.key, hidentity] at hheld
  exact ⟨held, hheld, (Entry.identity_eq_of_key_eq hkey).trans hidentity⟩

end Collection

namespace Context

variable {context : Context} {scope : List String} {roots : List TypeRef} {model : Model} {type root : TypeRef}
  {declaration : Declaration} {last : Collection}

/-- A visited class, structure or interface that is told apart has its own entry, be it a definition or not generic. -/
theorem hasEntry_ownKind (hlast : last.Tracks context roots) (hpending : last.pending = []) (halone : context.IsAlone roots type)
    (hvisited : type.identity ∈ last.visited) (hdeclaration : context.snapshot.declaration? type = some declaration)
    (helsewhere : ¬context.ServedElsewhere type)
    (hown : context.ownShape type declaration = .definition declaration ∨
      context.ownShape type declaration = if declaration.isPolymorphicBase then .union declaration else .object declaration) :
    last.model.HasEntry declaration.ownKind type := by
  obtain ⟨hshape, limit, resolution, hsteps⟩ :=
    exists_steps_of_serves (hlast.attends halone hvisited).1 hdeclaration helsewhere
  obtain ⟨entry, hyields, hkind, hidentity⟩ := exists_yields_ownKind hshape hsteps hown
  rw [← hkind]
  exact hlast.hasEntry hpending halone hvisited hyields hidentity

/-- With a generic type its definition is visited, and it has an entry of its own. -/
theorem visited_definition (hlast : last.Tracks context roots) (hpending : last.pending = []) (halone : context.IsAlone roots type)
    (hvisited : type.identity ∈ last.visited) (hdeclaration : context.snapshot.declaration? type = some declaration)
    (hkind : declaration.kind ≠ .enumType) (hgeneric : declaration.isGeneric = true)
    (hshape : context.classify type = .ok (context.ownShape type declaration)) :
    declaration.definition.identity ∈ last.visited ∧ last.model.HasEntry .generic type := by
  rw [ownShape, if_neg hkind, if_pos hgeneric] at hshape
  by_cases hself : context.snapshot.isDefinition type = true
  · rw [if_pos hself] at hshape
    refine ⟨?_, hlast.hasEntry hpending halone hvisited (.generic hshape rfl) rfl⟩
    rw [Snapshot.isDefinition, definition?_of_isGeneric hdeclaration hgeneric, beq_iff_eq] at hself
    rwa [Option.some.inj hself]
  · rw [if_neg hself] at hshape
    refine ⟨?_, hlast.hasEntry hpending halone hvisited (.generic hshape rfl) rfl⟩
    have hreached := ((hlast.attends halone hvisited).2.reaches (Discovers.definition hshape).leadsTo).mem_visited hpending
    rwa [Edge.target_ofType, TypeRef.normalize_eq_self (Declaration.isTupleFree_definition declaration)] at hreached

/-- A visited root that is told apart is entered. -/
theorem isEntered_of_tracks (hlast : last.Tracks context roots) (hpending : last.pending = [])
    (hvisited : root.normalize.identity ∈ last.visited) (hdeclaration : context.snapshot.declaration? root.normalize = some declaration)
    (helsewhere : ¬context.ServedElsewhere root.normalize) (happart : context.IsToldApart roots root) :
    context.IsEntered last.model root.normalize := by
  have hshape := (exists_steps_of_serves (hlast.attends happart.type hvisited).1 hdeclaration helsewhere).1
  by_cases hkind : declaration.kind = .enumType
  · rw [ownShape, if_pos hkind] at hshape
    exact .enumeration hdeclaration hkind (hlast.hasEntry hpending happart.type hvisited (.enumeration hshape) rfl)
  · by_cases hgeneric : declaration.isGeneric = true
    · obtain ⟨hdefinition, hentry⟩ :=
        visited_definition hlast hpending happart.type hvisited hdeclaration hkind hgeneric hshape
      refine .generic hdeclaration hkind hgeneric hentry ?_
      intro helsewhere'
      exact hasEntry_ownKind hlast hpending (happart.definition _ (definition?_of_isGeneric hdeclaration hgeneric)) hdefinition
        (declaration?_definition hdeclaration) helsewhere' (Or.inl (ownShape_definition hdeclaration hkind hgeneric))
    · refine .plain hdeclaration hkind (eq_false_of_ne_true hgeneric) ?_
      apply hasEntry_ownKind hlast hpending happart.type hvisited hdeclaration helsewhere
      rw [ownShape, if_neg hkind, if_neg hgeneric]
      exact Or.inr rfl

theorem exists_declaration_of_checkRoot (h : context.checkRoot type = .ok ()) :
    ∃ declaration, context.snapshot.declaration? type = some declaration := by
  cases hdeclaration : context.snapshot.declaration? type with
  | none => simp [checkRoot, hdeclaration] at h
  | some declaration => exact ⟨declaration, rfl⟩

/-- Legible types that can be reached are told apart by their identities. -/
theorem isAlone_of_isCanonical (hsnapshot : context.snapshot.isLegible scope = true)
    (hroots : ∀ root ∈ roots, root.isLegible scope = true) (htype : type.IsCanonical scope) : context.IsAlone roots type :=
  fun _ hother hidentity => (hother.isCanonical hsnapshot hroots).eq_of_identity_eq htype hidentity

theorem isToldApart_of_isLegible (hsnapshot : context.snapshot.isLegible scope = true)
    (hroots : ∀ root ∈ roots, root.isLegible scope = true) (hroot : root ∈ roots) : context.IsToldApart roots root where
  type := isAlone_of_isCanonical hsnapshot hroots (TypeRef.isCanonical_normalize (hroots root hroot))
  definition definition hdefinition := by
    obtain ⟨declaration, hgeneric, rfl⟩ := Option.map_eq_some_iff.mp hdefinition
    obtain ⟨hdeclaration, hgeneric⟩ := Option.filter_eq_some_iff.mp hgeneric
    apply isAlone_of_isCanonical hsnapshot hroots
    exact ⟨Snapshot.isLegible_definition hsnapshot (TypeRef.isLegible_normalize (hroots root hroot)) hdeclaration hgeneric,
      Declaration.isTupleFree_definition declaration⟩

/-- In the model of a collection that succeeds, every root has the entries it calls for that is not served elsewhere and is told apart from the rest of the closure; and so has every such root of legible roots in a legible snapshot. -/
theorem isEntered_of_collects (h : context.Collects roots (.ok model)) :
    (∀ root ∈ roots, ¬context.ServedElsewhere root.normalize → context.IsToldApart roots root →
        context.IsEntered model root.normalize) ∧
      ∀ scope, context.snapshot.isLegible scope = true → (∀ root ∈ roots, root.isLegible scope = true) →
        ∀ root ∈ roots, ¬context.ServedElsewhere root.normalize → context.IsEntered model root.normalize := by
  obtain ⟨last, hlast, hpending, hvisited, rfl⟩ := Collection.exists_tracks_of_collects h
  have hentered : ∀ root ∈ roots, ¬context.ServedElsewhere root.normalize → context.IsToldApart roots root →
      context.IsEntered last.model root.normalize := by
    intro root hroot helsewhere happart
    obtain ⟨declaration, hdeclaration⟩ := exists_declaration_of_checkRoot (checked_of_collects h root hroot)
    exact isEntered_of_tracks hlast hpending (hvisited root hroot) hdeclaration helsewhere happart
  refine ⟨hentered, ?_⟩
  intro scope hsnapshot hroots root hroot helsewhere
  exact hentered root hroot helsewhere (isToldApart_of_isLegible hsnapshot hroots hroot)

theorem isEntered_box_plain :
    ∃ model, boxContext.Collects [boxType, plainType] (.ok model) ∧
      ∀ root ∈ [boxType, plainType], boxContext.IsEntered model root.normalize := by
  have hlegible : ∀ root ∈ [boxType, plainType], root.isLegible ["T"] = true := by decide +kernel
  have helsewhere : ∀ root ∈ [boxType, plainType], ¬boxContext.ServedElsewhere root.normalize := by decide +kernel
  have hsome : ((boxContext.collect .never 40 [boxType, plainType]).bind Except.toOption).isSome = true := by decide +kernel
  obtain ⟨model, hmodel⟩ := Option.isSome_iff_exists.mp hsome
  have hcollects : boxContext.Collects [boxType, plainType] (.ok model) := ⟨40, eq_ok_of_toOption hmodel⟩
  refine ⟨model, hcollects, ?_⟩
  intro root hroot
  exact (isEntered_of_collects hcollects).2 _ isLegible_boxContext hlegible root hroot (helsewhere root hroot)

def jarDeclaration : Declaration where
  name := "Demo.Jar"
  namespaceName := some "Demo"
  parameters := [{ name := "T" }]
  attributes := [.serializableObject true]
  properties := [{ name := "Value", type := .named "T" [] }]

/-- A declared type with the name of a type parameter. -/
def namesakeDeclaration : Declaration where
  name := "T"
  attributes := [.serializableObject true]

def jarContext : Context where
  snapshot := ⟨[jarDeclaration.bindParameters ["T"], namesakeDeclaration]⟩
  options := {}

def jarType : TypeRef := .named "Demo.Jar" [.named "int" []]

def namesakeType : TypeRef := .named "T" []

theorem ofDeclarations_jarContext : Snapshot.ofDeclarations [jarDeclaration, namesakeDeclaration] = .ok jarContext.snapshot := by
  rw [Snapshot.ofDeclarations_of_sorted (by decide +kernel)]
  rfl

theorem not_isEntered_of_find? {model : Model} (h : model.objects.find? "T" = none) : ¬jarContext.IsEntered model namesakeType := by
  have hdeclaration : jarContext.snapshot.declaration? namesakeType = some namesakeDeclaration := by decide +kernel
  intro hentered
  cases hentered with
  | enumeration hdeclaration' hkind =>
    rw [hdeclaration] at hdeclaration'
    rw [← Option.some.inj hdeclaration'] at hkind
    simp [namesakeDeclaration] at hkind
  | plain hdeclaration' hkind hplain hentry =>
    rw [hdeclaration] at hdeclaration'
    rw [← Option.some.inj hdeclaration'] at hentry
    obtain ⟨entry, hentry, -⟩ := hentry
    have hkey : (⟨namesakeDeclaration.ownKind, namesakeType.identity.text⟩ : EntryKey) = ⟨.object, "T"⟩ := by decide +kernel
    have hnone : model.find? ⟨.object, "T"⟩ = none := congrArg (Option.map Entry.object) h
    rw [hkey, hnone] at hentry
    simp at hentry
  | generic hdeclaration' hkind hgeneric =>
    rw [hdeclaration] at hdeclaration'
    rw [← Option.some.inj hdeclaration'] at hgeneric
    simp [namesakeDeclaration, Declaration.isGeneric] at hgeneric

/-- The parameter of the jar comes before the type of its name, which is then passed over; in the other order it is entered. -/
theorem not_isEntered_namesake :
    Snapshot.ofDeclarations [jarDeclaration, namesakeDeclaration] = .ok jarContext.snapshot ∧
      jarContext.snapshot.resolveType "Demo.Jar<int>" = .ok jarType ∧ jarContext.snapshot.resolveType "T" = .ok namesakeType ∧
      ¬jarContext.ServedElsewhere namesakeType ∧
      (∃ model, jarContext.collect .never 20 [jarType, namesakeType] = some (.ok model) ∧
        ¬jarContext.IsEntered model namesakeType) ∧
      ∃ model, jarContext.collect .never 20 [namesakeType, jarType] = some (.ok model) ∧
        (model.objects.find? "T").isSome = true := by
  have hlost : (((jarContext.collect .never 20 [jarType, namesakeType]).bind Except.toOption).map fun model =>
      model.objects.find? "T") = some none := by decide +kernel
  have hkept : (((jarContext.collect .never 20 [namesakeType, jarType]).bind Except.toOption).map fun model =>
      (model.objects.find? "T").isSome) = some true := by decide +kernel
  obtain ⟨model, hmodel, hnone⟩ := Option.map_eq_some_iff.mp hlost
  obtain ⟨model', hmodel', hsome⟩ := Option.map_eq_some_iff.mp hkept
  exact ⟨ofDeclarations_jarContext, by decide +kernel, by decide +kernel, by decide +kernel,
    ⟨model, eq_ok_of_toOption hmodel, not_isEntered_of_find? hnone⟩, model', eq_ok_of_toOption hmodel', hsome⟩

end Context

end SchemaClosure
