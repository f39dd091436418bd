import SchemaClosure.Proofs.Closure.RootEntries
import SchemaClosure.Proofs.TypeRef.Subterm

/-!
The types that a model covers: they have an entry in it, or their codec is supplied from elsewhere. A type that can be reached is covered, unless it is an optional value that needs no codec of its own. An instance of a union base leads to its definition and so to the declared cases, but not to the cases with its own arguments filled in; these are covered only where something else leads to them.
-/

namespace SchemaClosure

namespace TypeRef

variable {name : String} {arguments arguments' : List TypeRef}

/-- The signature of a named type depends on its name and the number of its arguments only. -/
theorem unboundSignature_congr (h : arguments.length = arguments'.length) :
    (named name arguments).unboundSignature = (named name arguments').unboundSignature := by
  cases arguments with
  | nil => rw [List.length_eq_zero_iff.mp h.symm]
  | cons first rest =>
    cases arguments' with
    | nil => simp at h
    | cons first' rest' =>
      have hlength : rest.length = rest'.length := Nat.succ.inj h
      simp only [unboundSignature, normalize, normalizeAll, normalizeAll_eq_map, List.length_map, hlength]

theorem isNullable_congr (h : arguments.length = arguments'.length) :
    (named name arguments).isNullable = (named name arguments').isNullable := by
  match arguments, arguments', h with
  | [], [], _ => rfl
  | [_], [_], _ =>
    simp only [isNullable, nullableInner?]
    split <;> rfl
  | _ :: _ :: _, _ :: _ :: _, _ => rfl

end TypeRef

namespace Context

/-- A type that needs no entry: a leaf, a type parameter, or a type whose codec the options or its declaration place outside. -/
inductive IsSupplied (context : Context) (type : TypeRef) : Prop where
  | leaf (h : Catalog.isLeaf type.identity.text = true) : IsSupplied context type
  | ignored (h : context.options.ignoredTypeNames.contains type.identity.text = true) : IsSupplied context type
  | customCodec (h : (context.options.customCodec? type.identity.text).isSome = true) : IsSupplied context type
  | formatter {declaration : Declaration} (hdeclaration : context.snapshot.declaration? type = some declaration)
      (h : declaration.attributes.formatter?.isSome = true) : IsSupplied context type
  | external {declaration : Declaration} (hdeclaration : context.snapshot.declaration? type = some declaration)
      (h : declaration.isExternal = true) : IsSupplied context type
  | parameter (h : type.isParameter = true) : IsSupplied context type

theorem isSupplied_iff {context : Context} {type : TypeRef} :
    context.IsSupplied type ↔
      Catalog.isLeaf type.identity.text = true ∨ context.options.ignoredTypeNames.contains type.identity.text = true ∨
        (context.options.customCodec? type.identity.text).isSome = true ∨
        (∃ declaration ∈ context.snapshot.declaration? type,
          declaration.attributes.formatter?.isSome = true ∨ declaration.isExternal = true) ∨
        type.isParameter = true := by
  constructor
  · rintro (h | h | h | ⟨hdeclaration, h⟩ | ⟨hdeclaration, h⟩ | h)
    · exact Or.inl h
    · exact Or.inr (Or.inl h)
    · exact Or.inr (Or.inr (Or.inl h))
    · exact Or.inr (Or.inr (Or.inr (Or.inl ⟨_, hdeclaration, Or.inl h⟩)))
    · exact Or.inr (Or.inr (Or.inr (Or.inl ⟨_, hdeclaration, Or.inr h⟩)))
    · exact Or.inr (Or.inr (Or.inr (Or.inr h)))
  · rintro (h | h | h | ⟨declaration, hdeclaration, h | h⟩ | h)
    · exact .leaf h
    · exact .ignored h
    · exact .customCodec h
    · exact .formatter hdeclaration h
    · exact .external hdeclaration h
    · exact .parameter h

instance (context : Context) (type : TypeRef) : Decidable (context.IsSupplied type) := decidable_of_iff _ isSupplied_iff.symm

/-- The model has an entry for the type, or the type needs none. -/
def IsCovered (context : Context) (model : Model) (type : TypeRef) : Prop := (∃ kind, model.HasEntry kind type) ∨ context.IsSupplied type

/-- An optional value of a leaf, or of a class or an interface, which has the codec of the value. -/
def IsBareOptional (context : Context) (type : TypeRef) : Prop :=
  ∃ inner, type.nullableInner? = some inner ∧
    (Catalog.isLeaf inner.identity.text || (context.snapshot.declaration? inner).any (·.kind.isReference)) = true

/-- A container that is entered with a look-up. -/
def IsCompanion (context : Context) (roots : List TypeRef) (type : TypeRef) : Prop :=
  ∃ lookup template, context.Reachable roots lookup ∧ context.classify lookup = .ok (.container template) ∧
    lookup.unboundSignature = Catalog.lookupSignature ∧ type ∈ companionsOf lookup ∧
    (Catalog.containerTemplate? type.unboundSignature).isSome = true

variable {context : Context} {scope : List String} {roots : List TypeRef} {model : Model} {type : TypeRef} {declaration : Declaration}
  {shape : Shape}

theorem isSupplied_of_served (h : context.classify type = .ok .served) : context.IsSupplied type := by
  unfold classify at h
  simp only at h
  split at h
  · rename_i hterminal
    rw [Options.isTerminal, Bool.or_eq_true] at hterminal
    exact hterminal.elim .leaf .ignored
  · split at h
    · split at h <;> simp at h
    · split at h
      · rename_i hserved
        rw [Bool.or_eq_true] at hserved
        exact hserved.elim .customCodec .parameter
      · split at h
        · simp at h
        · rcases classifyNamed_cases h with ⟨template, -, -, hcontainer⟩ | ⟨-, declaration, hdeclaration, hdeclared⟩
          · simp at hcontainer
          · rcases classifyDeclared_eq_ok hdeclared with ⟨hformatter | ⟨-, hexternal⟩, -⟩ | hown
            · exact .formatter hdeclaration hformatter
            · exact .external hdeclaration hexternal
            · unfold ownShape at hown
              split_ifs at hown

theorem Yields.identity_cases {entry : Entry} (h : context.Yields type entry) :
    entry.identity = type.identity ∨ ∃ companion template, context.classify type = .ok (.container template) ∧
      type.unboundSignature = Catalog.lookupSignature ∧ companion ∈ companionsOf type ∧
      (Catalog.containerTemplate? companion.unboundSignature).isSome = true ∧ entry.identity = companion.identity := by
  cases h with
  | object hshape hobject hschema => exact Or.inl (identity_of_resolveObject hschema)
  | union hshape hunion hschema => exact Or.inl (identity_of_resolveUnion hschema)
  | enumeration hshape => exact Or.inl rfl
  | generic hshape hschema => exact Or.inl (identity_of_ownGeneric? hschema)
  | companion hshape hlookup hmem htemplate =>
    exact Or.inr ⟨_, _, hshape, hlookup, hmem, by rw [htemplate]; rfl, rfl⟩

/-- The shape of an optional value, unless its codec is supplied. -/
theorem classify_of_nullableInner? {inner : TypeRef} (hinner : type.nullableInner? = some inner) (hshape : context.classify type = .ok shape) :
    shape = .served ∨ shape = .nullable inner := by
  rcases classify_cases hshape with hserved | ⟨element, rank, template, harray, -⟩ | ⟨inner', hinner', hnullable⟩ | ⟨hnone, -⟩
  · exact Or.inl hserved
  · rw [harray] at hinner
    simp [TypeRef.nullableInner?] at hinner
  · rw [hinner] at hinner'
    rw [hnullable, Option.some.inj hinner']
    exact Or.inr rfl
  · rw [hinner] at hnone
    simp at hnone

/-- A type without a declaration, a container or a generic entry to its shape yields nothing. -/
theorem not_yields_of_plain
    (h : ∀ shape, context.classify type = .ok shape →
      shape.declaration? = none ∧ (∀ template, shape ≠ .container template) ∧ context.ownGeneric? type shape = none)
    {entry : Entry} : ¬context.Yields type entry := by
  intro hyields
  cases hyields with
  | object hshape hobject hschema =>
    have hnone := (h _ hshape).1
    simp [Shape.declaration?_of_object? hobject] at hnone
  | union hshape hunion hschema =>
    have hnone := (h _ hshape).1
    simp [Shape.declaration?_of_union? hunion] at hnone
  | enumeration hshape =>
    have hnone := (h _ hshape).1
    simp [Shape.declaration?] at hnone
  | generic hshape hschema =>
    rw [(h _ hshape).2.2] at hschema
    simp at hschema
  | companion hshape hlookup hmem htemplate => exact (h _ hshape).2.1 _ rfl

theorem not_yields_of_served (hserved : context.classify type = .ok .served) {entry : Entry} : ¬context.Yields type entry := by
  apply not_yields_of_plain
  intro shape hshape
  obtain rfl := Except.ok.inj (hserved.symm.trans hshape)
  exact ⟨rfl, by simp, rfl⟩

theorem not_yields_of_isBareOptional (hbare : context.IsBareOptional type) {entry : Entry} : ¬context.Yields type entry := by
  apply not_yields_of_plain
  intro shape hshape
  obtain ⟨inner, hinner, hplain⟩ := hbare
  rcases classify_of_nullableInner? hinner hshape with rfl | rfl
  · exact ⟨rfl, by simp, rfl⟩
  · refine ⟨rfl, by simp, ?_⟩
    rw [ownGeneric?, if_pos hplain]

/-- A type that resolves yields an entry of its own, unless it needs none. -/
theorem exists_yields_of_serves (hserves : context.Serves type) (hsupplied : ¬context.IsSupplied type)
    (hbare : ¬context.IsBareOptional type) : ∃ entry, context.Yields type entry ∧ entry.identity = type.identity := by
  obtain ⟨limit, resolution, hresolve⟩ := hserves
  obtain ⟨shape, hshape, hsteps⟩ := classify_of_resolve hresolve
  cases shape with
  | served => exact absurd (isSupplied_of_served hshape) hsupplied
  | array element template => exact ⟨_, .generic hshape rfl, rfl⟩
  | nullable inner =>
    have hneeds : ¬(Catalog.isLeaf inner.identity.text || (context.snapshot.declaration? inner).any (·.kind.isReference)) = true :=
      fun hplain => hbare ⟨inner, nullableInner?_of_classify hshape, hplain⟩
    exact ⟨_, .generic hshape (if_neg hneeds), rfl⟩
  | container template => exact ⟨_, .generic hshape rfl, rfl⟩
  | enumeration declaration => exact ⟨_, .enumeration hshape, rfl⟩
  | definition declaration => exact ⟨_, .generic hshape rfl, rfl⟩
  | instantiation declaration => exact ⟨_, .generic hshape rfl, rfl⟩
  | union declaration =>
    obtain ⟨schema, edges, hschema, -⟩ := unionSteps_eq_ok (Option.some.inj hsteps)
    exact ⟨_, .union hshape rfl hschema, identity_of_resolveUnion hschema⟩
  | object declaration =>
    obtain ⟨schema, edges, hschema, -⟩ := objectSteps_eq_ok hsteps
    exact ⟨_, .object hshape rfl hschema, identity_of_resolveObject hschema⟩

theorem IsModelOf.hasEntry (h : context.IsModelOf roots model) {reached : TypeRef} (hreached : context.Reachable roots reached)
    {entry : Entry} (hyields : context.Yields reached entry) (hidentity : entry.identity = type.identity) :
    model.HasEntry entry.kind type := by
  obtain ⟨old, hold, hagrees⟩ := h.yields hreached hyields
  have hsame : old.identity = type.identity := (Entry.identity_eq_of_key_eq (Entry.key_eq_of_agrees hagrees)).trans hidentity
  rw [Entry.key, hidentity] at hold
  exact ⟨old, hold, hsame⟩

/-- A type with an entry can be reached and yields one, or it is the companion of a look-up. -/
theorem IsModelOf.exists_yields_of_hasEntry (h : context.IsModelOf roots model) (hsnapshot : context.snapshot.isLegible scope = true)
    (hroots : ∀ root ∈ roots, root.isLegible scope = true) (htype : type.IsCanonical scope) {kind : EntryKind}
    (hentry : model.HasEntry kind type) :
    (context.Reachable roots type ∧ ∃ entry, context.Yields type entry) ∨ context.IsCompanion roots type := by
  obtain ⟨entry, hheld, hidentity⟩ := hentry
  obtain ⟨-, reached, hreached, hyields⟩ := h.held hheld
  have hcanonical := hreached.isCanonical hsnapshot hroots
  rcases hyields.identity_cases with hown | ⟨companion, template, hshape, hlookup, hmem, htemplate, hcompanion⟩
  · obtain rfl : reached = type := hcanonical.eq_of_identity_eq htype (hown.symm.trans hidentity)
    exact Or.inl ⟨hreached, entry, hyields⟩
  · obtain rfl : companion = type :=
      (isCanonical_companion hcanonical hmem).eq_of_identity_eq htype (hcompanion.symm.trans hidentity)
    exact Or.inr ⟨reached, template, hreached, hshape, hlookup, hmem, htemplate⟩

/-- What a model covers: what needs no entry, what can be reached, and the companions of look-ups. -/
theorem isCovered_iff (hsnapshot : context.snapshot.isLegible scope = true) (hroots : ∀ root ∈ roots, root.isLegible scope = true)
    (h : context.Collects roots (.ok model)) (htype : type.IsCanonical scope) :
    context.IsCovered model type ↔
      context.IsSupplied type ∨ (context.Reachable roots type ∧ ¬context.IsBareOptional type) ∨ context.IsCompanion roots type := by
  have hmodel := isModelOf_of_collects hsnapshot hroots h
  constructor
  · rintro (⟨kind, hentry⟩ | hsupplied)
    · rcases hmodel.exists_yields_of_hasEntry hsnapshot hroots htype hentry with ⟨hreached, entry, hyields⟩ | hcompanion
      · exact Or.inr (Or.inl ⟨hreached, fun hbare => not_yields_of_isBareOptional hbare hyields⟩)
      · exact Or.inr (Or.inr hcompanion)
    · exact Or.inl hsupplied
  · rintro (hsupplied | ⟨hreached, hbare⟩ | ⟨lookup, template, hreached, hshape, hlookup, hmem, htemplate⟩)
    · exact Or.inr hsupplied
    · by_cases hsupplied : context.IsSupplied type
      · exact Or.inr hsupplied
      · obtain ⟨entry, hyields, hidentity⟩ := exists_yields_of_serves (serves_of_collects hsnapshot hroots h hreached) hsupplied hbare
        exact Or.inl ⟨_, hmodel.hasEntry hreached hyields hidentity⟩
    · obtain ⟨companionTemplate, htemplate⟩ := Option.isSome_iff_exists.mp htemplate
      exact Or.inl ⟨_, hmodel.hasEntry hreached (.companion hshape hlookup hmem htemplate) rfl⟩

/-- A declared subtype of a union base with the arguments of an instance filled in. -/
def caseInstance (declaration : Declaration) (type subtype : TypeRef) : TypeRef :=
  (subtype.substitute (declaration.bindings type)).normalize

/-- A type that is taken for an instance is neither optional nor a container. -/
theorem not_container_of_instantiation (hshape : context.classify type = .ok (.instantiation declaration)) :
    type.nullableInner? = none ∧ (type.isGeneric = true → Catalog.containerTemplate? type.unboundSignature = none) := by
  rcases classify_cases hshape with hserved | ⟨_, _, _, -, harray⟩ | ⟨inner, -, hnullable⟩ | ⟨hnone, hnamed⟩
  · simp at hserved
  · simp at harray
  · simp at hnullable
  · rcases classifyNamed_cases hnamed with ⟨template, -, -, hcontainer⟩ | ⟨hplain, -⟩
    · simp at hcontainer
    · exact ⟨hnone, hplain⟩

theorem isCanonical_caseInstance (hsnapshot : context.snapshot.isLegible scope = true) (htype : type.IsCanonical scope)
    (hshape : context.classify type = .ok (.instantiation declaration)) {case : Int32 × TypeRef}
    (hkept : declaration.attributes.unions.lookup case.1 = some case.2) : (caseInstance declaration type case.2).IsCanonical scope := by
  obtain ⟨hdeclaration, -⟩ := declaration?_of_classify hshape rfl
  apply TypeRef.isCanonical_normalize
  exact TypeRef.isLegible_substitute
    (fun binding hbinding => Declaration.isLegible_bindings (fun _ => TypeRef.isLegible_of_mem_arguments htype.isLegible) hbinding)
    (Declaration.isLegible_of_mem_mentionedTypes (Snapshot.isLegible_declaration? hsnapshot hdeclaration)
      (Declaration.unionCase_mem_mentionedTypes (mem_of_lookup_eq_some hkept)))

/-- An entry for an instance tells that the instance can be reached. -/
theorem reachable_of_hasEntry (hsnapshot : context.snapshot.isLegible scope = true) (hroots : ∀ root ∈ roots, root.isLegible scope = true)
    (hmodel : context.IsModelOf roots model) (htype : type.IsCanonical scope) (hentry : model.HasEntry .generic type)
    (hshape : context.classify type = .ok (.instantiation declaration)) : context.Reachable roots type := by
  rcases hmodel.exists_yields_of_hasEntry hsnapshot hroots htype hentry with ⟨hreached, -⟩ | ⟨lookup, template, -, -, -, hmem, htemplate⟩
  · exact hreached
  · rw [(not_container_of_instantiation hshape).2 (isGeneric_companion hmem)] at htemplate
    simp at htemplate

/-- The definition of an instance that fits it is a definition to the collection as well, unless its codec is supplied. -/
theorem classify_definition (hshape : context.classify type = .ok (.instantiation declaration))
    (harity : type.arguments.length = declaration.parameters.length) (hserves : context.Serves declaration.definition)
    (hsupplied : ¬context.IsSupplied declaration.definition) :
    context.classify declaration.definition = .ok (.definition declaration) := by
  obtain ⟨hdeclaration, -⟩ := declaration?_of_classify hshape rfl
  obtain ⟨hkind, hgeneric, -⟩ := suits_of_classify hshape
  obtain ⟨hnone, hplain⟩ := not_container_of_instantiation hshape
  have htype := Snapshot.eq_named_of_declaration? hdeclaration
  have hlength : declaration.definition.arguments.length = type.arguments.length := by
    rw [Declaration.definition, TypeRef.arguments, List.length_map, harity]
  have helsewhere : ¬context.ServedElsewhere declaration.definition := by
    intro helsewhere
    cases helsewhere with
    | leaf h => exact hsupplied (.leaf h)
    | ignored h => exact hsupplied (.ignored h)
    | customCodec h => exact hsupplied (.customCodec h)
    | formatter hdeclaration h => exact hsupplied (.formatter hdeclaration h)
    | external hdeclaration hplain h => exact hsupplied (.external hdeclaration h)
    | container _ h =>
      have hsignature : declaration.definition.unboundSignature = type.unboundSignature :=
        (TypeRef.unboundSignature_congr hlength).trans (congrArg TypeRef.unboundSignature htype.symm)
      have harguments : type.isGeneric = true := by
        rw [TypeRef.isGeneric, Bool.not_eq_true', List.isEmpty_eq_false_iff, ← List.length_pos_iff, harity, List.length_pos_iff]
        simpa [Declaration.isGeneric] using hgeneric
      rw [hsignature, hplain harguments] at h
      simp at h
    | nullable h =>
      have hnullable : declaration.definition.isNullable = type.isNullable :=
        (TypeRef.isNullable_congr hlength).trans (congrArg TypeRef.isNullable htype.symm)
      rw [hnullable, TypeRef.isNullable, hnone] at h
      simp at h
  rw [(exists_steps_of_serves hserves (declaration?_definition hdeclaration) helsewhere).1,
    ownShape_definition hdeclaration hkind hgeneric]

/-- **The cases of an instance of a union base.** A case with the arguments filled in is covered if it is supplied, or something else leads to it. That is so for a case that is a type parameter, which is an argument then, and for one without type parameters; and the declared cases themselves are covered. -/
theorem isCovered_caseInstance_iff (hsnapshot : context.snapshot.isLegible scope = true)
    (hroots : ∀ root ∈ roots, root.isLegible scope = true) (h : context.Collects roots (.ok model)) (htype : type.IsCanonical scope)
    (hentry : model.HasEntry .generic type) (hshape : context.classify type = .ok (.instantiation declaration))
    (hbase : declaration.isPolymorphicBase = true) (harity : type.arguments.length = declaration.parameters.length)
    {case : Int32 × TypeRef} (hkept : declaration.attributes.unions.lookup case.1 = some case.2) :
    (context.IsCovered model (caseInstance declaration type case.2) ↔
        context.IsSupplied (caseInstance declaration type case.2) ∨
          (context.Reachable roots (caseInstance declaration type case.2) ∧
            ¬context.IsBareOptional (caseInstance declaration type case.2)) ∨
          context.IsCompanion roots (caseInstance declaration type case.2)) ∧
      (case.2.isParameter = true ∨ case.2.isOpen = false ∧ ¬context.IsSupplied declaration.definition →
        ¬context.IsBareOptional (caseInstance declaration type case.2) → context.IsCovered model (caseInstance declaration type case.2)) ∧
      (¬context.IsSupplied declaration.definition → ¬context.IsBareOptional case.2.normalize →
        context.IsCovered model case.2.normalize) := by
  have hmodel := isModelOf_of_collects hsnapshot hroots h
  have hreached := reachable_of_hasEntry hsnapshot hroots hmodel htype hentry hshape
  have hdefinition : context.Reachable roots declaration.definition := by
    have hreached : context.Reachable roots declaration.definition.normalize := .edge hreached (Discovers.definition hshape).leadsTo
    rwa [TypeRef.normalize_eq_self (Declaration.isTupleFree_definition declaration)] at hreached
  -- the definition is a union, which leads to the declared cases
  have hdeclared (hsupplied : ¬context.IsSupplied declaration.definition) : context.Reachable roots case.2.normalize :=
    .edge hdefinition (Discovers.unionCase
      (classify_definition hshape harity (serves_of_collects hsnapshot hroots h hdefinition) hsupplied) (if_pos hbase) hkept).leadsTo
  have hcovers {other : TypeRef} (hother : context.Reachable roots other) (hbare : ¬context.IsBareOptional other) :
      context.IsCovered model other :=
    (isCovered_iff hsnapshot hroots h (hother.isCanonical hsnapshot hroots)).mpr (Or.inr (Or.inl ⟨hother, hbare⟩))
  refine ⟨isCovered_iff hsnapshot hroots h (isCanonical_caseInstance hsnapshot htype hshape hkept), ?_,
    fun hsupplied => hcovers (hdeclared hsupplied)⟩
  rintro (hparameter | ⟨hclosed, hsupplied⟩) hbare
  · obtain ⟨discriminator, subtype⟩ := case
    cases subtype with
    | parameter name =>
      rw [caseInstance] at hbare ⊢
      rcases TypeRef.substitute_parameter_cases name with hstays | ⟨binding, hbinding, hput⟩
      · rw [hstays]
        exact Or.inr (.parameter rfl)
      · rw [hput] at hbare ⊢
        exact hcovers (.edge hreached (Discovers.instanceArgument hshape (Declaration.mem_arguments_of_mem_bindings hbinding).2).leadsTo) hbare
    | named name arguments => simp [TypeRef.isParameter] at hparameter
    | array element rank => simp [TypeRef.isParameter] at hparameter
    | tuple elements => simp [TypeRef.isParameter] at hparameter
  · rw [caseInstance, TypeRef.substitute_of_isOpen_eq_false hclosed] at hbare ⊢
    exact hcovers (hdeclared hsupplied) hbare

def circleDeclaration : Declaration where
  name := "Demo.Circle"
  namespaceName := some "Demo"
  parameters := [{ name := "T" }]
  attributes := [.serializableObject true]
  interfaces := [.named "Demo.Figure" [.named "T" []]]

/-- A generic union base with a generic case. -/
def figureDeclaration : Declaration where
  name := "Demo.Figure"
  kind := .interfaceType
  namespaceName := some "Demo"
  parameters := [{ name := "T" }]
  attributes := [.union 0 (.named "Demo.Circle" [.named "T" []])]

def sceneDeclaration : Declaration where
  name := "Demo.Scene"
  namespaceName := some "Demo"
  attributes := [.serializableObject true]
  properties := [{ name := "Outline", type := .named "Demo.Figure" [.named "int" []] }]

def sceneContext : Context where
  snapshot := ⟨[circleDeclaration.bindParameters ["T"], figureDeclaration.bindParameters ["T"], sceneDeclaration]⟩
  options := {}

def sceneType : TypeRef := .named "Demo.Scene" []

def figureType : TypeRef := .named "Demo.Figure" [.named "int" []]

def declaredCircle : TypeRef := .named "Demo.Circle" [.parameter "T"]

theorem ofDeclarations_sceneContext :
    Snapshot.ofDeclarations [circleDeclaration, figureDeclaration, sceneDeclaration] = .ok sceneContext.snapshot := by
  rw [Snapshot.ofDeclarations_of_sorted (by decide +kernel)]
  rfl

theorem classify_figureType :
    sceneContext.classify figureType = .ok (.instantiation (figureDeclaration.bindParameters ["T"])) := by decide +kernel

theorem caseInstance_circle :
    caseInstance (figureDeclaration.bindParameters ["T"]) figureType declaredCircle = .named "Demo.Circle" [.named "int" []] := by
  decide +kernel

theorem exists_model_scene : ∃ model, sceneContext.Collects [sceneType] (.ok model) ∧ model.HasEntry .generic figureType ∧
    ¬sceneContext.IsCovered model (.named "Demo.Circle" [.named "int" []]) := by
  have hheld : ((sceneContext.collect .never 20 [sceneType]).bind Except.toOption).map (fun model =>
      ((model.find? ⟨.generic, "Demo.Figure<int>"⟩).map (·.identity),
        [EntryKind.object, .enumeration, .generic, .union].map fun kind => (model.find? ⟨kind, "Demo.Circle<int>"⟩).isSome)) =
      some (some figureType.identity, [false, false, false, false]) := by decide +kernel
  have htext : (TypeRef.named "Demo.Circle" [.named "int" []]).identity.text = "Demo.Circle<int>" := by decide +kernel
  have hsupplied : ¬sceneContext.IsSupplied (.named "Demo.Circle" [.named "int" []]) := by decide +kernel
  obtain ⟨model, hcollects, hheld⟩ := exists_collects_of_map hheld
  obtain ⟨hfigure, hcircle⟩ := Prod.mk.inj hheld
  obtain ⟨entry, hentry, hidentity⟩ := Option.map_eq_some_iff.mp hfigure
  simp only [List.map_cons, List.map_nil, List.cons.injEq, Option.isSome_eq_false_iff, Option.isNone_iff_eq_none] at hcircle
  obtain ⟨hobject, henumeration, hgeneric, hunion, -⟩ := hcircle
  have hcircle : ∀ kind, model.find? ⟨kind, "Demo.Circle<int>"⟩ = none := by
    intro kind
    cases kind <;> assumption
  refine ⟨model, hcollects, ⟨entry, hentry, hidentity⟩, ?_⟩
  rintro (⟨kind, entry, hentry, -⟩ | hcovered)
  · rw [htext, hcircle kind] at hentry
    simp at hentry
  · exact hsupplied hcovered

/-- The figures of integers are entered, but the circles of integers are not. -/
theorem not_isCovered_circle :
    Snapshot.ofDeclarations [circleDeclaration, figureDeclaration, sceneDeclaration] = .ok sceneContext.snapshot ∧
      ∃ model, sceneContext.Collects [sceneType] (.ok model) ∧ model.HasEntry .generic figureType ∧
        sceneContext.snapshot.declaration? figureType = some (figureDeclaration.bindParameters ["T"]) ∧
        sceneContext.snapshot.isDefinition figureType = false ∧
        (figureDeclaration.bindParameters ["T"]).attributes.unions.lookup 0 = some declaredCircle ∧
        ¬sceneContext.IsCovered model (caseInstance (figureDeclaration.bindParameters ["T"]) figureType declaredCircle) := by
  obtain ⟨model, hmodel, hfigure, hcircle⟩ := exists_model_scene
  refine ⟨ofDeclarations_sceneContext, model, hmodel, hfigure, by decide +kernel, by decide +kernel, by decide +kernel, ?_⟩
  rwa [caseInstance_circle]

/-- The circles of integers cannot be reached, while the declared circles are covered. -/
theorem isCovered_declaredCircle : ∃ model, sceneContext.Collects [sceneType] (.ok model) ∧
    sceneContext.IsCovered model declaredCircle ∧ ¬sceneContext.Reachable [sceneType] (.named "Demo.Circle" [.named "int" []]) := by
  have hlegible : sceneContext.snapshot.isLegible ["T"] = true := by decide +kernel
  have hroots : ∀ root ∈ [sceneType], root.isLegible ["T"] = true := by decide +kernel
  have hfigure : figureType.IsCanonical ["T"] := ⟨by decide +kernel, by decide +kernel⟩
  have hkept : (figureDeclaration.bindParameters ["T"]).attributes.unions.lookup ((0, declaredCircle) : Int32 × TypeRef).1 =
      some ((0, declaredCircle) : Int32 × TypeRef).2 := by decide +kernel
  have hdefinition : ¬sceneContext.IsSupplied (figureDeclaration.bindParameters ["T"]).definition := by decide +kernel
  have hvalue (argument : TypeRef) : ¬sceneContext.IsBareOptional (.named "Demo.Circle" [argument]) := by
    rintro ⟨inner, hinner, -⟩
    simp [TypeRef.nullableInner?, TypeRef.nullableName] at hinner
  obtain ⟨model, hmodel, hentry, hcircle⟩ := exists_model_scene
  obtain ⟨hcovered, -, hdeclared⟩ := isCovered_caseInstance_iff hlegible hroots hmodel hfigure hentry classify_figureType
    (by decide +kernel) (by decide +kernel) hkept
  rw [caseInstance_circle] at hcovered
  exact ⟨model, hmodel, hdeclared hdefinition (hvalue _), fun hreached => hcircle (hcovered.mpr (Or.inr (Or.inl ⟨hreached, hvalue _⟩)))⟩

end Context

end SchemaClosure
