import SchemaClosure.Proofs.Closure.Coverage
import SchemaClosure.Proofs.Closure.Exclusion

namespace SchemaClosure

/-- The containers of the catalog that are value types in the host library; all others are classes and interfaces. -/
def Catalog.valueContainers : List String := [
  "System.ValueTuple", "System.Collections.Generic.KeyValuePair", "System.ArraySegment", "System.Collections.Immutable.ImmutableArray",
  "System.Threading.Tasks.ValueTask"]

namespace Context

/-- The types that are surely reference types. -/
inductive IsReference (context : Context) (type : TypeRef) : Prop where
  | array (harray : type.arrayParts?.isSome = true) : IsReference context type
  | declared {declaration : Declaration} (hdeclaration : context.snapshot.declaration? type = some declaration)
      (hkind : declaration.kind.isReference = true) : IsReference context type
  | container (hgeneric : type.isGeneric = true) (htemplate : (Catalog.containerTemplate? type.unboundSignature).isSome = true)
      (hname : ∀ name, type.name? = some name → name ∉ Catalog.valueContainers) : IsReference context type

/-- A reference type that a closure takes for a value type, as it is neither a leaf nor declared. -/
def IsMistaken (context : Context) (type : TypeRef) : Prop :=
  context.IsReference type ∧ (Catalog.isLeaf type.identity.text || (context.snapshot.declaration? type).any (·.kind.isReference)) = false

/-- A closure comes upon the type and finds no codec for it elsewhere. -/
structure IsMet (context : Context) (roots : List TypeRef) (type : TypeRef) : Prop where
  reachable : context.Reachable roots type
  isLeaf : Catalog.isLeaf type.identity.text = false
  excludes : context.options.excludes type.identity.text = false

variable {context : Context} {scope : List String} {roots : List TypeRef} {model : Model} {type inner : TypeRef}

theorem isBareOptional_iff (hinner : type.nullableInner? = some inner) :
    context.IsBareOptional type ↔
      (Catalog.isLeaf inner.identity.text || (context.snapshot.declaration? inner).any (·.kind.isReference)) = true := by
  simp only [IsBareOptional, hinner, Option.some.injEq, exists_eq_left']

theorem eq_nullable_of_nullableInner? (hinner : type.nullableInner? = some inner) : type = .nullable inner := by
  unfold TypeRef.nullableInner? at hinner
  split at hinner
  · split_ifs at hinner with hname
    rw [hname, Option.some.inj hinner, TypeRef.nullable]
  · simp at hinner

/-- An optional value is taken for one unless it is a leaf or its codec is supplied by the options. -/
theorem classify_eq_nullable_iff (hinner : type.nullableInner? = some inner) :
    context.classify type = .ok (.nullable inner) ↔
      Catalog.isLeaf type.identity.text = false ∧ context.options.excludes type.identity.text = false := by
  obtain rfl := eq_nullable_of_nullableInner? hinner
  have harray : (TypeRef.nullable inner).arrayParts? = none := rfl
  have hparameter : (TypeRef.nullable inner).isParameter = false := rfl
  simp only [classify, Options.isTerminal, Options.excludes, hinner, harray, hparameter, Bool.or_false, Bool.or_eq_false_iff]
  split_ifs with hterminal hcustom
  · rcases Bool.or_eq_true_iff.mp hterminal with hleaf | hignored
    · simp [hleaf]
    · simp [hignored]
  · simp [hcustom]
  · simpa [hcustom] using hterminal

theorem IsMet.classify (h : context.IsMet roots type) (hinner : type.nullableInner? = some inner) :
    context.classify type = .ok (.nullable inner) := (classify_eq_nullable_iff hinner).mpr ⟨h.isLeaf, h.excludes⟩

/-- A model has an entry for an optional value if the closure comes upon it, unless it is one of a leaf, a class or an interface. -/
theorem hasEntry_optional_iff (hsnapshot : context.snapshot.isLegible scope = true)
    (hroots : ∀ root ∈ roots, root.isLegible scope = true) (h : context.Collects roots (.ok model)) (htype : type.IsCanonical scope)
    (hinner : type.nullableInner? = some inner) :
    model.HasEntry .generic type ↔ context.IsMet roots type ∧ ¬context.IsBareOptional type := by
  have hmodel := isModelOf_of_collects hsnapshot hroots h
  constructor
  · intro hentry
    rcases hmodel.exists_yields_of_hasEntry hsnapshot hroots htype hentry with
      ⟨hreached, entry, hyields⟩ | ⟨lookup, -, -, -, -, hmem, -⟩
    · obtain ⟨limit, resolution, hresolve⟩ := serves_of_collects hsnapshot hroots h hreached
      obtain ⟨shape, hshape, -⟩ := classify_of_resolve hresolve
      rcases classify_of_nullableInner? hinner hshape with rfl | rfl
      · exact absurd hyields (not_yields_of_served hshape)
      · obtain ⟨hleaf, hexcludes⟩ := (classify_eq_nullable_iff hinner).mp hshape
        exact ⟨⟨hreached, hleaf, hexcludes⟩, fun hbare => not_yields_of_isBareOptional hbare hyields⟩
    · rw [nullableInner?_companion hmem] at hinner
      simp at hinner
  · rintro ⟨hmet, hbare⟩
    rw [isBareOptional_iff hinner] at hbare
    exact hmodel.hasEntry hmet.reachable (.generic (hmet.classify hinner) (if_neg hbare)) rfl

/-- Without its annotation an optional value is part of the closure. -/
theorem isCovered_inner (hsnapshot : context.snapshot.isLegible scope = true) (hroots : ∀ root ∈ roots, root.isLegible scope = true)
    (h : context.Collects roots (.ok model)) (htype : type.IsCanonical scope) (hinner : type.nullableInner? = some inner)
    (hmet : context.IsMet roots type) :
    context.Reachable roots inner ∧ (¬context.IsBareOptional inner → context.IsCovered model inner) := by
  have hcanonical : inner.IsCanonical scope := htype.of_mem_arguments (mem_arguments_of_nullableInner? hinner)
  have hreached : context.Reachable roots inner.normalize := .edge hmet.reachable (Discovers.optionalValue (hmet.classify hinner)).leadsTo
  rw [hcanonical.normalize_eq] at hreached
  refine ⟨hreached, ?_⟩
  intro hbare
  exact (isCovered_iff hsnapshot hroots h hcanonical).mpr (Or.inr (Or.inl ⟨hreached, hbare⟩))

/-- **Entries of optional values.** No entry of a model comes from an optional leaf, class or interface: their annotation is dropped, and the value is collected as itself. Every other optional value that a closure comes upon has an entry, although it may be one of a reference type. -/
theorem optionalEntries_of_collects (h : context.Collects roots (.ok model)) :
    (∀ key entry, model.find? key = some entry →
        ∃ type, context.Reachable roots type ∧ context.Yields type entry ∧ ¬context.IsBareOptional type) ∧
      ∀ scope, context.snapshot.isLegible scope = true → (∀ root ∈ roots, root.isLegible scope = true) →
        ∀ type inner, type.IsCanonical scope → type.nullableInner? = some inner →
          (model.HasEntry .generic type ↔ context.IsMet roots type ∧ ¬context.IsBareOptional type) ∧
          (context.IsReference inner → (model.HasEntry .generic type ↔ context.IsMet roots type ∧ context.IsMistaken inner)) ∧
          (context.IsMet roots type →
            context.Reachable roots inner ∧ (¬context.IsBareOptional inner → context.IsCovered model inner)) := by
  refine ⟨?_, ?_⟩
  · intro key entry hheld
    obtain ⟨-, type, hreached, hyields⟩ := held_of_collects h hheld
    exact ⟨type, hreached, hyields, fun hbare => not_yields_of_isBareOptional hbare hyields⟩
  · intro scope hsnapshot hroots type inner htype hinner
    have hentry := hasEntry_optional_iff hsnapshot hroots h htype hinner
    refine ⟨hentry, ?_, isCovered_inner hsnapshot hroots h htype hinner⟩
    intro hreference
    rw [hentry, isBareOptional_iff hinner, Bool.not_eq_true, IsMistaken, and_iff_right hreference]

def customerDeclaration : Declaration where
  name := "Demo.Customer"
  namespaceName := some "Demo"
  attributes := [.serializableObject true]

/-- Optional members of three reference types. -/
def orderDeclaration : Declaration where
  name := "Demo.Order"
  namespaceName := some "Demo"
  attributes := [.serializableObject true]
  properties := [
    { name := "Customer", type := .nullable (.named "Demo.Customer" []) },
    { name := "Tags", type := .nullable (.array (.named "Demo.Tag" []) 1) },
    { name := "Lines", type := .nullable (.named "System.Collections.Generic.List" [.named "int" []]) }]

def orderContext : Context where
  snapshot := ⟨[customerDeclaration, orderDeclaration]⟩
  options := {}

def orderType : TypeRef := .named "Demo.Order" []

def customerType : TypeRef := .named "Demo.Customer" []

def tagsType : TypeRef := .array (.named "Demo.Tag" []) 1

def linesType : TypeRef := .named "System.Collections.Generic.List" [.named "int" []]

theorem ofDeclarations_orderContext :
    Snapshot.ofDeclarations [customerDeclaration, orderDeclaration] = .ok orderContext.snapshot := by
  rw [Snapshot.ofDeclarations_of_sorted (by decide +kernel)]
  rfl

theorem exists_model_order : ∃ model, orderContext.Collects [orderType] (.ok model) ∧
    model.HasEntry .generic (.nullable tagsType) ∧ model.HasEntry .generic (.nullable linesType) := by
  have hheld : ((orderContext.collect .never 20 [orderType]).bind Except.toOption).map (fun model =>
      ((model.find? ⟨.generic, (TypeRef.nullable tagsType).identity.text⟩).map (·.identity),
        (model.find? ⟨.generic, (TypeRef.nullable linesType).identity.text⟩).map (·.identity))) =
      some (some (TypeRef.nullable tagsType).identity, some (TypeRef.nullable linesType).identity) := by decide +kernel
  obtain ⟨model, hcollects, hheld⟩ := exists_collects_of_map hheld
  obtain ⟨htags, hlines⟩ := Prod.mk.inj hheld
  exact ⟨model, hcollects, Option.map_eq_some_iff.mp htags, Option.map_eq_some_iff.mp hlines⟩

/-- Arrays and lists are reference types, and yet there are entries for the optional tags and lines. -/
theorem hasEntry_optional_tags :
    Snapshot.ofDeclarations [customerDeclaration, orderDeclaration] = .ok orderContext.snapshot ∧
      orderContext.IsReference tagsType ∧ orderContext.IsReference linesType ∧
      ∃ model, orderContext.Collects [orderType] (.ok model) ∧
        model.HasEntry .generic (.nullable tagsType) ∧ model.HasEntry .generic (.nullable linesType) := by
  refine ⟨ofDeclarations_orderContext, .array rfl, .container rfl (by decide +kernel) ?_, exists_model_order⟩
  intro name hname
  rw [← Option.some.inj hname]
  decide

/-- The tags are taken for a value type. A customer is declared as a class, so that an optional one has no entry. -/
theorem isMistaken_tags :
    ∃ model, orderContext.Collects [orderType] (.ok model) ∧ ¬model.HasEntry .generic (.nullable customerType) ∧
      orderContext.IsMet [orderType] (.nullable tagsType) ∧ orderContext.IsMistaken tagsType ∧
      orderContext.Reachable [orderType] tagsType ∧ orderContext.IsCovered model tagsType := by
  obtain ⟨model, hcollects, htags, -⟩ := exists_model_order
  have hlegible : orderContext.snapshot.isLegible [] = true := by decide +kernel
  have hroots : ∀ root ∈ [orderType], root.isLegible [] = true := by decide +kernel
  have hcustomer : TypeRef.IsCanonical [] (.nullable customerType) := ⟨by decide +kernel, by decide +kernel⟩
  have hplain : orderContext.IsBareOptional (.nullable customerType) := ⟨customerType, rfl, by decide +kernel⟩
  have hoptions := (optionalEntries_of_collects hcollects).2 [] hlegible hroots
  obtain ⟨hentry, -, -⟩ := hoptions (.nullable customerType) customerType hcustomer rfl
  obtain ⟨-, hmistaken, hcovered⟩ := hoptions (.nullable tagsType) tagsType ⟨by decide +kernel, by decide +kernel⟩ rfl
  obtain ⟨hmet, htagged⟩ := (hmistaken (.array rfl)).mp htags
  obtain ⟨hreached, hcovered⟩ := hcovered hmet
  refine ⟨model, hcollects, fun h => (hentry.mp h).2 hplain, hmet, htagged, hreached, hcovered ?_⟩
  rintro ⟨inner, hinner, -⟩
  simp [tagsType, TypeRef.nullableInner?] at hinner

end Context

end SchemaClosure
