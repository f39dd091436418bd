import SchemaClosure.Proofs.Closure.Reachability

/-!
Types that the options take out of a closure: those to ignore and those with a codec written by hand. They have no object, enum or union, however they are reached. A generic entry they may still have: an array is met before its codec is looked for, and the companions of a look-up are entered without a question to the options.
-/

namespace SchemaClosure

/-- Whether the options say that the codec of a type comes from elsewhere. -/
def Options.excludes (options : Options) (signature : String) : Bool :=
  options.ignoredTypeNames.contains signature || (options.customCodec? signature).isSome

namespace Context

variable {context : Context} {roots : List TypeRef} {signature : String} {type : TypeRef}

/-- The ways in which a closure comes upon the text of an excluded type and does not stop. -/
inductive Evades (context : Context) (roots : List TypeRef) (signature : String) : Prop where
  | array {element : TypeRef} {rank : Nat} (htype : context.Reachable roots (.array element rank))
      (hidentity : (TypeRef.array element rank).identity.text = signature) (hterminal : context.options.isTerminal signature = false)
  | companion {lookup companion : TypeRef} {template : String} (htype : context.Reachable roots lookup)
      (hshape : context.classify lookup = .ok (.container template)) (hlookup : lookup.unboundSignature = Catalog.lookupSignature)
      (hmem : companion ∈ companionsOf lookup)
      (htemplate : (Catalog.containerTemplate? companion.unboundSignature).isSome = true)
      (hidentity : companion.identity.text = signature)

theorem isTerminal_of_ignored (h : context.options.ignoredTypeNames.contains signature = true) :
    context.options.isTerminal signature = true := by
  rw [Options.isTerminal, h, Bool.or_true]

/-- An excluded type is served from elsewhere, unless it is an array that is not ignored. -/
theorem classify_of_excludes {shape : Shape} (hexcluded : context.options.excludes type.identity.text = true)
    (hshape : context.classify type = .ok shape) :
    shape = .served ∨ ∃ element rank template, type = .array element rank ∧ shape = .array element template ∧
      context.options.isTerminal type.identity.text = false := by
  unfold classify at hshape
  simp only at hshape
  split at hshape
  · exact Or.inl (Except.ok.inj hshape).symm
  · rename_i hterminal
    have hcustom : (context.options.customCodec? type.identity.text).isSome = true := by
      rw [Options.excludes, Bool.or_eq_true] at hexcluded
      exact hexcluded.resolve_left fun hignored => hterminal (isTerminal_of_ignored hignored)
    split at hshape
    · rename_i element rank harray
      split at hshape
      · rename_i template _
        exact Or.inr ⟨element, rank, template, TypeRef.eq_array_of_arrayParts? harray, (Except.ok.inj hshape).symm,
          eq_false_of_ne_true hterminal⟩
      · simp at hshape
    · rw [hcustom, Bool.true_or, if_pos rfl] at hshape
      exact Or.inl (Except.ok.inj hshape).symm

/-- On its own behalf an excluded type yields nothing but the entry of an array. -/
theorem ownShape_of_excludes {shape : Shape} (hexcluded : context.options.excludes type.identity.text = true)
    (hshape : context.classify type = .ok shape) :
    shape.object? = none ∧ shape.union? = none ∧ (∀ declaration, shape ≠ .enumeration declaration) ∧
      ∀ schema, context.ownGeneric? type shape = some schema →
        ∃ element rank, type = .array element rank ∧ context.options.isTerminal type.identity.text = false := by
  rcases classify_of_excludes hexcluded hshape with rfl | ⟨element, rank, template, htype, rfl, hterminal⟩
  · refine ⟨rfl, rfl, by simp, ?_⟩
    intro schema hschema
    simp [ownGeneric?] at hschema
  · refine ⟨rfl, rfl, by simp, ?_⟩
    intro schema _
    exact ⟨element, rank, htype, hterminal⟩

theorem Yields.kind_of_excludes {entry : Entry} (h : context.Yields type entry)
    (hexcluded : context.options.excludes entry.identity.text = true) : entry.kind = .generic := by
  cases h with
  | object hshape hobject hschema =>
    rw [Entry.identity, identity_of_resolveObject hschema] at hexcluded
    rw [(ownShape_of_excludes hexcluded hshape).1] at hobject
    simp at hobject
  | union hshape hunion hschema =>
    rw [Entry.identity, identity_of_resolveUnion hschema] at hexcluded
    rw [(ownShape_of_excludes hexcluded hshape).2.1] at hunion
    simp at hunion
  | enumeration hshape => exact absurd rfl ((ownShape_of_excludes hexcluded hshape).2.2.1 _)
  | generic hshape hschema => rfl
  | companion hshape hlookup hmem htemplate => rfl

theorem Yields.evades {entry : Entry} (htype : context.Reachable roots type) (h : context.Yields type entry)
    (hexcluded : context.options.excludes entry.identity.text = true) : context.Evades roots entry.identity.text := by
  cases entry with
  | generic schema =>
    cases h with
    | generic hshape hschema =>
      rw [Entry.identity, identity_of_ownGeneric? hschema] at hexcluded ⊢
      obtain ⟨element, rank, rfl, hterminal⟩ := (ownShape_of_excludes hexcluded hshape).2.2.2 _ hschema
      exact .array htype rfl hterminal
    | companion hshape hlookup hmem htemplate => exact .companion htype hshape hlookup hmem (by rw [htemplate]; rfl) rfl
  | object schema => exact absurd (h.kind_of_excludes hexcluded) (by simp [Entry.kind])
  | enumeration schema => exact absurd (h.kind_of_excludes hexcluded) (by simp [Entry.kind])
  | union schema => exact absurd (h.kind_of_excludes hexcluded) (by simp [Entry.kind])

/-- A type that is a way around the exclusion yields the entry. -/
theorem Evades.exists_yields (hserves : ∀ type, context.Reachable roots type → context.Serves type)
    (h : context.Evades roots signature) :
    ∃ type entry, context.Reachable roots type ∧ context.Yields type entry ∧ entry.key = ⟨.generic, signature⟩ := by
  cases h with
  | @array element rank htype hidentity hterminal =>
    obtain ⟨limit, resolution, hresolve⟩ := hserves _ htype
    obtain ⟨shape, hshape, -⟩ := classify_of_resolve hresolve
    have harray : ∃ template, shape = .array element template := by
      unfold classify at hshape
      simp only [hidentity, hterminal, TypeRef.arrayParts?] at hshape
      cases htemplate : Catalog.arrayTemplate? rank with
      | none => simp [htemplate] at hshape
      | some template =>
        simp only [htemplate] at hshape
        exact ⟨template, (Except.ok.inj hshape).symm⟩
    obtain ⟨template, rfl⟩ := harray
    refine ⟨_, _, htype, .generic hshape rfl, ?_⟩
    rw [← hidentity]
    rfl
  | companion htype hshape hlookup hmem htemplate hidentity =>
    obtain ⟨companionTemplate, htemplate⟩ := Option.isSome_iff_exists.mp htemplate
    refine ⟨_, _, htype, .companion hshape hlookup hmem htemplate, ?_⟩
    rw [← hidentity]
    rfl

/-- A collection that succeeds has no object, enum or union for an excluded type. It has a generic entry for one only where a type gets around the exclusion; and wherever one does, as long as types can be told by their texts. -/
theorem find?_of_excludes {model : Model} (h : context.Collects roots (.ok model))
    (hexcluded : context.options.excludes signature = true) :
    (∀ kind, kind ≠ .generic → model.find? ⟨kind, signature⟩ = none) ∧
      ((model.find? ⟨.generic, signature⟩).isSome = true → context.Evades roots signature) ∧
      ∀ scope, context.snapshot.isLegible scope = true → (∀ root ∈ roots, root.isLegible scope = true) →
        context.Evades roots signature → (model.find? ⟨.generic, signature⟩).isSome = true := by
  refine ⟨?_, ?_, ?_⟩
  · intro kind hkind
    cases hheld : model.find? ⟨kind, signature⟩ with
    | none => rfl
    | some entry =>
      obtain ⟨hkey, type, -, hyields⟩ := held_of_collects h hheld
      obtain ⟨rfl, rfl⟩ := EntryKey.mk.inj hkey
      exact absurd (hyields.kind_of_excludes hexcluded) hkind
  · intro hsome
    obtain ⟨entry, hheld⟩ := Option.isSome_iff_exists.mp hsome
    obtain ⟨hkey, type, htype, hyields⟩ := held_of_collects h hheld
    obtain ⟨-, rfl⟩ := EntryKey.mk.inj hkey
    exact hyields.evades htype hexcluded
  · intro scope hsnapshot hroots hevades
    obtain ⟨type, entry, htype, hyields, hkey⟩ := hevades.exists_yields fun _ hreached => serves_of_collects hsnapshot hroots h hreached
    obtain ⟨old, hold, -⟩ := (isModelOf_of_collects hsnapshot hroots h).yields htype hyields
    rw [← hkey, hold]
    rfl

def indexDeclaration : Declaration where
  name := "Demo.Index"
  namespaceName := some "Demo"
  attributes := [.serializableObject true]
  properties := [
    { name := "ByNumber", type := .named "System.Linq.ILookup" [.named "int" [], .named "string" []] },
    { name := "Tags", type := .array (.named "Demo.Tag" []) 1 }]

/-- Groupings are ignored, and tags have a codec of their own. -/
def indexContext : Context where
  snapshot := ⟨[indexDeclaration]⟩
  options := ((({} : Options).ignoreType "System.Linq.IGrouping<int, string>").addFormatter "Demo.Tag[]" "Codecs.TagList")

def indexType : TypeRef := .named "Demo.Index" []

theorem ofDeclarations_indexContext : Snapshot.ofDeclarations [indexDeclaration] = .ok indexContext.snapshot := by
  rw [Snapshot.ofDeclarations, List.mergeSort_singleton]
  rfl

theorem exists_model_index :
    ∃ model, indexContext.collect .never 20 [indexType] = some (.ok model) ∧
      (model.find? ⟨.generic, "System.Linq.IGrouping<int, string>"⟩).isSome = true ∧
      (model.find? ⟨.generic, "Demo.Tag[]"⟩).isSome = true := by
  have hheld : ((indexContext.collect .never 20 [indexType]).bind Except.toOption).map (fun model =>
      ((model.find? ⟨.generic, "System.Linq.IGrouping<int, string>"⟩).isSome, (model.find? ⟨.generic, "Demo.Tag[]"⟩).isSome)) =
        some (true, true) := by decide +kernel
  obtain ⟨model, hmodel, hheld⟩ := Option.map_eq_some_iff.mp hheld
  obtain ⟨hgrouping, htags⟩ := Prod.mk.inj hheld
  exact ⟨model, eq_ok_of_toOption hmodel, hgrouping, htags⟩

/-- Ignored groupings are entered for their look-up, and a catalogued array is entered like any other. -/
theorem isSome_find?_excluded :
    Snapshot.ofDeclarations [indexDeclaration] = .ok indexContext.snapshot ∧
      indexContext.options.ignoredTypeNames.contains "System.Linq.IGrouping<int, string>" = true ∧
      (indexContext.options.customCodec? "Demo.Tag[]").isSome = true ∧
      ∃ model, indexContext.Collects [indexType] (.ok model) ∧
        (model.generics.find? "System.Linq.IGrouping<int, string>").isSome = true ∧
        (model.generics.find? "Demo.Tag[]").isSome = true := by
  obtain ⟨model, hmodel, hgrouping, htags⟩ := exists_model_index
  refine ⟨ofDeclarations_indexContext, by decide +kernel, by decide +kernel, model, ⟨20, hmodel⟩, ?_, ?_⟩
  · exact Option.isSome_map.symm.trans hgrouping
  · exact Option.isSome_map.symm.trans htags

/-- The index leads to the groupings by its look-up, and has no object, enum or union for them. -/
theorem evades_index_groupings :
    ∃ model, indexContext.Collects [indexType] (.ok model) ∧
      indexContext.options.excludes "System.Linq.IGrouping<int, string>" = true ∧
      (∀ kind, kind ≠ .generic → model.find? ⟨kind, "System.Linq.IGrouping<int, string>"⟩ = none) ∧
      indexContext.Evades [indexType] "System.Linq.IGrouping<int, string>" ∧
      (model.find? ⟨.generic, "System.Linq.IGrouping<int, string>"⟩).isSome = true := by
  obtain ⟨model, hmodel, hgrouping, -⟩ := exists_model_index
  have hcollects : indexContext.Collects [indexType] (.ok model) := ⟨20, hmodel⟩
  have hexcluded : indexContext.options.excludes "System.Linq.IGrouping<int, string>" = true := by decide +kernel
  have hlegible : indexContext.snapshot.isLegible [] = true := by decide +kernel
  have hroots : ∀ root ∈ [indexType], root.isLegible [] = true := by decide +kernel
  obtain ⟨hnone, hevades, hentered⟩ := find?_of_excludes hcollects hexcluded
  have hevades := hevades hgrouping
  exact ⟨model, hcollects, hexcluded, hnone, hevades, hentered [] hlegible hroots hevades⟩

end Context

end SchemaClosure
