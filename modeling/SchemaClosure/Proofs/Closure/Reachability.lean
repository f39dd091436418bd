import SchemaClosure.Proofs.Closure.Invariant
import SchemaClosure.Snapshot.Validation

/-!
A closure is what can be reached. A collection that ends visits the types that its roots lead to, and no others; it fails if one of them does not resolve, and otherwise its model holds what they yield.
-/

namespace SchemaClosure

open Relation

namespace Context

/-- The types that can be reached from some roots, in tuple-normal form. -/
inductive Reachable (context : Context) (roots : List TypeRef) : TypeRef → Prop where
  | root {root : TypeRef} (hmem : root ∈ roots) : Reachable context roots root.normalize
  | edge {type target : TypeRef} (htype : Reachable context roots type) (hleads : context.LeadsTo type target) :
      Reachable context roots target.normalize

variable {context : Context} {scope : List String} {roots roots' : List TypeRef}

theorem Reachable.isCanonical (hsnapshot : context.snapshot.isLegible scope = true)
    (hroots : ∀ root ∈ roots, root.isLegible scope = true) {type : TypeRef} (h : context.Reachable roots type) :
    type.IsCanonical scope := by
  induction h with
  | root hmem => exact TypeRef.isCanonical_normalize (hroots _ hmem)
  | edge _ hleads ih => exact TypeRef.isCanonical_normalize (hleads.isLegible hsnapshot ih.isLegible)

theorem isClosed_reachable (hsnapshot : context.snapshot.isLegible scope = true)
    (hroots : ∀ root ∈ roots, root.isLegible scope = true) : context.IsClosed scope (context.Reachable roots) where
  isCanonical h := h.isCanonical hsnapshot hroots
  leadsTo h hleads := .edge h hleads

theorem Reachable.mono (h : ∀ root ∈ roots, root ∈ roots') {type : TypeRef} (htype : context.Reachable roots type) :
    context.Reachable roots' type := by
  induction htype with
  | root hmem => exact .root (h _ hmem)
  | edge _ hleads ih => exact .edge ih hleads

end Context

namespace Collection

variable {context : Context} {scope : List String} {roots : List TypeRef} {collection last : Collection}

theorem reaches_start {root : TypeRef} (h : root ∈ roots) : (start (roots.map TypeRef.normalize)).Reaches root.normalize := by
  refine Or.inr ?_
  rw [start, Step.targets_visits]
  exact List.mem_map_of_mem h

theorem Reaches.steps {target : TypeRef} (h : collection.Reaches target) (hsteps : ReflTransGen (Moves context) collection last) :
    last.Reaches target := by
  induction hsteps with
  | refl => exact h
  | tail _ hmoves ih => exact ih.moves hmoves

theorem reachable_of_mem_start {root : TypeRef} (h : root ∈ roots.map TypeRef.normalize) : context.Reachable roots root.normalize := by
  obtain ⟨given, hgiven, rfl⟩ := List.mem_map.mp h
  rw [TypeRef.normalize_normalize]
  exact .root hgiven

theorem isWithin_start_reachable : (start (roots.map TypeRef.normalize)).IsWithin (context.Reachable roots) :=
  isWithin_start fun _ hmem => reachable_of_mem_start hmem

theorem isGrounded_start_reachable :
    (start (roots.map TypeRef.normalize)).IsGrounded context (context.Reachable roots) :=
  isGrounded_start fun _ hmem => reachable_of_mem_start hmem

theorem consistent_start_reachable :
    (start (roots.map TypeRef.normalize)).Consistent context (context.Reachable roots) :=
  consistent_start fun _ hmem => reachable_of_mem_start hmem

theorem mem_visited_of_reachable (h : last.Consistent context (context.Reachable roots)) (hpending : last.pending = [])
    (hroots : ∀ root ∈ roots, last.Reaches root.normalize) {type : TypeRef} (htype : context.Reachable roots type) :
    type.identity ∈ last.visited := by
  induction htype with
  | root hmem =>
    have hvisited := (hroots _ hmem).mem_visited hpending
    rwa [TypeRef.normalize_normalize] at hvisited
  | edge htype hleads ih => exact ((h.attends htype ih).reaches hleads).mem_visited hpending

/-- The end of a collection from its start: all that can be reached has been visited, or a reachable type does not resolve. -/
theorem Ends.reachable (hsnapshot : context.snapshot.isLegible scope = true)
    (hroots : ∀ root ∈ roots, root.isLegible scope = true) {outcome : Except CollectError Model}
    (h : (start (roots.map TypeRef.normalize)).Ends context outcome) :
    (∃ last : Collection, last.Consistent context (context.Reachable roots) ∧ last.pending = [] ∧
        (∀ type, context.Reachable roots type → type.identity ∈ last.visited) ∧ outcome = .ok last.model) ∨
      ∃ error type, context.Reachable roots type ∧ ¬context.Serves type ∧ outcome = .error error := by
  have htypes := Context.isClosed_reachable hsnapshot hroots
  obtain ⟨last, hlast, hsteps, hend⟩ := h.invariant consistent_start_reachable fun hconsistent hmoves => hconsistent.moves htypes hmoves
  rcases hend with ⟨hpending, houtcome⟩ | ⟨error, hfails, houtcome⟩
  · refine Or.inl ⟨last, hlast, hpending, ?_, houtcome⟩
    intro type htype
    exact mem_visited_of_reachable hlast hpending (fun root hroot => (reaches_start hroot).steps hsteps) htype
  · obtain ⟨edge, rest, limit, cause, hpending, -, hresolve, -⟩ := fails_iff.mp hfails
    refine Or.inr ⟨error, edge.target.normalize, hlast.targets (by rw [hpending]; exact List.mem_cons_self), ?_, houtcome⟩
    rintro ⟨limit', resolution, hserves⟩
    simpa using Context.resolve_unique hresolve hserves

end Collection

namespace Context

variable {context : Context} {scope : List String} {roots : List TypeRef}

/-- What a model holds about a closure: entries of reachable types only, and one for every entry that a reachable type yields. It is that entry, except that a generic entry may carry another mark. -/
structure IsModelOf (context : Context) (roots : List TypeRef) (model : Model) : Prop where
  held : ∀ {key : EntryKey} {entry : Entry}, model.find? key = some entry →
    entry.key = key ∧ ∃ type, context.Reachable roots type ∧ context.Yields type entry
  yields : ∀ {type : TypeRef} {entry : Entry}, context.Reachable roots type → context.Yields type entry →
    ∃ old, model.find? entry.key = some old ∧ old.Agrees entry

theorem isModelOf_of_consistent (hsnapshot : context.snapshot.isLegible scope = true)
    (hroots : ∀ root ∈ roots, root.isLegible scope = true) {last : Collection}
    (h : last.Consistent context (context.Reachable roots)) (hpending : last.pending = [])
    (hvisited : ∀ type, context.Reachable roots type → type.identity ∈ last.visited) : context.IsModelOf roots last.model where
  held hheld := h.held hheld
  yields {type entry} htype hyields := by
    obtain ⟨old, hold⟩ := Option.isSome_iff_exists.mp (((h.attends htype (hvisited type htype)).covers hyields).isSome hpending)
    obtain ⟨hkey, other, hother, hyieldsOld⟩ := h.held hold
    exact ⟨old, hold, hyieldsOld.agrees (hother.isCanonical hsnapshot hroots) (htype.isCanonical hsnapshot hroots) hyields hkey⟩

/-- Whatever a collection puts into its model is yielded by a type that its roots lead to. -/
theorem held_of_collects {model : Model} (h : context.Collects roots (.ok model)) {key : EntryKey} {entry : Entry}
    (hheld : model.find? key = some entry) : entry.key = key ∧ ∃ type, context.Reachable roots type ∧ context.Yields type entry := by
  have hends := (collects_iff_ends (checked_of_collects h)).mp h
  obtain ⟨last, hlast, -, hend⟩ := hends.invariant Collection.isGrounded_start_reachable
    fun hgrounded hmoves => hgrounded.moves (fun htype hleads => .edge htype hleads) hmoves
  rcases hend with ⟨-, hmodel⟩ | ⟨error, -, hmodel⟩
  · rw [Except.ok.inj hmodel] at hheld
    exact hlast.held hheld
  · simp at hmodel

/-- A collection that succeeds comes to a state with nothing left to do, in which all that can be reached has been visited. -/
theorem exists_last_of_collects (hsnapshot : context.snapshot.isLegible scope = true)
    (hroots : ∀ root ∈ roots, root.isLegible scope = true) {model : Model} (h : context.Collects roots (.ok model)) :
    ∃ last : Collection, last.Consistent context (context.Reachable roots) ∧ last.pending = [] ∧
      (∀ type, context.Reachable roots type → type.identity ∈ last.visited) ∧ model = last.model := by
  have hends := (collects_iff_ends (checked_of_collects h)).mp h
  rcases hends.reachable hsnapshot hroots with ⟨last, hlast, hpending, hvisited, hmodel⟩ | ⟨error, -, -, -, hmodel⟩
  · exact ⟨last, hlast, hpending, hvisited, Except.ok.inj hmodel⟩
  · simp at hmodel

theorem isModelOf_of_collects (hsnapshot : context.snapshot.isLegible scope = true)
    (hroots : ∀ root ∈ roots, root.isLegible scope = true) {model : Model} (h : context.Collects roots (.ok model)) :
    context.IsModelOf roots model := by
  obtain ⟨last, hlast, hpending, hvisited, rfl⟩ := exists_last_of_collects hsnapshot hroots h
  exact isModelOf_of_consistent hsnapshot hroots hlast hpending hvisited

theorem serves_of_collects (hsnapshot : context.snapshot.isLegible scope = true)
    (hroots : ∀ root ∈ roots, root.isLegible scope = true) {model : Model} (h : context.Collects roots (.ok model)) {type : TypeRef}
    (htype : context.Reachable roots type) : context.Serves type := by
  obtain ⟨last, hlast, -, hvisited, -⟩ := exists_last_of_collects hsnapshot hroots h
  exact hlast.serves (isClosed_reachable hsnapshot hroots) htype (hvisited type htype)

/-- A collection that ends succeeds if and only if its roots pass their checks and every reachable type can be classified and resolved; and then its model is that of the closure. -/
theorem collect_eq_closure (hsnapshot : context.snapshot.isLegible scope = true)
    (hroots : ∀ root ∈ roots, root.isLegible scope = true) {fuel : Nat} {outcome : Except CollectError Model}
    (h : context.collect .never fuel roots = some outcome) :
    ((∃ model, outcome = .ok model) ↔
        (∀ root ∈ roots, context.checkRoot root.normalize = .ok ()) ∧
          ∀ type, context.Reachable roots type → context.Serves type) ∧
      ∀ model, outcome = .ok model → context.IsModelOf roots model := by
  have hmodels : ∀ model, outcome = .ok model → context.IsModelOf roots model := by
    rintro model rfl
    exact isModelOf_of_collects hsnapshot hroots ⟨fuel, h⟩
  refine ⟨?_, hmodels⟩
  rcases collects_iff.mp ⟨fuel, h⟩ with ⟨error, herror, rfl⟩ | ⟨hchecked, hends⟩
  · constructor
    · rintro ⟨model, hmodel⟩
      simp at hmodel
    · rintro ⟨hchecked, -⟩
      simp [checkRoots_eq_ok.mpr hchecked] at herror
  · rcases hends.reachable hsnapshot hroots with ⟨last, hlast, -, hvisited, rfl⟩ | ⟨error, type, htype, hserves, rfl⟩
    · constructor
      · intro _
        refine ⟨hchecked, ?_⟩
        intro type htype
        exact hlast.serves (isClosed_reachable hsnapshot hroots) htype (hvisited type htype)
      · intro _
        exact ⟨last.model, rfl⟩
    · constructor
      · rintro ⟨model, hmodel⟩
        simp at hmodel
      · rintro ⟨-, hall⟩
        exact absurd (hall type htype) hserves

def boxDeclaration : Declaration where
  name := "Demo.Box"
  namespaceName := some "Demo"
  parameters := [{ name := "T" }]
  attributes := [.serializableObject true]
  properties := [
    { name := "Items", type := .named "System.Linq.ILookup" [.named "T" [], .named "int" []] },
    { name := "Next", type := .named "Demo.Box" [.named "T" []] }]

def plainDeclaration : Declaration where
  name := "Demo.Plain"
  namespaceName := some "Demo"
  attributes := [.serializableObject true]
  properties := [{ name := "Values", type := .named "System.Collections.Generic.IEnumerable" [.named "int" []] }]

def unionDeclaration : Declaration where
  name := "Demo.Shape"
  kind := .interfaceType
  namespaceName := some "Demo"
  attributes := [.union 0 (.named "Demo.Box" [.named "int" []])]

/-- A closure with a cycle: boxes that lead to boxes and to look-ups, and a union over one of their instances. -/
def boxContext : Context where
  snapshot := ⟨[boxDeclaration.bindParameters ["T"], plainDeclaration, unionDeclaration]⟩
  options := {}

def boxType : TypeRef := .named "Demo.Box" [.parameter "T"]

def plainType : TypeRef := .named "Demo.Plain" []

def unionType : TypeRef := .named "Demo.Shape" []

theorem ofDeclarations_boxContext :
    Snapshot.ofDeclarations [boxDeclaration, plainDeclaration, unionDeclaration] = .ok boxContext.snapshot := by
  rw [Snapshot.ofDeclarations_of_sorted (by decide +kernel)]
  rfl

theorem isLegible_boxContext : boxContext.snapshot.isLegible ["T"] = true := by decide +kernel

/-- The collection of the union succeeds, so everything that it leads to resolves. -/
theorem serves_of_reachable_union :
    (∃ model, boxContext.collect .never 60 [unionType] = some (.ok model)) ∧
      ∀ type, boxContext.Reachable [unionType] type → boxContext.Serves type := by
  have hlegible : ∀ root ∈ [unionType], root.isLegible ["T"] = true := by decide +kernel
  have hsome : ((boxContext.collect .never 60 [unionType]).bind Except.toOption).isSome = true := by decide +kernel
  obtain ⟨model, hmodel⟩ := Option.isSome_iff_exists.mp hsome
  have hcollect := eq_ok_of_toOption hmodel
  exact ⟨⟨model, hcollect⟩, ((collect_eq_closure isLegible_boxContext hlegible hcollect).1.mp ⟨model, rfl⟩).2⟩

end Context

end SchemaClosure
