import Mathlib.Data.List.Forall2
import SchemaClosure.Proofs.Closure.Reachability
import SchemaClosure.Proofs.Closure.Resumption

namespace SchemaClosure

open Relation

namespace Context

variable {context : Context} {scope : List String} {fuel fuel' : Nat} {merged : Model} {roots : List TypeRef}
  {sets : List (List TypeRef)} {outcome outcome' : Except CollectError Model}

theorem collectSetsFrom_mono (h : context.collectSetsFrom fuel merged sets = some outcome) (hle : fuel ≤ fuel') :
    context.collectSetsFrom fuel' merged sets = some outcome := by
  induction sets generalizing merged with
  | nil => exact h
  | cons roots rest ih =>
    unfold collectSetsFrom at h ⊢
    cases hroots : context.collect .never fuel roots with
    | none => simp [hroots] at h
    | some result =>
      rw [hroots] at h
      rw [collect_mono hroots hle]
      cases result with
      | error error => exact h
      | ok model => exact ih h

/-- How root sets end that are added to a model one after another. -/
def MergesTo (context : Context) (merged : Model) (sets : List (List TypeRef)) (outcome : Except CollectError Model) : Prop :=
  ∃ fuel, context.collectSetsFrom fuel merged sets = some outcome

theorem mergesTo_unique (h : context.MergesTo merged sets outcome) (h' : context.MergesTo merged sets outcome') :
    outcome = outcome' := by
  obtain ⟨fuel, hfuel⟩ := h
  obtain ⟨fuel', hfuel'⟩ := h'
  exact eq_of_mono (fun h hle => collectSetsFrom_mono h hle) hfuel hfuel'

theorem mergesTo_nil (merged : Model) : context.MergesTo merged [] (.ok merged) := ⟨0, rfl⟩

theorem mergesTo_cons_error {error : CollectError} (h : context.Collects roots (.error error)) :
    context.MergesTo merged (roots :: sets) (.error error) := by
  obtain ⟨fuel, hfuel⟩ := h
  exact ⟨fuel, by rw [collectSetsFrom, hfuel]⟩

theorem mergesTo_cons_ok {model : Model} (h : context.Collects roots (.ok model))
    (hrest : context.MergesTo (merged.merge model) sets outcome) : context.MergesTo merged (roots :: sets) outcome := by
  obtain ⟨fuel, hfuel⟩ := h
  obtain ⟨fuel', hfuel'⟩ := hrest
  refine ⟨max fuel fuel', ?_⟩
  rw [collectSetsFrom, collect_mono hfuel (Nat.le_max_left fuel fuel')]
  exact collectSetsFrom_mono hfuel' (Nat.le_max_right fuel fuel')

theorem exists_mergesTo (hends : ∀ roots ∈ sets, ∃ outcome, context.Collects roots outcome) (merged : Model) :
    ∃ outcome, context.MergesTo merged sets outcome := by
  induction sets generalizing merged with
  | nil => exact ⟨_, mergesTo_nil merged⟩
  | cons roots rest ih =>
    obtain ⟨⟨first, hfirst⟩, hrest⟩ := List.forall_mem_cons.mp hends
    cases first with
    | error error => exact ⟨_, mergesTo_cons_error hfirst⟩
    | ok model =>
      obtain ⟨outcome, houtcome⟩ := ih hrest (merged.merge model)
      exact ⟨outcome, mergesTo_cons_ok hfirst houtcome⟩

theorem mergesTo_cons (h : context.MergesTo merged (roots :: sets) outcome) :
    (∃ error, context.Collects roots (.error error) ∧ outcome = .error error) ∨
      ∃ model, context.Collects roots (.ok model) ∧ context.MergesTo (merged.merge model) sets outcome := by
  obtain ⟨fuel, hfuel⟩ := h
  unfold collectSetsFrom at hfuel
  cases hroots : context.collect .never fuel roots with
  | none => simp [hroots] at hfuel
  | some result =>
    rw [hroots] at hfuel
    cases result with
    | error error => exact Or.inl ⟨error, ⟨fuel, hroots⟩, (Option.some.inj hfuel).symm⟩
    | ok model => exact Or.inr ⟨model, ⟨fuel, hroots⟩, fuel, hfuel⟩

/-- Root sets end with the merge of their models if each succeeds on its own, and else with the error of the first that fails. -/
theorem mergesTo_cases (h : context.MergesTo merged sets outcome) :
    (∃ models, List.Forall₂ (fun roots model => context.Collects roots (.ok model)) sets models ∧
      outcome = .ok (models.foldl Model.merge merged)) ∨
      ∃ before roots after error, sets = before ++ roots :: after ∧
        (∀ earlier ∈ before, ∃ model, context.Collects earlier (.ok model)) ∧
        context.Collects roots (.error error) ∧ outcome = .error error := by
  induction sets generalizing merged with
  | nil => exact Or.inl ⟨[], .nil, mergesTo_unique h (mergesTo_nil merged)⟩
  | cons first rest ih =>
    rcases mergesTo_cons h with ⟨error, hfirst, houtcome⟩ | ⟨model, hfirst, hrest⟩
    · exact Or.inr ⟨[], first, rest, error, rfl, by simp, hfirst, houtcome⟩
    · rcases ih hrest with ⟨models, hmodels, houtcome⟩ | ⟨before, roots, after, error, hsets, hbefore, hroots, houtcome⟩
      · exact Or.inl ⟨model :: models, .cons hfirst hmodels, houtcome⟩
      · refine Or.inr ⟨first :: before, roots, after, error, by rw [hsets, List.cons_append], ?_, hroots, houtcome⟩
        exact List.forall_mem_cons.mpr ⟨⟨model, hfirst⟩, hbefore⟩

theorem checked_of_mergesTo {model : Model} (h : context.MergesTo merged sets (.ok model)) :
    ∀ roots ∈ sets, ∀ root ∈ roots, context.checkRoot root.normalize = .ok () := by
  induction sets generalizing merged with
  | nil => simp
  | cons roots rest ih =>
    rcases mergesTo_cons h with ⟨error, -, herror⟩ | ⟨first, hfirst, hrest⟩
    · simp at herror
    · exact List.forall_mem_cons.mpr ⟨checked_of_collects hfirst, ih hrest⟩

end Context

namespace Collection

variable {context : Context} {scope : List String}

theorem resume_append (prior : Collection) (roots rest : List TypeRef) :
    prior.resume (roots ++ rest) = (prior.resume roots).withTail (Context.visits rest) := by
  simp [resume, withTail, Context.visits]

theorem withTail_of_done {collection : Collection} (h : collection.pending = []) (roots : List TypeRef) :
    collection.withTail (Context.visits roots) = collection.resume roots := by
  rw [withTail, h]
  rfl

theorem ends_of_sets (hsnapshot : context.snapshot.isLegible scope = true) {sets : List (List TypeRef)}
    (hroots : ∀ roots ∈ sets, ∀ root ∈ roots, root.isLegible scope = true)
    (hchecked : ∀ roots ∈ sets, ∀ root ∈ roots, context.checkRoot root.normalize = .ok ())
    (hends : ∀ roots ∈ sets, ∃ outcome, context.Collects roots outcome) {prior : Collection}
    (hprior : prior.Consistent context (TypeRef.IsCanonical scope)) (hdone : prior.pending = []) :
    ∃ outcome, context.MergesTo prior.model sets outcome ∧
      (prior.resume (sets.flatten.map TypeRef.normalize)).Ends context outcome := by
  induction sets generalizing prior with
  | nil => exact ⟨_, Context.mergesTo_nil prior.model, .done rfl⟩
  | cons roots rest ih =>
    obtain ⟨hroots, hrootsRest⟩ := List.forall_mem_cons.mp hroots
    obtain ⟨hchecked, hcheckedRest⟩ := List.forall_mem_cons.mp hchecked
    obtain ⟨⟨first, hfirst⟩, hendsRest⟩ := List.forall_mem_cons.mp hends
    have hcanonical : ∀ root ∈ roots.map TypeRef.normalize, root.normalize.IsCanonical scope := by
      intro type hmem
      obtain ⟨root, hroot, rfl⟩ := List.mem_map.mp hmem
      exact TypeRef.isCanonical_normalize (TypeRef.isLegible_normalize (hroots root hroot))
    have hfirstEnds : (start (roots.map TypeRef.normalize)).Ends context first := (Context.collects_iff_ends hchecked).mp hfirst
    have hfollows : Follows context scope prior _ _ := follows_start hcanonical
    obtain ⟨last, hsteps, hlast⟩ := hfollows.ends hsnapshot hprior hdone hfirstEnds
    have htail := steps_withTail (Context.visits (rest.flatten.map TypeRef.normalize)) hsteps
    rw [List.flatten_cons, List.map_append, resume_append]
    rcases hlast with ⟨model, rfl, hlastDone, hmodel⟩ | ⟨error, rfl, hfails⟩
    · have hlastConsistent : last.Consistent context (TypeRef.IsCanonical scope) :=
        (consistent_resume hprior hdone hcanonical).steps (Context.isClosed_isCanonical hsnapshot) hsteps
      obtain ⟨outcome, hmerges, hrest⟩ := ih hrootsRest hcheckedRest hendsRest hlastConsistent hlastDone
      rw [hmodel] at hmerges
      rw [← withTail_of_done hlastDone] at hrest
      exact ⟨outcome, Context.mergesTo_cons_ok hfirst hmerges, ends_of_steps htail hrest⟩
    · exact ⟨_, Context.mergesTo_cons_error hfirst, ends_of_steps htail (.fails (fails_withTail _ hfails))⟩

end Collection

namespace Context

variable {context : Context} {scope : List String} {sets : List (List TypeRef)}

theorem consistent_empty {types : TypeRef → Prop} : (Collection.start []).Consistent context types :=
  Collection.consistent_start fun _ hmem => absurd hmem List.not_mem_nil

/-- Root sets whose roots all pass their checks have one outcome with the collection of all their roots, be it a model or an error. -/
theorem collects_flatten_of_checked (hsnapshot : context.snapshot.isLegible scope = true)
    (hroots : ∀ roots ∈ sets, ∀ root ∈ roots, root.isLegible scope = true)
    (hchecked : ∀ roots ∈ sets, ∀ root ∈ roots, context.checkRoot root.normalize = .ok ())
    (hends : ∀ roots ∈ sets, ∃ outcome, context.Collects roots outcome) :
    ∃ outcome, context.MergesTo .empty sets outcome ∧ context.Collects sets.flatten outcome := by
  obtain ⟨outcome, hmerges, hflatten⟩ := Collection.ends_of_sets hsnapshot hroots hchecked hends consistent_empty rfl
  have hflattenChecked : ∀ root ∈ sets.flatten, context.checkRoot root.normalize = .ok () := by
    intro root hmem
    obtain ⟨roots, hset, hroot⟩ := List.mem_flatten.mp hmem
    exact hchecked roots hset root hroot
  exact ⟨outcome, hmerges, (collects_iff_ends hflattenChecked).mpr hflatten⟩

/-- Where each of some root sets comes to an end, so do the sets one after another and the collection of all their roots; and these two succeed alike and with the same model. -/
theorem collectSets_eq_collect_flatten (hsnapshot : context.snapshot.isLegible scope = true)
    (hroots : ∀ roots ∈ sets, ∀ root ∈ roots, root.isLegible scope = true)
    (hends : ∀ roots ∈ sets, ∃ fuel outcome, context.collect .never fuel roots = some outcome) :
    (∃ fuel outcome, context.collectSets fuel sets = some outcome) ∧
      (∃ fuel outcome, context.collect .never fuel sets.flatten = some outcome) ∧
      ∀ fuel fuel' outcome outcome', context.collectSets fuel sets = some outcome →
        context.collect .never fuel' sets.flatten = some outcome' → outcome.toOption = outcome'.toOption := by
  have hends' : ∀ roots ∈ sets, ∃ outcome, context.Collects roots outcome :=
    fun roots hset => exists_comm.mp (hends roots hset)
  have hcommon : ∃ outcome outcome', context.MergesTo .empty sets outcome ∧ context.Collects sets.flatten outcome' ∧
      outcome.toOption = outcome'.toOption := by
    by_cases hchecked : ∀ roots ∈ sets, ∀ root ∈ roots, context.checkRoot root.normalize = .ok ()
    · obtain ⟨outcome, hmerges, hflatten⟩ := collects_flatten_of_checked hsnapshot hroots hchecked hends'
      exact ⟨outcome, outcome, hmerges, hflatten, rfl⟩
    · -- a root without a pass fails its own set, and the collection of all roots before it begins
      obtain ⟨outcome, hmerges⟩ := exists_mergesTo hends' .empty
      have hflatten : ∃ error, (sets.flatten.map TypeRef.normalize).forM context.checkRoot = .error error := by
        cases hforM : (sets.flatten.map TypeRef.normalize).forM context.checkRoot with
        | error error => exact ⟨error, rfl⟩
        | ok checked =>
          have hall := checkRoots_eq_ok.mp hforM
          exact absurd (fun roots hset root hroot => hall root (List.mem_flatten.mpr ⟨roots, hset, hroot⟩)) hchecked
      obtain ⟨error, herror⟩ := hflatten
      refine ⟨outcome, .error error, hmerges, collects_iff.mpr (Or.inl ⟨error, herror, rfl⟩), ?_⟩
      cases outcome with
      | error error => rfl
      | ok model => exact absurd (checked_of_mergesTo hmerges) hchecked
  obtain ⟨outcome, outcome', hmerges, hflatten, hsame⟩ := hcommon
  obtain ⟨fuel, hfuel⟩ := hmerges
  obtain ⟨fuel', hfuel'⟩ := hflatten
  refine ⟨⟨fuel, outcome, hfuel⟩, ⟨fuel', outcome', hfuel'⟩, ?_⟩
  intro other other' result result' hresult hresult'
  rw [mergesTo_unique ⟨other, hresult⟩ ⟨fuel, hfuel⟩, collects_unique ⟨other', hresult'⟩ ⟨fuel', hfuel'⟩]
  exact hsame

/-- The box as a set of its own and once more beside the plain type: the sets succeed with the model of all three roots. -/
theorem collectSets_box_plain :
    ∃ model, boxContext.collectSets 40 [[boxType], [plainType, boxType]] = some (.ok model) ∧
      boxContext.collect .never 40 [boxType, plainType, boxType] = some (.ok model) := by
  have hlegible : ∀ roots ∈ [[boxType], [plainType, boxType]], ∀ root ∈ roots, root.isLegible ["T"] = true := by decide +kernel
  have hsome : ∀ roots ∈ [[boxType], [plainType, boxType]], (boxContext.collect .never 40 roots).isSome = true := by
    decide +kernel
  have hsucceed : ((boxContext.collectSets 40 [[boxType], [plainType, boxType]]).bind Except.toOption).isSome = true ∧
      ((boxContext.collect .never 40 [boxType, plainType, boxType]).bind Except.toOption).isSome = true := by decide +kernel
  obtain ⟨model, hmodel⟩ := Option.isSome_iff_exists.mp hsucceed.1
  obtain ⟨model', hmodel'⟩ := Option.isSome_iff_exists.mp hsucceed.2
  have hsets := eq_ok_of_toOption hmodel
  have hflatten := eq_ok_of_toOption hmodel'
  have hsame := (collectSets_eq_collect_flatten isLegible_boxContext hlegible
    fun roots hset => ⟨40, Option.isSome_iff_exists.mp (hsome roots hset)⟩).2.2 40 40 _ _ hsets hflatten
  rw [Option.some.inj hsame] at hsets
  exact ⟨model', hsets, hflatten⟩

end Context

end SchemaClosure
