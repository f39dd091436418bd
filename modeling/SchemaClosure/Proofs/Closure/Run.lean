import Mathlib.Logic.Relation
import SchemaClosure.Proofs.Closure.Resolution

/-!
Collections as runs of single moves. The fuel of a run and the limit of a walk only cut it short: `collects_iff` says how a collection ends in terms of its moves, and there is one way at most.
-/

namespace SchemaClosure

open Relation

namespace Collection

variable {context : Context} {limit limit' fuel fuel' : Nat} {raised : Bool} {signal : Signal} {collection next : Collection}

/-- A collection after the discovery of a type, with the steps `rest` after those of the type. -/
def discover (collection : Collection) (member : Option String) (type : TypeRef) (resolution : Resolution) (rest : List Step) :
    Collection where
  visited := type.identity :: collection.visited
  laidOut := (if resolution.laysOut then type.name?.toList else []) ++ collection.laidOut
  model := collection.model
  pending := resolution.steps.map (·.reachedThrough member) ++ rest

/-- One pending step is carried out. -/
def Moves (context : Context) (collection next : Collection) : Prop :=
  collection.pending ≠ [] ∧ ∃ limit, collection.advance context limit false = some (.ok next)

/-- The first pending step cannot be carried out. -/
def Fails (context : Context) (collection : Collection) (error : CollectError) : Prop :=
  ∃ limit, collection.advance context limit false = some (.error error)

/-- How a collection ends that is not cancelled. -/
inductive Ends (context : Context) : Collection → Except CollectError Model → Prop where
  | done {collection : Collection} (hpending : collection.pending = []) : Ends context collection (.ok collection.model)
  | fails {collection : Collection} {error : CollectError} (hfails : collection.Fails context error) :
      Ends context collection (.error error)
  | moves {collection next : Collection} {outcome : Except CollectError Model} (hmoves : collection.Moves context next)
      (hends : Ends context next outcome) : Ends context collection outcome

theorem visit_mono {member : Option String} {type : TypeRef} {rest : List Step} {outcome : Except CollectError Collection}
    (h : collection.visit context limit raised member type rest = some outcome) (hle : limit ≤ limit') :
    collection.visit context limit' raised member type rest = some outcome := by
  unfold visit at h ⊢
  split at h
  · rename_i hvisited
    rw [if_pos hvisited]
    exact h
  · rename_i hfresh
    rw [if_neg hfresh]
    split at h
    · rename_i hraised
      rw [if_pos hraised]
      exact h
    · rename_i hraised
      rw [if_neg hraised]
      cases hresolve : context.resolve limit type with
      | none => simp [hresolve] at h
      | some resolved =>
        rw [hresolve] at h
        rw [Context.resolve_mono hresolve hle]
        exact h

theorem advance_mono {outcome : Except CollectError Collection} (h : collection.advance context limit raised = some outcome)
    (hle : limit ≤ limit') : collection.advance context limit' raised = some outcome := by
  unfold advance at h ⊢
  split at h
  · exact h
  · exact h
  · exact visit_mono h hle

theorem advance_unique {outcome outcome' : Except CollectError Collection}
    (h : collection.advance context limit raised = some outcome)
    (h' : collection.advance context limit' raised = some outcome') : outcome = outcome' :=
  eq_of_mono (fun h hle => advance_mono h hle) h h'

theorem advance_record {entry : Entry} {rest : List Step} (h : collection.pending = .record entry :: rest) :
    collection.advance context limit raised =
      some (.ok { collection with model := collection.model.record entry, pending := rest }) := by
  rw [advance, h]

theorem advance_visited {edge : Edge} {rest : List Step} (h : collection.pending = .visit edge :: rest)
    (hvisited : edge.target.normalize.identity ∈ collection.visited) :
    collection.advance context limit raised = some (.ok { collection with pending := rest }) := by
  rw [advance, h]
  exact if_pos (List.contains_iff_mem.mpr hvisited)

theorem advance_fresh {edge : Edge} {rest : List Step} (h : collection.pending = .visit edge :: rest)
    (hfresh : edge.target.normalize.identity ∉ collection.visited) :
    collection.advance context limit raised =
      if raised then some (.error .cancelled)
      else (context.resolve limit edge.target.normalize).map fun resolved =>
        match resolved with
        | .error error => .error (error.reachedThrough edge.member)
        | .ok resolution => .ok (collection.discover edge.member edge.target.normalize resolution rest) := by
  have hcontains : ¬ collection.visited.contains edge.target.normalize.identity = true := by
    rw [List.contains_iff_mem]
    exact hfresh
  rw [advance, h]
  simp only [visit]
  rw [if_neg hcontains]
  split
  · rfl
  · cases context.resolve limit edge.target.normalize with
    | none => rfl
    | some resolved => cases resolved <;> rfl

/-- A move records an entry, passes over a type that has been visited, or discovers a type that resolves. -/
theorem moves_cases (h : collection.Moves context next) :
    (∃ entry rest, collection.pending = .record entry :: rest ∧
        next = { collection with model := collection.model.record entry, pending := rest }) ∨
      (∃ edge rest, collection.pending = .visit edge :: rest ∧ edge.target.normalize.identity ∈ collection.visited ∧
        next = { collection with pending := rest }) ∨
      (∃ edge rest limit resolution, collection.pending = .visit edge :: rest ∧
        edge.target.normalize.identity ∉ collection.visited ∧
        context.resolve limit edge.target.normalize = some (.ok resolution) ∧
        next = collection.discover edge.member edge.target.normalize resolution rest) := by
  obtain ⟨hpending, limit, hadvance⟩ := h
  match hsteps : collection.pending with
  | [] => exact absurd hsteps hpending
  | .record entry :: rest =>
    rw [advance_record hsteps] at hadvance
    exact Or.inl ⟨entry, rest, rfl, (Except.ok.inj (Option.some.inj hadvance)).symm⟩
  | .visit edge :: rest =>
    by_cases hvisited : edge.target.normalize.identity ∈ collection.visited
    · rw [advance_visited hsteps hvisited] at hadvance
      exact Or.inr (Or.inl ⟨edge, rest, rfl, hvisited, (Except.ok.inj (Option.some.inj hadvance)).symm⟩)
    · rw [advance_fresh hsteps hvisited, if_neg Bool.false_ne_true] at hadvance
      obtain ⟨resolved, hresolve, hnext⟩ := Option.map_eq_some_iff.mp hadvance
      cases resolved with
      | error error => simp at hnext
      | ok resolution => exact Or.inr (Or.inr ⟨edge, rest, limit, resolution, rfl, hvisited, hresolve, (Except.ok.inj hnext).symm⟩)

theorem moves_record {entry : Entry} {rest : List Step} (h : collection.pending = .record entry :: rest) :
    collection.Moves context { collection with model := collection.model.record entry, pending := rest } :=
  ⟨by simp [h], 0, advance_record h⟩

theorem moves_visited {edge : Edge} {rest : List Step} (h : collection.pending = .visit edge :: rest)
    (hvisited : edge.target.normalize.identity ∈ collection.visited) :
    collection.Moves context { collection with pending := rest } :=
  ⟨by simp [h], 0, advance_visited h hvisited⟩

theorem moves_discover {edge : Edge} {rest : List Step} {resolution : Resolution} (h : collection.pending = .visit edge :: rest)
    (hfresh : edge.target.normalize.identity ∉ collection.visited)
    (hresolve : context.resolve limit edge.target.normalize = some (.ok resolution)) :
    collection.Moves context (collection.discover edge.member edge.target.normalize resolution rest) := by
  refine ⟨by simp [h], limit, ?_⟩
  rw [advance_fresh h hfresh, if_neg Bool.false_ne_true, hresolve]
  rfl

/-- What fails is the discovery of a type that does not resolve. -/
theorem fails_iff {error : CollectError} :
    collection.Fails context error ↔
      ∃ edge rest limit cause, collection.pending = .visit edge :: rest ∧
        edge.target.normalize.identity ∉ collection.visited ∧
        context.resolve limit edge.target.normalize = some (.error cause) ∧ error = cause.reachedThrough edge.member := by
  constructor
  · rintro ⟨limit, hadvance⟩
    match hsteps : collection.pending with
    | [] => simp [advance, hsteps] at hadvance
    | .record entry :: rest => simp [advance_record hsteps] at hadvance
    | .visit edge :: rest =>
      by_cases hvisited : edge.target.normalize.identity ∈ collection.visited
      · simp [advance_visited hsteps hvisited] at hadvance
      · rw [advance_fresh hsteps hvisited, if_neg Bool.false_ne_true] at hadvance
        obtain ⟨resolved, hresolve, herror⟩ := Option.map_eq_some_iff.mp hadvance
        cases resolved with
        | error cause => exact ⟨edge, rest, limit, cause, rfl, hvisited, hresolve, (Except.error.inj herror).symm⟩
        | ok resolution => simp at herror
  · rintro ⟨edge, rest, limit, cause, hsteps, hfresh, hresolve, rfl⟩
    refine ⟨limit, ?_⟩
    rw [advance_fresh hsteps hfresh, if_neg Bool.false_ne_true, hresolve]
    rfl

theorem moves_unique {next' : Collection} (h : collection.Moves context next) (h' : collection.Moves context next') :
    next = next' := by
  obtain ⟨-, limit, hadvance⟩ := h
  obtain ⟨-, limit', hadvance'⟩ := h'
  exact Except.ok.inj (advance_unique hadvance hadvance')

theorem not_moves_of_fails {error : CollectError} (h : collection.Fails context error) : ¬collection.Moves context next := by
  rintro ⟨-, limit, hadvance⟩
  obtain ⟨limit', hfails⟩ := h
  simpa using advance_unique hadvance hfails

theorem pending_ne_nil_of_fails {error : CollectError} (h : collection.Fails context error) : collection.pending ≠ [] := by
  obtain ⟨edge, rest, limit, cause, hsteps, -⟩ := fails_iff.mp h
  simp [hsteps]

theorem run_mono {outcome : Except CollectError Model} (h : collection.run context signal fuel = some outcome)
    (hle : fuel ≤ fuel') : collection.run context signal fuel' = some outcome := by
  induction fuel generalizing fuel' collection with
  | zero => simp [run] at h
  | succ fuel ih =>
    obtain ⟨more, rfl⟩ : ∃ more, fuel' = more + 1 := ⟨fuel' - 1, by omega⟩
    unfold run at h ⊢
    split at h
    · rename_i hpending
      rw [if_pos hpending]
      exact h
    · rename_i hpending
      rw [if_neg hpending]
      cases hadvance : collection.advance context fuel (signal collection) with
      | none => simp [hadvance] at h
      | some result =>
        rw [hadvance] at h
        rw [advance_mono hadvance (Nat.le_of_succ_le_succ hle)]
        cases result with
        | error error => exact h
        | ok next => exact ih h (Nat.le_of_succ_le_succ hle)

theorem ends_of_run {outcome : Except CollectError Model} (h : collection.run context .never fuel = some outcome) :
    collection.Ends context outcome := by
  induction fuel generalizing collection with
  | zero => simp [run] at h
  | succ fuel ih =>
    unfold run at h
    split at h
    · rename_i hpending
      rw [← Option.some.inj h]
      exact .done (List.isEmpty_iff.mp hpending)
    · rename_i hpending
      split at h
      · simp at h
      · rename_i error hadvance
        rw [← Option.some.inj h]
        exact .fails ⟨fuel, hadvance⟩
      · rename_i next hadvance
        have hne : collection.pending ≠ [] := by rwa [List.isEmpty_iff] at hpending
        exact .moves ⟨hne, fuel, hadvance⟩ (ih h)

theorem run_of_ends {outcome : Except CollectError Model} (h : collection.Ends context outcome) :
    ∃ fuel, collection.run context .never fuel = some outcome := by
  induction h with
  | done hpending => exact ⟨1, by simp [run, hpending]⟩
  | fails hfails =>
    have hne := pending_ne_nil_of_fails hfails
    obtain ⟨limit, hadvance⟩ := hfails
    refine ⟨limit + 1, ?_⟩
    rw [run, if_neg (by rwa [List.isEmpty_iff])]
    simp only [Signal.never, hadvance]
  | moves hmoves _ ih =>
    obtain ⟨hne, limit, hadvance⟩ := hmoves
    obtain ⟨fuel, hrun⟩ := ih
    refine ⟨max limit fuel + 1, ?_⟩
    rw [run, if_neg (by rwa [List.isEmpty_iff])]
    simp only [Signal.never, advance_mono hadvance (Nat.le_max_left limit fuel)]
    exact run_mono hrun (Nat.le_max_right limit fuel)

theorem ends_iff_run {outcome : Except CollectError Model} :
    collection.Ends context outcome ↔ ∃ fuel, collection.run context .never fuel = some outcome :=
  ⟨run_of_ends, fun ⟨_, h⟩ => ends_of_run h⟩

/-- What holds at first and is kept by every move holds at the end. -/
theorem Ends.invariant {outcome : Except CollectError Model} {Holds : Collection → Prop} (h : collection.Ends context outcome)
    (hstart : Holds collection)
    (hmoves : ∀ {collection next : Collection}, Holds collection → collection.Moves context next → Holds next) :
    ∃ last, Holds last ∧ ReflTransGen (Moves context) collection last ∧
      ((last.pending = [] ∧ outcome = .ok last.model) ∨ ∃ error, last.Fails context error ∧ outcome = .error error) := by
  induction h with
  | done hpending => exact ⟨_, hstart, .refl, Or.inl ⟨hpending, rfl⟩⟩
  | fails hfails => exact ⟨_, hstart, .refl, Or.inr ⟨_, hfails, rfl⟩⟩
  | moves hmove _ ih =>
    obtain ⟨last, hlast, hsteps, houtcome⟩ := ih (hmoves hstart hmove)
    exact ⟨last, hlast, hsteps.head hmove, houtcome⟩

theorem ends_of_steps {outcome : Except CollectError Model} (h : ReflTransGen (Moves context) collection next)
    (hends : next.Ends context outcome) : collection.Ends context outcome := by
  induction h using ReflTransGen.head_induction_on with
  | refl => exact hends
  | head hmove _ ih => exact .moves hmove ih

end Collection

namespace Context

/-- How the collection of some roots ends that is not cancelled; it may not end at all. -/
def Collects (context : Context) (roots : List TypeRef) (outcome : Except CollectError Model) : Prop :=
  ∃ fuel, context.collect .never fuel roots = some outcome

variable {context : Context} {signal : Signal} {fuel fuel' : Nat} {roots : List TypeRef} {outcome outcome' : Except CollectError Model}

theorem collect_mono (h : context.collect signal fuel roots = some outcome) (hle : fuel ≤ fuel') :
    context.collect signal fuel' roots = some outcome := by
  unfold collect at h ⊢
  simp only at h ⊢
  split at h
  · exact h
  · exact Collection.run_mono h hle

theorem collects_unique (h : context.Collects roots outcome) (h' : context.Collects roots outcome') : outcome = outcome' := by
  obtain ⟨fuel, hfuel⟩ := h
  obtain ⟨fuel', hfuel'⟩ := h'
  exact eq_of_mono (fun h hle => collect_mono h hle) hfuel hfuel'

theorem eq_ok_of_toOption {result : Option (Except CollectError Model)} {model : Model}
    (h : result.bind Except.toOption = some model) : result = some (.ok model) := eq_some_ok_of_toOption h

/-- What a collection says about its model is said of a model that it collects. -/
theorem exists_collects_of_map {α : Type} {ask : Model → α} {answer : α}
    (h : ((context.collect .never fuel roots).bind Except.toOption).map ask = some answer) :
    ∃ model, context.Collects roots (.ok model) ∧ ask model = answer := by
  obtain ⟨model, hmodel, hanswer⟩ := Option.map_eq_some_iff.mp h
  exact ⟨model, ⟨fuel, eq_ok_of_toOption hmodel⟩, hanswer⟩

theorem checkRoots_eq_ok :
    (roots.map TypeRef.normalize).forM context.checkRoot = .ok () ↔ ∀ root ∈ roots, context.checkRoot root.normalize = .ok () := by
  rw [forM_eq_ok_iff, List.forall_mem_map]

/-- A collection fails at a root that does not pass its check, or else it ends as its moves do. -/
theorem collects_iff :
    context.Collects roots outcome ↔
      (∃ error, (roots.map TypeRef.normalize).forM context.checkRoot = .error error ∧ outcome = .error error) ∨
      ((∀ root ∈ roots, context.checkRoot root.normalize = .ok ()) ∧
        (Collection.start (roots.map TypeRef.normalize)).Ends context outcome) := by
  rw [← checkRoots_eq_ok, Collects]
  simp only [collect]
  cases (roots.map TypeRef.normalize).forM context.checkRoot with
  | error error =>
    constructor
    · rintro ⟨_, h⟩
      exact Or.inl ⟨error, rfl, (Option.some.inj h).symm⟩
    · rintro (⟨_, herror, rfl⟩ | ⟨hok, -⟩)
      · exact ⟨0, by rw [Except.error.inj herror]⟩
      · simp at hok
  | ok checked =>
    rw [Collection.ends_iff_run]
    constructor
    · intro h
      exact Or.inr ⟨rfl, h⟩
    · rintro (⟨_, herror, -⟩ | ⟨-, h⟩)
      · simp at herror
      · exact h

theorem collects_iff_ends (hchecked : ∀ root ∈ roots, context.checkRoot root.normalize = .ok ()) :
    context.Collects roots outcome ↔ (Collection.start (roots.map TypeRef.normalize)).Ends context outcome := by
  constructor
  · intro h
    rcases collects_iff.mp h with ⟨error, herror, -⟩ | ⟨-, hends⟩
    · simp [checkRoots_eq_ok.mpr hchecked] at herror
    · exact hends
  · intro hends
    exact collects_iff.mpr (Or.inr ⟨hchecked, hends⟩)

theorem checked_of_collects {model : Model} (h : context.Collects roots (.ok model)) :
    ∀ root ∈ roots, context.checkRoot root.normalize = .ok () := by
  rcases collects_iff.mp h with ⟨error, -, hmodel⟩ | ⟨hchecked, -⟩
  · simp at hmodel
  · exact hchecked

end Context

end SchemaClosure
