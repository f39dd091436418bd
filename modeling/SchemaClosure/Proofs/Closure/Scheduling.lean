import SchemaClosure.Proofs.Closure.RootSets

/-!
Root sets that are collected side by side. Each worker polls a flag of its own, and a worker that has failed raises the flags of the workers after it at any time. Whatever the order of their moves, the answer is that of the sets one after another: a worker whose predecessors succeed is never told to give up.
-/

namespace SchemaClosure

open Relation

inductive Progress where
  | waiting
  | running (collection : Collection)
  | ended (result : Except CollectError Model)

structure Worker where
  roots : List TypeRef
  raised : Bool := false
  progress : Progress := .waiting

namespace Worker

def ofRoots (roots : List TypeRef) : Worker := { roots }

def result? (worker : Worker) : Option (Except CollectError Model) :=
  match worker.progress with
  | .ended result => some result
  | _ => none

def hasFailed (worker : Worker) : Bool :=
  match worker.progress with
  | .ended (.error _) => true
  | _ => false

theorem result?_eq_some {worker : Worker} {result : Except CollectError Model} :
    worker.result? = some result ↔ worker.progress = .ended result := by
  unfold result?
  split
  · rename_i hended
    rw [hended, Option.some.injEq, Progress.ended.injEq]
  · rename_i hended
    exact ⟨nofun, fun h => absurd h (hended result)⟩

/-- What a worker begins with: it checks its roots without a look at its flag. -/
def begun (context : Context) (roots : List TypeRef) : Progress :=
  let roots := roots.map TypeRef.normalize
  match roots.forM context.checkRoot with
  | .error error => .ended (.error error)
  | .ok () => .running (Collection.start roots)

/-- A move of one worker. The flag is polled as it stands at that moment. -/
inductive Acts (context : Context) (worker : Worker) : Worker → Prop where
  | begin (h : worker.progress = .waiting) : Acts context worker { worker with progress := begun context worker.roots }
  | advance {collection next : Collection} {limit : Nat} (h : worker.progress = .running collection)
      (hpending : collection.pending ≠ []) (hadvance : collection.advance context limit worker.raised = some (.ok next)) :
      Acts context worker { worker with progress := .running next }
  | fail {collection : Collection} {limit : Nat} {error : CollectError} (h : worker.progress = .running collection)
      (hadvance : collection.advance context limit worker.raised = some (.error error)) :
      Acts context worker { worker with progress := .ended (.error error) }
  | finish {collection : Collection} (h : worker.progress = .running collection) (hpending : collection.pending = []) :
      Acts context worker { worker with progress := .ended (.ok collection.model) }

end Worker

namespace Scheduling

inductive Raises : List Worker → List Worker → Prop where
  | here {worker : Worker} {rest : List Worker} (h : worker.raised = false) :
      Raises (worker :: rest) ({ worker with raised := true } :: rest)
  | there {worker : Worker} {rest rest' : List Worker} (h : Raises rest rest') : Raises (worker :: rest) (worker :: rest')

/-- A move of the workers: one of them acts, or one that has failed raises the flag of a later one. -/
inductive Moves (context : Context) : List Worker → List Worker → Prop where
  | act {worker worker' : Worker} {rest : List Worker} (h : worker.Acts context worker') :
      Moves context (worker :: rest) (worker' :: rest)
  | raise {worker : Worker} {rest rest' : List Worker} (hfailed : worker.hasFailed = true) (h : Raises rest rest') :
      Moves context (worker :: rest) (worker :: rest')
  | later {worker : Worker} {rest rest' : List Worker} (h : Moves context rest rest') :
      Moves context (worker :: rest) (worker :: rest')

inductive Schedule (context : Context) (start : List Worker) : Nat → List Worker → Prop where
  | nil : Schedule context start 0 start
  | snoc {length : Nat} {workers next : List Worker} (h : Schedule context start length workers)
      (hmoves : Moves context workers next) : Schedule context start (length + 1) next

def mergeResults (merged : Model) : List (Except CollectError Model) → Except CollectError Model
  | [] => .ok merged
  | .error error :: _ => .error error
  | .ok model :: rest => mergeResults (merged.merge model) rest

/-- The answer, once all workers have ended. Their results come in the order of the sets. -/
def answer (workers : List Worker) : Option (Except CollectError Model) :=
  if workers.all (·.result?.isSome) then some (mergeResults .empty (workers.filterMap Worker.result?)) else none

end Scheduling

namespace Collection

variable {context : Context} {limit : Nat} {collection next : Collection}

/-! A raised flag takes effect at the discovery of a type only. -/

theorem advance_of_raised_ok (h : collection.advance context limit true = some (.ok next)) :
    collection.advance context limit false = some (.ok next) := by
  match hsteps : collection.pending with
  | [] =>
    rw [advance, hsteps] at h ⊢
    exact h
  | .record entry :: rest =>
    rw [advance_record hsteps] at h ⊢
    exact h
  | .visit edge :: rest =>
    by_cases hvisited : edge.target.normalize.identity ∈ collection.visited
    · rw [advance_visited hsteps hvisited] at h ⊢
      exact h
    · simp [advance_fresh hsteps hvisited] at h

theorem eq_cancelled_of_raised {error : CollectError} (h : collection.advance context limit true = some (.error error)) :
    error = .cancelled := by
  match hsteps : collection.pending with
  | [] => simp [advance, hsteps] at h
  | .record entry :: rest => simp [advance_record hsteps] at h
  | .visit edge :: rest =>
    by_cases hvisited : edge.target.normalize.identity ∈ collection.visited
    · simp [advance_visited hsteps hvisited] at h
    · rw [advance_fresh hsteps hvisited, if_pos rfl] at h
      exact (Except.error.inj (Option.some.inj h)).symm

theorem moves_of_advance {raised : Bool} (hpending : collection.pending ≠ [])
    (h : collection.advance context limit raised = some (.ok next)) : collection.Moves context next := by
  cases raised with
  | false => exact ⟨hpending, limit, h⟩
  | true => exact ⟨hpending, limit, advance_of_raised_ok h⟩

theorem exists_advance {result : Except CollectError Collection} (h : collection.advance context limit false = some result)
    (raised : Bool) : ∃ result', collection.advance context limit raised = some result' := by
  cases raised with
  | false => exact ⟨result, h⟩
  | true =>
    match hsteps : collection.pending with
    | [] => exact ⟨.ok collection, by rw [advance, hsteps]⟩
    | .record entry :: rest => exact ⟨_, advance_record hsteps⟩
    | .visit edge :: rest =>
      by_cases hvisited : edge.target.normalize.identity ∈ collection.visited
      · exact ⟨_, advance_visited hsteps hvisited⟩
      · exact ⟨.error .cancelled, by rw [advance_fresh hsteps hvisited, if_pos rfl]⟩

inductive EndsIn (context : Context) : Nat → Collection → Prop where
  | done {collection : Collection} (hpending : collection.pending = []) : EndsIn context 0 collection
  | fails {collection : Collection} {error : CollectError} (hfails : collection.Fails context error) : EndsIn context 0 collection
  | moves {count : Nat} {collection next : Collection} (hmoves : collection.Moves context next) (hends : EndsIn context count next) :
      EndsIn context (count + 1) collection

theorem exists_endsIn {outcome : Except CollectError Model} (h : collection.Ends context outcome) :
    ∃ count, EndsIn context count collection := by
  induction h with
  | done hpending => exact ⟨0, .done hpending⟩
  | fails hfails => exact ⟨0, .fails hfails⟩
  | moves hmoves _ ih =>
    obtain ⟨count, hcount⟩ := ih
    exact ⟨count + 1, .moves hmoves hcount⟩

theorem EndsIn.of_moves {count : Nat} (h : EndsIn context count collection) (hmoves : collection.Moves context next) :
    ∃ left, count = left + 1 ∧ EndsIn context left next := by
  cases h with
  | done hpending => exact absurd hpending hmoves.1
  | fails hfails => exact absurd hmoves (not_moves_of_fails hfails)
  | moves hmoves' hends =>
    rw [moves_unique hmoves hmoves']
    exact ⟨_, rfl, hends⟩

end Collection

namespace Worker

variable {context : Context} {worker worker' : Worker}

/-- A worker has come as far as its set would without a flag, or it was told to give up. -/
def IsFaithful (context : Context) (worker : Worker) : Prop :=
  match worker.progress with
  | .waiting => True
  | .running collection =>
    (∀ root ∈ worker.roots, context.checkRoot root.normalize = .ok ()) ∧
      ReflTransGen (Collection.Moves context) (Collection.start (worker.roots.map TypeRef.normalize)) collection
  | .ended result => context.Collects worker.roots result ∨ (worker.raised = true ∧ result = .error .cancelled)

theorem begun_cases (context : Context) (roots : List TypeRef) :
    (∃ error, begun context roots = .ended (.error error) ∧ context.Collects roots (.error error)) ∨
      (begun context roots = .running (Collection.start (roots.map TypeRef.normalize)) ∧
        ∀ root ∈ roots, context.checkRoot root.normalize = .ok ()) := by
  cases hchecks : (roots.map TypeRef.normalize).forM context.checkRoot with
  | error error =>
    refine Or.inl ⟨error, by simp only [begun, hchecks], ?_⟩
    exact Context.collects_iff.mpr (Or.inl ⟨error, hchecks, rfl⟩)
  | ok checked => exact Or.inr ⟨by simp only [begun, hchecks], Context.checkRoots_eq_ok.mp hchecks⟩

theorem roots_of_acts (h : worker.Acts context worker') : worker'.roots = worker.roots := by
  cases h <;> rfl

theorem raised_of_acts (h : worker.Acts context worker') : worker'.raised = worker.raised := by
  cases h <;> rfl

theorem hasFailed_of_acts (h : worker.Acts context worker') : worker.hasFailed = false := by
  cases h with
  | begin hwaiting => simp [hasFailed, hwaiting]
  | advance hrunning => simp [hasFailed, hrunning]
  | fail hrunning => simp [hasFailed, hrunning]
  | finish hrunning => simp [hasFailed, hrunning]

theorem IsFaithful.acts (hfaithful : worker.IsFaithful context) (h : worker.Acts context worker') : worker'.IsFaithful context := by
  unfold IsFaithful at hfaithful
  cases h with
  | begin hwaiting =>
    rcases begun_cases context worker.roots with ⟨error, hbegun, hcollects⟩ | ⟨hbegun, hchecked⟩
    · simp only [IsFaithful, hbegun]
      exact Or.inl hcollects
    · simp only [IsFaithful, hbegun]
      exact ⟨hchecked, .refl⟩
  | advance hrunning hpending hadvance =>
    rw [hrunning] at hfaithful
    obtain ⟨hchecked, hsteps⟩ := hfaithful
    exact ⟨hchecked, hsteps.tail (Collection.moves_of_advance hpending hadvance)⟩
  | @fail collection limit error hrunning hadvance =>
    rw [hrunning] at hfaithful
    obtain ⟨hchecked, hsteps⟩ := hfaithful
    by_cases hraised : worker.raised = true
    · rw [hraised] at hadvance
      exact Or.inr ⟨hraised, congrArg Except.error (Collection.eq_cancelled_of_raised hadvance)⟩
    · rw [Bool.eq_false_iff.mpr hraised] at hadvance
      have hends : (Collection.start (worker.roots.map TypeRef.normalize)).Ends context (.error error) :=
        Collection.ends_of_steps hsteps (.fails ⟨limit, hadvance⟩)
      exact Or.inl ((Context.collects_iff_ends hchecked).mpr hends)
  | finish hrunning hpending =>
    rw [hrunning] at hfaithful
    obtain ⟨hchecked, hsteps⟩ := hfaithful
    exact Or.inl ((Context.collects_iff_ends hchecked).mpr (Collection.ends_of_steps hsteps (.done hpending)))

theorem IsFaithful.raise (h : worker.IsFaithful context) : { worker with raised := true }.IsFaithful context := by
  unfold IsFaithful at h ⊢
  split
  · trivial
  · rename_i collection hrunning
    rw [hrunning] at h
    exact h
  · rename_i result hended
    rw [hended] at h
    exact h.imp_right fun hcancelled => ⟨rfl, hcancelled.2⟩

/-- The moves that a worker may still make number at most `left`. -/
def Left (context : Context) (worker : Worker) (left : Nat) : Prop :=
  match worker.progress with
  | .waiting => ∃ count, count + 2 ≤ left ∧ ∀ collection, begun context worker.roots = .running collection →
      Collection.EndsIn context count collection
  | .running collection => ∃ count, count + 1 ≤ left ∧ Collection.EndsIn context count collection
  | .ended _ => True

theorem Left.acts {left : Nat} (h : worker.Left context left) (hacts : worker.Acts context worker') :
    ∃ left', left' < left ∧ worker'.Left context left' := by
  unfold Left at h
  cases hacts with
  | begin hwaiting =>
    rw [hwaiting] at h
    obtain ⟨count, hle, hends⟩ := h
    rcases begun_cases context worker.roots with ⟨error, hbegun, -⟩ | ⟨hbegun, -⟩
    · refine ⟨0, by omega, ?_⟩
      simp only [Left, hbegun]
    · refine ⟨count + 1, by omega, ?_⟩
      simp only [Left, hbegun]
      exact ⟨count, Nat.le_refl _, hends _ hbegun⟩
  | advance hrunning hpending hadvance =>
    rw [hrunning] at h
    obtain ⟨count, hle, hends⟩ := h
    obtain ⟨rest, rfl, hrest⟩ := hends.of_moves (Collection.moves_of_advance hpending hadvance)
    exact ⟨rest + 1, by omega, rest, Nat.le_refl _, hrest⟩
  | fail hrunning hadvance =>
    rw [hrunning] at h
    obtain ⟨count, hle, -⟩ := h
    exact ⟨0, by omega, trivial⟩
  | finish hrunning hpending =>
    rw [hrunning] at h
    obtain ⟨count, hle, -⟩ := h
    exact ⟨0, by omega, trivial⟩

theorem exists_acts {left : Nat} (h : worker.Left context left) (hresult : worker.result? = none) :
    ∃ worker', worker.Acts context worker' := by
  unfold Left at h
  cases hprogress : worker.progress with
  | waiting => exact ⟨_, .begin hprogress⟩
  | ended result => simp [result?, hprogress] at hresult
  | running collection =>
    rw [hprogress] at h
    obtain ⟨count, -, hends⟩ := h
    have hadvances {limit : Nat} {result : Except CollectError Collection} (hpending : collection.pending ≠ [])
        (hadvance : collection.advance context limit false = some result) : ∃ worker', worker.Acts context worker' := by
      obtain ⟨result', hresult'⟩ := Collection.exists_advance hadvance worker.raised
      cases result' with
      | ok next => exact ⟨_, .advance hprogress hpending hresult'⟩
      | error error => exact ⟨_, .fail hprogress hresult'⟩
    cases hends with
    | done hpending => exact ⟨_, .finish hprogress hpending⟩
    | fails hfails =>
      have hpending := Collection.pending_ne_nil_of_fails hfails
      obtain ⟨limit, hadvance⟩ := hfails
      exact hadvances hpending hadvance
    | moves hmoves _ =>
      obtain ⟨hpending, limit, hadvance⟩ := hmoves
      exact hadvances hpending hadvance

theorem exists_left {roots : List TypeRef} {outcome : Except CollectError Model} (h : context.Collects roots outcome) :
    ∃ left, (ofRoots roots).Left context left := by
  rcases begun_cases context roots with ⟨error, hbegun, -⟩ | ⟨hbegun, hchecked⟩
  · refine ⟨2, 0, Nat.le_refl _, ?_⟩
    intro collection hrunning
    rw [ofRoots, hbegun] at hrunning
    simp at hrunning
  · have hends := (Context.collects_iff_ends hchecked).mp h
    obtain ⟨count, hcount⟩ := Collection.exists_endsIn hends
    refine ⟨count + 2, count, Nat.le_refl _, ?_⟩
    intro collection hrunning
    rw [ofRoots, hbegun] at hrunning
    rwa [← Progress.running.inj hrunning]

end Worker

namespace Scheduling

variable {context : Context} {start workers next : List Worker} {failed failed' : Bool} {left length : Nat}

theorem roots_of_raises (h : Raises workers next) : next.map Worker.roots = workers.map Worker.roots := by
  induction h with
  | here _ => rfl
  | there _ ih => rw [List.map_cons, List.map_cons, ih]

theorem roots_of_moves (h : Moves context workers next) : next.map Worker.roots = workers.map Worker.roots := by
  induction h with
  | act hacts => rw [List.map_cons, List.map_cons, Worker.roots_of_acts hacts]
  | raise _ hraises => rw [List.map_cons, List.map_cons, roots_of_raises hraises]
  | later _ ih => rw [List.map_cons, List.map_cons, ih]

/-- Workers that are faithful, and of which none has its flag raised unless one before it has failed. -/
def Orderly (context : Context) (failed : Bool) : List Worker → Prop
  | [] => True
  | worker :: rest =>
    worker.IsFaithful context ∧ (worker.raised = true → failed = true) ∧ Orderly context (failed || worker.hasFailed) rest

theorem Orderly.mono (h : Orderly context failed workers) (himp : failed = true → failed' = true) :
    Orderly context failed' workers := by
  induction workers generalizing failed failed' with
  | nil => trivial
  | cons worker rest ih =>
    obtain ⟨hfaithful, hraised, hrest⟩ := h
    refine ⟨hfaithful, fun hup => himp (hraised hup), ih hrest ?_⟩
    simp only [Bool.or_eq_true]
    exact Or.imp_left himp

theorem Orderly.raises (h : Orderly context true workers) (hraises : Raises workers next) : Orderly context true next := by
  induction hraises with
  | here _ =>
    obtain ⟨hfaithful, -, hrest⟩ := h
    exact ⟨hfaithful.raise, fun _ => rfl, hrest⟩
  | there _ ih =>
    obtain ⟨hfaithful, hraised, hrest⟩ := h
    exact ⟨hfaithful, hraised, ih hrest⟩

theorem Orderly.moves (h : Orderly context failed workers) (hmoves : Moves context workers next) :
    Orderly context failed next := by
  induction hmoves generalizing failed with
  | act hacts =>
    obtain ⟨hfaithful, hraised, hrest⟩ := h
    refine ⟨hfaithful.acts hacts, ?_, hrest.mono ?_⟩
    · rwa [Worker.raised_of_acts hacts]
    · rw [Worker.hasFailed_of_acts hacts, Bool.or_false]
      intro hfailed
      rw [hfailed, Bool.true_or]
  | raise hfailed hraises =>
    obtain ⟨hfaithful, hraised, hrest⟩ := h
    rw [hfailed, Bool.or_true] at hrest
    refine ⟨hfaithful, hraised, ?_⟩
    rw [hfailed, Bool.or_true]
    exact hrest.raises hraises
  | later _ ih =>
    obtain ⟨hfaithful, hraised, hrest⟩ := h
    exact ⟨hfaithful, hraised, ih hrest⟩

theorem orderly_start (sets : List (List TypeRef)) : Orderly context failed (sets.map Worker.ofRoots) := by
  induction sets generalizing failed with
  | nil => trivial
  | cons roots rest ih => exact ⟨trivial, nofun, ih⟩

/-- Orderly workers that have all ended answer for their sets as these end one after another. Up to the first error no worker is raised, so each result is that of its own set. -/
theorem Orderly.mergesTo (h : Orderly context false workers) (hended : workers.all (·.result?.isSome) = true) (merged : Model) :
    context.MergesTo merged (workers.map Worker.roots) (mergeResults merged (workers.filterMap Worker.result?)) := by
  induction workers generalizing merged with
  | nil => exact Context.mergesTo_nil merged
  | cons worker rest ih =>
    obtain ⟨hfaithful, hraised, hrest⟩ := h
    rw [List.all_cons, Bool.and_eq_true] at hended
    obtain ⟨hworker, hendedRest⟩ := hended
    obtain ⟨result, hresult⟩ := Option.isSome_iff_exists.mp hworker
    have hprogress : worker.progress = .ended result := Worker.result?_eq_some.mp hresult
    have hcollects : context.Collects worker.roots result := by
      rw [Worker.IsFaithful, hprogress] at hfaithful
      rcases hfaithful with hcollects | ⟨hup, -⟩
      · exact hcollects
      · exact absurd (hraised hup) Bool.false_ne_true
    rw [List.map_cons, List.filterMap_cons_some hresult]
    cases result with
    | error error => exact Context.mergesTo_cons_error hcollects
    | ok model =>
      rw [Worker.hasFailed, hprogress] at hrest
      exact Context.mergesTo_cons_ok hcollects (ih hrest hendedRest (merged.merge model))

/-- The moves that workers may still make number at most `left`: those of each, and the raising of its flag. -/
def Left (context : Context) : List Worker → Nat → Prop
  | [], _ => True
  | worker :: rest, left =>
    ∃ own others, own + (!worker.raised).toNat + others ≤ left ∧ worker.Left context own ∧ Left context rest others

theorem Left.raises (h : Left context workers left) (hraises : Raises workers next) :
    ∃ left', left' < left ∧ Left context next left' := by
  induction hraises generalizing left with
  | here hlow =>
    obtain ⟨own, others, hle, hworker, hrest⟩ := h
    rw [hlow] at hle
    simp only [Bool.not_false, Bool.toNat_true] at hle
    exact ⟨own + others, by omega, own, others, by simp, hworker, hrest⟩
  | @there worker rest rest' _ ih =>
    obtain ⟨own, others, hle, hworker, hrest⟩ := h
    obtain ⟨others', hlt, hrest'⟩ := ih hrest
    exact ⟨own + (!worker.raised).toNat + others', by omega, own, others', Nat.le_refl _, hworker, hrest'⟩

theorem Left.moves (h : Left context workers left) (hmoves : Moves context workers next) :
    ∃ left', left' < left ∧ Left context next left' := by
  induction hmoves generalizing left with
  | @act worker worker' rest hacts =>
    obtain ⟨own, others, hle, hworker, hrest⟩ := h
    obtain ⟨own', hlt, hworker'⟩ := hworker.acts hacts
    refine ⟨own' + (!worker.raised).toNat + others, by omega, own', others, ?_, hworker', hrest⟩
    exact Nat.le_of_eq (by rw [Worker.raised_of_acts hacts])
  | @raise worker rest rest' _ hraises =>
    obtain ⟨own, others, hle, hworker, hrest⟩ := h
    obtain ⟨others', hlt, hrest'⟩ := hrest.raises hraises
    exact ⟨own + (!worker.raised).toNat + others', by omega, own, others', Nat.le_refl _, hworker, hrest'⟩
  | @later worker rest rest' _ ih =>
    obtain ⟨own, others, hle, hworker, hrest⟩ := h
    obtain ⟨others', hlt, hrest'⟩ := ih hrest
    exact ⟨own + (!worker.raised).toNat + others', by omega, own, others', Nat.le_refl _, hworker, hrest'⟩

theorem exists_left {sets : List (List TypeRef)} (hends : ∀ roots ∈ sets, ∃ outcome, context.Collects roots outcome) :
    ∃ left, Left context (sets.map Worker.ofRoots) left := by
  induction sets with
  | nil => exact ⟨0, trivial⟩
  | cons roots rest ih =>
    obtain ⟨⟨outcome, houtcome⟩, hrest⟩ := List.forall_mem_cons.mp hends
    obtain ⟨own, hown⟩ := Worker.exists_left houtcome
    obtain ⟨others, hothers⟩ := ih hrest
    exact ⟨_, own, others, Nat.le_refl _, hown, hothers⟩

theorem exists_moves (h : Left context workers left) (hanswer : answer workers = none) : ∃ next, Moves context workers next := by
  have hended : workers.all (·.result?.isSome) = false := by
    by_cases hall : workers.all (·.result?.isSome) = true
    · rw [answer, if_pos hall] at hanswer
      simp at hanswer
    · exact Bool.eq_false_iff.mpr hall
  clear hanswer
  induction workers generalizing left with
  | nil => simp at hended
  | cons worker rest ih =>
    obtain ⟨own, others, -, hworker, hrest⟩ := h
    cases hresult : worker.result? with
    | none =>
      obtain ⟨worker', hacts⟩ := Worker.exists_acts hworker hresult
      exact ⟨_, .act hacts⟩
    | some result =>
      rw [List.all_cons, hresult, Option.isSome_some, Bool.true_and] at hended
      obtain ⟨next, hmoves⟩ := ih hrest hended
      exact ⟨_, .later hmoves⟩

theorem Schedule.invariant (h : Schedule context start length workers) (horderly : Orderly context false start)
    (hleft : Left context start left) :
    workers.map Worker.roots = start.map Worker.roots ∧ Orderly context false workers ∧
      ∃ left', length + left' ≤ left ∧ Left context workers left' := by
  induction h with
  | nil => exact ⟨rfl, horderly, left, by omega, hleft⟩
  | snoc _ hmoves ih =>
    obtain ⟨hroots, horderly', left', hle, hleft'⟩ := ih
    obtain ⟨left'', hlt, hleft''⟩ := hleft'.moves hmoves
    exact ⟨(roots_of_moves hmoves).trans hroots, horderly'.moves hmoves, left'', by omega, hleft''⟩

/-- For root sets that each come to an end alone, every schedule does so within a bound, and the answer does not depend on it: it is the merge of the models in the order of the sets or, where sets fail, the error that the first of these has on its own. -/
theorem answer_of_schedule {sets : List (List TypeRef)}
    (hends : ∀ roots ∈ sets, ∃ fuel outcome, context.collect .never fuel roots = some outcome) :
    ∃ bound, ∀ length workers, Schedule context (sets.map Worker.ofRoots) length workers →
      length ≤ bound ∧ (answer workers = none → ∃ next, Moves context workers next) ∧
        ∀ outcome, answer workers = some outcome →
          (∃ fuel, context.collectSets fuel sets = some outcome) ∧
            ((∃ models, List.Forall₂ (fun roots model => context.Collects roots (.ok model)) sets models ∧
                outcome = .ok (models.foldl Model.merge .empty)) ∨
              ∃ before roots after error, sets = before ++ roots :: after ∧
                (∀ earlier ∈ before, ∃ model, context.Collects earlier (.ok model)) ∧
                context.Collects roots (.error error) ∧ outcome = .error error) := by
  have hends' : ∀ roots ∈ sets, ∃ outcome, context.Collects roots outcome :=
    fun roots hset => exists_comm.mp (hends roots hset)
  obtain ⟨bound, hbound⟩ := exists_left hends'
  refine ⟨bound, ?_⟩
  intro length workers hschedule
  obtain ⟨hroots, horderly, left, hle, hleft⟩ := hschedule.invariant (orderly_start sets) hbound
  refine ⟨by omega, exists_moves hleft, ?_⟩
  intro outcome hanswer
  have hmerges : context.MergesTo .empty sets outcome := by
    have hstart : (sets.map Worker.ofRoots).map Worker.roots = sets := by
      rw [List.map_map]
      exact List.map_id sets
    rw [answer, Option.ite_none_right_eq_some] at hanswer
    obtain ⟨hended, houtcome⟩ := hanswer
    have hmerged := horderly.mergesTo hended .empty
    rwa [hroots, hstart, Option.some.inj houtcome] at hmerged
  exact ⟨hmerges, Context.mergesTo_cases hmerges⟩

/-- The set in the middle has an unknown root. However the box fares in the meantime, that root's error is the answer. -/
theorem answer_of_unknown_root :
    ∃ error, Context.boxContext.Collects [.named "Demo.Missing" []] (.error error) ∧
      ∀ length workers outcome,
        Schedule Context.boxContext
          ([[Context.plainType], [.named "Demo.Missing" []], [Context.boxType]].map Worker.ofRoots) length workers →
        answer workers = some outcome → outcome = .error error := by
  have hsome : ∀ roots ∈ [[Context.plainType], [.named "Demo.Missing" []], [Context.boxType]],
      (Context.boxContext.collect .never 40 roots).isSome = true := by decide +kernel
  have hplain : ((Context.boxContext.collect .never 40 [Context.plainType]).bind Except.toOption).isSome = true := by
    decide +kernel
  obtain ⟨model, hmodel⟩ := Option.isSome_iff_exists.mp hplain
  have hmissing : ∃ error, Context.boxContext.collect .never 40 [.named "Demo.Missing" []] = some (.error error) := ⟨_, rfl⟩
  obtain ⟨error, herror⟩ := hmissing
  refine ⟨error, ⟨40, herror⟩, ?_⟩
  intro length workers outcome hschedule hanswer
  obtain ⟨bound, hbound⟩ := answer_of_schedule fun roots hset => ⟨40, Option.isSome_iff_exists.mp (hsome roots hset)⟩
  obtain ⟨-, -, hanswers⟩ := hbound length workers hschedule
  have hfirst : Context.boxContext.Collects [Context.plainType] (.ok model) := ⟨40, Context.eq_ok_of_toOption hmodel⟩
  exact Context.mergesTo_unique (hanswers outcome hanswer).1
    (Context.mergesTo_cons_ok hfirst (Context.mergesTo_cons_error ⟨40, herror⟩))

end Scheduling

end SchemaClosure
