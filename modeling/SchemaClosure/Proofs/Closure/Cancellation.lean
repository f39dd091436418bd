import SchemaClosure.Proofs.Closure.Failure
import SchemaClosure.Proofs.Closure.Reachability

/-!
Cancelled collections. A collection asks its signal at the discovery of each type and nowhere else, so it goes the way of the run without a signal up to the first of these polls that finds the signal up. Either it comes to the same end, or it is cancelled: `collect_of_signal`.
-/

namespace SchemaClosure

namespace Context

variable {context : Context} {root : TypeRef} {error : CollectError}

/-! Every error names a type, except that of a cancelled collection. -/

theorem isSome_identity?_of_fails {collection : Collection} (h : collection.Fails context error) : error.identity?.isSome = true := by
  obtain ⟨edge, rest, limit, cause, -, -, hresolve, rfl⟩ := Collection.fails_iff.mp h
  rw [CollectError.identity?_reachedThrough, identity?_of_resolve hresolve]
  rfl

theorem isSome_identity?_of_ends {collection : Collection} {outcome : Except CollectError Model}
    (h : collection.Ends context outcome) (houtcome : outcome = .error error) : error.identity?.isSome = true := by
  induction h with
  | done hpending => simp at houtcome
  | fails hfails =>
    rw [← Except.error.inj houtcome]
    exact isSome_identity?_of_fails hfails
  | moves hmoves hends ih => exact ih houtcome

theorem isSome_identity?_of_checkRoots {roots : List TypeRef} (h : roots.forM context.checkRoot = .error error) :
    error.identity?.isSome = true := by
  obtain ⟨root, -, hroot⟩ := exists_of_forM_eq_error h
  rw [identity?_of_checkRoot hroot]
  rfl

end Context

namespace Collection

/-- The type that a collection is about to discover. -/
def discovery? (collection : Collection) : Option TypeIdentity :=
  match collection.pending with
  | .visit edge :: _ =>
    let identity := edge.target.normalize.identity
    if collection.visited.contains identity then none else some identity
  | _ => none

/-- The states in which a run without a signal would ask it, in their order. -/
def polls (context : Context) : (fuel : Nat) → Collection → List Collection
  | 0, _ => []
  | fuel + 1, collection =>
    (if collection.discovery?.isSome then [collection] else []) ++
      match collection.advance context fuel false with
      | some (.ok next) => next.polls context fuel
      | _ => []

variable {context : Context} {limit fuel : Nat} {signal : Signal} {collection next : Collection}

theorem discovery?_eq_some {identity : TypeIdentity} (h : collection.discovery? = some identity) :
    ∃ edge rest, collection.pending = .visit edge :: rest ∧ edge.target.normalize.identity = identity ∧
      identity ∉ collection.visited := by
  unfold discovery? at h
  split at h
  · rename_i edge rest hpending
    simp only at h
    split at h
    · simp at h
    · rename_i hfresh
      obtain rfl := Option.some.inj h
      exact ⟨edge, rest, hpending, rfl, fun hmem => hfresh (List.contains_iff_mem.mpr hmem)⟩
  · simp at h

/-- A signal that is up gives up the discovery of a type. -/
theorem advance_of_discovery (h : collection.discovery?.isSome = true) :
    collection.advance context limit true = some (.error .cancelled) := by
  obtain ⟨identity, hidentity⟩ := Option.isSome_iff_exists.mp h
  obtain ⟨edge, rest, hpending, rfl, hfresh⟩ := discovery?_eq_some hidentity
  rw [advance_fresh hpending hfresh, if_pos rfl]

/-- Every other step is carried out whether the signal is up or not. -/
theorem advance_of_no_discovery (h : collection.discovery? = none) (raised : Bool) :
    collection.advance context limit raised = collection.advance context limit false := by
  match hpending : collection.pending with
  | [] => rw [advance, advance, hpending]
  | .record entry :: rest => rw [advance_record hpending, advance_record hpending]
  | .visit edge :: rest =>
    have hvisited : edge.target.normalize.identity ∈ collection.visited := by
      simpa [discovery?, hpending] using h
    rw [advance_visited hpending hvisited, advance_visited hpending hvisited]

/-- While the signal is down or is not asked, a step is that of a run without one. -/
theorem advance_of_unraised (h : ¬(collection.discovery?.isSome = true ∧ signal collection = true)) :
    collection.advance context limit (signal collection) = collection.advance context limit false := by
  cases hdiscovery : collection.discovery? with
  | none => exact advance_of_no_discovery hdiscovery _
  | some identity =>
    have hdown : signal collection = false := by simpa [hdiscovery] using h
    rw [hdown]

theorem polls_of_done (h : collection.pending = []) (fuel : Nat) : collection.polls context fuel = [] := by
  induction fuel with
  | zero => rfl
  | succ fuel ih => simp [polls, discovery?, advance, h, ih]

/-- A run with a signal is cancelled at the first poll that finds it up, and otherwise ends as it does without one. -/
theorem run_of_polls {outcome : Except CollectError Model} (h : collection.run context .never fuel = some outcome)
    (signal : Signal) :
    collection.run context signal fuel =
      some (if (collection.polls context fuel).any signal then .error .cancelled else outcome) := by
  induction fuel generalizing collection with
  | zero => simp [run] at h
  | succ fuel ih =>
    unfold run at h ⊢
    split
    · rename_i hpending
      rw [if_pos hpending] at h
      rw [polls_of_done (List.isEmpty_iff.mp hpending)]
      simpa using h
    · rename_i hpending
      rw [if_neg hpending, Signal.never] at h
      by_cases hgiven : collection.discovery?.isSome = true ∧ signal collection = true
      · obtain ⟨hdiscovery, hraised⟩ := hgiven
        rw [hraised, advance_of_discovery hdiscovery]
        simp [polls, hdiscovery, hraised]
      · have hpassed : (if collection.discovery?.isSome then [collection] else []).any signal = false := by
          split
          · rename_i hdiscovery
            simpa [hdiscovery] using hgiven
          · rfl
        rw [advance_of_unraised hgiven, polls, List.any_append, hpassed, Bool.false_or]
        cases hnext : collection.advance context fuel false with
        | none => simp [hnext] at h
        | some result =>
          rw [hnext] at h
          cases result with
          | error error => simpa using h
          | ok next => exact ih h

/-- A run that is not cancelled ends as it does without a signal. -/
theorem run_of_ne_cancelled {outcome : Except CollectError Model} (h : collection.run context signal fuel = some outcome)
    (hne : outcome ≠ .error .cancelled) : collection.run context .never fuel = some outcome := by
  induction fuel generalizing collection with
  | zero => simp [run] at h
  | succ fuel ih =>
    unfold run at h ⊢
    split at h
    · rename_i hpending
      rw [if_pos hpending]
      exact h
    · rename_i hpending
      rw [if_neg hpending, Signal.never]
      by_cases hgiven : collection.discovery?.isSome = true ∧ signal collection = true
      · obtain ⟨hdiscovery, hraised⟩ := hgiven
        rw [hraised, advance_of_discovery hdiscovery] at h
        exact absurd (Option.some.inj h).symm hne
      · rw [advance_of_unraised hgiven] at h
        cases hnext : collection.advance context fuel false with
        | none => simp [hnext] at h
        | some result =>
          rw [hnext] at h
          cases result with
          | error error => exact h
          | ok next => exact ih h

/-! Each poll is about a type that has not been asked about before. -/

theorem visited_of_advance (h : collection.advance context limit false = some (.ok next)) :
    next.visited = collection.discovery?.toList ++ collection.visited := by
  match hpending : collection.pending with
  | [] =>
    rw [advance, hpending] at h
    rw [← Except.ok.inj (Option.some.inj h)]
    simp [discovery?, hpending]
  | .record entry :: rest =>
    rw [advance_record hpending] at h
    rw [← Except.ok.inj (Option.some.inj h)]
    simp [discovery?, hpending]
  | .visit edge :: rest =>
    by_cases hvisited : edge.target.normalize.identity ∈ collection.visited
    · rw [advance_visited hpending hvisited] at h
      rw [← Except.ok.inj (Option.some.inj h)]
      simp [discovery?, hpending, hvisited]
    · rw [advance_fresh hpending hvisited, if_neg Bool.false_ne_true] at h
      obtain ⟨resolved, -, hnext⟩ := Option.map_eq_some_iff.mp h
      cases resolved with
      | error error => simp at hnext
      | ok resolution =>
        rw [← Except.ok.inj hnext]
        simp [discovery?, hpending, hvisited, discover]

/-- A run polls at first if it is about to discover a type, and then as it does after that step. -/
theorem polls_cases (context : Context) (fuel : Nat) (collection : Collection) :
    collection.polls context (fuel + 1) = (if collection.discovery?.isSome then [collection] else []) ∨
      ∃ next : Collection, next.visited = collection.discovery?.toList ++ collection.visited ∧
        collection.polls context (fuel + 1) =
          (if collection.discovery?.isSome then [collection] else []) ++ next.polls context fuel := by
  rw [polls]
  cases hadvance : collection.advance context fuel false with
  | none => exact Or.inl (List.append_nil _)
  | some result =>
    cases result with
    | error error => exact Or.inl (List.append_nil _)
    | ok next => exact Or.inr ⟨next, visited_of_advance hadvance, rfl⟩

theorem exists_discovery_of_mem_polls {poll : Collection} (h : poll ∈ collection.polls context fuel) :
    ∃ identity, poll.discovery? = some identity ∧ identity ∉ collection.visited := by
  induction fuel generalizing collection with
  | zero => exact absurd h List.not_mem_nil
  | succ fuel ih =>
    have hhead (hmem : poll ∈ if collection.discovery?.isSome then [collection] else []) :
        ∃ identity, poll.discovery? = some identity ∧ identity ∉ collection.visited := by
      split at hmem
      · rename_i hdiscovery
        rw [List.mem_singleton.mp hmem]
        obtain ⟨identity, hidentity⟩ := Option.isSome_iff_exists.mp hdiscovery
        obtain ⟨_, _, -, -, hfresh⟩ := discovery?_eq_some hidentity
        exact ⟨identity, hidentity, hfresh⟩
      · exact absurd hmem List.not_mem_nil
    rcases polls_cases context fuel collection with hpolls | ⟨next, hvisited, hpolls⟩
    · exact hhead (hpolls ▸ h)
    · rw [hpolls, List.mem_append] at h
      rcases h with h | h
      · exact hhead h
      · obtain ⟨identity, hidentity, hfresh⟩ := ih h
        rw [hvisited, List.mem_append, not_or] at hfresh
        exact ⟨identity, hidentity, hfresh.2⟩

theorem nodup_polls (context : Context) (fuel : Nat) (collection : Collection) :
    ((collection.polls context fuel).map discovery?).Nodup := by
  induction fuel generalizing collection with
  | zero => exact List.nodup_nil
  | succ fuel ih =>
    rcases polls_cases context fuel collection with hpolls | ⟨next, hvisited, hpolls⟩
    · rw [hpolls]
      split <;> simp
    · rw [hpolls]
      split
      · refine List.nodup_cons.mpr ⟨?_, ih next⟩
        intro hmem
        obtain ⟨poll, hpoll, hsame⟩ := List.mem_map.mp hmem
        obtain ⟨identity, hidentity, hfresh⟩ := exists_discovery_of_mem_polls hpoll
        rw [hvisited, ← hsame, hidentity] at hfresh
        simp at hfresh
      · exact ih next

/-- Before a poll as many types have been visited as polls have been made. -/
theorem visited_length_polls (context : Context) (fuel : Nat) (collection : Collection) :
    (collection.polls context fuel).map (·.visited.length) =
      List.range' collection.visited.length (collection.polls context fuel).length := by
  induction fuel generalizing collection with
  | zero => rfl
  | succ fuel ih =>
    rcases polls_cases context fuel collection with hpolls | ⟨next, hvisited, hpolls⟩
    · rw [hpolls]
      split <;> simp
    · rw [hpolls]
      split
      · rename_i hdiscovery
        obtain ⟨identity, hidentity⟩ := Option.isSome_iff_exists.mp hdiscovery
        have hlength : next.visited.length = collection.visited.length + 1 := by simp [hvisited, hidentity]
        rw [List.singleton_append, List.map_cons, List.length_cons, List.range'_succ, ih next, hlength]
      · rename_i hdiscovery
        have hlength : next.visited.length = collection.visited.length := by
          simp only [Option.not_isSome_iff_eq_none] at hdiscovery
          simp [hvisited, hdiscovery]
        rw [List.nil_append, ih next, hlength]

end Collection

/-- A flag that goes up for good before the poll with this number, counted from zero. -/
def Signal.raisedAt (moment : Nat) : Signal := fun collection => moment ≤ collection.visited.length

theorem Signal.any_raisedAt {polls : List Collection} (h : polls.map (·.visited.length) = List.range' 0 polls.length)
    (moment : Nat) : polls.any (Signal.raisedAt moment) = decide (moment < polls.length) := by
  have hany : polls.any (Signal.raisedAt moment) = (polls.map (·.visited.length)).any (moment ≤ ·) := by
    rw [List.any_map]
    rfl
  rw [hany, h, Bool.eq_iff_iff, List.any_eq_true, decide_eq_true_eq]
  simp only [List.mem_range'_1, decide_eq_true_eq]
  constructor
  · rintro ⟨number, hnumber, hle⟩
    omega
  · intro hlt
    exact ⟨moment, by omega, Nat.le_refl _⟩

namespace Context

/-- The polls of a collection of some roots. It makes none if a root does not pass its check. -/
def polls (context : Context) (fuel : Nat) (roots : List TypeRef) : List Collection :=
  let roots := roots.map TypeRef.normalize
  match roots.forM context.checkRoot with
  | .error _ => []
  | .ok () => (Collection.start roots).polls context fuel

variable {context : Context} {fuel : Nat} {roots : List TypeRef} {outcome : Except CollectError Model}

theorem polls_of_error {error : CollectError} (h : (roots.map TypeRef.normalize).forM context.checkRoot = .error error) :
    context.polls fuel roots = [] := by
  simp only [polls, h]

theorem polls_of_ok (h : (roots.map TypeRef.normalize).forM context.checkRoot = .ok ()) :
    context.polls fuel roots = (Collection.start (roots.map TypeRef.normalize)).polls context fuel := by
  simp only [polls, h]

theorem nodup_polls (context : Context) (fuel : Nat) (roots : List TypeRef) :
    ((context.polls fuel roots).map Collection.discovery?).Nodup := by
  cases hchecked : (roots.map TypeRef.normalize).forM context.checkRoot with
  | error error => simp [polls_of_error hchecked]
  | ok checked =>
    rw [polls_of_ok hchecked]
    exact Collection.nodup_polls context fuel _

theorem any_raisedAt_polls (context : Context) (fuel : Nat) (roots : List TypeRef) (moment : Nat) :
    (context.polls fuel roots).any (Signal.raisedAt moment) = decide (moment < (context.polls fuel roots).length) := by
  apply Signal.any_raisedAt
  cases hchecked : (roots.map TypeRef.normalize).forM context.checkRoot with
  | error error => simp [polls_of_error hchecked]
  | ok checked =>
    rw [polls_of_ok hchecked]
    exact Collection.visited_length_polls context fuel _

theorem collect_of_polls (h : context.collect .never fuel roots = some outcome) (signal : Signal) :
    context.collect signal fuel roots =
      some (if (context.polls fuel roots).any signal then .error .cancelled else outcome) := by
  simp only [collect] at h ⊢
  cases hchecked : (roots.map TypeRef.normalize).forM context.checkRoot with
  | error error =>
    rw [hchecked] at h
    rw [polls_of_error hchecked]
    exact h
  | ok checked =>
    rw [hchecked] at h
    rw [polls_of_ok hchecked]
    exact Collection.run_of_polls h signal

theorem collects_of_ne_cancelled {signal : Signal} (h : context.collect signal fuel roots = some outcome)
    (hne : outcome ≠ .error .cancelled) : context.Collects roots outcome := by
  refine ⟨fuel, ?_⟩
  simp only [collect] at h ⊢
  cases hchecked : (roots.map TypeRef.normalize).forM context.checkRoot with
  | error error => rwa [hchecked] at h
  | ok checked =>
    rw [hchecked] at h
    exact Collection.run_of_ne_cancelled h hne

theorem isSome_discovery?_of_mem_polls {poll : Collection} (h : poll ∈ context.polls fuel roots) :
    poll.discovery?.isSome = true := by
  cases hchecked : (roots.map TypeRef.normalize).forM context.checkRoot with
  | error error =>
    rw [polls_of_error hchecked] at h
    exact absurd h List.not_mem_nil
  | ok checked =>
    rw [polls_of_ok hchecked] at h
    obtain ⟨identity, hidentity, -⟩ := Collection.exists_discovery_of_mem_polls h
    rw [hidentity]
    rfl

/-- A collection without a signal is never cancelled. -/
theorem ne_cancelled_of_collects (h : context.Collects roots outcome) : outcome ≠ .error .cancelled := by
  have hnames {error : CollectError} (herror : outcome = .error error) : error.identity?.isSome = true := by
    rcases collects_iff.mp h with ⟨cause, hchecked, hcause⟩ | ⟨-, hends⟩
    · rw [Except.error.inj (herror.symm.trans hcause)]
      exact isSome_identity?_of_checkRoots hchecked
    · exact isSome_identity?_of_ends hends herror
  intro hcancelled
  simpa [CollectError.identity?] using hnames hcancelled

/-- A signal makes a collection end as it would without one, or cancelled if it finds the signal up at one of its polls; each of these is about a type that has not been asked about before. For a flag that stays up that is to say that it goes up before the last poll. A root that does not pass its check is reported whatever the signal does. -/
theorem collect_of_signal (h : context.collect .never fuel roots = some outcome) :
    (∀ signal, context.collect signal fuel roots =
        some (if (context.polls fuel roots).any signal then .error .cancelled else outcome)) ∧
      (∀ moment, context.collect (Signal.raisedAt moment) fuel roots =
        some (if moment < (context.polls fuel roots).length then .error .cancelled else outcome)) ∧
      outcome ≠ .error .cancelled ∧
      ((context.polls fuel roots).map Collection.discovery?).Nodup ∧
      (∀ poll ∈ context.polls fuel roots, poll.discovery?.isSome = true) ∧
      ∀ error, (roots.map TypeRef.normalize).forM context.checkRoot = .error error →
        ∀ signal, context.collect signal fuel roots = some (.error error) := by
  refine ⟨collect_of_polls h, ?_, ne_cancelled_of_collects ⟨fuel, h⟩, nodup_polls context fuel roots, ?_, ?_⟩
  · intro moment
    simp [collect_of_polls h, any_raisedAt_polls]
  · exact fun poll hpoll => isSome_discovery?_of_mem_polls hpoll
  · intro error hchecked signal
    simp only [collect, hchecked]

/-- The shape leads to six further types: a flag that goes up before the last poll ends the collection, and one that goes up later does not show. -/
theorem collect_shape_raised :
    boxContext.collect (Signal.raisedAt 6) 60 [unionType] = some (.error .cancelled) ∧
      ∃ model, boxContext.collect .never 60 [unionType] = some (.ok model) ∧
        boxContext.collect (Signal.raisedAt 7) 60 [unionType] = some (.ok model) := by
  have hsome : ((boxContext.collect .never 60 [unionType]).bind Except.toOption).isSome = true := by decide +kernel
  have hlength : (boxContext.polls 60 [unionType]).length = 7 := by decide +kernel
  obtain ⟨model, hmodel⟩ := Option.isSome_iff_exists.mp hsome
  have hcollect := eq_ok_of_toOption hmodel
  have hraised := (collect_of_signal hcollect).2.1
  rw [hlength] at hraised
  exact ⟨hraised 6, model, hcollect, hraised 7⟩

end Context

end SchemaClosure
