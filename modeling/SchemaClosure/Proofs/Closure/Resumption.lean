import SchemaClosure.Proofs.Closure.Invariant

/-!
A collection that is resumed with further roots, against one that begins afresh with them. The resumed one passes over what has been visited before; the fresh one visits it again, and finds nothing that the merge of the models would not have.
-/

namespace SchemaClosure

open Relation

namespace Collection

variable {context : Context} {scope : List String} {prior alone together next last : Collection}

/-- A finished collection with further roots to visit. -/
def resume (prior : Collection) (roots : List TypeRef) : Collection := { prior with pending := Context.visits roots }

/-- A step that can do nothing after the prior collection. -/
def Settles (prior : Collection) : Step → Prop
  | .visit edge => edge.target.normalize.identity ∈ prior.visited
  | .record entry => (prior.model.find? entry.key).isSome = true

/-- Pending steps from which settled ones are left out. -/
inductive LeavesOut (prior : Collection) : List Step → List Step → Prop where
  | nil : LeavesOut prior [] []
  | keep (step : Step) {steps steps' : List Step} (h : LeavesOut prior steps steps') :
      LeavesOut prior (step :: steps) (step :: steps')
  | drop {step : Step} {steps steps' : List Step} (hsettled : prior.Settles step) (h : LeavesOut prior steps steps') :
      LeavesOut prior (step :: steps) steps'

theorem leavesOut_refl (prior : Collection) (steps : List Step) : prior.LeavesOut steps steps := by
  induction steps with
  | nil => exact .nil
  | cons step rest ih => exact .keep step ih

theorem LeavesOut.eq_nil {left : List Step} (h : prior.LeavesOut [] left) : left = [] := by
  cases h
  rfl

theorem LeavesOut.cons_cases {step : Step} {steps left : List Step} (h : prior.LeavesOut (step :: steps) left) :
    (∃ rest, left = step :: rest ∧ prior.LeavesOut steps rest) ∨ (prior.Settles step ∧ prior.LeavesOut steps left) := by
  cases h with
  | keep _ h => exact Or.inl ⟨_, rfl, h⟩
  | drop hsettled h => exact Or.inr ⟨hsettled, h⟩

theorem LeavesOut.append_left {steps rest rest' : List Step} (h : prior.LeavesOut rest rest') :
    prior.LeavesOut (steps ++ rest) (steps ++ rest') := by
  induction steps with
  | nil => exact h
  | cons step steps ih => exact .keep step ih

theorem LeavesOut.drop_all {steps rest rest' : List Step} (hsettled : ∀ step ∈ steps, prior.Settles step)
    (h : prior.LeavesOut rest rest') : prior.LeavesOut (steps ++ rest) rest' := by
  induction steps with
  | nil => exact h
  | cons step steps ih =>
    obtain ⟨hstep, hsteps⟩ := List.forall_mem_cons.mp hsettled
    exact .drop hstep (ih hsteps)

theorem mem_targets_of_mem {steps : List Step} {edge : Edge} (h : .visit edge ∈ steps) : edge.target ∈ Step.targets steps :=
  List.mem_filterMap.mpr ⟨_, h, rfl⟩

theorem mem_entries_of_mem {steps : List Step} {entry : Entry} (h : .record entry ∈ steps) : entry ∈ Step.entries steps :=
  List.mem_filterMap.mpr ⟨_, h, rfl⟩

/-- The steps of a type that the prior collection has visited are settled. -/
theorem settles_of_resolve (hprior : prior.Consistent context (TypeRef.IsCanonical scope)) (hdone : prior.pending = [])
    {type : TypeRef} (htype : type.IsCanonical scope) (hvisited : type.identity ∈ prior.visited) {limit : Nat}
    {resolution : Resolution} (hresolve : context.resolve limit type = some (.ok resolution)) (member : Option String) :
    ∀ step ∈ resolution.steps.map (·.reachedThrough member), prior.Settles step := by
  intro step hmem
  have hattends := hprior.attends htype hvisited
  cases step with
  | visit edge =>
    have htarget := mem_targets_of_mem hmem
    rw [Step.targets_map_reachedThrough] at htarget
    exact (hattends.reaches ((Context.mem_targets_iff hresolve).mp htarget)).mem_visited hdone
  | record entry =>
    have hentry := mem_entries_of_mem hmem
    rw [Step.entries_map_reachedThrough] at hentry
    exact (hattends.covers ((Context.mem_entries_iff hresolve).mp hentry)).isSome hdone

/-- A collection resumed after the prior one, beside the fresh collection of the same roots. -/
structure Follows (context : Context) (scope : List String) (prior alone together : Collection) : Prop where
  consistent : alone.Consistent context (TypeRef.IsCanonical scope)
  visited : ∀ identity, identity ∈ together.visited ↔ identity ∈ prior.visited ∨ identity ∈ alone.visited
  model : together.model = prior.model.merge alone.model
  pending : prior.LeavesOut alone.pending together.pending

theorem merge_record_of_consistent {entry : Entry} (hprior : prior.Consistent context (TypeRef.IsCanonical scope))
    (halone : alone.Consistent context (TypeRef.IsCanonical scope)) (hentry : entry ∈ Step.entries alone.pending) :
    prior.model.merge (alone.model.record entry) = (prior.model.merge alone.model).record entry := by
  obtain ⟨type, htype, hyields⟩ := halone.entries hentry
  apply Model.merge_record
  · intro old hold
    obtain ⟨hkey, other, hother, hyieldsOld⟩ := hprior.held hold
    exact hyieldsOld.agrees hother htype hyields hkey
  · intro old hold
    obtain ⟨hkey, other, hother, hyieldsOld⟩ := halone.held hold
    exact hyieldsOld.agrees hother htype hyields hkey

theorem Follows.record {entry : Entry} {rest : List Step} (hsnapshot : context.snapshot.isLegible scope = true)
    (hprior : prior.Consistent context (TypeRef.IsCanonical scope)) (h : Follows context scope prior alone together)
    (hsteps : alone.pending = .record entry :: rest) :
    ∃ next, ReflTransGen (Moves context) together next ∧
      Follows context scope prior { alone with model := alone.model.record entry, pending := rest } next := by
  have hconsistent := h.consistent.moves (Context.isClosed_isCanonical hsnapshot) (moves_record hsteps)
  have hpending := h.pending
  rw [hsteps] at hpending
  rcases hpending.cons_cases with ⟨rest', htogether, hrest⟩ | ⟨hsettled, hrest⟩
  · refine ⟨_, .single (moves_record htogether), hconsistent, h.visited, ?_, hrest⟩
    rw [merge_record_of_consistent hprior h.consistent (by rw [hsteps]; exact List.mem_cons_self), ← h.model]
  · refine ⟨together, .refl, hconsistent, h.visited, ?_, hrest⟩
    rw [h.model]
    exact (Model.merge_record_of_mem hsettled).symm

theorem Follows.visit {edge : Edge} {rest : List Step} (hsnapshot : context.snapshot.isLegible scope = true)
    (h : Follows context scope prior alone together) (hsteps : alone.pending = .visit edge :: rest)
    (hvisited : edge.target.normalize.identity ∈ alone.visited) :
    ∃ next, ReflTransGen (Moves context) together next ∧ Follows context scope prior { alone with pending := rest } next := by
  have hconsistent := h.consistent.moves (Context.isClosed_isCanonical hsnapshot) (moves_visited hsteps hvisited)
  have hpending := h.pending
  rw [hsteps] at hpending
  rcases hpending.cons_cases with ⟨rest', htogether, hrest⟩ | ⟨-, hrest⟩
  · have hvisited' : edge.target.normalize.identity ∈ together.visited := (h.visited _).mpr (Or.inr hvisited)
    exact ⟨_, .single (moves_visited htogether hvisited'), hconsistent, h.visited, h.model, hrest⟩
  · exact ⟨together, .refl, hconsistent, h.visited, h.model, hrest⟩

/-- What the fresh collection discovers the resumed one discovers as well, unless it was visited before; then all its steps are settled. -/
theorem Follows.discover {edge : Edge} {rest : List Step} {limit : Nat} {resolution : Resolution}
    (hsnapshot : context.snapshot.isLegible scope = true) (hprior : prior.Consistent context (TypeRef.IsCanonical scope))
    (hdone : prior.pending = []) (h : Follows context scope prior alone together)
    (hsteps : alone.pending = .visit edge :: rest) (hfresh : edge.target.normalize.identity ∉ alone.visited)
    (hresolve : context.resolve limit edge.target.normalize = some (.ok resolution)) :
    ∃ next, ReflTransGen (Moves context) together next ∧
      Follows context scope prior (alone.discover edge.member edge.target.normalize resolution rest) next := by
  have htarget : edge.target.normalize.IsCanonical scope := h.consistent.targets (by rw [hsteps]; exact List.mem_cons_self)
  have hconsistent := h.consistent.moves (Context.isClosed_isCanonical hsnapshot) (moves_discover hsteps hfresh hresolve)
  have hpending := h.pending
  rw [hsteps] at hpending
  by_cases hvisited : edge.target.normalize.identity ∈ prior.visited
  · have hsettled := settles_of_resolve hprior hdone htarget hvisited hresolve edge.member
    have hsame (identity : TypeIdentity) : identity ∈ together.visited ↔ identity ∈ prior.visited ∨
        identity ∈ (alone.discover edge.member edge.target.normalize resolution rest).visited := by
      rw [h.visited, Collection.discover, List.mem_cons]
      constructor
      · exact Or.imp_right Or.inr
      · rintro (hprior | rfl | halone)
        · exact Or.inl hprior
        · exact Or.inl hvisited
        · exact Or.inr halone
    rcases hpending.cons_cases with ⟨rest', htogether, hrest⟩ | ⟨-, hrest⟩
    · have hvisited' : edge.target.normalize.identity ∈ together.visited := (h.visited _).mpr (Or.inl hvisited)
      exact ⟨_, .single (moves_visited htogether hvisited'), hconsistent, hsame, h.model, hrest.drop_all hsettled⟩
    · exact ⟨together, .refl, hconsistent, hsame, h.model, hrest.drop_all hsettled⟩
  · rcases hpending.cons_cases with ⟨rest', htogether, hrest⟩ | ⟨hsettled, -⟩
    · have hfresh' : edge.target.normalize.identity ∉ together.visited := by
        rw [h.visited, not_or]
        exact ⟨hvisited, hfresh⟩
      refine ⟨_, .single (moves_discover htogether hfresh' hresolve), hconsistent, ?_, h.model, hrest.append_left⟩
      intro identity
      rw [Collection.discover, Collection.discover, List.mem_cons, List.mem_cons, h.visited, or_left_comm]
    · exact absurd hsettled hvisited

theorem Follows.moves (hsnapshot : context.snapshot.isLegible scope = true)
    (hprior : prior.Consistent context (TypeRef.IsCanonical scope)) (hdone : prior.pending = [])
    (h : Follows context scope prior alone together) (hmoves : alone.Moves context next) :
    ∃ next', ReflTransGen (Moves context) together next' ∧ Follows context scope prior next next' := by
  rcases moves_cases hmoves with ⟨entry, rest, hsteps, rfl⟩ | ⟨edge, rest, hsteps, hvisited, rfl⟩ |
      ⟨edge, rest, limit, resolution, hsteps, hfresh, hresolve, rfl⟩
  · exact h.record hsnapshot hprior hsteps
  · exact h.visit hsnapshot hsteps hvisited
  · exact h.discover hsnapshot hprior hdone hsteps hfresh hresolve

/-- Where the fresh collection fails, so does the resumed one: what was visited before resolves. -/
theorem Follows.fails (hsnapshot : context.snapshot.isLegible scope = true)
    (hprior : prior.Consistent context (TypeRef.IsCanonical scope)) (h : Follows context scope prior alone together)
    {error : CollectError} (hfails : alone.Fails context error) : together.Fails context error := by
  obtain ⟨edge, rest, limit, cause, hsteps, hfresh, hresolve, herror⟩ := fails_iff.mp hfails
  have htarget : edge.target.normalize.IsCanonical scope := h.consistent.targets (by rw [hsteps]; exact List.mem_cons_self)
  have hunvisited : edge.target.normalize.identity ∉ prior.visited := by
    intro hvisited
    obtain ⟨limit', resolution, hserves⟩ := hprior.serves (Context.isClosed_isCanonical hsnapshot) htarget hvisited
    simpa using Context.resolve_unique hresolve hserves
  have hpending := h.pending
  rw [hsteps] at hpending
  rcases hpending.cons_cases with ⟨rest', htogether, -⟩ | ⟨hsettled, -⟩
  · refine fails_iff.mpr ⟨edge, rest', limit, cause, htogether, ?_, hresolve, herror⟩
    rw [h.visited, not_or]
    exact ⟨hunvisited, hfresh⟩
  · exact absurd hsettled hunvisited

theorem consistent_resume {types : TypeRef → Prop} (hprior : prior.Consistent context types) (hdone : prior.pending = [])
    {roots : List TypeRef} (hroots : ∀ root ∈ roots, types root.normalize) : (prior.resume roots).Consistent context types where
  visited hmem := hprior.visited hmem
  targets hmem := by
    rw [resume, Step.targets_visits] at hmem
    exact hroots _ hmem
  entries hmem := by
    rw [resume, Step.entries_visits] at hmem
    exact absurd hmem List.not_mem_nil
  held hheld := hprior.held hheld
  attends htype hmem :=
    { reaches := fun hleads => Or.inl (((hprior.attends htype hmem).reaches hleads).mem_visited hdone)
      covers := fun hyields => Or.inl (((hprior.attends htype hmem).covers hyields).isSome hdone) }

theorem follows_start {roots : List TypeRef} (hroots : ∀ root ∈ roots, root.normalize.IsCanonical scope) :
    Follows context scope prior (start roots) (prior.resume roots) where
  consistent := consistent_start hroots
  visited identity := by
    rw [start, resume]
    simp
  model := (Model.merge_empty prior.model).symm
  pending := leavesOut_refl prior _

/-- The fresh collection and the resumed one end alike, the resumed one with the merged models. -/
theorem Follows.ends (hsnapshot : context.snapshot.isLegible scope = true)
    (hprior : prior.Consistent context (TypeRef.IsCanonical scope)) (hdone : prior.pending = [])
    {outcome : Except CollectError Model} (hends : alone.Ends context outcome) (h : Follows context scope prior alone together) :
    ∃ last, ReflTransGen (Moves context) together last ∧
      ((∃ model, outcome = .ok model ∧ last.pending = [] ∧ last.model = prior.model.merge model) ∨
        ∃ error, outcome = .error error ∧ last.Fails context error) := by
  induction hends generalizing together with
  | done hpending =>
    refine ⟨together, .refl, Or.inl ⟨_, rfl, ?_, h.model⟩⟩
    have hleft := h.pending
    rw [hpending] at hleft
    exact hleft.eq_nil
  | fails hfails => exact ⟨together, .refl, Or.inr ⟨_, rfl, h.fails hsnapshot hprior hfails⟩⟩
  | moves hmoves _ ih =>
    obtain ⟨next, hsteps, hnext⟩ := h.moves hsnapshot hprior hdone hmoves
    obtain ⟨last, hrest, hlast⟩ := ih hnext
    exact ⟨last, hsteps.trans hrest, hlast⟩

/-! Steps that are pending behind others do not disturb them. -/

def withTail (collection : Collection) (tail : List Step) : Collection := { collection with pending := collection.pending ++ tail }

theorem moves_withTail {collection : Collection} (tail : List Step) (h : collection.Moves context next) :
    (collection.withTail tail).Moves context (next.withTail tail) := by
  rcases moves_cases h with ⟨entry, rest, hsteps, rfl⟩ | ⟨edge, rest, hsteps, hvisited, rfl⟩ |
      ⟨edge, rest, limit, resolution, hsteps, hfresh, hresolve, rfl⟩
  · have htail : (collection.withTail tail).pending = .record entry :: (rest ++ tail) := by
      rw [withTail, hsteps, List.cons_append]
    exact moves_record htail
  · have htail : (collection.withTail tail).pending = .visit edge :: (rest ++ tail) := by
      rw [withTail, hsteps, List.cons_append]
    exact moves_visited htail hvisited
  · have htail : (collection.withTail tail).pending = .visit edge :: (rest ++ tail) := by
      rw [withTail, hsteps, List.cons_append]
    have hmoves := moves_discover htail hfresh hresolve
    rwa [Collection.discover, ← List.append_assoc] at hmoves

theorem steps_withTail {collection : Collection} (tail : List Step) (h : ReflTransGen (Moves context) collection last) :
    ReflTransGen (Moves context) (collection.withTail tail) (last.withTail tail) := by
  induction h with
  | refl => exact .refl
  | tail _ hmoves ih => exact ih.tail (moves_withTail tail hmoves)

theorem fails_withTail {collection : Collection} (tail : List Step) {error : CollectError} (h : collection.Fails context error) :
    (collection.withTail tail).Fails context error := by
  obtain ⟨edge, rest, limit, cause, hsteps, hfresh, hresolve, herror⟩ := fails_iff.mp h
  refine fails_iff.mpr ⟨edge, rest ++ tail, limit, cause, ?_, hfresh, hresolve, herror⟩
  rw [withTail, hsteps, List.cons_append]

end Collection

end SchemaClosure
