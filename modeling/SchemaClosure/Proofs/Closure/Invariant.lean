import SchemaClosure.Proofs.Closure.Coherence
import SchemaClosure.Proofs.Closure.Run

namespace SchemaClosure

namespace Context

/-- The type can be classified and resolved. -/
def Serves (context : Context) (type : TypeRef) : Prop := ∃ limit resolution, context.resolve limit type = some (.ok resolution)

/-- Canonical types that lead to no types but their own kind. -/
structure IsClosed (context : Context) (scope : List String) (types : TypeRef → Prop) : Prop where
  isCanonical : ∀ {type : TypeRef}, types type → type.IsCanonical scope
  leadsTo : ∀ {type target : TypeRef}, types type → context.LeadsTo type target → types target.normalize

theorem isClosed_isCanonical {context : Context} {scope : List String} (hsnapshot : context.snapshot.isLegible scope = true) :
    context.IsClosed scope (TypeRef.IsCanonical scope) where
  isCanonical h := h
  leadsTo h hleads := TypeRef.isCanonical_normalize (hleads.isLegible hsnapshot h.isLegible)

end Context

namespace Collection

variable {context : Context} {scope : List String} {types : TypeRef → Prop} {collection next : Collection}

/-- The types that are still to be visited are of some kind. -/
def IsWithin (types : TypeRef → Prop) (collection : Collection) : Prop :=
  ∀ target ∈ Step.targets collection.pending, types target.normalize

theorem IsWithin.moves (h : collection.IsWithin types)
    (hleads : ∀ {type target : TypeRef}, types type → context.LeadsTo type target → types target.normalize)
    (hmoves : collection.Moves context next) : next.IsWithin types := by
  rcases moves_cases hmoves with ⟨entry, rest, hsteps, rfl⟩ | ⟨edge, rest, hsteps, -, rfl⟩ |
      ⟨edge, rest, limit, resolution, hsteps, -, hresolve, rfl⟩
  · rwa [IsWithin, hsteps] at h
  · rw [IsWithin, hsteps, Step.targets_cons_visit, List.forall_mem_cons] at h
    exact h.2
  · rw [IsWithin, hsteps, Step.targets_cons_visit, List.forall_mem_cons] at h
    intro target hmem
    rw [discover, Step.targets_append, Step.targets_map_reachedThrough, List.mem_append] at hmem
    rcases hmem with hmem | hmem
    · exact hleads h.1 ((Context.mem_targets_iff hresolve).mp hmem)
    · exact h.2 target hmem

/-- Nothing comes from elsewhere: types of some kind are still to be visited, and entries that they yield are to be recorded or have been. -/
structure IsGrounded (context : Context) (types : TypeRef → Prop) (collection : Collection) : Prop where
  isWithin : collection.IsWithin types
  entries : ∀ {entry : Entry}, entry ∈ Step.entries collection.pending → ∃ type, types type ∧ context.Yields type entry
  held : ∀ {key : EntryKey} {entry : Entry}, collection.model.find? key = some entry →
    entry.key = key ∧ ∃ type, types type ∧ context.Yields type entry

theorem IsGrounded.moves (h : collection.IsGrounded context types)
    (hleads : ∀ {type target : TypeRef}, types type → context.LeadsTo type target → types target.normalize)
    (hmoves : collection.Moves context next) : next.IsGrounded context types := by
  refine ⟨h.isWithin.moves hleads hmoves, ?_, ?_⟩
  all_goals
    rcases moves_cases hmoves with ⟨recorded, rest, hsteps, rfl⟩ | ⟨edge, rest, hsteps, -, rfl⟩ |
      ⟨edge, rest, limit, resolution, hsteps, -, hresolve, rfl⟩
  · intro entry hmem
    exact h.entries (by rw [hsteps]; exact List.mem_cons_of_mem _ hmem)
  · intro entry hmem
    exact h.entries (by rw [hsteps]; exact hmem)
  · intro entry hmem
    rw [discover, Step.entries_append, Step.entries_map_reachedThrough] at hmem
    rcases List.mem_append.mp hmem with hmem | hmem
    · have htarget : types edge.target.normalize := h.isWithin _ (by rw [hsteps]; exact List.mem_cons_self)
      exact ⟨_, htarget, (Context.mem_entries_iff hresolve).mp hmem⟩
    · exact h.entries (by rw [hsteps]; exact hmem)
  · intro key entry hheld
    rcases Model.eq_of_find?_record hheld with hheld | ⟨rfl, hkey⟩
    · exact h.held hheld
    · exact ⟨hkey, h.entries (by rw [hsteps]; exact List.mem_cons_self)⟩
  · intro key entry hheld
    exact h.held hheld
  · intro key entry hheld
    exact h.held hheld

theorem isWithin_start {roots : List TypeRef} (h : ∀ root ∈ roots, types root.normalize) : (start roots).IsWithin types := by
  intro target hmem
  rw [start, Step.targets_visits] at hmem
  exact h target hmem

theorem isGrounded_start {roots : List TypeRef} (h : ∀ root ∈ roots, types root.normalize) :
    (start roots).IsGrounded context types where
  isWithin := isWithin_start h
  entries hmem := by
    rw [start, Step.entries_visits] at hmem
    exact absurd hmem List.not_mem_nil
  held hheld := by
    simp [start] at hheld

/-- A type has been visited or is about to be. -/
def Reaches (collection : Collection) (target : TypeRef) : Prop :=
  target.normalize.identity ∈ collection.visited ∨ target ∈ Step.targets collection.pending

/-- The model has an entry with the key of this one, or the entry is about to be recorded. -/
def Covers (collection : Collection) (entry : Entry) : Prop :=
  (collection.model.find? entry.key).isSome = true ∨ entry ∈ Step.entries collection.pending

/-- A type needs nothing further. -/
structure Attends (context : Context) (collection : Collection) (type : TypeRef) : Prop where
  reaches : ∀ {target : TypeRef}, context.LeadsTo type target → collection.Reaches target
  covers : ∀ {entry : Entry}, context.Yields type entry → collection.Covers entry

structure Consistent (context : Context) (types : TypeRef → Prop) (collection : Collection) : Prop where
  visited : ∀ {identity : TypeIdentity}, identity ∈ collection.visited →
    ∃ type, types type ∧ type.identity = identity ∧ context.Serves type
  targets : ∀ {target : TypeRef}, target ∈ Step.targets collection.pending → types target.normalize
  entries : ∀ {entry : Entry}, entry ∈ Step.entries collection.pending → ∃ type, types type ∧ context.Yields type entry
  held : ∀ {key : EntryKey} {entry : Entry}, collection.model.find? key = some entry →
    entry.key = key ∧ ∃ type, types type ∧ context.Yields type entry
  attends : ∀ {type : TypeRef}, types type → type.identity ∈ collection.visited → collection.Attends context type

theorem isSome_find?_record (model : Model) (entry : Entry) {key : EntryKey}
    (h : key = entry.key ∨ (model.find? key).isSome = true) : ((model.record entry).find? key).isSome = true := by
  rw [Model.find?_record]
  split
  · rfl
  · rename_i hne
    exact h.resolve_left hne

theorem Reaches.moves {target : TypeRef} (h : collection.Reaches target) (hmoves : collection.Moves context next) :
    next.Reaches target := by
  rcases moves_cases hmoves with ⟨entry, rest, hsteps, rfl⟩ | ⟨edge, rest, hsteps, hvisited, rfl⟩ |
      ⟨edge, rest, limit, resolution, hsteps, -, -, rfl⟩
  · rwa [Reaches, hsteps] at h
  · rw [Reaches, hsteps, Step.targets_cons_visit, List.mem_cons] at h
    rcases h with h | rfl | h
    · exact Or.inl h
    · exact Or.inl hvisited
    · exact Or.inr h
  · rw [Reaches, hsteps, Step.targets_cons_visit, List.mem_cons] at h
    rcases h with h | rfl | h
    · exact Or.inl (List.mem_cons_of_mem _ h)
    · exact Or.inl List.mem_cons_self
    · refine Or.inr ?_
      rw [discover, Step.targets_append]
      exact List.mem_append_right _ h

theorem Covers.moves {entry : Entry} (h : collection.Covers entry) (hmoves : collection.Moves context next) :
    next.Covers entry := by
  rcases moves_cases hmoves with ⟨recorded, rest, hsteps, rfl⟩ | ⟨edge, rest, hsteps, hvisited, rfl⟩ |
      ⟨edge, rest, limit, resolution, hsteps, -, -, rfl⟩
  · rw [Covers, hsteps, Step.entries_cons_record, List.mem_cons] at h
    rcases h with h | rfl | h
    · exact Or.inl (isSome_find?_record _ _ (Or.inr h))
    · exact Or.inl (isSome_find?_record _ _ (Or.inl rfl))
    · exact Or.inr h
  · rwa [Covers, hsteps] at h
  · rw [Covers, hsteps, Step.entries_cons_visit] at h
    rcases h with h | h
    · exact Or.inl h
    · refine Or.inr ?_
      rw [discover, Step.entries_append]
      exact List.mem_append_right _ h

theorem Attends.moves {type : TypeRef} (h : collection.Attends context type) (hmoves : collection.Moves context next) :
    next.Attends context type where
  reaches hleads := (h.reaches hleads).moves hmoves
  covers hyields := (h.covers hyields).moves hmoves

theorem attends_discover {limit : Nat} {type : TypeRef} {resolution : Resolution} (member : Option String) (rest : List Step)
    (h : context.resolve limit type = some (.ok resolution)) :
    (collection.discover member type resolution rest).Attends context type where
  reaches hleads := by
    refine Or.inr ?_
    rw [discover, Step.targets_append, Step.targets_map_reachedThrough]
    exact List.mem_append_left _ ((Context.mem_targets_iff h).mpr hleads)
  covers hyields := by
    refine Or.inr ?_
    rw [discover, Step.entries_append, Step.entries_map_reachedThrough]
    exact List.mem_append_left _ ((Context.mem_entries_iff h).mpr hyields)

theorem Consistent.isGrounded (h : collection.Consistent context types) : collection.IsGrounded context types where
  isWithin _ hmem := h.targets hmem
  entries hmem := h.entries hmem
  held hheld := h.held hheld

theorem Consistent.visited_moves (h : collection.Consistent context types) (hmoves : collection.Moves context next)
    {identity : TypeIdentity} (hmem : identity ∈ next.visited) :
    ∃ type, types type ∧ type.identity = identity ∧ context.Serves type := by
  rcases moves_cases hmoves with ⟨entry, rest, hsteps, rfl⟩ | ⟨edge, rest, hsteps, hvisited, rfl⟩ |
      ⟨edge, rest, limit, resolution, hsteps, hfresh, hresolve, rfl⟩
  · exact h.visited hmem
  · exact h.visited hmem
  · rcases List.mem_cons.mp hmem with rfl | hmem
    · exact ⟨_, h.targets (by rw [hsteps]; exact List.mem_cons_self), rfl, limit, resolution, hresolve⟩
    · exact h.visited hmem

theorem Consistent.attends_moves (htypes : context.IsClosed scope types) (h : collection.Consistent context types)
    (hmoves : collection.Moves context next) {type : TypeRef} (htype : types type) (hmem : type.identity ∈ next.visited) :
    next.Attends context type := by
  rcases moves_cases hmoves with ⟨entry, rest, hsteps, rfl⟩ | ⟨edge, rest, hsteps, hvisited, rfl⟩ |
      ⟨edge, rest, limit, resolution, hsteps, hfresh, hresolve, rfl⟩
  · exact (h.attends htype hmem).moves hmoves
  · exact (h.attends htype hmem).moves hmoves
  · rcases List.mem_cons.mp hmem with hidentity | hmem
    · -- types with one identity are the same, so it is the discovered type that is asked about
      have htarget : types edge.target.normalize := h.targets (by rw [hsteps]; exact List.mem_cons_self)
      rw [(htypes.isCanonical htype).eq_of_identity_eq (htypes.isCanonical htarget) hidentity]
      exact attends_discover _ _ hresolve
    · exact (h.attends htype hmem).moves hmoves

theorem Consistent.moves (htypes : context.IsClosed scope types) (h : collection.Consistent context types)
    (hmoves : collection.Moves context next) : next.Consistent context types := by
  have hgrounded := h.isGrounded.moves htypes.leadsTo hmoves
  exact {
    visited := h.visited_moves hmoves
    targets := fun hmem => hgrounded.isWithin _ hmem
    entries := hgrounded.entries
    held := hgrounded.held
    attends := h.attends_moves htypes hmoves }

theorem Consistent.steps {last : Collection} (htypes : context.IsClosed scope types) (h : collection.Consistent context types)
    (hsteps : Relation.ReflTransGen (Moves context) collection last) : last.Consistent context types := by
  induction hsteps with
  | refl => exact h
  | tail _ hmoves ih => exact ih.moves htypes hmoves

theorem consistent_start {roots : List TypeRef} (h : ∀ root ∈ roots, types root.normalize) :
    (start roots).Consistent context types where
  visited hmem := absurd hmem List.not_mem_nil
  targets hmem := isWithin_start h _ hmem
  entries hmem := (isGrounded_start h).entries hmem
  held hheld := (isGrounded_start h).held hheld
  attends _ hmem := absurd hmem List.not_mem_nil

/-! Once nothing is pending, what was about to happen has happened. -/

theorem Reaches.mem_visited {target : TypeRef} (h : collection.Reaches target) (hpending : collection.pending = []) :
    target.normalize.identity ∈ collection.visited := by
  rw [Reaches, hpending] at h
  exact h.resolve_right List.not_mem_nil

theorem Covers.isSome {entry : Entry} (h : collection.Covers entry) (hpending : collection.pending = []) :
    (collection.model.find? entry.key).isSome = true := by
  rw [Covers, hpending] at h
  exact h.resolve_right List.not_mem_nil

theorem Consistent.serves (htypes : context.IsClosed scope types) (h : collection.Consistent context types) {type : TypeRef}
    (htype : types type) (hmem : type.identity ∈ collection.visited) : context.Serves type := by
  obtain ⟨visited, hvisited, hidentity, hserves⟩ := h.visited hmem
  rwa [(htypes.isCanonical hvisited).eq_of_identity_eq (htypes.isCanonical htype) hidentity] at hserves

end Collection

end SchemaClosure
