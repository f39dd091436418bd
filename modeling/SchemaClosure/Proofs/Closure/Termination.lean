import SchemaClosure.Proofs.Closure.Reachability

namespace SchemaClosure

namespace Collection

variable {context : Context} {types : TypeRef → Prop}

def unvisited (identities : List TypeIdentity) (collection : Collection) : List TypeIdentity :=
  identities.filter fun identity => !collection.visited.contains identity

theorem unvisited_discover_lt {identities : List TypeIdentity} {collection : Collection} {type : TypeRef}
    (member : Option String) (resolution : Resolution) (rest : List Step) (hmem : type.identity ∈ identities)
    (hfresh : type.identity ∉ collection.visited) :
    ((collection.discover member type resolution rest).unvisited identities).length < (collection.unvisited identities).length := by
  have hsplit : (collection.discover member type resolution rest).unvisited identities =
      (collection.unvisited identities).filter fun identity => !(identity == type.identity) := by
    rw [unvisited, unvisited, List.filter_filter]
    congr 1
    funext identity
    rw [discover, List.contains_cons, Bool.not_or]
  rw [hsplit, List.length_filter_lt_length_iff_exists]
  refine ⟨type.identity, List.mem_filter.mpr ⟨hmem, ?_⟩, by simp⟩
  rw [Bool.not_eq_true', ← Bool.not_eq_true, List.contains_iff_mem]
  exact hfresh

/-- A collection ends if its types have finitely many identities and each of them resolves or fails to. -/
theorem exists_ends (hleads : ∀ {type target : TypeRef}, types type → context.LeadsTo type target → types target.normalize)
    (hresolves : ∀ type, types type → ∃ limit outcome, context.resolve limit type = some outcome) {identities : List TypeIdentity}
    (hfinite : ∀ type, types type → type.identity ∈ identities) (collection : Collection) (h : collection.IsWithin types) :
    ∃ outcome, collection.Ends context outcome := by
  match hsteps : collection.pending with
  | [] => exact ⟨_, .done hsteps⟩
  | .record entry :: rest =>
    obtain ⟨outcome, hends⟩ := exists_ends hleads hresolves hfinite _ (h.moves hleads (moves_record hsteps))
    exact ⟨outcome, .moves (moves_record hsteps) hends⟩
  | .visit edge :: rest =>
    have htarget : types edge.target.normalize := h edge.target (by rw [hsteps]; exact List.mem_cons_self)
    by_cases hvisited : edge.target.normalize.identity ∈ collection.visited
    · obtain ⟨outcome, hends⟩ := exists_ends hleads hresolves hfinite _ (h.moves hleads (moves_visited hsteps hvisited))
      exact ⟨outcome, .moves (moves_visited hsteps hvisited) hends⟩
    · obtain ⟨limit, resolved, hresolve⟩ := hresolves _ htarget
      cases resolved with
      | error cause => exact ⟨_, .fails (fails_iff.mpr ⟨edge, rest, limit, cause, hsteps, hvisited, hresolve, rfl⟩)⟩
      | ok resolution =>
        have hmoves := moves_discover hsteps hvisited hresolve
        obtain ⟨outcome, hends⟩ := exists_ends hleads hresolves hfinite _ (h.moves hleads hmoves)
        exact ⟨outcome, .moves hmoves hends⟩
termination_by ((collection.unvisited identities).length, collection.pending.length)
decreasing_by
  · apply Prod.Lex.right
    simp [hsteps]
  · apply Prod.Lex.right
    simp [hsteps]
  · apply Prod.Lex.left
    exact unvisited_discover_lt _ _ _ (hfinite _ htarget) hvisited

end Collection

namespace Context

variable {context : Context} {scope : List String} {roots roots' : List TypeRef}

/-- Where a collection succeeds, so does every collection of its roots, in any order and number. -/
theorem exists_collects_of_subset (hsnapshot : context.snapshot.isLegible scope = true)
    (hroots : ∀ root ∈ roots, root.isLegible scope = true) {model : Model} (h : context.Collects roots (.ok model))
    (hsubset : ∀ root ∈ roots', root ∈ roots) : ∃ model', context.Collects roots' (.ok model') := by
  have hlegible : ∀ root ∈ roots', root.isLegible scope = true := fun root hroot => hroots root (hsubset root hroot)
  obtain ⟨last, hlast, -, hvisited, -⟩ := exists_last_of_collects hsnapshot hroots h
  have hserves (type : TypeRef) (htype : context.Reachable roots' type) : context.Serves type := by
    have hreachable := htype.mono hsubset
    exact hlast.serves (isClosed_reachable hsnapshot hroots) hreachable (hvisited type hreachable)
  obtain ⟨outcome, hends⟩ : ∃ outcome, (Collection.start (roots'.map TypeRef.normalize)).Ends context outcome := by
    apply Collection.exists_ends (isClosed_reachable hsnapshot hlegible).leadsTo ?_
      (fun type htype => hvisited type (htype.mono hsubset)) _ Collection.isWithin_start_reachable
    intro type htype
    obtain ⟨limit, resolution, hresolve⟩ := hserves type htype
    exact ⟨limit, _, hresolve⟩
  have hchecked : ∀ root ∈ roots', context.checkRoot root.normalize = .ok () :=
    fun root hroot => checked_of_collects h root (hsubset root hroot)
  rcases hends.reachable hsnapshot hlegible with ⟨last', -, -, -, rfl⟩ | ⟨error, type, htype, hnot, -⟩
  · exact ⟨last'.model, (collects_iff_ends hchecked).mpr hends⟩
  · exact absurd (hserves type htype) hnot

end Context

end SchemaClosure
