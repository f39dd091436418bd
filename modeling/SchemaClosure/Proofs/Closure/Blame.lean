import SchemaClosure.Proofs.Closure.Cancellation

namespace SchemaClosure

/-- The member that is named last on a path: an edge carries it, and no later edge carries any. There is none if no edge carries one. -/
def IsLastMember (path : List Edge) : Option String → Prop
  | none => ∀ edge ∈ path, edge.member = none
  | some name =>
    ∃ before edge after, path = before ++ edge :: after ∧ edge.member = some name ∧ ∀ later ∈ after, later.member = none

theorem isLastMember_nil : IsLastMember [] none := fun _ hmem => absurd hmem List.not_mem_nil

theorem IsLastMember.append {path : List Edge} {member : Option String} (h : IsLastMember path member) (edge : Edge) :
    IsLastMember (path ++ [edge]) (edge.member <|> member) := by
  cases hmember : edge.member with
  | some name => exact ⟨path, edge, [], rfl, hmember, by simp⟩
  | none =>
    cases member with
    | none =>
      intro passed hmem
      rcases List.mem_append.mp hmem with hmem | hmem
      · exact h passed hmem
      · rwa [List.mem_singleton.mp hmem]
    | some name =>
      obtain ⟨before, named, after, rfl, hname, hafter⟩ := h
      refine ⟨before, named, after ++ [edge], by simp, hname, ?_⟩
      intro later hmem
      rcases List.mem_append.mp hmem with hmem | hmem
      · exact hafter later hmem
      · rwa [List.mem_singleton.mp hmem]

namespace Context

/-- The edges from a root to a type, in their order. -/
inductive Path (context : Context) (roots : List TypeRef) : List Edge → TypeRef → Prop where
  | root {root : TypeRef} (hmem : root ∈ roots) : Path context roots [] root.normalize
  | edge {path : List Edge} {type : TypeRef} {edge : Edge} (hpath : Path context roots path type)
      (hdiscovers : context.Discovers type edge) : Path context roots (path ++ [edge]) edge.target.normalize

variable {context : Context} {roots : List TypeRef} {path : List Edge} {type : TypeRef}

theorem Path.reachable (h : context.Path roots path type) : context.Reachable roots type := by
  induction h with
  | root hmem => exact .root hmem
  | edge _ hdiscovers ih => exact .edge ih hdiscovers.leadsTo

end Context

namespace Collection

variable {context : Context} {roots : List TypeRef} {collection next : Collection}

/-- Every pending visit is at the end of a path, and carries the member that is last on it. -/
def IsTraced (context : Context) (roots : List TypeRef) (collection : Collection) : Prop :=
  ∀ edge ∈ Step.edges collection.pending, ∃ path, context.Path roots path edge.target.normalize ∧ IsLastMember path edge.member

theorem isTraced_start : (start (roots.map TypeRef.normalize)).IsTraced context roots := by
  intro edge hmem
  rw [start, Step.edges_visits, List.map_map] at hmem
  obtain ⟨root, hroot, rfl⟩ := List.mem_map.mp hmem
  refine ⟨[], ?_, isLastMember_nil⟩
  have hpath : context.Path roots [] root.normalize := .root hroot
  rwa [← TypeRef.normalize_normalize] at hpath

theorem IsTraced.moves (h : collection.IsTraced context roots) (hmoves : collection.Moves context next) :
    next.IsTraced context roots := by
  rcases moves_cases hmoves with ⟨entry, rest, hsteps, rfl⟩ | ⟨edge, rest, hsteps, -, rfl⟩ |
      ⟨edge, rest, limit, resolution, hsteps, -, hresolve, rfl⟩
  · rwa [IsTraced, hsteps] at h
  · rw [IsTraced, hsteps, Step.edges_cons_visit, List.forall_mem_cons] at h
    exact h.2
  · rw [IsTraced, hsteps, Step.edges_cons_visit, List.forall_mem_cons] at h
    obtain ⟨⟨path, hpath, hlast⟩, hrest⟩ := h
    intro visited hmem
    rw [discover, Step.edges_append, Step.edges_map_reachedThrough] at hmem
    rcases List.mem_append.mp hmem with hmem | hmem
    · -- the path to the discovered type goes on by an edge, which keeps the member unless it has its own
      obtain ⟨last, hdiscovers, rfl⟩ := List.mem_map.mp hmem
      exact ⟨path ++ [last], .edge hpath ((Context.mem_edges_iff hresolve).mp hdiscovers), hlast.append last⟩
    · exact hrest visited hmem

end Collection

namespace Context

/-- What the error of a collection tells about some roots. A shape error is about a type that a path from a root leads to, and that cannot be classified or is a root that fails its check; the member that it tells is the last on the path. Any other error that names a type names one that can be reached. -/
structure Blames (context : Context) (roots : List TypeRef) (error : CollectError) : Prop where
  shape : ∀ {identity : TypeIdentity} {member : Option String} {reason : ShapeReason},
    error = .unsupportedShape identity member reason →
      ∃ path type, context.Path roots path type ∧ type.identity = identity ∧ IsLastMember path member ∧
        (context.classify type = .error (.shape type reason) ∨ path = [] ∧ context.checkRoot type = .error (.shape type reason))
  identity : ∀ {identity : TypeIdentity}, error.identity? = some identity →
    ∃ type, context.Reachable roots type ∧ type.identity = identity

variable {context : Context} {roots : List TypeRef} {root type : TypeRef} {path : List Edge} {member : Option String}
  {error : CollectError}

theorem blames_cancelled : context.Blames roots .cancelled where
  shape h := by simp at h
  identity h := by simp [CollectError.identity?] at h

theorem blames_of_checkRoot (hroot : root ∈ roots) (h : context.checkRoot root.normalize = .error error) :
    context.Blames roots error where
  shape {identity member reason} hshape := by
    rcases checkRoot_eq_error h with ⟨found, rfl⟩ | hdeclaration
    · obtain ⟨rfl, rfl, rfl⟩ := CollectError.unsupportedShape.inj hshape
      exact ⟨[], root.normalize, .root hroot, rfl, isLastMember_nil, Or.inr ⟨rfl, h⟩⟩
    · subst hshape
      cases hdeclaration
  identity {identity} hidentity := by
    rw [identity?_of_checkRoot h] at hidentity
    exact ⟨root.normalize, .root hroot, Option.some.inj hidentity⟩

theorem blames_of_resolve (hpath : context.Path roots path type) (hlast : IsLastMember path member) {limit : Nat}
    (h : context.resolve limit type = some (.error error)) : context.Blames roots (error.reachedThrough member) where
  shape {identity told reason} hshape := by
    rcases resolve_eq_error h with ⟨found, rfl, hclassify⟩ | hdeclaration
    · obtain ⟨rfl, rfl, rfl⟩ := CollectError.unsupportedShape.inj hshape
      exact ⟨path, type, hpath, rfl, hlast, Or.inl hclassify⟩
    · rw [hdeclaration.reachedThrough] at hshape
      subst hshape
      cases hdeclaration
  identity {identity} hidentity := by
    rw [CollectError.identity?_reachedThrough, identity?_of_resolve h] at hidentity
    exact ⟨type, hpath.reachable, Option.some.inj hidentity⟩

/-- A collection that fails, with a signal or without, blames a type that its roots lead to, and the member that is nearest to it on the way. -/
theorem blames_of_collect {signal : Signal} {fuel : Nat} (h : context.collect signal fuel roots = some (.error error)) :
    context.Blames roots error := by
  by_cases hcancelled : error = .cancelled
  · rw [hcancelled]
    exact blames_cancelled
  · rcases collects_iff.mp (collects_of_ne_cancelled h (by simpa using hcancelled)) with ⟨cause, hchecked, hcause⟩ | ⟨-, hends⟩
    · rw [Except.error.inj hcause]
      obtain ⟨checked, hmem, hroot⟩ := exists_of_forM_eq_error hchecked
      obtain ⟨root, hroots, rfl⟩ := List.mem_map.mp hmem
      exact blames_of_checkRoot hroots hroot
    · obtain ⟨last, htraced, -, hend⟩ := hends.invariant Collection.isTraced_start fun htraced hmoves => htraced.moves hmoves
      rcases hend with ⟨-, hmodel⟩ | ⟨cause, hfails, hcause⟩
      · simp at hmodel
      · obtain ⟨edge, rest, limit, found, hpending, -, hresolve, rfl⟩ := Collection.fails_iff.mp hfails
        rw [Except.error.inj hcause]
        obtain ⟨path, hpath, hlast⟩ := htraced edge (by rw [hpending]; exact List.mem_cons_self)
        exact blames_of_resolve hpath hlast hresolve

/-- A list of something that is not declared. -/
def parcelDeclaration : Declaration where
  name := "Demo.Parcel"
  namespaceName := some "Demo"
  attributes := [.serializableObject true]
  properties := [{ name := "Contents", type := .named "System.Collections.Generic.List" [.named "Demo.Item" []] }]

def parcelContext : Context where
  snapshot := ⟨[parcelDeclaration]⟩
  options := {}

def parcelType : TypeRef := .named "Demo.Parcel" []

/-- The list leads to its items without a name, so it is the contents of the parcel that are told. -/
theorem blames_parcel :
    parcelContext.collect .never 20 [parcelType] =
        some (.error (.unsupportedShape (TypeRef.named "Demo.Item" []).identity (some "Contents") .unresolved)) ∧
      ∃ path type, parcelContext.Path [parcelType] path type ∧ type.identity = (TypeRef.named "Demo.Item" []).identity ∧
        IsLastMember path (some "Contents") := by
  have hcollect : parcelContext.collect .never 20 [parcelType] =
      some (.error (.unsupportedShape (TypeRef.named "Demo.Item" []).identity (some "Contents") .unresolved)) := by decide +kernel
  obtain ⟨path, type, hpath, hidentity, hlast, -⟩ := (blames_of_collect hcollect).shape rfl
  exact ⟨hcollect, path, type, hpath, hidentity, hlast⟩

end Context

end SchemaClosure
