import SchemaClosure.Closure.Layout
import SchemaClosure.Proofs.Except
import SchemaClosure.Proofs.Snapshot.Legibility

namespace SchemaClosure

namespace Candidate

theorem type_of_mem_ofMembers {members : Snapshot.Members} {byName : Bool} {candidate : Candidate}
    (h : candidate ∈ ofMembers members byName) :
    (∃ property ∈ members.properties, candidate.type = property.type) ∨ ∃ field ∈ members.fields, candidate.type = field.type := by
  have hmem := (List.mem_filter.mp h).1
  rcases List.mem_append.mp hmem with hmem | hmem
  · obtain ⟨property, hproperty, rfl⟩ := List.mem_map.mp hmem
    exact Or.inl ⟨property, (List.mem_filter.mp hproperty).1, rfl⟩
  · obtain ⟨field, hfield, rfl⟩ := List.mem_map.mp hmem
    exact Or.inr ⟨field, (List.mem_filter.mp hfield).1, rfl⟩

end Candidate

namespace Layout

namespace Draft

def IsDrawnFrom (candidates : List Candidate) (draft : Draft) : Prop :=
  ∀ member ∈ draft.members, ∃ candidate ∈ candidates, member.declaredType = candidate.type

variable {candidates : List Candidate} {candidate : Candidate} {draft : Draft} {identity : TypeIdentity}

theorem isDrawnFrom_report (h : draft.IsDrawnFrom candidates) (diagnostic : Diagnostic) :
    (draft.report diagnostic).IsDrawnFrom candidates := h

theorem isDrawnFrom_claim (h : draft.IsDrawnFrom candidates) (hmem : candidate ∈ candidates) (key : MemberKey)
    (owner : Option MemberSchema) : (draft.claim identity candidate key owner).IsDrawnFrom candidates := by
  cases owner with
  | some first => exact h
  | none =>
    intro member hmember
    rcases List.mem_append.mp hmember with hmember | hmember
    · exact h member hmember
    · rw [List.mem_singleton.mp hmember]
      exact ⟨candidate, hmem, rfl⟩

theorem isDrawnFrom_fixMode {mode : KeyMode} {next : Draft} (h : draft.IsDrawnFrom candidates)
    (hnext : draft.fixMode identity candidate mode = .ok next) : next.IsDrawnFrom candidates := by
  unfold fixMode at hnext
  split at hnext
  · rw [← Except.ok.inj hnext]
    exact h
  · split at hnext
    · rw [← Except.ok.inj hnext]
      exact h
    · simp at hnext

theorem isDrawnFrom_takeByName {warn : Bool} (h : draft.IsDrawnFrom candidates) (hmem : candidate ∈ candidates) :
    (takeByName identity warn draft candidate).IsDrawnFrom candidates := by
  unfold takeByName
  split
  · exact isDrawnFrom_claim (isDrawnFrom_report h _) hmem _ _
  · exact isDrawnFrom_claim h hmem _ _

theorem isDrawnFrom_takeByKey {marked : Bool} {next : Draft} (h : draft.IsDrawnFrom candidates) (hmem : candidate ∈ candidates)
    (hnext : takeByKey identity marked draft candidate = .ok next) : next.IsDrawnFrom candidates := by
  unfold takeByKey at hnext
  split at hnext
  · rw [← Except.ok.inj hnext]
    split <;> exact h
  · rw [← Except.ok.inj hnext]
    exact isDrawnFrom_report h _
  all_goals
    obtain ⟨fixed, hfixed, rfl⟩ := map_eq_ok_iff.mp hnext
    exact isDrawnFrom_claim (isDrawnFrom_fixMode h hfixed) hmem _ _

theorem isDrawnFrom_foldl_takeByName {warn : Bool} {taken : List Candidate} (h : draft.IsDrawnFrom candidates)
    (htaken : ∀ candidate ∈ taken, candidate ∈ candidates) :
    (taken.foldl (takeByName identity warn) draft).IsDrawnFrom candidates := by
  induction taken generalizing draft with
  | nil => exact h
  | cons first rest ih =>
    obtain ⟨hfirst, hrest⟩ := List.forall_mem_cons.mp htaken
    exact ih (isDrawnFrom_takeByName h hfirst) hrest

theorem isDrawnFrom_foldlM_takeByKey {marked : Bool} {taken : List Candidate} {last : Draft} (h : draft.IsDrawnFrom candidates)
    (htaken : ∀ candidate ∈ taken, candidate ∈ candidates)
    (hlast : taken.foldlM (takeByKey identity marked) draft = .ok last) : last.IsDrawnFrom candidates := by
  induction taken generalizing draft with
  | nil =>
    rw [← Except.ok.inj hlast]
    exact h
  | cons first rest ih =>
    obtain ⟨hfirst, hrest⟩ := List.forall_mem_cons.mp htaken
    rw [List.foldlM_cons] at hlast
    cases hnext : takeByKey identity marked draft first with
    | error error => simp [hnext, bind, Except.bind] at hlast
    | ok next =>
      rw [hnext] at hlast
      exact ih (isDrawnFrom_takeByKey h hfirst hnext) hrest hlast

theorem mem_arrange {mode : KeyMode} {members : List MemberSchema} {member : MemberSchema} :
    member ∈ arrange mode members ↔ member ∈ members := by
  cases mode with
  | integer => exact List.mem_mergeSort
  | text => exact Iff.rfl

theorem mem_members_finish {member : MemberSchema} : member ∈ draft.finish.members ↔ member ∈ draft.members := mem_arrange

theorem mem_edges_finish {edge : Edge} :
    edge ∈ draft.finish.edges ↔
      ∃ member ∈ draft.finish.members, member.overrideCodec = none ∧ edge = .ofMember member.sourceName member.declaredType := by
  simp only [mem_members_finish]
  constructor
  · intro h
    obtain ⟨member, hmem, hedge⟩ := List.mem_filterMap.mp h
    unfold edge? at hedge
    split at hedge
    · rename_i hcodec
      exact ⟨member, hmem, Option.isNone_iff_eq_none.mp hcodec, (Option.some.inj hedge).symm⟩
    · simp at hedge
  · rintro ⟨member, hmem, hcodec, rfl⟩
    exact List.mem_filterMap.mpr ⟨member, hmem, by simp [edge?, hcodec]⟩

end Draft

variable {options : Options} {identity : TypeIdentity} {attributes : Attributes} {members : Snapshot.Members} {layout : Layout}

theorem exists_draft (h : ofMembers options identity attributes members = .ok layout) :
    ∃ byName draft, Draft.IsDrawnFrom (Candidate.ofMembers members byName) draft ∧ layout = draft.finish := by
  have hstart (byName : Bool) (draft : Draft) (hmembers : draft.members = []) :
      draft.IsDrawnFrom (Candidate.ofMembers members byName) := by
    intro member hmem
    rw [hmembers] at hmem
    exact absurd hmem List.not_mem_nil
  unfold ofMembers at h
  simp only at h
  split at h
  · refine ⟨true, _, ?_, (Except.ok.inj h).symm⟩
    exact Draft.isDrawnFrom_foldl_takeByName (hstart true _ rfl) fun _ hmem => hmem
  · obtain ⟨draft, hdraft, hfinish⟩ := map_eq_ok_iff.mp h
    refine ⟨false, draft, ?_, hfinish.symm⟩
    exact Draft.isDrawnFrom_foldlM_takeByKey (hstart false _ rfl) (fun _ hmem => hmem) hdraft

theorem mem_edges_iff (h : ofMembers options identity attributes members = .ok layout) {edge : Edge} :
    edge ∈ layout.edges ↔
      ∃ member ∈ layout.members, member.overrideCodec = none ∧ edge = .ofMember member.sourceName member.declaredType := by
  obtain ⟨-, draft, -, rfl⟩ := exists_draft h
  exact Draft.mem_edges_finish

/-- The type of a member is that of a property or field. -/
theorem declaredType_of_mem_members (h : ofMembers options identity attributes members = .ok layout) {member : MemberSchema}
    (hmem : member ∈ layout.members) :
    (∃ property ∈ members.properties, member.declaredType = property.type) ∨
      ∃ field ∈ members.fields, member.declaredType = field.type := by
  obtain ⟨byName, draft, hdraft, rfl⟩ := exists_draft h
  obtain ⟨candidate, hcandidate, htype⟩ := hdraft member (Draft.mem_members_finish.mp hmem)
  rw [htype]
  exact Candidate.type_of_mem_ofMembers hcandidate

theorem isLegible_member {scope : List String} (h : ofMembers options identity attributes members = .ok layout)
    (hfields : ∀ field ∈ members.fields, field.type.isLegible scope = true)
    (hproperties : ∀ property ∈ members.properties, property.type.isLegible scope = true) {member : MemberSchema}
    (hmem : member ∈ layout.members) : member.declaredType.isLegible scope = true := by
  rcases declaredType_of_mem_members h hmem with ⟨property, hproperty, htype⟩ | ⟨field, hfield, htype⟩
  · rw [htype]
    exact hproperties property hproperty
  · rw [htype]
    exact hfields field hfield

end Layout

end SchemaClosure
