import SchemaClosure.Closure.Resolver
import SchemaClosure.Proofs.StableSort

namespace SchemaClosure

namespace UnionSchema

theorem filter_sortCases (cases : List (Int32 × TypeRef)) (discriminator : Int32) :
    (sortCases cases).filter (·.1 == discriminator) = cases.filter (·.1 == discriminator) := by
  apply filter_mergeSort
  · intro a b c
    simp only [decide_eq_true_eq]
    omega
  · intro a b
    simp only [Bool.or_eq_true, decide_eq_true_eq]
    omega
  · intro a b hfirst hsecond
    simp [eq_of_beq hfirst, eq_of_beq hsecond]

theorem lookup_eq_of_filter (cases : List (Int32 × TypeRef)) (discriminator : Int32) :
    cases.lookup discriminator = (cases.filter (·.1 == discriminator)).head?.map (·.2) := by
  induction cases with
  | nil => rfl
  | cons case rest ih =>
    rw [List.lookup_cons, List.filter_cons]
    by_cases heq : case.1 = discriminator
    · simp [heq]
    · have hne : discriminator ≠ case.1 := Ne.symm heq
      simp only [beq_eq_false_iff_ne.mpr heq, beq_eq_false_iff_ne.mpr hne, Bool.false_eq_true, if_false]
      exact ih

theorem lookup_sortCases (cases : List (Int32 × TypeRef)) (discriminator : Int32) :
    (sortCases cases).lookup discriminator = cases.lookup discriminator := by
  rw [lookup_eq_of_filter, lookup_eq_of_filter, filter_sortCases]

namespace Draft

variable {snapshot : Snapshot} {base : TypeRef}

def HasOneEach (draft : Draft) : Prop := ∀ case ∈ draft.kept, draft.kept.lookup case.1 = some case.2

theorem hasOneEach_take {draft : Draft} (h : draft.HasOneEach) (case : Int32 × TypeRef) :
    (take snapshot base draft case).HasOneEach := by
  unfold take
  split
  · exact h
  · rename_i hnone
    intro other hmem
    rcases List.mem_cons.mp hmem with rfl | hmem
    · exact List.lookup_cons_self
    · have hfound := h other hmem
      have hne : other.1 ≠ case.1 := by
        intro heq
        rw [heq, hnone] at hfound
        simp at hfound
      rw [List.lookup_cons, beq_eq_false_iff_ne.mpr hne]
      exact hfound

theorem lookup_kept_take (draft : Draft) (case : Int32 × TypeRef) (discriminator : Int32) :
    (take snapshot base draft case).kept.lookup discriminator =
      (draft.kept.lookup discriminator).or ([case].lookup discriminator) := by
  obtain ⟨key, subtype⟩ := case
  unfold take
  split
  · rename_i first hfirst
    by_cases heq : discriminator = key
    · simp [heq, hfirst]
    · simp [List.lookup_cons, beq_eq_false_iff_ne.mpr heq]
  · rename_i hnone
    by_cases heq : discriminator = key
    · simp [heq, hnone]
    · simp [List.lookup_cons, beq_eq_false_iff_ne.mpr heq]

theorem hasOneEach_foldl {draft : Draft} (h : draft.HasOneEach) (cases : List (Int32 × TypeRef)) :
    (cases.foldl (take snapshot base) draft).HasOneEach := by
  induction cases generalizing draft with
  | nil => exact h
  | cons case rest ih => exact ih (hasOneEach_take h case)

theorem lookup_kept_foldl (draft : Draft) (cases : List (Int32 × TypeRef)) (discriminator : Int32) :
    (cases.foldl (take snapshot base) draft).kept.lookup discriminator =
      (draft.kept.lookup discriminator).or (cases.lookup discriminator) := by
  induction cases generalizing draft with
  | nil => simp
  | cons case rest ih =>
    rw [List.foldl_cons, ih, lookup_kept_take, Option.or_assoc, ← List.lookup_append]
    rfl

/-- The kept cases are those that are declared first with their discriminators. -/
theorem mem_kept_iff {cases : List (Int32 × TypeRef)} {case : Int32 × TypeRef} :
    case ∈ ((sortCases cases).foldl (take snapshot base) {}).kept ↔ cases.lookup case.1 = some case.2 := by
  have hlookup : ((sortCases cases).foldl (take snapshot base) {}).kept.lookup case.1 = cases.lookup case.1 := by
    rw [lookup_kept_foldl, lookup_sortCases]
    rfl
  constructor
  · intro hmem
    have hstart : HasOneEach {} := fun other hother => absurd hother List.not_mem_nil
    rw [← hlookup]
    exact hasOneEach_foldl hstart _ case hmem
  · intro hfound
    rw [← hlookup] at hfound
    exact mem_of_lookup_eq_some hfound

end Draft

end UnionSchema

namespace Context

theorem mem_edges_resolveUnion {context : Context} {type : TypeRef} {declaration : Declaration} {schema : UnionSchema}
    {edges : List Edge} (h : context.resolveUnion type declaration = .ok (schema, edges)) {edge : Edge} :
    edge ∈ edges ↔ ∃ case : Int32 × TypeRef, declaration.attributes.unions.lookup case.1 = some case.2 ∧ edge = .ofType case.2 := by
  unfold resolveUnion at h
  simp only at h
  split at h
  · simp at h
  · rw [← (Prod.mk.inj (Except.ok.inj h)).2]
    simp only [List.mem_map, List.mem_reverse, UnionSchema.Draft.mem_kept_iff]
    constructor
    · rintro ⟨case, hkept, rfl⟩
      exact ⟨case, hkept, rfl⟩
    · rintro ⟨case, hkept, rfl⟩
      exact ⟨case, hkept, rfl⟩

end Context

end SchemaClosure
