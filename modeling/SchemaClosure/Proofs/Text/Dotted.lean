import Mathlib.Data.List.DropRight
import SchemaClosure.Text.Dotted

namespace SchemaClosure.Text

section Lists

variable {α : Type} {p : α → Bool} {c : α} {first second rest rest' : List α}

theorem rtakeWhile_append_cons (h : ¬p c = true) (first rest : List α) :
    (first ++ c :: rest).rtakeWhile p = rest.rtakeWhile p := by
  induction rest using List.reverseRecOn with
  | nil => rw [List.rtakeWhile_concat_neg p first c h, List.rtakeWhile_nil]
  | append_singleton rest last ih =>
    rw [← List.cons_append, ← List.append_assoc, List.rtakeWhile_concat, List.rtakeWhile_concat, ih]

/-- Two lists are cut alike at the first place where they hold an element. -/
theorem eq_of_append_cons_eq (hfirst : c ∉ first) (hsecond : c ∉ second) (h : first ++ c :: rest = second ++ c :: rest') :
    first = second := by
  rcases List.append_eq_append_iff.mp h with ⟨middle, rfl, hmiddle⟩ | ⟨middle, rfl, hmiddle⟩
  · cases middle with
    | nil => exact (List.append_nil first).symm
    | cons head middle =>
      rw [List.cons_append, List.cons.injEq] at hmiddle
      exact absurd (by simp [hmiddle.1]) hsecond
  · cases middle with
    | nil => exact List.append_nil second
    | cons head middle =>
      rw [List.cons_append, List.cons.injEq] at hmiddle
      exact absurd (by simp [hmiddle.1]) hfirst

end Lists

variable {name first second : String} {outer outer' : List Char} {c : Char}

theorem toList_lastSegment (name : String) : (lastSegment name).toList = name.toList.rtakeWhile (· != '.') := by
  unfold lastSegment splitAtLastDot
  simp only
  split
  · rename_i hnone
    have hall : name.toList.rtakeWhile (· != '.') = name.toList := by
      rw [List.rtakeWhile_eq_self_iff]
      intro c hmem
      exact List.dropWhile_eq_nil_iff.mp hnone c (List.mem_reverse.mpr hmem)
    rw [hall, Option.map_none, Option.getD_none]
  · rw [Option.map_some, Option.getD_some, String.toList_ofList]
    rfl

theorem dot_notMem_lastSegment (name : String) : '.' ∉ (lastSegment name).toList := by
  rw [toList_lastSegment]
  intro h
  simpa using List.mem_rtakeWhile_imp h

theorem mem_of_mem_lastSegment (h : c ∈ (lastSegment name).toList) : c ∈ name.toList := by
  rw [toList_lastSegment] at h
  exact (List.rtakeWhile_suffix _ _).subset h

theorem lastSegment_of_dot_notMem (h : '.' ∉ name.toList) : lastSegment name = name := by
  apply String.toList_injective
  rw [toList_lastSegment, List.rtakeWhile_eq_self_iff]
  intro c hmem
  have hne : c ≠ '.' := fun heq => h (heq ▸ hmem)
  simpa using hne

/-- The last segment of a name is that of whatever follows one of its dots. -/
theorem lastSegment_of_append (h : first.toList = outer ++ '.' :: second.toList) : lastSegment first = lastSegment second := by
  apply String.toList_injective
  rw [toList_lastSegment, toList_lastSegment, h, rtakeWhile_append_cons (by simp)]

/-- A name is cut at its last dot in one way only. -/
theorem eq_of_append_dot_eq (hfirst : '.' ∉ first.toList) (hsecond : '.' ∉ second.toList)
    (h : outer ++ '.' :: first.toList = outer' ++ '.' :: second.toList) : outer = outer' ∧ first = second := by
  have hsegment : first = second := by
    calc
      first = lastSegment first := (lastSegment_of_dot_notMem hfirst).symm
      _ = lastSegment (String.ofList (outer ++ '.' :: first.toList)) := (lastSegment_of_append String.toList_ofList).symm
      _ = lastSegment (String.ofList (outer' ++ '.' :: second.toList)) := by rw [h]
      _ = lastSegment second := lastSegment_of_append String.toList_ofList
      _ = second := lastSegment_of_dot_notMem hsecond
  subst hsegment
  exact ⟨List.append_cancel_right h, rfl⟩

theorem below?_eq_some_iff {outer : String} : below? outer first = some second ↔ first.toList = outer.toList ++ '.' :: second.toList := by
  rw [below?, Option.map_eq_some_iff]
  simp only [dropStart?_eq_some_iff, List.append_assoc, List.singleton_append]
  constructor
  · rintro ⟨rest, hsplit, rfl⟩
    rw [hsplit, String.toList_ofList]
  · intro h
    exact ⟨second.toList, h, String.ofList_toList⟩

def join (name : String) : String := String.ofList (name.toList.map fun c => if c = '.' then '_' else c)

theorem toList_join (name : String) : (join name).toList = name.toList.map fun c => if c = '.' then '_' else c :=
  String.toList_ofList

theorem join_of_dot_notMem (h : '.' ∉ name.toList) : join name = name := by
  apply String.toList_injective
  rw [toList_join]
  refine (List.map_congr_left ?_).trans (List.map_id _)
  intro c hmem
  have hne : c ≠ '.' := fun heq => h (heq ▸ hmem)
  exact if_neg hne

theorem underscore_mem_join (h : '.' ∈ name.toList) : '_' ∈ (join name).toList := by
  rw [toList_join, List.mem_map]
  exact ⟨'.', h, if_pos rfl⟩

/-- Of two names one has an underscore, and the other has a dot that may become one. -/
def MixSeparators (first second : String) : Prop :=
  ('_' ∈ first.toList ∧ '.' ∈ second.toList) ∨ ('.' ∈ first.toList ∧ '_' ∈ second.toList)

theorem MixSeparators.symm (h : MixSeparators first second) : MixSeparators second first :=
  Or.symm (h.imp And.symm And.symm)

theorem eq_or_mixed_of_map_eq {first second : List Char}
    (h : (first.map fun c => if c = '.' then '_' else c) = second.map fun c => if c = '.' then '_' else c) :
    first = second ∨ ('_' ∈ first ∧ '.' ∈ second) ∨ ('.' ∈ first ∧ '_' ∈ second) := by
  induction first generalizing second with
  | nil => exact Or.inl (List.map_eq_nil_iff.mp h.symm).symm
  | cons c first ih =>
    cases second with
    | nil => simp at h
    | cons d second =>
      rw [List.map_cons, List.map_cons, List.cons.injEq] at h
      obtain ⟨hhead, htail⟩ := h
      by_cases hsame : c = d
      · subst hsame
        rcases ih htail with rfl | ⟨hfirst, hsecond⟩ | ⟨hfirst, hsecond⟩
        · exact Or.inl rfl
        · exact Or.inr (Or.inl ⟨List.mem_cons_of_mem _ hfirst, List.mem_cons_of_mem _ hsecond⟩)
        · exact Or.inr (Or.inr ⟨List.mem_cons_of_mem _ hfirst, List.mem_cons_of_mem _ hsecond⟩)
      · -- different characters are joined alike just if they are the two separators
        split at hhead
        · rename_i hdot
          rw [if_neg fun heq => hsame (hdot.trans heq.symm)] at hhead
          exact Or.inr (Or.inr ⟨by simp [hdot], by simp [← hhead]⟩)
        · split at hhead
          · rename_i hdot
            exact Or.inr (Or.inl ⟨by simp [hhead], by simp [hdot]⟩)
          · exact absurd hhead hsame

theorem eq_or_mixSeparators_of_join_eq (h : join first = join second) : first = second ∨ MixSeparators first second := by
  have hlists := congrArg String.toList h
  rw [toList_join, toList_join] at hlists
  exact (eq_or_mixed_of_map_eq hlists).imp_left fun heq => String.toList_injective heq

end SchemaClosure.Text
