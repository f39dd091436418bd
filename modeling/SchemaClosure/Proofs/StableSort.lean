import Mathlib.Data.List.Perm.Basic

namespace SchemaClosure

theorem filter_mergeSort {α : Type} {le : α → α → Bool} {select : α → Bool} (htrans : ∀ a b c, le a b = true → le b c = true → le a c = true)
    (htotal : ∀ a b, (le a b || le b a) = true) (halike : ∀ a b, select a = true → select b = true → le a b = true) (elements : List α) :
    (elements.mergeSort le).filter select = elements.filter select := by
  have hpairwise : (elements.filter select).Pairwise fun a b => le a b = true := by
    refine List.pairwise_iff_forall_sublist.mpr ?_
    intro a b hsublist
    have hmem (c : α) (hc : c ∈ [a, b]) : select c = true := (List.mem_filter.mp (hsublist.subset hc)).2
    exact halike a b (hmem a (by simp)) (hmem b (by simp))
  have hsublist : (elements.filter select).Sublist ((elements.mergeSort le).filter select) := by
    have hsorted := (List.sublist_mergeSort htrans htotal hpairwise List.filter_sublist).filter select
    rwa [List.filter_filter, show (fun a => select a && select a) = select from funext fun a => Bool.and_self _] at hsorted
  have hlength : (elements.filter select).length = ((elements.mergeSort le).filter select).length :=
    ((List.mergeSort_perm elements le).filter select).length_eq.symm
  exact (hsublist.eq_of_length hlength).symm

variable {α κ : Type} {key : α → κ} {first second : List α}

/-- Lists that differ only in where elements with different keys stand relative to each other. -/
inductive Reordered (key : α → κ) : List α → List α → Prop where
  | nil : Reordered key [] []
  | cons (element : α) {first second : List α} (h : Reordered key first second) : Reordered key (element :: first) (element :: second)
  | swap {element other : α} (rest : List α) (hne : key element ≠ key other) :
      Reordered key (element :: other :: rest) (other :: element :: rest)
  | trans {first second third : List α} (h : Reordered key first second) (h' : Reordered key second third) : Reordered key first third

theorem Reordered.refl (elements : List α) : Reordered key elements elements := by
  induction elements with
  | nil => exact .nil
  | cons element rest ih => exact .cons element ih

theorem Reordered.symm (h : Reordered key first second) : Reordered key second first := by
  induction h with
  | nil => exact .nil
  | cons element _ ih => exact .cons element ih
  | swap rest hne => exact .swap rest hne.symm
  | trans _ _ ih ih' => exact .trans ih' ih

theorem Reordered.perm (h : Reordered key first second) : first.Perm second := by
  induction h with
  | nil => exact .nil
  | cons element _ ih => exact .cons element ih
  | swap rest _ => exact .swap _ _ rest
  | trans _ _ ih ih' => exact .trans ih ih'

/-- An element can be put in front of elements with other keys. -/
theorem reordered_append_cons {element : α} {before : List α} (h : ∀ other ∈ before, key other ≠ key element) (after : List α) :
    Reordered key (before ++ element :: after) (element :: (before ++ after)) := by
  induction before with
  | nil => exact .refl _
  | cons other rest ih =>
    obtain ⟨hother, hrest⟩ := List.forall_mem_cons.mp h
    exact .trans (.cons other (ih hrest)) (.swap _ hother)

variable [DecidableEq κ]

theorem Reordered.filter_eq (h : Reordered key first second) (value : κ) :
    first.filter (key · == value) = second.filter (key · == value) := by
  induction h with
  | nil => rfl
  | cons element _ ih => rw [List.filter_cons, List.filter_cons, ih]
  | @swap element other rest hne =>
    by_cases hvalue : key element = value
    · have hother : (key other == value) = false := beq_eq_false_iff_ne.mpr (hvalue ▸ hne.symm)
      simp [List.filter_cons, hother]
    · simp [List.filter_cons, beq_eq_false_iff_ne.mpr hvalue]
  | trans _ _ ih ih' => rw [ih, ih']

theorem filter_tail_eq (element : α)
    (h : ∀ value, (element :: first).filter (key · == value) = (element :: second).filter (key · == value)) (value : κ) :
    first.filter (key · == value) = second.filter (key · == value) := by
  have hvalue := h value
  rw [List.filter_cons, List.filter_cons] at hvalue
  split at hvalue
  · exact List.tail_eq_of_cons_eq hvalue
  · exact hvalue

/-- Lists with the same elements under every key, in the same order, differ in nothing else. -/
theorem reordered_of_filter_eq (h : ∀ value, first.filter (key · == value) = second.filter (key · == value)) :
    Reordered key first second := by
  induction first generalizing second with
  | nil =>
    cases second with
    | nil => exact .nil
    | cons element rest => simpa using h (key element)
  | cons element rest ih =>
    have hfound : second.filter (key · == key element) = element :: rest.filter (key · == key element) := by
      rw [← h, List.filter_cons, if_pos (beq_self_eq_true _)]
    obtain ⟨before, after, rfl, hbefore, -, -⟩ := List.filter_eq_cons_iff.mp hfound
    have hmoved : Reordered key (before ++ element :: after) (element :: (before ++ after)) :=
      reordered_append_cons (fun other hother => by simpa using hbefore other hother) after
    refine .trans (.cons element (ih (filter_tail_eq element ?_))) hmoved.symm
    intro value
    rw [h, hmoved.filter_eq]

/-- Sorted lists that differ in the order of elements with different keys only do not differ at all. -/
theorem Reordered.eq_of_pairwise {le : α → α → Prop} (h : Reordered key first second)
    (hantisymm : ∀ a b, le a b → le b a → key a = key b) (hfirst : first.Pairwise le) (hsecond : second.Pairwise le) :
    first = second := by
  induction first generalizing second with
  | nil => exact h.perm.nil_eq
  | cons element rest ih =>
    cases second with
    | nil => exact absurd h.perm.length_eq (by simp)
    | cons other others =>
      obtain ⟨hleast, hrest⟩ := List.pairwise_cons.mp hfirst
      obtain ⟨hleast', hothers⟩ := List.pairwise_cons.mp hsecond
      have hsame : element = other := by
        rcases List.mem_cons.mp (h.perm.mem_iff.mp List.mem_cons_self) with hsame | helement
        · exact hsame
        · rcases List.mem_cons.mp (h.perm.mem_iff.mpr List.mem_cons_self) with hsame | hother
          · exact hsame.symm
          · -- neither head is greater than the other, so both come first under one key
            have hkey := hantisymm _ _ (hleast other hother) (hleast' element helement)
            have hfilter := h.filter_eq (key element)
            rw [List.filter_cons, if_pos (beq_self_eq_true _), List.filter_cons, if_pos (by rw [hkey]; exact beq_self_eq_true _)] at hfilter
            exact List.head_eq_of_cons_eq hfilter
      subst hsame
      rw [ih (reordered_of_filter_eq (filter_tail_eq element h.filter_eq)) hrest hothers]

end SchemaClosure
