import Mathlib.Data.List.Perm.Subperm
import Mathlib.Logic.Relation

/-!
Walks that have one way to go on at most. Such a walk comes to an end, or it comes to a cycle, but not both. Two relations that agree wherever a walk gets to have the same walks.
-/

namespace SchemaClosure

open Relation

variable {α : Type} {step : α → α → Prop} {start point last : α}

/-- The walk comes to a point that it returns to. -/
def ReachesCycle (step : α → α → Prop) (start : α) : Prop := ∃ point, ReflTransGen step start point ∧ TransGen step point point

/-- The walk comes to a point where it does not go on. -/
def ReachesEnd (step : α → α → Prop) (start : α) : Prop := ∃ last, ReflTransGen step start last ∧ ∀ next, ¬step last next

theorem ReachesCycle.of_step (hstep : step start point) (h : ReachesCycle step point) : ReachesCycle step start := by
  obtain ⟨cyclic, hpath, hcycle⟩ := h
  exact ⟨cyclic, hpath.head hstep, hcycle⟩

theorem ReachesEnd.of_step (hstep : step start point) (h : ReachesEnd step point) : ReachesEnd step start := by
  obtain ⟨last, hpath, hlast⟩ := h
  exact ⟨last, hpath.head hstep, hlast⟩

/-- The points that a walk has passed on its way, each once. -/
structure IsTrail (step : α → α → Prop) (passed : List α) (point : α) : Prop where
  nodup : passed.Nodup
  leads : ∀ earlier ∈ passed, TransGen step earlier point

namespace IsTrail

variable {passed : List α}

theorem nil (step : α → α → Prop) (point : α) : IsTrail step [] point := ⟨List.nodup_nil, fun _ h => absurd h List.not_mem_nil⟩

theorem push {next : α} (h : IsTrail step passed point) (hfresh : point ∉ passed) (hstep : step point next) :
    IsTrail step (point :: passed) next where
  nodup := List.nodup_cons.mpr ⟨hfresh, h.nodup⟩
  leads := List.forall_mem_cons.mpr ⟨.single hstep, fun earlier hearlier => (h.leads earlier hearlier).tail hstep⟩

theorem reachesCycle (h : IsTrail step passed point) (hback : point ∈ passed) : ReachesCycle step point :=
  ⟨point, .refl, h.leads point hback⟩

/-- A trail within a list is not longer than the list. -/
theorem length_le {points : List α} (h : IsTrail step passed point) (hpoints : passed ⊆ points) : passed.length ≤ points.length :=
  (List.subperm_of_subset h.nodup hpoints).length_le

end IsTrail

/-- A walk that begins on a cycle stays on it. -/
theorem transGen_self_of_reflTransGen (hunique : Relator.RightUnique step) (hcycle : TransGen step start start)
    (hpath : ReflTransGen step start point) : TransGen step point point := by
  induction hpath with
  | refl => exact hcycle
  | tail _ hstep ih =>
    obtain ⟨next, hnext, hback⟩ := TransGen.head'_iff.mp ih
    rw [hunique hnext hstep] at hback
    exact TransGen.tail' hback hstep

theorem ReachesEnd.not_reachesCycle (hunique : Relator.RightUnique step) (h : ReachesEnd step start) : ¬ReachesCycle step start := by
  rintro ⟨cyclic, hpath, hcycle⟩
  obtain ⟨last, hend, hlast⟩ := h
  rcases ReflTransGen.total_of_right_unique hunique hpath hend with habove | habove
  · obtain ⟨next, hnext, -⟩ := TransGen.head'_iff.mp (transGen_self_of_reflTransGen hunique hcycle habove)
    exact hlast next hnext
  · rcases ReflTransGen.cases_head habove with rfl | ⟨next, hnext, -⟩
    · obtain ⟨next, hnext, -⟩ := TransGen.head'_iff.mp hcycle
      exact hlast next hnext
    · exact hlast next hnext

/-- Walks that go on alike from points of some kind, and stay at such points, come to the same points. -/
theorem transGen_congr {step' : α → α → Prop} {known : α → Prop} (hstep : ∀ {here next}, known here → (step here next ↔ step' here next))
    (hkeep : ∀ {here next}, known here → step here next → known next) (hstart : known start) :
    TransGen step start point ↔ TransGen step' start point := by
  have hforward {step₁ step₂ : α → α → Prop} (hstep : ∀ {here next}, known here → step₁ here next → step₂ here next ∧ known next)
      (h : TransGen step₁ start point) : TransGen step₂ start point ∧ known point := by
    induction h with
    | single hnext => exact (hstep hstart hnext).imp_left .single
    | tail _ hnext ih => exact (hstep ih.2 hnext).imp_left ih.1.tail
  constructor
  · exact fun h => (hforward (fun hknown hnext => ⟨(hstep hknown).mp hnext, hkeep hknown hnext⟩) h).1
  · exact fun h => (hforward (fun hknown hnext => ⟨(hstep hknown).mpr hnext, hkeep hknown ((hstep hknown).mpr hnext)⟩) h).1

end SchemaClosure
