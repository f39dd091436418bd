/-!
How deep a traversal is and was. Every entered level has a guard, and leaving a level is releasing its guard; a guard is released once.
-/

namespace SchemaClosure

structure DepthTracker where
  current : Nat := 0
  deepest : Nat := 0
  deriving DecidableEq, Repr

namespace DepthTracker

def enter (tracker : DepthTracker) : DepthTracker :=
  { current := tracker.current + 1, deepest := max tracker.deepest (tracker.current + 1) }

def leave (tracker : DepthTracker) : DepthTracker := { tracker with current := tracker.current - 1 }

def enterAll (tracker : DepthTracker) : (levels : Nat) → DepthTracker
  | 0 => tracker
  | levels + 1 => tracker.enter.enterAll levels

def leaveAll (tracker : DepthTracker) : (levels : Nat) → DepthTracker
  | 0 => tracker
  | levels + 1 => tracker.leave.leaveAll levels

theorem enterAll_eq {tracker : DepthTracker} (h : tracker.current ≤ tracker.deepest) (levels : Nat) :
    tracker.enterAll levels =
      { current := tracker.current + levels, deepest := max tracker.deepest (tracker.current + levels) } := by
  induction levels generalizing tracker with
  | zero => rw [enterAll, Nat.add_zero, Nat.max_eq_left h]
  | succ levels ih =>
    have hdeepest : max (max tracker.deepest (tracker.current + 1)) (tracker.current + 1 + levels) =
        max tracker.deepest (tracker.current + (levels + 1)) := by omega
    rw [enterAll, ih (Nat.le_max_right _ _), enter, hdeepest, Nat.add_assoc, Nat.add_comm 1 levels]

theorem leaveAll_eq (tracker : DepthTracker) (levels : Nat) :
    tracker.leaveAll levels = { tracker with current := tracker.current - levels } := by
  induction levels generalizing tracker with
  | zero => rfl
  | succ levels ih => rw [leaveAll, ih, leave, Nat.sub_sub, Nat.add_comm 1 levels]

end DepthTracker

/-- A tracker with the guards of its levels in the order of their opening; a guard that is held has not been released. -/
structure Traversal where
  tracker : DepthTracker := {}
  held : List Bool := []
  deriving DecidableEq, Repr

namespace Traversal

def enter (traversal : Traversal) : Traversal :=
  { tracker := traversal.tracker.enter, held := traversal.held ++ [true] }

/-- Releases a guard by its number; none if there is no such guard. Releasing it again changes nothing. -/
def release? (traversal : Traversal) (guard : Nat) : Option Traversal :=
  match traversal.held[guard]? with
  | none => none
  | some false => some traversal
  | some true => some { tracker := traversal.tracker.leave, held := traversal.held.set guard false }

/-- Releases the guard that was opened last, whether it is held or not. -/
def releaseLast? (traversal : Traversal) : Option Traversal :=
  if traversal.held.isEmpty then none else traversal.release? (traversal.held.length - 1)

/-- Enters `levels` and leaves them all; also the depth that was reached. -/
def recurse (traversal : Traversal) (levels : Nat) : Traversal × Nat :=
  let inside := traversal.tracker.enterAll levels
  ({ traversal with tracker := inside.leaveAll levels }, inside.current)

/-- The depth counts the guards that are held, and the deepest level is no less deep. -/
structure IsCounted (traversal : Traversal) : Prop where
  current_eq : traversal.tracker.current = traversal.held.count true
  current_le : traversal.tracker.current ≤ traversal.tracker.deepest

/-- The traversals that come about from the one that has entered nothing. -/
inductive Arises : Traversal → Prop where
  | start : Arises {}
  | enter {traversal : Traversal} (h : Arises traversal) : Arises traversal.enter
  | release {traversal next : Traversal} {guard : Nat} (h : Arises traversal) (hrelease : traversal.release? guard = some next) :
      Arises next
  | recurse {traversal : Traversal} (h : Arises traversal) (levels : Nat) : Arises (traversal.recurse levels).1

variable {traversal next : Traversal} {guard : Nat}

theorem Arises.releaseLast (h : Arises traversal) (hrelease : traversal.releaseLast? = some next) : Arises next := by
  unfold releaseLast? at hrelease
  split at hrelease
  · simp at hrelease
  · exact h.release hrelease

/-- **A nested run restores the depth,** and keeps how deep it was. -/
theorem recurse_eq (h : traversal.tracker.current ≤ traversal.tracker.deepest) (levels : Nat) :
    traversal.recurse levels =
      ({ traversal with
          tracker := {
            current := traversal.tracker.current
            deepest := max traversal.tracker.deepest (traversal.tracker.current + levels) } },
        traversal.tracker.current + levels) := by
  simp [recurse, DepthTracker.enterAll_eq h, DepthTracker.leaveAll_eq]

theorem release?_of_held (h : traversal.held[guard]? = some true) :
    traversal.release? guard = some { tracker := traversal.tracker.leave, held := traversal.held.set guard false } := by
  rw [release?, h]

theorem release?_of_released (h : traversal.held[guard]? = some false) : traversal.release? guard = some traversal := by
  rw [release?, h]

theorem release?_cases (h : traversal.release? guard = some next) :
    traversal.held[guard]? = some false ∧ next = traversal ∨
      traversal.held[guard]? = some true ∧ next = { tracker := traversal.tracker.leave, held := traversal.held.set guard false } := by
  cases hheld : traversal.held[guard]? with
  | none => simp [release?, hheld] at h
  | some held =>
    cases held with
    | false => exact .inl ⟨rfl, Option.some.inj ((release?_of_released hheld).symm.trans h).symm⟩
    | true => exact .inr ⟨rfl, Option.some.inj ((release?_of_held hheld).symm.trans h).symm⟩

/-- **A guard is released once:** the second release changes nothing. -/
theorem release?_release? (h : traversal.release? guard = some next) : next.release? guard = some next := by
  apply release?_of_released
  rcases release?_cases h with ⟨hheld, rfl⟩ | ⟨hheld, rfl⟩
  · exact hheld
  · rw [List.getElem?_set_self (List.getElem?_eq_some_iff.mp hheld).1]

theorem IsCounted.enter (h : traversal.IsCounted) : traversal.enter.IsCounted where
  current_eq := by simp [Traversal.enter, DepthTracker.enter, h.current_eq]
  current_le := Nat.le_max_right _ _

theorem IsCounted.release (h : traversal.IsCounted) (hrelease : traversal.release? guard = some next) : next.IsCounted := by
  rcases release?_cases hrelease with ⟨-, rfl⟩ | ⟨hheld, rfl⟩
  · exact h
  · obtain ⟨hguard, hheld⟩ := List.getElem?_eq_some_iff.mp hheld
    refine ⟨?_, Nat.le_trans (Nat.sub_le _ _) h.current_le⟩
    rw [List.count_set hguard, hheld]
    simp [DepthTracker.leave, h.current_eq]

theorem IsCounted.recurse (h : traversal.IsCounted) (levels : Nat) : (traversal.recurse levels).1.IsCounted := by
  rw [recurse_eq h.current_le]
  exact ⟨h.current_eq, Nat.le_trans h.current_le (Nat.le_max_left _ _)⟩

/-- **The depth is the number of guards that are held,** whatever was entered, released and run before. -/
theorem Arises.isCounted (h : Arises traversal) : traversal.IsCounted := by
  induction h with
  | start => exact ⟨rfl, Nat.le_refl 0⟩
  | enter _ ih => exact ih.enter
  | release _ hrelease ih => exact ih.release hrelease
  | recurse _ levels ih => exact ih.recurse levels

end Traversal

end SchemaClosure
