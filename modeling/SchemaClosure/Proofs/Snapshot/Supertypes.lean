import Mathlib.Data.List.Nodup
import Mathlib.Data.List.Perm.Subperm
import Mathlib.Logic.Relation
import SchemaClosure.Proofs.Snapshot.Legibility

/-!
The search for supertypes. It goes on for as long as names are pending, which `Climbs` says without a bound on the turns, and ends with every name that one or more steps from a declared name to a parent lead to, each once; cycles do not disturb it.
-/

namespace SchemaClosure.Snapshot

open Relation

/-- The declared type called `name` has a base or an interface called `parent`. -/
def IsParent (snapshot : Snapshot) (name parent : String) : Prop :=
  ∃ declaration, snapshot.find? name = some declaration ∧ parent ∈ parents declaration

/-- What the search does with a parent: a new one is noted as seen and becomes the first of the pending names. -/
def note (progress : List String × List String) (parent : String) : List String × List String :=
  if parent ∈ progress.1 then progress else (progress.1 ++ [parent], parent :: progress.2)

/-- The search that has seen some names, with others pending, ends with `found`. -/
inductive Climbs (snapshot : Snapshot) : (seen pending found : List String) → Prop where
  | done (seen : List String) : Climbs snapshot seen [] seen
  | undeclared {seen rest found : List String} {name : String} (hfind : snapshot.find? name = none)
      (hclimbs : Climbs snapshot seen rest found) : Climbs snapshot seen (name :: rest) found
  | declared {seen rest found : List String} {name : String} {declaration : Declaration} (hfind : snapshot.find? name = some declaration)
      (hclimbs : Climbs snapshot ((parents declaration).foldl note (seen, rest)).1 ((parents declaration).foldl note (seen, rest)).2 found) :
      Climbs snapshot seen (name :: rest) found

variable {snapshot : Snapshot} {start name parent : String} {seen pending rest found : List String} {fuel : Nat}

theorem climb_cons : snapshot.climb (fuel + 1) seen (name :: rest) =
    snapshot.climb fuel (seen ++ snapshot.freshParents seen name) ((snapshot.freshParents seen name).reverse ++ rest) := rfl

theorem climb_nil : snapshot.climb fuel seen [] = seen := by
  cases fuel <;> rfl

theorem mem_parents_iff : parent ∈ ((snapshot.find? name).map parents).getD [] ↔ snapshot.IsParent name parent := by
  rw [IsParent]
  cases snapshot.find? name <;> simp

theorem addFresh_of_mem {fresh : List String} (h : parent ∈ seen ∨ parent ∈ fresh) : addFresh seen fresh parent = fresh :=
  if_pos (by simpa using h)

theorem addFresh_of_notMem {fresh : List String} (h : ¬(parent ∈ seen ∨ parent ∈ fresh)) :
    addFresh seen fresh parent = fresh ++ [parent] :=
  if_neg (by simpa using h)

theorem nodup_addFresh {fresh : List String} (h : fresh.Nodup) : (addFresh seen fresh parent).Nodup := by
  by_cases hold : parent ∈ seen ∨ parent ∈ fresh
  · rwa [addFresh_of_mem hold]
  · rw [addFresh_of_notMem hold]
    exact h.append (List.nodup_singleton _) (by simpa using (not_or.mp hold).2)

theorem mem_addFresh_iff {fresh : List String} : name ∈ addFresh seen fresh parent ↔ name ∈ fresh ∨ name = parent ∧ name ∉ seen := by
  by_cases hold : parent ∈ seen ∨ parent ∈ fresh
  · rw [addFresh_of_mem hold]
    grind
  · rw [addFresh_of_notMem hold]
    grind

theorem nodup_foldl_addFresh {names fresh : List String} (h : fresh.Nodup) : (names.foldl (addFresh seen) fresh).Nodup := by
  induction names generalizing fresh with
  | nil => exact h
  | cons name rest ih => exact ih (nodup_addFresh h)

theorem mem_foldl_addFresh {names fresh : List String} :
    parent ∈ names.foldl (addFresh seen) fresh ↔ parent ∈ fresh ∨ parent ∈ names ∧ parent ∉ seen := by
  induction names generalizing fresh with
  | nil => simp
  | cons name rest ih =>
    rw [List.foldl_cons, ih, mem_addFresh_iff, List.mem_cons, or_and_right, or_assoc]

theorem nodup_freshParents : (snapshot.freshParents seen name).Nodup := nodup_foldl_addFresh List.nodup_nil

theorem mem_freshParents_iff : parent ∈ snapshot.freshParents seen name ↔ snapshot.IsParent name parent ∧ parent ∉ seen := by
  rw [freshParents, mem_foldl_addFresh, mem_parents_iff]
  simp

/-- What holds all the way: the names seen are above the start, and the parents of the start and of every name seen have been seen, except where the name is still pending. -/
structure IsClimbing (snapshot : Snapshot) (start : String) (seen pending : List String) : Prop where
  nodup : seen.Nodup
  above : ∀ name ∈ seen, TransGen snapshot.IsParent start name
  reached : ∀ name ∈ pending, name = start ∨ name ∈ seen
  complete : ∀ name, name = start ∨ name ∈ seen → name ∈ pending ∨ ∀ parent, snapshot.IsParent name parent → parent ∈ seen

theorem isClimbing_start : snapshot.IsClimbing start [] [start] where
  nodup := List.nodup_nil
  above := by simp
  reached := by simp
  complete := by simp

theorem IsClimbing.step (h : snapshot.IsClimbing start seen (name :: rest)) :
    snapshot.IsClimbing start (seen ++ snapshot.freshParents seen name) ((snapshot.freshParents seen name).reverse ++ rest) where
  nodup := List.nodup_append.mpr ⟨h.nodup, nodup_freshParents, fun seen' hseen fresh hfresh heq =>
    (mem_freshParents_iff.mp hfresh).2 (heq ▸ hseen)⟩
  above := by
    intro found hfound
    rcases List.mem_append.mp hfound with hseen | hfresh
    · exact h.above found hseen
    · have hparent := (mem_freshParents_iff.mp hfresh).1
      rcases h.reached name List.mem_cons_self with rfl | hname
      · exact .single hparent
      · exact (h.above name hname).tail hparent
  reached := by
    intro next hnext
    rw [List.mem_append]
    rcases List.mem_append.mp hnext with hfresh | hrest
    · exact Or.inr (Or.inr (List.mem_reverse.mp hfresh))
    · exact (h.reached next (List.mem_cons_of_mem _ hrest)).imp_right Or.inl
  complete := by
    intro found hfound
    rw [List.mem_append]
    by_cases hfresh : found ∈ snapshot.freshParents seen name
    · exact Or.inl (Or.inl (List.mem_reverse.mpr hfresh))
    · have hfound' : found = start ∨ found ∈ seen :=
        hfound.imp_right fun hmem => (List.mem_append.mp hmem).resolve_right hfresh
      rcases h.complete found hfound' with hpending | hparents
      · rcases List.mem_cons.mp hpending with rfl | hrest
        · -- the name whose turn it was: its parents had been seen or are fresh
          refine Or.inr ?_
          intro parent hparent
          rw [List.mem_append, mem_freshParents_iff]
          by_cases hseen : parent ∈ seen
          · exact Or.inl hseen
          · exact Or.inr ⟨hparent, hseen⟩
        · exact Or.inl (Or.inr hrest)
      · exact Or.inr fun parent hparent => List.mem_append_left _ (hparents parent hparent)

theorem IsClimbing.subset (h : snapshot.IsClimbing start seen pending) : seen ⊆ snapshot.declarations.flatMap parents := by
  intro name hname
  obtain ⟨below, -, declaration, hfind, hparent⟩ := TransGen.tail'_iff.mp (h.above name hname)
  exact List.mem_flatMap.mpr ⟨declaration, List.mem_of_find?_eq_some hfind, hparent⟩

/-- A parent is noted as seen just if it is fresh. -/
theorem note_eq (seen rest fresh : List String) (parent : String) :
    note (seen ++ fresh, fresh.reverse ++ rest) parent =
      (seen ++ addFresh seen fresh parent, (addFresh seen fresh parent).reverse ++ rest) := by
  by_cases hold : parent ∈ seen ∨ parent ∈ fresh
  · rw [note, if_pos (List.mem_append.mpr hold), addFresh_of_mem hold]
  · rw [note, if_neg (by simpa using hold), addFresh_of_notMem hold, List.append_assoc, List.reverse_append]
    rfl

theorem foldl_note (seen rest parents fresh : List String) :
    parents.foldl note (seen ++ fresh, fresh.reverse ++ rest) =
      (seen ++ parents.foldl (addFresh seen) fresh, (parents.foldl (addFresh seen) fresh).reverse ++ rest) := by
  induction parents generalizing fresh with
  | nil => rfl
  | cons parent parents ih => rw [List.foldl_cons, List.foldl_cons, note_eq, ih]

theorem climbs_cons_iff : snapshot.Climbs seen (name :: rest) found ↔
    snapshot.Climbs (seen ++ snapshot.freshParents seen name) ((snapshot.freshParents seen name).reverse ++ rest) found := by
  cases hfind : snapshot.find? name with
  | none =>
    have hfresh : snapshot.freshParents seen name = [] := by rw [freshParents, hfind]; rfl
    rw [hfresh, List.append_nil, List.reverse_nil, List.nil_append]
    refine ⟨?_, .undeclared hfind⟩
    rintro (_ | ⟨-, hclimbs⟩ | ⟨hdeclared, -⟩)
    · exact hclimbs
    · simp [hfind] at hdeclared
  | some declaration =>
    have hfresh : (parents declaration).foldl note (seen, rest) =
        (seen ++ snapshot.freshParents seen name, (snapshot.freshParents seen name).reverse ++ rest) := by
      have hfold := foldl_note seen rest (parents declaration) []
      rw [List.append_nil, List.reverse_nil, List.nil_append] at hfold
      rw [hfold, freshParents, hfind]
      rfl
    constructor
    · rintro (_ | ⟨hundeclared, -⟩ | ⟨hdeclared, hclimbs⟩)
      · simp [hfind] at hundeclared
      · obtain rfl := Option.some.inj (hfind.symm.trans hdeclared)
        rwa [hfresh] at hclimbs
    · intro hclimbs
      apply Climbs.declared hfind
      rwa [hfresh]

/-- The search has one result at most. -/
theorem Climbs.unique (h : snapshot.Climbs seen pending found) {other : List String} (hother : snapshot.Climbs seen pending other) :
    found = other := by
  induction h with
  | done => cases hother; rfl
  | undeclared hfind hclimbs ih =>
    rcases hother with _ | ⟨-, hother⟩ | ⟨hdeclared, -⟩
    · exact ih hother
    · simp [hfind] at hdeclared
  | declared hfind hclimbs ih =>
    rcases hother with _ | ⟨hundeclared, -⟩ | ⟨hdeclared, hother⟩
    · simp [hfind] at hundeclared
    · obtain rfl := Option.some.inj (hfind.symm.trans hdeclared)
      exact ih hother

/-- Every turn uses up a pending name and every fresh one is new, so there are too few names for the fuel to run out. -/
theorem IsClimbing.climb (h : snapshot.IsClimbing start seen pending)
    (hfuel : (snapshot.declarations.flatMap parents).length + pending.length ≤ fuel + seen.length) :
    snapshot.Climbs seen pending (snapshot.climb fuel seen pending) ∧ snapshot.IsClimbing start (snapshot.climb fuel seen pending) [] := by
  induction fuel generalizing seen pending with
  | zero =>
    have hlength := (List.subperm_of_subset h.nodup h.subset).length_le
    have hpending : pending = [] := List.length_eq_zero_iff.mp (by omega)
    subst hpending
    exact ⟨.done seen, h⟩
  | succ fuel ih =>
    match pending with
    | [] =>
      rw [climb_nil]
      exact ⟨.done seen, h⟩
    | name :: rest =>
      rw [climb_cons, climbs_cons_iff]
      apply ih h.step
      rw [List.length_cons] at hfuel
      rw [List.length_append, List.length_append, List.length_reverse]
      omega

theorem climb_supertypes (snapshot : Snapshot) (name : String) :
    snapshot.Climbs [] [name] (snapshot.supertypes name) ∧ snapshot.IsClimbing name (snapshot.supertypes name) [] := by
  apply isClimbing_start.climb
  rw [climbFuel, List.length_singleton, List.length_nil]
  omega

/-- **The search ends,** and supertypes are its result. -/
theorem climbs_iff : snapshot.Climbs [] [name] found ↔ found = snapshot.supertypes name := by
  constructor
  · intro h
    exact h.unique (climb_supertypes snapshot name).1
  · rintro rfl
    exact (climb_supertypes snapshot name).1

theorem nodup_supertypes (snapshot : Snapshot) (name : String) : (snapshot.supertypes name).Nodup :=
  (climb_supertypes snapshot name).2.nodup

/-- **Supertypes are what the parents lead to.** -/
theorem mem_supertypes_iff : parent ∈ snapshot.supertypes name ↔ TransGen snapshot.IsParent name parent := by
  have h := (climb_supertypes snapshot name).2
  constructor
  · exact h.above parent
  · intro habove
    induction habove with
    | single hparent => exact ((h.complete name (Or.inl rfl)).resolve_left List.not_mem_nil) _ hparent
    | tail _ hparent ih => exact ((h.complete _ (Or.inr ih)).resolve_left List.not_mem_nil) _ hparent

end SchemaClosure.Snapshot
