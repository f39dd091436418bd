import SchemaClosure.Proofs.Snapshot.Nesting

/-!
The accessibility of a type to codecs. It is settled on the way outward from the type, at the first level that is hidden from them; `Settles` says so without a bound on the levels. In an accepted snapshot the way ends, so a type is visible just if it is not hidden at any level, and the innermost hidden level decides how it is hidden.
-/

namespace SchemaClosure

theorem Accessibility.isVisible_iff {accessibility : Accessibility} :
    accessibility.isVisible = true ↔ accessibility = .publicAccess ∨ accessibility = .internalAccess := by
  cases accessibility <;> simp [isVisible]

namespace Snapshot

open Relation

/-- The declaration and all that it is nested in are public or internal. -/
def IsShown (declarations : List Declaration) (declaration : Declaration) : Prop :=
  ∀ level, ReflTransGen (IsNestedIn declarations) declaration level →
    level.accessibility = .publicAccess ∨ level.accessibility = .internalAccess

/-- A hidden level of a declaration, with nothing hidden on the way to it. -/
structure IsInnermostHidden (declarations : List Declaration) (declaration level : Declaration) : Prop where
  reached : ReflTransGen (IsNestedIn declarations) declaration level
  hidden : level.accessibility.isVisible = false
  innermost : ∀ inner, ReflTransGen (IsNestedIn declarations) declaration inner → TransGen (IsNestedIn declarations) inner level →
    inner.accessibility.isVisible = true

/-- On the way outward from a declaration that has itself the accessibility `own`, the level `current` settles its accessibility, or a level around that. -/
inductive Settles (snapshot : Snapshot) (own : Accessibility) : (current : Declaration) → Accessibility → Prop where
  | hidden {current : Declaration} (hhidden : current.accessibility.isVisible = false) :
      Settles snapshot own current current.accessibility
  | outermost {current : Declaration} (hvisible : current.accessibility.isVisible = true)
      (houter : current.containingType.bind snapshot.find? = none) : Settles snapshot own current own
  | outward {current outer : Declaration} {accessibility : Accessibility} (hvisible : current.accessibility.isVisible = true)
      (houter : current.containingType.bind snapshot.find? = some outer) (hsettles : Settles snapshot own outer accessibility) :
      Settles snapshot own current accessibility

variable {snapshot : Snapshot} {declarations : List Declaration} {declaration current outer level : Declaration}
  {own accessibility : Accessibility} {type : TypeRef}

/-- One level settles one accessibility at most. -/
theorem Settles.unique (h : snapshot.Settles own current accessibility) {other : Accessibility}
    (hother : snapshot.Settles own current other) : accessibility = other := by
  induction h with
  | hidden hhidden => cases hother <;> simp_all
  | outermost hvisible houter => cases hother <;> simp_all
  | outward hvisible houter hsettles ih =>
    rcases hother with ⟨hhidden⟩ | ⟨-, hnone⟩ | ⟨-, houter', hsettles'⟩
    · simp [hhidden] at hvisible
    · simp [hnone] at houter
    · obtain rfl := Option.some.inj (houter.symm.trans houter')
      exact ih hsettles'

/-- The first hidden one of a list of levels settles the accessibility, where the list is complete. -/
theorem settles_of_length_le {fuel : Nat} (h : (snapshot.enclosing fuel current).length ≤ fuel) :
    snapshot.Settles own current
      ((((snapshot.enclosing fuel current).map (·.accessibility)).find? fun level => !level.isVisible).getD own) := by
  induction fuel generalizing current with
  | zero => simp [enclosing] at h
  | succ fuel ih =>
    by_cases hvisible : current.accessibility.isVisible = true
    · unfold enclosing at h ⊢
      split at h
      · rename_i hnone
        simpa [hvisible] using Settles.outermost hvisible hnone
      · rename_i outer houter
        have hsettles := ih (Nat.le_of_succ_le_succ h)
        simpa [hvisible] using Settles.outward hvisible houter hsettles
    · have hhidden := eq_false_of_ne_true hvisible
      unfold enclosing
      split <;> simpa [hhidden] using Settles.hidden hhidden

/-- **The way outward ends,** with the accessibility of the type. -/
theorem settles_iff (h : ofDeclarations declarations = .ok snapshot) (htype : snapshot.declaration? type = some declaration) :
    snapshot.Settles declaration.accessibility declaration accessibility ↔ accessibility = snapshot.accessibility type := by
  have hsettles : snapshot.Settles declaration.accessibility declaration (snapshot.accessibility type) := by
    rw [Snapshot.accessibility, htype]
    exact settles_of_length_le (length_enclosing_le h (mem_of_declaration? htype))
  constructor
  · intro hother
    exact hother.unique hsettles
  · rintro rfl
    exact hsettles

theorem isShown_of_outermost (h : ofDeclarations declarations = .ok snapshot)
    (houter : current.containingType.bind snapshot.find? = none) (hvisible : current.accessibility.isVisible = true) :
    IsShown snapshot.declarations current := by
  intro level hlevel
  rcases ReflTransGen.cases_head hlevel with rfl | ⟨outer, hnested, -⟩
  · exact Accessibility.isVisible_iff.mp hvisible
  · rw [isNestedIn_iff_find? h, houter] at hnested
    simp at hnested

theorem isShown_of_outward (h : ofDeclarations declarations = .ok snapshot) (hnested : IsNestedIn snapshot.declarations current outer)
    (hvisible : current.accessibility.isVisible = true) (hshown : IsShown snapshot.declarations outer) :
    IsShown snapshot.declarations current := by
  intro level hlevel
  rcases ReflTransGen.cases_head hlevel with rfl | ⟨next, hnext, habove⟩
  · exact Accessibility.isVisible_iff.mp hvisible
  · obtain rfl := isNestedIn_rightUnique (nodup_names h) hnext hnested
    exact hshown level habove

theorem IsInnermostHidden.of_outward (h : ofDeclarations declarations = .ok snapshot)
    (hnested : IsNestedIn snapshot.declarations current outer) (hvisible : current.accessibility.isVisible = true)
    (hlevel : IsInnermostHidden snapshot.declarations outer level) : IsInnermostHidden snapshot.declarations current level where
  reached := hlevel.reached.head hnested
  hidden := hlevel.hidden
  innermost := by
    intro inner hinner habove
    rcases ReflTransGen.cases_head hinner with rfl | ⟨next, hnext, hinner⟩
    · exact hvisible
    · obtain rfl := isNestedIn_rightUnique (nodup_names h) hnext hnested
      exact hlevel.innermost inner hinner habove

theorem isInnermostHidden_self (h : ofDeclarations declarations = .ok snapshot) (hhidden : current.accessibility.isVisible = false) :
    IsInnermostHidden snapshot.declarations current current where
  reached := .refl
  hidden := hhidden
  innermost := by
    intro inner hinner habove
    -- going on from `inner` would come back to where the way began
    exact absurd (TransGen.trans_right hinner habove) (not_transGen_isNestedIn_self h current)

/-- What settles the accessibility is the innermost hidden level, if there is one. -/
theorem Settles.cases (h : ofDeclarations declarations = .ok snapshot) (hsettles : snapshot.Settles own current accessibility) :
    IsShown snapshot.declarations current ∧ accessibility = own ∨
      ∃ level, IsInnermostHidden snapshot.declarations current level ∧ accessibility = level.accessibility := by
  induction hsettles with
  | hidden hhidden => exact Or.inr ⟨_, isInnermostHidden_self h hhidden, rfl⟩
  | outermost hvisible houter => exact Or.inl ⟨isShown_of_outermost h houter hvisible, rfl⟩
  | outward hvisible houter hsettles ih =>
    have hnested := (isNestedIn_iff_find? h).mpr houter
    rcases ih with ⟨hshown, hown⟩ | ⟨level, hlevel, haccessibility⟩
    · exact Or.inl ⟨isShown_of_outward h hnested hvisible hshown, hown⟩
    · exact Or.inr ⟨level, hlevel.of_outward h hnested hvisible, haccessibility⟩

theorem accessibility_cases (h : ofDeclarations declarations = .ok snapshot) (htype : snapshot.declaration? type = some declaration) :
    IsShown snapshot.declarations declaration ∧ snapshot.accessibility type = declaration.accessibility ∨
      ∃ level, IsInnermostHidden snapshot.declarations declaration level ∧ snapshot.accessibility type = level.accessibility :=
  ((settles_iff h htype).mpr rfl).cases h

theorem IsInnermostHidden.not_isShown (h : IsInnermostHidden declarations declaration level) : ¬IsShown declarations declaration := by
  intro hshown
  have hvisible := Accessibility.isVisible_iff.mpr (hshown level h.reached)
  rw [h.hidden] at hvisible
  exact Bool.noConfusion hvisible

/-- Of two hidden levels on one way outward, one is passed first. -/
theorem IsInnermostHidden.unique (hdistinct : (declarations.map (·.name)).Nodup)
    (h : IsInnermostHidden declarations declaration level) {other : Declaration}
    (hother : IsInnermostHidden declarations declaration other) : level = other := by
  have hfirst {inner later : Declaration} (hinner : IsInnermostHidden declarations declaration inner)
      (hlater : IsInnermostHidden declarations declaration later) (hpath : ReflTransGen (IsNestedIn declarations) inner later) :
      later = inner := by
    rcases reflTransGen_iff_eq_or_transGen.mp hpath with heq | habove
    · exact heq
    · have hvisible := hlater.innermost inner hinner.reached habove
      rw [hinner.hidden] at hvisible
      exact Bool.noConfusion hvisible
  rcases ReflTransGen.total_of_right_unique (isNestedIn_rightUnique hdistinct) h.reached hother.reached with hpath | hpath
  · exact (hfirst h hother hpath).symm
  · exact hfirst hother h hpath

/-- **A type is visible just if no level hides it.** -/
theorem isVisible_accessibility_iff (h : ofDeclarations declarations = .ok snapshot)
    (htype : snapshot.declaration? type = some declaration) :
    (snapshot.accessibility type).isVisible = true ↔ IsShown snapshot.declarations declaration := by
  rcases accessibility_cases h htype with ⟨hshown, hown⟩ | ⟨level, hlevel, haccessibility⟩
  · rw [hown]
    exact iff_of_true (Accessibility.isVisible_iff.mpr (hshown declaration .refl)) hshown
  · rw [haccessibility, hlevel.hidden]
    exact iff_of_false Bool.false_ne_true hlevel.not_isShown

theorem accessibility_eq_of_isShown (h : ofDeclarations declarations = .ok snapshot)
    (htype : snapshot.declaration? type = some declaration) (hshown : IsShown snapshot.declarations declaration) :
    snapshot.accessibility type = declaration.accessibility := by
  rcases accessibility_cases h htype with ⟨-, hown⟩ | ⟨level, hlevel, -⟩
  · exact hown
  · exact absurd hshown hlevel.not_isShown

theorem accessibility_eq_of_isInnermostHidden (h : ofDeclarations declarations = .ok snapshot)
    (htype : snapshot.declaration? type = some declaration) (hlevel : IsInnermostHidden snapshot.declarations declaration level) :
    snapshot.accessibility type = level.accessibility := by
  rcases accessibility_cases h htype with ⟨hshown, -⟩ | ⟨other, hother, haccessibility⟩
  · exact absurd hshown hlevel.not_isShown
  · rw [haccessibility, hother.unique (nodup_names h) hlevel]

theorem existsUnique_isInnermostHidden (h : ofDeclarations declarations = .ok snapshot)
    (htype : snapshot.declaration? type = some declaration) (hhidden : ¬IsShown snapshot.declarations declaration) :
    ∃! level, IsInnermostHidden snapshot.declarations declaration level := by
  rcases accessibility_cases h htype with ⟨hshown, -⟩ | ⟨level, hlevel, -⟩
  · exact absurd hshown hhidden
  · exact ⟨level, hlevel, fun other hother => hother.unique (nodup_names h) hlevel⟩

end Snapshot

end SchemaClosure
