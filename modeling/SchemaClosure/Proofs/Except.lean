import Mathlib.Data.List.Forall2

namespace SchemaClosure

variable {ε α β : Type}

theorem map_eq_ok_iff {f : α → β} {result : Except ε α} {value : β} :
    result.map f = .ok value ↔ ∃ given, result = .ok given ∧ f given = value := by
  cases result with
  | error error => simp [Except.map]
  | ok given => simp [Except.map]

theorem mapError_eq_ok_iff {ε' : Type} {f : ε → ε'} {result : Except ε α} {value : α} :
    result.mapError f = .ok value ↔ result = .ok value := by
  cases result with
  | error error => simp [Except.mapError]
  | ok given => simp [Except.mapError]

theorem bind_eq_ok_iff {f : α → Except ε β} {result : Except ε α} {value : β} :
    result >>= f = .ok value ↔ ∃ given, result = .ok given ∧ f given = .ok value := by
  cases result with
  | error error => simp [bind, Except.bind]
  | ok given => simp [bind, Except.bind]

theorem map_eq_error_iff {f : α → β} {result : Except ε α} {error : ε} : result.map f = .error error ↔ result = .error error := by
  cases result with
  | error cause => simp [Except.map]
  | ok given => simp [Except.map]

theorem bind_eq_error_iff {f : α → Except ε β} {result : Except ε α} {error : ε} :
    result >>= f = .error error ↔ result = .error error ∨ ∃ given, result = .ok given ∧ f given = .error error := by
  cases result with
  | error cause => simp [bind, Except.bind]
  | ok given => simp [bind, Except.bind]

theorem eq_some_ok_of_toOption {result : Option (Except ε α)} {value : α} (h : result.bind Except.toOption = some value) :
    result = some (.ok value) := by
  obtain ⟨outcome, hresult, houtcome⟩ := Option.bind_eq_some_iff.mp h
  cases outcome with
  | error error => simp [Except.toOption] at houtcome
  | ok other =>
    rw [hresult]
    exact congrArg (some ∘ Except.ok) (Option.some.inj houtcome)

theorem forM_eq_ok_iff {f : α → Except ε Unit} {elements : List α} :
    elements.forM f = .ok () ↔ ∀ element ∈ elements, f element = .ok () := by
  induction elements with
  | nil => simp [pure, Except.pure]
  | cons element rest ih =>
    rw [List.forall_mem_cons, ← ih, List.forM, bind_eq_ok_iff]
    constructor
    · rintro ⟨⟨⟩, helement, hrest⟩
      exact ⟨helement, hrest⟩
    · rintro ⟨helement, hrest⟩
      exact ⟨(), helement, hrest⟩

theorem forM_congr {f g : α → Except ε Unit} {elements : List α} (h : ∀ element ∈ elements, f element = g element) :
    elements.forM f = elements.forM g := by
  induction elements with
  | nil => rfl
  | cons element rest ih =>
    obtain ⟨helement, hrest⟩ := List.forall_mem_cons.mp h
    rw [List.forM, List.forM, helement, ih hrest]

theorem mapM_eq_ok_iff {f : α → Except ε β} {elements : List α} {values : List β} :
    elements.mapM f = .ok values ↔ List.Forall₂ (fun element value => f element = .ok value) elements values := by
  induction elements generalizing values with
  | nil => simp [pure, Except.pure, eq_comm]
  | cons element rest ih =>
    rw [List.mapM_cons, bind_eq_ok_iff, List.forall₂_cons_left_iff]
    apply exists_congr
    intro value
    simp only [bind_eq_ok_iff, ih, pure, Except.pure, Except.ok.injEq]
    constructor
    · rintro ⟨hvalue, others, hothers, rfl⟩
      exact ⟨others, hvalue, hothers, rfl⟩
    · rintro ⟨others, hvalue, hothers, rfl⟩
      exact ⟨hvalue, others, hothers, rfl⟩

theorem exists_of_forM_eq_error {f : α → Except ε Unit} {elements : List α} {error : ε} (h : elements.forM f = .error error) :
    ∃ element ∈ elements, f element = .error error := by
  induction elements with
  | nil => simp [pure, Except.pure] at h
  | cons element rest ih =>
    rw [List.forM, bind_eq_error_iff] at h
    rcases h with h | ⟨-, -, h⟩
    · exact ⟨element, List.mem_cons_self, h⟩
    · obtain ⟨cause, hcause, herror⟩ := ih h
      exact ⟨cause, List.mem_cons_of_mem _ hcause, herror⟩

theorem exists_of_mapM_eq_error {f : α → Except ε β} {elements : List α} {error : ε} (h : elements.mapM f = .error error) :
    ∃ element ∈ elements, f element = .error error := by
  induction elements with
  | nil => simp [pure, Except.pure] at h
  | cons element rest ih =>
    rw [List.mapM_cons, bind_eq_error_iff] at h
    rcases h with h | ⟨value, -, h⟩
    · exact ⟨element, List.mem_cons_self, h⟩
    · rcases bind_eq_error_iff.mp h with h | ⟨values, -, h⟩
      · obtain ⟨cause, hcause, herror⟩ := ih h
        exact ⟨cause, List.mem_cons_of_mem _ hcause, herror⟩
      · simp [pure, Except.pure] at h

theorem exists_of_mem_right {Related : α → β → Prop} {elements : List α} {values : List β} (h : List.Forall₂ Related elements values)
    {value : β} (hmem : value ∈ values) : ∃ element ∈ elements, Related element value := by
  induction h with
  | nil => exact absurd hmem List.not_mem_nil
  | cons hhead hrest ih =>
    rcases List.mem_cons.mp hmem with rfl | hmem
    · exact ⟨_, List.mem_cons_self, hhead⟩
    · obtain ⟨element, helement, hrelated⟩ := ih hmem
      exact ⟨element, List.mem_cons_of_mem _ helement, hrelated⟩

theorem exists_of_mem_left {Related : α → β → Prop} {elements : List α} {values : List β} (h : List.Forall₂ Related elements values)
    {element : α} (hmem : element ∈ elements) : ∃ value ∈ values, Related element value :=
  exists_of_mem_right h.flip hmem

theorem exists_of_mem_mapM {f : α → Except ε β} {elements : List α} {values : List β}
    (h : List.Forall₂ (fun element value => f element = .ok value) elements values) {value : β} (hmem : value ∈ values) :
    ∃ element ∈ elements, f element = .ok value :=
  exists_of_mem_right h hmem

theorem exists_mem_of_mapM {f : α → Except ε β} {elements : List α} {values : List β}
    (h : List.Forall₂ (fun element value => f element = .ok value) elements values) {element : α} (hmem : element ∈ elements) :
    ∃ value ∈ values, f element = .ok value :=
  exists_of_mem_left h hmem

end SchemaClosure
