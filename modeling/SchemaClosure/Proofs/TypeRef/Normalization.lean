import SchemaClosure.TypeRef.Printer

namespace SchemaClosure.TypeRef

/-- Induction on the levels of a tuple: its elements are few enough for one level, or those behind the seventh are packed on their own. -/
@[elab_as_elim]
theorem levelInduction {motive : List TypeRef → Prop} (short : ∀ elements, elements.length ≤ tupleLimit → motive elements)
    (long : ∀ elements, tupleLimit < elements.length → motive (elements.drop tupleLimit) → motive elements) (elements : List TypeRef) :
    motive elements := by
  by_cases hlength : elements.length ≤ tupleLimit
  · exact short elements hlength
  · exact long elements (Nat.lt_of_not_le hlength) (levelInduction short long (elements.drop tupleLimit))
termination_by elements.length
decreasing_by
  have hdrop : (elements.drop tupleLimit).length = elements.length - tupleLimit := List.length_drop
  have hlimit : tupleLimit = 7 := rfl
  omega

theorem drop_tupleLimit_ne_nil {elements : List TypeRef} (h : tupleLimit < elements.length) : elements.drop tupleLimit ≠ [] := by
  rw [Ne, List.drop_eq_nil_iff]
  exact Nat.not_le.mpr h

/-- What goes through named types goes through packed tuples. -/
theorem map_tupleOf {f : TypeRef → TypeRef} (hnamed : ∀ name arguments, f (.named name arguments) = .named name (arguments.map f))
    (elements : List TypeRef) : f (tupleOf elements) = tupleOf (elements.map f) := by
  induction elements using levelInduction with
  | short elements hshort => rw [tupleOf_of_length_le hshort, tupleOf_of_length_le (by rwa [List.length_map]), hnamed]
  | long elements hlong ih =>
    have hlong' : tupleLimit < (elements.map f).length := by rwa [List.length_map]
    rw [tupleOf_of_lt_length hlong', ← List.map_drop, ← ih, ← List.map_take]
    rw [tupleOf_of_lt_length hlong, hnamed, List.map_append, List.map_singleton]

theorem allTupleFree_drop {elements : List TypeRef} (h : allTupleFree elements = true) (count : Nat) :
    allTupleFree (elements.drop count) = true := by
  rw [allTupleFree_eq_all, List.all_eq_true] at h ⊢
  exact fun element hmem => h element (List.mem_of_mem_drop hmem)

theorem isTupleFree_tupleOf (elements : List TypeRef) (h : allTupleFree elements = true) :
    (tupleOf elements).isTupleFree = true := by
  induction elements using levelInduction with
  | short elements hshort =>
    rw [tupleOf_of_length_le hshort, isTupleFree]
    exact h
  | long elements hlong ih =>
    have hrest := ih (allTupleFree_drop h tupleLimit)
    rw [allTupleFree_eq_all, List.all_eq_true] at h
    rw [tupleOf_of_lt_length hlong, isTupleFree, allTupleFree_eq_all, List.all_eq_true]
    intro element hmem
    rcases List.mem_append.mp hmem with hmem | hmem
    · exact h element (List.mem_of_mem_take hmem)
    · rw [List.mem_singleton.mp hmem]
      exact hrest

mutual

theorem isTupleFree_normalize : (type : TypeRef) → type.normalize.isTupleFree = true
  | .named _ arguments => by simp [normalize, isTupleFree, allTupleFree_normalizeAll arguments]
  | .parameter _ => rfl
  | .array element _ => by simp [normalize, isTupleFree, isTupleFree_normalize element]
  | .tuple elements => by
    rw [normalize]
    exact isTupleFree_tupleOf _ (allTupleFree_normalizeAll elements)

theorem allTupleFree_normalizeAll : (types : List TypeRef) → allTupleFree (normalizeAll types) = true
  | [] => rfl
  | type :: rest => by simp [normalizeAll, allTupleFree, isTupleFree_normalize type, allTupleFree_normalizeAll rest]

end

theorem normalize_normalize (type : TypeRef) : type.normalize.normalize = type.normalize :=
  normalize_eq_self (isTupleFree_normalize type)

theorem isTupleFree_of_mem_arguments {type argument : TypeRef} (h : type.isTupleFree = true) (hmem : argument ∈ type.arguments) :
    argument.isTupleFree = true := by
  cases type with
  | named name arguments =>
    rw [isTupleFree, allTupleFree_eq_all, List.all_eq_true] at h
    exact h argument hmem
  | parameter name => simp [arguments] at hmem
  | array element rank => simp [arguments] at hmem
  | tuple elements => simp [arguments] at hmem

end SchemaClosure.TypeRef
