import SchemaClosure.Proofs.TypeRef.Normalization
import SchemaClosure.Snapshot.Validation
import SchemaClosure.TypeRef.Token

namespace SchemaClosure.TypeRef

mutual

/-- Whether a type can be read back from its written form, where exactly the names in `scope` are type parameters. -/
def isLegible (scope : List String) : TypeRef → Bool
  | .named name arguments =>
    isPath name.toList && (!arguments.isEmpty || !scope.contains name) && allLegible scope arguments
  | .parameter name => isPath name.toList && scope.contains name
  | .array element rank => decide (0 < rank) && element.isLegible scope
  | .tuple elements => decide (1 < elements.length) && allLegible scope elements

def allLegible (scope : List String) : List TypeRef → Bool
  | [] => true
  | type :: rest => type.isLegible scope && allLegible scope rest

end

mutual

/-- The type that a reader makes of the written form, who cannot tell a type parameter from a bare name. -/
def forgetParameters : TypeRef → TypeRef
  | .named name arguments => .named name (forgetAllParameters arguments)
  | .parameter name => .named name []
  | .array element rank => .array element.forgetParameters rank
  | .tuple elements => .tuple (forgetAllParameters elements)

def forgetAllParameters : List TypeRef → List TypeRef
  | [] => []
  | type :: rest => type.forgetParameters :: forgetAllParameters rest

end

theorem forgetAllParameters_eq_map (types : List TypeRef) : forgetAllParameters types = types.map forgetParameters := by
  induction types with
  | nil => rfl
  | cons type rest ih => simp [forgetAllParameters, ih]

variable {scope : List String}

theorem allLegible_eq_all (types : List TypeRef) : allLegible scope types = types.all (isLegible scope) := by
  induction types with
  | nil => rfl
  | cons type rest ih => simp [allLegible, ih]

theorem allLegible_iff {types : List TypeRef} : allLegible scope types = true ↔ ∀ type ∈ types, type.isLegible scope = true := by
  rw [allLegible_eq_all, List.all_eq_true]

theorem isLegible_named_iff {name : String} {arguments : List TypeRef} :
    (named name arguments).isLegible scope = true ↔
      isPath name.toList = true ∧ (arguments = [] → name ∉ scope) ∧ ∀ argument ∈ arguments, argument.isLegible scope = true := by
  rw [isLegible, Bool.and_eq_true, Bool.and_eq_true, allLegible_iff, and_assoc]
  cases arguments <;> simp

theorem isLegible_named_of_mem {name : String} {arguments : List TypeRef} {argument : TypeRef} (hname : isPath name.toList = true)
    (hmem : argument ∈ arguments) (h : ∀ argument ∈ arguments, argument.isLegible scope = true) :
    (named name arguments).isLegible scope = true := by
  refine isLegible_named_iff.mpr ⟨hname, ?_, h⟩
  rintro rfl
  simp at hmem

theorem isLegible_parameter_iff {name : String} :
    (parameter name).isLegible scope = true ↔ isPath name.toList = true ∧ name ∈ scope := by
  simp [isLegible]

theorem isLegible_array_iff {element : TypeRef} {rank : Nat} :
    (array element rank).isLegible scope = true ↔ 0 < rank ∧ element.isLegible scope = true := by
  simp [isLegible]

theorem isLegible_tuple_iff {elements : List TypeRef} :
    (tuple elements).isLegible scope = true ↔ 1 < elements.length ∧ ∀ element ∈ elements, element.isLegible scope = true := by
  rw [isLegible, Bool.and_eq_true, allLegible_iff, decide_eq_true_eq]

theorem isLegible_of_mem_arguments {type argument : TypeRef} (h : type.isLegible scope = true) (hmem : argument ∈ type.arguments) :
    argument.isLegible scope = true := by
  cases type with
  | named name arguments => exact (isLegible_named_iff.mp h).2.2 argument hmem
  | parameter name => simp [arguments] at hmem
  | array element rank => simp [arguments] at hmem
  | tuple elements => simp [arguments] at hmem

/-! The tuple-normal form of a legible type is legible: a packed tuple always has arguments, so its name is never bare. -/

theorem isPath_valueTupleName : isPath valueTupleName.toList = true := by decide +kernel

theorem isLegible_tupleOf (elements : List TypeRef) (hne : elements ≠ [])
    (h : ∀ element ∈ elements, element.isLegible scope = true) : (tupleOf elements).isLegible scope = true := by
  induction elements using levelInduction with
  | short elements hshort =>
    obtain ⟨first, hfirst⟩ := List.exists_mem_of_ne_nil elements hne
    rw [tupleOf_of_length_le hshort]
    exact isLegible_named_of_mem isPath_valueTupleName hfirst h
  | long elements hlong ih =>
    have hrest : (tupleOf (elements.drop tupleLimit)).isLegible scope = true :=
      ih (drop_tupleLimit_ne_nil hlong) fun element hmem => h element (List.mem_of_mem_drop hmem)
    rw [tupleOf_of_lt_length hlong]
    refine isLegible_named_of_mem isPath_valueTupleName (List.mem_append_right _ List.mem_cons_self) ?_
    intro element hmem
    rcases List.mem_append.mp hmem with hmem | hmem
    · exact h element (List.mem_of_mem_take hmem)
    · rw [List.mem_singleton.mp hmem]
      exact hrest

mutual

theorem isLegible_normalize : {type : TypeRef} → type.isLegible scope = true → type.normalize.isLegible scope = true
  | .named name arguments, h => by
    obtain ⟨hname, hbare, harguments⟩ := isLegible_named_iff.mp h
    rw [normalize, isLegible_named_iff]
    refine ⟨hname, ?_, allLegible_iff.mp (allLegible_normalizeAll (allLegible_iff.mpr harguments))⟩
    intro hnil
    apply hbare
    rwa [normalizeAll_eq_map, List.map_eq_nil_iff] at hnil
  | .parameter _, h => h
  | .array element _, h => by
    obtain ⟨hrank, helement⟩ := isLegible_array_iff.mp h
    exact isLegible_array_iff.mpr ⟨hrank, isLegible_normalize helement⟩
  | .tuple elements, h => by
    obtain ⟨hlength, helements⟩ := isLegible_tuple_iff.mp h
    rw [normalize]
    refine isLegible_tupleOf _ ?_ (allLegible_iff.mp (allLegible_normalizeAll (allLegible_iff.mpr helements)))
    rw [normalizeAll_eq_map, Ne, List.map_eq_nil_iff]
    rintro rfl
    simp at hlength

theorem allLegible_normalizeAll : {types : List TypeRef} → allLegible scope types = true → allLegible scope (normalizeAll types) = true
  | [], _ => rfl
  | type :: rest, h => by
    rw [allLegible, Bool.and_eq_true] at h
    simp [normalizeAll, allLegible, isLegible_normalize h.1, allLegible_normalizeAll h.2]

end

mutual

theorem isLegible_substitute {bindings : Bindings} (hbindings : ∀ binding ∈ bindings, binding.2.isLegible scope = true) :
    {type : TypeRef} → type.isLegible scope = true → (type.substitute bindings).isLegible scope = true
  | .named name arguments, h => by
    obtain ⟨hname, hbare, harguments⟩ := isLegible_named_iff.mp h
    rw [substitute, isLegible_named_iff]
    refine ⟨hname, ?_, allLegible_iff.mp (allLegible_substituteAll hbindings (allLegible_iff.mpr harguments))⟩
    intro hnil
    apply hbare
    rwa [substituteAll_eq_map, List.map_eq_nil_iff] at hnil
  | .parameter name, h => by
    rw [substitute]
    cases hlookup : bindings.lookup name with
    | none => exact h
    | some type => exact hbindings (name, type) (mem_of_lookup_eq_some hlookup)
  | .array element _, h => by
    obtain ⟨hrank, helement⟩ := isLegible_array_iff.mp h
    exact isLegible_array_iff.mpr ⟨hrank, isLegible_substitute hbindings helement⟩
  | .tuple elements, h => by
    obtain ⟨hlength, helements⟩ := isLegible_tuple_iff.mp h
    rw [substitute, isLegible_tuple_iff]
    refine ⟨?_, allLegible_iff.mp (allLegible_substituteAll hbindings (allLegible_iff.mpr helements))⟩
    rw [substituteAll_eq_map, List.length_map]
    exact hlength

theorem allLegible_substituteAll {bindings : Bindings} (hbindings : ∀ binding ∈ bindings, binding.2.isLegible scope = true) :
    {types : List TypeRef} → allLegible scope types = true → allLegible scope (substituteAll bindings types) = true
  | [], _ => rfl
  | type :: rest, h => by
    rw [allLegible, Bool.and_eq_true] at h
    simp [substituteAll, allLegible, isLegible_substitute hbindings h.1, allLegible_substituteAll hbindings h.2]

end

end SchemaClosure.TypeRef
