import SchemaClosure.Proofs.TypeRef.Substitution

namespace SchemaClosure.TypeRef

mutual

/-- A type and every type inside it. -/
def subterms : TypeRef → List TypeRef
  | .named name arguments => .named name arguments :: allSubterms arguments
  | .parameter name => [.parameter name]
  | .array element rank => .array element rank :: element.subterms
  | .tuple elements => .tuple elements :: allSubterms elements

def allSubterms : List TypeRef → List TypeRef
  | [] => []
  | type :: rest => type.subterms ++ allSubterms rest

end

theorem mem_subterms_self (type : TypeRef) : type ∈ type.subterms := by
  cases type <;> simp [subterms]

theorem mem_allSubterms_iff {types : List TypeRef} {part : TypeRef} :
    part ∈ allSubterms types ↔ ∃ type ∈ types, part ∈ type.subterms := by
  induction types with
  | nil => simp [allSubterms]
  | cons type rest ih => simp [allSubterms, ih]

variable {part argument : TypeRef}

mutual

theorem mem_subterms_of_mem_arguments (harguments : argument ∈ part.arguments) : {type : TypeRef} → part ∈ type.subterms →
    argument ∈ type.subterms
  | .named name arguments, h => by
    rw [subterms, List.mem_cons] at h ⊢
    rcases h with rfl | h
    · exact Or.inr (mem_allSubterms_iff.mpr ⟨argument, harguments, mem_subterms_self argument⟩)
    · exact Or.inr (mem_allSubterms_of_mem_arguments harguments h)
  | .parameter name, h => by
    rw [subterms, List.mem_singleton] at h
    simp [h, TypeRef.arguments] at harguments
  | .array element rank, h => by
    rw [subterms, List.mem_cons] at h ⊢
    rcases h with rfl | h
    · simp [TypeRef.arguments] at harguments
    · exact Or.inr (mem_subterms_of_mem_arguments harguments h)
  | .tuple elements, h => by
    rw [subterms, List.mem_cons] at h ⊢
    rcases h with rfl | h
    · simp [TypeRef.arguments] at harguments
    · exact Or.inr (mem_allSubterms_of_mem_arguments harguments h)

theorem mem_allSubterms_of_mem_arguments (harguments : argument ∈ part.arguments) : {types : List TypeRef} →
    part ∈ allSubterms types → argument ∈ allSubterms types
  | [], h => by simp [allSubterms] at h
  | type :: rest, h => by
    rw [allSubterms, List.mem_append] at h ⊢
    exact h.imp (mem_subterms_of_mem_arguments harguments) (mem_allSubterms_of_mem_arguments harguments)

end

mutual

theorem isTupleFree_of_mem_subterms : {type : TypeRef} → type.isTupleFree = true → part ∈ type.subterms → part.isTupleFree = true
  | .named name arguments, htype, h => by
    rw [subterms, List.mem_cons] at h
    rcases h with rfl | h
    · exact htype
    · exact isTupleFree_of_mem_allSubterms htype h
  | .parameter name, htype, h => by
    rw [subterms, List.mem_singleton] at h
    rw [h]
    exact htype
  | .array element rank, htype, h => by
    rw [subterms, List.mem_cons] at h
    rcases h with rfl | h
    · exact htype
    · have helement : element.isTupleFree = true := htype
      exact isTupleFree_of_mem_subterms helement h
  | .tuple elements, htype, _ => by simp [isTupleFree] at htype

theorem isTupleFree_of_mem_allSubterms : {types : List TypeRef} → allTupleFree types = true → part ∈ allSubterms types →
    part.isTupleFree = true
  | [], _, h => by simp [allSubterms] at h
  | type :: rest, htypes, h => by
    rw [allTupleFree, Bool.and_eq_true] at htypes
    rw [allSubterms, List.mem_append] at h
    exact h.elim (isTupleFree_of_mem_subterms htypes.1) (isTupleFree_of_mem_allSubterms htypes.2)

end

theorem isOpen_of_mem_arguments {type : TypeRef} (h : type.isOpen = false) (hmem : argument ∈ type.arguments) :
    argument.isOpen = false := by
  cases type with
  | named name arguments =>
    rw [isOpen, anyOpen_eq_any, List.any_eq_false] at h
    exact Bool.not_eq_true _ ▸ h argument hmem
  | parameter name => simp [arguments] at hmem
  | array element rank => simp [arguments] at hmem
  | tuple elements => simp [arguments] at hmem

variable {bindings : Bindings}

mutual

/-- A closed type has nothing to substitute for. -/
theorem substitute_of_isOpen_eq_false : {type : TypeRef} → type.isOpen = false → type.substitute bindings = type
  | .named _ arguments, h => by
    have harguments : anyOpen arguments = false := h
    rw [substitute, substituteAll_of_anyOpen_eq_false harguments]
  | .parameter _, h => by simp [isOpen] at h
  | .array element _, h => by
    have helement : element.isOpen = false := h
    rw [substitute, substitute_of_isOpen_eq_false helement]
  | .tuple elements, h => by
    have helements : anyOpen elements = false := h
    rw [substitute, substituteAll_of_anyOpen_eq_false helements]

theorem substituteAll_of_anyOpen_eq_false : {types : List TypeRef} → anyOpen types = false → substituteAll bindings types = types
  | [], _ => rfl
  | type :: rest, h => by
    rw [anyOpen, Bool.or_eq_false_iff] at h
    rw [substituteAll, substitute_of_isOpen_eq_false h.1, substituteAll_of_anyOpen_eq_false h.2]

end

/-- A type parameter stays, or one of the bound types takes its place. -/
theorem substitute_parameter_cases (name : String) :
    (parameter name).substitute bindings = parameter name ∨ ∃ binding ∈ bindings, (parameter name).substitute bindings = binding.2 := by
  rw [substitute]
  cases hlookup : bindings.lookup name with
  | none => exact Or.inl rfl
  | some type => exact Or.inr ⟨(name, type), mem_of_lookup_eq_some hlookup, rfl⟩

mutual

/-- The types that a type can become where each parameter stays or becomes one of the atoms. -/
def instances (atoms : List TypeRef) : TypeRef → List TypeRef
  | .named name arguments => (allInstances atoms arguments).map (.named name)
  | .parameter name => .parameter name :: atoms
  | .array element rank => (element.instances atoms).map fun element => .array element rank
  | .tuple elements => (allInstances atoms elements).map .tuple

def allInstances (atoms : List TypeRef) : List TypeRef → List (List TypeRef)
  | [] => [[]]
  | type :: rest => (type.instances atoms).flatMap fun type => (allInstances atoms rest).map (type :: ·)

end

variable {atoms : List TypeRef}

mutual

theorem substitute_mem_instances (h : ∀ binding ∈ bindings, binding.2 ∈ atoms) : (type : TypeRef) →
    type.substitute bindings ∈ type.instances atoms
  | .named name arguments => List.mem_map.mpr ⟨_, substituteAll_mem_allInstances h arguments, rfl⟩
  | .parameter name => by
    rw [instances, List.mem_cons]
    rcases substitute_parameter_cases name with hstays | ⟨binding, hmem, hbound⟩
    · exact Or.inl hstays
    · exact Or.inr (hbound ▸ h binding hmem)
  | .array element rank => List.mem_map.mpr ⟨_, substitute_mem_instances h element, rfl⟩
  | .tuple elements => List.mem_map.mpr ⟨_, substituteAll_mem_allInstances h elements, rfl⟩

theorem substituteAll_mem_allInstances (h : ∀ binding ∈ bindings, binding.2 ∈ atoms) : (types : List TypeRef) →
    substituteAll bindings types ∈ allInstances atoms types
  | [] => List.mem_singleton.mpr rfl
  | type :: rest =>
    List.mem_flatMap.mpr ⟨_, substitute_mem_instances h type, List.mem_map.mpr ⟨_, substituteAll_mem_allInstances h rest, rfl⟩⟩

end

end SchemaClosure.TypeRef
