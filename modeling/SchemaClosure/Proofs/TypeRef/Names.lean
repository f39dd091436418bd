import SchemaClosure.Proofs.TypeRef.Occurrence
import SchemaClosure.Snapshot.Validation

namespace SchemaClosure.TypeRef

/-- The name that stands at the head of a type, where it is a named type or a tuple. -/
def head? : TypeRef → Option String
  | .named name _ => some name
  | .tuple _ => some valueTupleName
  | .parameter _ | .array .. => none

/-- The names that a type uses, at any depth. -/
def names (type : TypeRef) : List String := type.subterms.filterMap head?

variable {type argument : TypeRef} {name head : String} {arguments elements : List TypeRef} {bindings : Bindings} {scope : List String}

theorem mem_names_named : name ∈ (named head arguments).names ↔ name = head ∨ ∃ argument ∈ arguments, name ∈ argument.names := by
  simp only [names, subterms, List.filterMap_cons, head?, List.mem_cons, List.mem_filterMap, mem_allSubterms_iff]
  grind

theorem mem_names_tuple : name ∈ (tuple elements).names ↔ name = valueTupleName ∨ ∃ element ∈ elements, name ∈ element.names := by
  simp only [names, subterms, List.filterMap_cons, head?, List.mem_cons, List.mem_filterMap, mem_allSubterms_iff]
  grind

theorem names_array (element : TypeRef) (rank : Nat) : (array element rank).names = element.names := rfl

theorem mem_names_of_name? (h : type.name? = some name) : name ∈ type.names := by
  cases type with
  | named head arguments => exact mem_names_named.mpr (Or.inl (Option.some.inj h).symm)
  | parameter parameter => simp [name?] at h
  | array element rank => simp [name?] at h
  | tuple elements => simp [name?] at h

theorem mem_names_of_mem_arguments (hmem : argument ∈ type.arguments) (h : name ∈ argument.names) : name ∈ type.names := by
  obtain ⟨part, hpart, hhead⟩ := List.mem_filterMap.mp h
  exact List.mem_filterMap.mpr ⟨part, mem_subterms_of_mem_argument hpart hmem, hhead⟩

theorem mem_names_of_substitute (h : name ∈ (type.substitute bindings).names) :
    name ∈ type.names ∨ ∃ binding ∈ bindings, name ∈ binding.2.names := by
  obtain ⟨part, hpart, hhead⟩ := List.mem_filterMap.mp h
  rcases stemsFrom_subterms hpart with ⟨source, hsource, hproper, rfl⟩ | ⟨parameter, -, hput⟩
  · refine Or.inl (List.mem_filterMap.mpr ⟨source, hsource, ?_⟩)
    cases source with
    | parameter parameter => exact absurd rfl (hproper parameter)
    | named head arguments => exact hhead
    | array element rank => exact hhead
    | tuple elements => exact hhead
  · rcases @substitute_parameter_cases bindings parameter with hstays | ⟨binding, hbinding, hbound⟩
    · rw [hstays, subterms, List.mem_singleton] at hput
      simp [hput, head?] at hhead
    · exact Or.inr ⟨binding, hbinding, List.mem_filterMap.mpr ⟨part, hbound ▸ hput, hhead⟩⟩

theorem mem_names_of_tupleOf (elements : List TypeRef) (h : name ∈ (tupleOf elements).names) :
    name = valueTupleName ∨ ∃ element ∈ elements, name ∈ element.names := by
  induction elements using levelInduction with
  | short elements hshort =>
    rw [tupleOf_of_length_le hshort] at h
    exact mem_names_named.mp h
  | long elements hlong ih =>
    rw [tupleOf_of_lt_length hlong] at h
    rcases mem_names_named.mp h with rfl | ⟨element, helement, hname⟩
    · exact Or.inl rfl
    · rcases List.mem_append.mp helement with htake | hrest
      · exact Or.inr ⟨element, List.mem_of_mem_take htake, hname⟩
      · rw [List.mem_singleton.mp hrest] at hname
        rcases ih hname with rfl | ⟨element, hdrop, hname⟩
        · exact Or.inl rfl
        · exact Or.inr ⟨element, List.mem_of_mem_drop hdrop, hname⟩

mutual

theorem mem_names_of_normalize : {type : TypeRef} → name ∈ type.normalize.names → name ∈ type.names
  | .named head arguments, h => by
    rw [normalize, mem_names_named] at h
    exact mem_names_named.mpr (h.imp_right mem_names_of_normalizeAll)
  | .parameter _, h => h
  | .array element rank, h => by
    rw [normalize, names_array] at h
    rw [names_array]
    exact mem_names_of_normalize h
  | .tuple elements, h => by
    rw [normalize] at h
    exact mem_names_tuple.mpr ((mem_names_of_tupleOf _ h).imp_right mem_names_of_normalizeAll)

theorem mem_names_of_normalizeAll : {types : List TypeRef} → (∃ type ∈ normalizeAll types, name ∈ type.names) →
    ∃ type ∈ types, name ∈ type.names
  | [], h => by simp [normalizeAll] at h
  | type :: rest, h => by
    rw [normalizeAll, List.exists_mem_cons_iff] at h
    rw [List.exists_mem_cons_iff]
    exact h.imp mem_names_of_normalize mem_names_of_normalizeAll

end

mutual

theorem mem_names_of_bindParameters : {type : TypeRef} → name ∈ (type.bindParameters scope).names → name ∈ type.names
  | .named head [], h => by
    rw [bindParameters] at h
    split at h
    · exact absurd h List.not_mem_nil
    · exact h
  | .named head (first :: rest), h => by
    rw [bindParameters, mem_names_named, List.exists_mem_cons_iff] at h
    rw [mem_names_named, List.exists_mem_cons_iff]
    exact h.imp_right (Or.imp mem_names_of_bindParameters mem_names_of_bindAllParameters)
  | .parameter _, h => h
  | .array element rank, h => by
    rw [bindParameters, names_array] at h
    rw [names_array]
    exact mem_names_of_bindParameters h
  | .tuple elements, h => by
    rw [bindParameters, mem_names_tuple] at h
    exact mem_names_tuple.mpr (h.imp_right mem_names_of_bindAllParameters)

theorem mem_names_of_bindAllParameters : {types : List TypeRef} → (∃ type ∈ bindAllParameters scope types, name ∈ type.names) →
    ∃ type ∈ types, name ∈ type.names
  | [], h => by simp [bindAllParameters] at h
  | type :: rest, h => by
    rw [bindAllParameters, List.exists_mem_cons_iff] at h
    rw [List.exists_mem_cons_iff]
    exact h.imp mem_names_of_bindParameters mem_names_of_bindAllParameters

end

variable {snapshot : Snapshot}

mutual

theorem mem_names_of_bindArguments {scope : List String} : {type : TypeRef} → name ∈ (snapshot.bindArguments scope type).names →
    name ∈ type.names
  | .named head [], h => by
    rw [Snapshot.bindArguments] at h
    split at h
    · exact absurd h List.not_mem_nil
    · exact h
  | .named head (first :: rest), h => by
    rw [Snapshot.bindArguments, mem_names_named, List.exists_mem_cons_iff] at h
    rw [mem_names_named, List.exists_mem_cons_iff]
    exact h.imp_right (Or.imp mem_names_of_bindArguments mem_names_of_bindAllArguments)
  | .parameter _, h => h
  | .array element rank, h => by
    rw [Snapshot.bindArguments, names_array] at h
    rw [names_array]
    exact mem_names_of_bindArguments h
  | .tuple elements, h => by
    rw [Snapshot.bindArguments, mem_names_tuple] at h
    exact mem_names_tuple.mpr (h.imp_right mem_names_of_bindAllArguments)

theorem mem_names_of_bindAllArguments {scope : List String} : {types : List TypeRef} →
    (∃ type ∈ snapshot.bindAllArguments scope types, name ∈ type.names) → ∃ type ∈ types, name ∈ type.names
  | [], h => by simp [Snapshot.bindAllArguments] at h
  | type :: rest, h => by
    rw [Snapshot.bindAllArguments, List.exists_mem_cons_iff] at h
    rw [List.exists_mem_cons_iff]
    exact h.imp mem_names_of_bindArguments mem_names_of_bindAllArguments

end

/-- A type that uses names of some kind only. -/
def UsesOnly (type : TypeRef) (known : String → Prop) : Prop := ∀ name ∈ type.names, known name

variable {known : String → Prop}

theorem UsesOnly.of_mem_arguments (h : type.UsesOnly known) (hmem : argument ∈ type.arguments) : argument.UsesOnly known :=
  fun _ hname => h _ (mem_names_of_mem_arguments hmem hname)

theorem UsesOnly.normalize (h : type.UsesOnly known) : type.normalize.UsesOnly known :=
  fun _ hname => h _ (mem_names_of_normalize hname)

theorem UsesOnly.bindArguments (h : type.UsesOnly known) : (snapshot.bindArguments scope type).UsesOnly known :=
  fun _ hname => h _ (mem_names_of_bindArguments hname)

theorem UsesOnly.substitute (h : type.UsesOnly known) (hbindings : ∀ binding ∈ bindings, binding.2.UsesOnly known) :
    (type.substitute bindings).UsesOnly known := by
  intro name hname
  rcases mem_names_of_substitute hname with hname | ⟨binding, hbinding, hname⟩
  · exact h name hname
  · exact hbindings binding hbinding name hname

end SchemaClosure.TypeRef
