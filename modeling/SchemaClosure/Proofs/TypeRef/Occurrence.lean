import SchemaClosure.Proofs.TypeRef.Subterm
import SchemaClosure.Snapshot.Validation

namespace SchemaClosure.TypeRef

/-- The type parameter occurs in the type. -/
def Mentions (type : TypeRef) (name : String) : Prop := .parameter name ∈ type.subterms

variable {type argument part : TypeRef} {name : String} {scope : List String} {bindings : Bindings}

theorem mentions_named_iff {head : String} {arguments : List TypeRef} :
    (named head arguments).Mentions name ↔ ∃ argument ∈ arguments, argument.Mentions name := by
  simp [Mentions, subterms, mem_allSubterms_iff]

theorem mentions_parameter_iff {parameter : String} : (TypeRef.parameter parameter).Mentions name ↔ name = parameter := by
  simp [Mentions, subterms]

theorem mentions_array_iff {element : TypeRef} {rank : Nat} : (array element rank).Mentions name ↔ element.Mentions name := by
  simp [Mentions, subterms]

theorem mentions_tuple_iff {elements : List TypeRef} :
    (tuple elements).Mentions name ↔ ∃ element ∈ elements, element.Mentions name := by
  simp [Mentions, subterms, mem_allSubterms_iff]

mutual

theorem isOpen_iff_mentions : (type : TypeRef) → (type.isOpen = true ↔ ∃ name, type.Mentions name)
  | .named _ arguments => by simp only [isOpen, mentions_named_iff, anyOpen_iff_mentions arguments]
  | .parameter _ => by simp [isOpen, mentions_parameter_iff]
  | .array element _ => by simp only [isOpen, mentions_array_iff, isOpen_iff_mentions element]
  | .tuple elements => by simp only [isOpen, mentions_tuple_iff, anyOpen_iff_mentions elements]

theorem anyOpen_iff_mentions : (types : List TypeRef) → (anyOpen types = true ↔ ∃ name, ∃ type ∈ types, type.Mentions name)
  | [] => by simp [anyOpen]
  | type :: rest => by
    simp only [anyOpen, Bool.or_eq_true, isOpen_iff_mentions type, anyOpen_iff_mentions rest, List.exists_mem_cons_iff, exists_or]

end

theorem isOpen_eq_false_iff : type.isOpen = false ↔ ∀ name, ¬type.Mentions name := by
  rw [← Bool.not_eq_true, isOpen_iff_mentions, not_exists]

theorem mem_subterms_of_mem_argument (hpart : part ∈ argument.subterms) (h : argument ∈ type.arguments) : part ∈ type.subterms := by
  cases type with
  | named name arguments =>
    rw [subterms, List.mem_cons]
    exact Or.inr (mem_allSubterms_iff.mpr ⟨argument, h, hpart⟩)
  | parameter name => simp [arguments] at h
  | array element rank => simp [arguments] at h
  | tuple elements => simp [arguments] at h

/-- A substitution makes the part of one of some types, or puts it in as a part of what takes the place of one. -/
def StemsFrom (bindings : Bindings) (sources : List TypeRef) (part : TypeRef) : Prop :=
  (∃ source ∈ sources, (∀ name, source ≠ .parameter name) ∧ part = source.substitute bindings) ∨
    ∃ name, .parameter name ∈ sources ∧ part ∈ ((parameter name).substitute bindings).subterms

theorem StemsFrom.mono {sources sources' : List TypeRef} (h : StemsFrom bindings sources part) (hsubset : sources ⊆ sources') :
    StemsFrom bindings sources' part := by
  rcases h with ⟨source, hsource, hmade⟩ | ⟨parameter, hparameter, hpart⟩
  · exact Or.inl ⟨source, hsubset hsource, hmade⟩
  · exact Or.inr ⟨parameter, hsubset hparameter, hpart⟩

mutual

theorem stemsFrom_subterms : {type : TypeRef} → part ∈ (type.substitute bindings).subterms →
    StemsFrom bindings type.subterms part
  | .named name arguments, h => by
    rw [substitute, subterms, List.mem_cons] at h
    rcases h with rfl | h
    · exact Or.inl ⟨.named name arguments, mem_subterms_self _, by simp, rfl⟩
    · exact (stemsFrom_allSubterms h).mono (List.subset_cons_self _ _)
  | .parameter name, h => Or.inr ⟨name, mem_subterms_self _, h⟩
  | .array element rank, h => by
    rw [substitute, subterms, List.mem_cons] at h
    rcases h with rfl | h
    · exact Or.inl ⟨.array element rank, mem_subterms_self _, by simp, rfl⟩
    · exact (stemsFrom_subterms h).mono (List.subset_cons_self _ _)
  | .tuple elements, h => by
    rw [substitute, subterms, List.mem_cons] at h
    rcases h with rfl | h
    · exact Or.inl ⟨.tuple elements, mem_subterms_self _, by simp, rfl⟩
    · exact (stemsFrom_allSubterms h).mono (List.subset_cons_self _ _)

theorem stemsFrom_allSubterms : {types : List TypeRef} → part ∈ allSubterms (substituteAll bindings types) →
    StemsFrom bindings (allSubterms types) part
  | [], h => by simp [substituteAll, allSubterms] at h
  | type :: rest, h => by
    rw [substituteAll, allSubterms, List.mem_append] at h
    rcases h with h | h
    · exact (stemsFrom_subterms h).mono (List.subset_append_left _ _)
    · exact (stemsFrom_allSubterms h).mono (List.subset_append_right _ _)

end

mutual

/-- After a substitution a parameter occurs in what takes the place of a parameter that occurred before. -/
theorem mentions_substitute_iff : (type : TypeRef) →
    ((type.substitute bindings).Mentions name ↔ ∃ inner, type.Mentions inner ∧ ((parameter inner).substitute bindings).Mentions name)
  | .named head arguments => by simp only [substitute, mentions_named_iff, mentions_substituteAll_iff arguments]
  | .parameter inner => by simp only [mentions_parameter_iff, exists_eq_left]
  | .array element rank => by simp only [substitute, mentions_array_iff, mentions_substitute_iff element]
  | .tuple elements => by simp only [substitute, mentions_tuple_iff, mentions_substituteAll_iff elements]

theorem mentions_substituteAll_iff : (types : List TypeRef) →
    ((∃ type ∈ substituteAll bindings types, type.Mentions name) ↔
      ∃ inner, (∃ type ∈ types, type.Mentions inner) ∧ ((parameter inner).substitute bindings).Mentions name)
  | [] => by simp [substituteAll]
  | type :: rest => by
    simp only [substituteAll, List.exists_mem_cons_iff, mentions_substitute_iff type, mentions_substituteAll_iff rest,
      or_and_right, exists_or]

end

/-- After a substitution a parameter occurs where it was and is not bound, or in a type that took the place of another. -/
theorem mentions_substitute (h : (type.substitute bindings).Mentions name) :
    (type.Mentions name ∧ bindings.lookup name = none) ∨ ∃ binding ∈ bindings, binding.2.Mentions name := by
  obtain ⟨inner, hinner, hname⟩ := (mentions_substitute_iff type).mp h
  rw [substitute] at hname
  cases hlookup : bindings.lookup inner with
  | none =>
    rw [hlookup, Option.getD_none] at hname
    obtain rfl := mentions_parameter_iff.mp hname
    exact Or.inl ⟨hinner, hlookup⟩
  | some bound =>
    rw [hlookup, Option.getD_some] at hname
    exact Or.inr ⟨(inner, bound), mem_of_lookup_eq_some hlookup, hname⟩

mutual

/-- Reading bare names as parameters brings in parameters of the scope only. -/
theorem mentions_bindParameters : {type : TypeRef} → (type.bindParameters scope).Mentions name → type.Mentions name ∨ name ∈ scope
  | .named head [], h => by
    rw [bindParameters] at h
    split at h
    · rename_i hscope
      rw [mentions_parameter_iff.mp h]
      exact Or.inr (List.contains_iff_mem.mp hscope)
    · exact Or.inl h
  | .named head (first :: rest), h => by
    rw [bindParameters, mentions_named_iff, List.exists_mem_cons_iff] at h
    rw [mentions_named_iff, List.exists_mem_cons_iff, or_assoc]
    rcases h with h | h
    · exact (mentions_bindParameters h).imp_right Or.inr
    · exact Or.inr (mentions_bindAllParameters h)
  | .parameter _, h => Or.inl h
  | .array element rank, h => by
    rw [bindParameters, mentions_array_iff] at h
    rw [mentions_array_iff]
    exact mentions_bindParameters h
  | .tuple elements, h => by
    rw [bindParameters, mentions_tuple_iff] at h
    rw [mentions_tuple_iff]
    exact mentions_bindAllParameters h

theorem mentions_bindAllParameters : {types : List TypeRef} → (∃ type ∈ bindAllParameters scope types, type.Mentions name) →
    (∃ type ∈ types, type.Mentions name) ∨ name ∈ scope
  | [], h => by simp [bindAllParameters] at h
  | type :: rest, h => by
    rw [bindAllParameters, List.exists_mem_cons_iff] at h
    rw [List.exists_mem_cons_iff, or_assoc]
    rcases h with h | h
    · exact (mentions_bindParameters h).imp_right Or.inr
    · exact Or.inr (mentions_bindAllParameters h)

end

end SchemaClosure.TypeRef
