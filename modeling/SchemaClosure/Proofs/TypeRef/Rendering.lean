import SchemaClosure.Proofs.TypeRef.ReadBack

namespace SchemaClosure.TypeRef

mutual

/-- Names and type parameters are paths, an array has a dimension and a tuple two elements. -/
def isWellFormed : TypeRef → Bool
  | .named name arguments => isPath name.toList && allWellFormed arguments
  | .parameter name => isPath name.toList
  | .array element rank => decide (0 < rank) && element.isWellFormed
  | .tuple elements => decide (1 < elements.length) && allWellFormed elements

def allWellFormed : List TypeRef → Bool
  | [] => true
  | type :: rest => type.isWellFormed && allWellFormed rest

end

mutual

/-- With its parameters as bare names a well-formed type is legible, so it can be read back. -/
theorem isLegible_forgetParameters : (type : TypeRef) → type.forgetParameters.isLegible [] = type.isWellFormed
  | .named name arguments => by simp [forgetParameters, isLegible, isWellFormed, allLegible_forgetAllParameters arguments]
  | .parameter name => by simp [forgetParameters, isLegible, allLegible, isWellFormed]
  | .array element rank => by simp [forgetParameters, isLegible, isWellFormed, isLegible_forgetParameters element]
  | .tuple elements => by
    have hlength : (forgetAllParameters elements).length = elements.length := by rw [forgetAllParameters_eq_map, List.length_map]
    simp [forgetParameters, isLegible, isWellFormed, hlength, allLegible_forgetAllParameters elements]

theorem allLegible_forgetAllParameters : (types : List TypeRef) → allLegible [] (forgetAllParameters types) = allWellFormed types
  | [] => rfl
  | type :: rest => by
    simp [forgetAllParameters, allLegible, allWellFormed, isLegible_forgetParameters type, allLegible_forgetAllParameters rest]

end

mutual

theorem chars_forgetParameters : (type : TypeRef) → type.forgetParameters.chars = type.chars
  | .named name arguments => by
    have hlength : (forgetAllParameters arguments).length = arguments.length := by
      rw [forgetAllParameters_eq_map, List.length_map]
    have hempty : (forgetAllParameters arguments).isEmpty = arguments.isEmpty := by
      rw [forgetAllParameters_eq_map, List.isEmpty_map]
    rw [forgetParameters, chars, chars, hlength, hempty, listChars_forgetAllParameters arguments]
  | .parameter name => by rw [forgetParameters, chars_named_nil, chars]
  | .array element rank => by rw [forgetParameters, chars, chars, chars_forgetParameters element]
  | .tuple elements => by rw [forgetParameters, chars, chars, listChars_forgetAllParameters elements]

theorem listChars_forgetAllParameters : (types : List TypeRef) → listChars (forgetAllParameters types) = listChars types
  | [] => rfl
  | type :: rest => by
    rw [forgetAllParameters, listChars, listChars, chars_forgetParameters type, tailChars_forgetAllParameters rest]

theorem tailChars_forgetAllParameters : (types : List TypeRef) → tailChars (forgetAllParameters types) = tailChars types
  | [] => rfl
  | type :: rest => by
    rw [forgetAllParameters, tailChars, tailChars, chars_forgetParameters type, tailChars_forgetAllParameters rest]

end

theorem render_forgetParameters (type : TypeRef) : type.forgetParameters.render = type.render := by
  rw [render, render, chars_forgetParameters]

mutual

/-- A closed type has no parameters to forget. -/
theorem forgetParameters_eq_self : {type : TypeRef} → type.isOpen = false → type.forgetParameters = type
  | .named name arguments, h => by rw [forgetParameters, forgetAllParameters_eq_self h]
  | .parameter name, h => by simp [isOpen] at h
  | .array element rank, h => by
    have helement : element.isOpen = false := h
    rw [forgetParameters, forgetParameters_eq_self helement]
  | .tuple elements, h => by rw [forgetParameters, forgetAllParameters_eq_self h]

theorem forgetAllParameters_eq_self : {types : List TypeRef} → anyOpen types = false → forgetAllParameters types = types
  | [], _ => rfl
  | type :: rest, h => by
    rw [anyOpen, Bool.or_eq_false_iff] at h
    rw [forgetAllParameters, forgetParameters_eq_self h.1, forgetAllParameters_eq_self h.2]

end

mutual

theorem isOpen_forgetParameters : (type : TypeRef) → type.forgetParameters.isOpen = false
  | .named _ arguments => anyOpen_forgetAllParameters arguments
  | .parameter _ => rfl
  | .array element _ => isOpen_forgetParameters element
  | .tuple elements => anyOpen_forgetAllParameters elements

theorem anyOpen_forgetAllParameters : (types : List TypeRef) → anyOpen (forgetAllParameters types) = false
  | [] => rfl
  | type :: rest => by
    rw [forgetAllParameters, anyOpen, isOpen_forgetParameters type, anyOpen_forgetAllParameters rest, Bool.or_false]

end

mutual

/-- What can be read back where no name is a type parameter is closed. -/
theorem isOpen_eq_false_of_isLegible : {type : TypeRef} → type.isLegible [] = true → type.isOpen = false
  | .named _ _, h => anyOpen_eq_false_of_allLegible (allLegible_iff.mpr (isLegible_named_iff.mp h).2.2)
  | .parameter _, h => absurd (isLegible_parameter_iff.mp h).2 List.not_mem_nil
  | .array element _, h => by
    have helement : element.isOpen = false := isOpen_eq_false_of_isLegible (isLegible_array_iff.mp h).2
    exact helement
  | .tuple _, h => anyOpen_eq_false_of_allLegible (allLegible_iff.mpr (isLegible_tuple_iff.mp h).2)

theorem anyOpen_eq_false_of_allLegible : {types : List TypeRef} → allLegible [] types = true → anyOpen types = false
  | [], _ => rfl
  | type :: rest, h => by
    rw [allLegible, Bool.and_eq_true] at h
    rw [anyOpen, isOpen_eq_false_of_isLegible h.1, anyOpen_eq_false_of_allLegible h.2, Bool.or_false]

end

theorem forgetParameters_forgetParameters (type : TypeRef) : type.forgetParameters.forgetParameters = type.forgetParameters :=
  forgetParameters_eq_self (isOpen_forgetParameters type)

mutual

/-- Tuples are packed in one way whether parameters are known or not. -/
theorem normalize_forgetParameters : (type : TypeRef) → type.forgetParameters.normalize = type.normalize.forgetParameters
  | .named name arguments => by simp [forgetParameters, normalize, normalizeAll_forgetAllParameters arguments]
  | .parameter name => by simp [forgetParameters, normalize, normalizeAll]
  | .array element rank => by simp [forgetParameters, normalize, normalize_forgetParameters element]
  | .tuple elements => by
    have hnamed : ∀ name arguments, forgetParameters (.named name arguments) = .named name (arguments.map forgetParameters) := by
      intro name arguments
      rw [forgetParameters, forgetAllParameters_eq_map]
    rw [forgetParameters, normalize, normalize, normalizeAll_forgetAllParameters elements, forgetAllParameters_eq_map,
      map_tupleOf hnamed]

theorem normalizeAll_forgetAllParameters : (types : List TypeRef) →
    normalizeAll (forgetAllParameters types) = forgetAllParameters (normalizeAll types)
  | [] => rfl
  | type :: rest => by
    simp [forgetAllParameters, normalizeAll, normalize_forgetParameters type, normalizeAll_forgetAllParameters rest]

end

theorem isWellFormed_normalize {type : TypeRef} (h : type.isWellFormed = true) : type.normalize.isWellFormed = true := by
  rw [← isLegible_forgetParameters, ← normalize_forgetParameters]
  rw [← isLegible_forgetParameters] at h
  exact isLegible_normalize h

theorem parse_render_of_isWellFormed {type : TypeRef} (h : type.isWellFormed = true) :
    parse type.render = .ok type.forgetParameters := by
  rw [← isLegible_forgetParameters] at h
  rw [← render_forgetParameters, parse_render h, forgetParameters_forgetParameters]

/-- Well-formed types have one written form just when they are equal but for what is a parameter. -/
theorem render_eq_iff {first second : TypeRef} (hfirst : first.isWellFormed = true) (hsecond : second.isWellFormed = true) :
    first.render = second.render ↔ first.forgetParameters = second.forgetParameters := by
  constructor
  · intro h
    have hparse := parse_render_of_isWellFormed hfirst
    rw [h, parse_render_of_isWellFormed hsecond] at hparse
    exact (Except.ok.inj hparse).symm
  · intro h
    rw [← render_forgetParameters first, h, render_forgetParameters]

theorem identity_eq_iff {first second : TypeRef} (hfirst : first.isWellFormed = true) (hsecond : second.isWellFormed = true) :
    first.identity = second.identity ↔ first.normalize.forgetParameters = second.normalize.forgetParameters := by
  rw [identity, identity, TypeIdentity.mk.injEq]
  exact render_eq_iff (isWellFormed_normalize hfirst) (isWellFormed_normalize hsecond)

/-- The types that can be read are the closed well-formed types. -/
theorem exists_parse_iff {type : TypeRef} : (∃ text, parse text = .ok type) ↔ type.isWellFormed = true ∧ type.isOpen = false := by
  constructor
  · rintro ⟨text, hparse⟩
    have hlegible := isLegible_of_parse hparse
    have hclosed := isOpen_eq_false_of_isLegible hlegible
    refine ⟨?_, hclosed⟩
    rwa [← isLegible_forgetParameters, forgetParameters_eq_self hclosed]
  · rintro ⟨hwell, hclosed⟩
    refine ⟨type.render, ?_⟩
    rw [parse_render_of_isWellFormed hwell, forgetParameters_eq_self hclosed]

/-- Rendering is faithful. Reading a rendered type gives it back with its parameters as bare names, and as it was if it came from a text; and the identity of a type tells apart whatever differs in normal form, save a parameter from a bare name. -/
theorem rendering_isFaithful :
    (∀ type : TypeRef, type.isWellFormed = true → parse type.render = .ok type.forgetParameters) ∧
      (∀ text type, parse text = .ok type → parse type.render = .ok type) ∧
      (∀ first second : TypeRef, first.isWellFormed = true → second.isWellFormed = true →
        (first.identity = second.identity ↔ first.normalize.forgetParameters = second.normalize.forgetParameters)) ∧
      ∀ first second : TypeRef, first.isWellFormed = true → second.isWellFormed = true → first.isOpen = false →
        second.isOpen = false → (first.identity = second.identity ↔ first.normalize = second.normalize) := by
  refine ⟨fun type => parse_render_of_isWellFormed, ?_, fun first second => identity_eq_iff, ?_⟩
  · intro text type hparse
    obtain ⟨hwell, hclosed⟩ := exists_parse_iff.mp ⟨text, hparse⟩
    rw [parse_render_of_isWellFormed hwell, forgetParameters_eq_self hclosed]
  · intro first second hfirst hsecond hclosed hclosed'
    have hnormal : ∀ type : TypeRef, type.isOpen = false → type.normalize.forgetParameters = type.normalize := by
      intro type h
      rw [← normalize_forgetParameters, forgetParameters_eq_self h]
    rw [identity_eq_iff hfirst hsecond, hnormal first hclosed, hnormal second hclosed']

/-- An optional array of tuples inside a generic type, read back; nine elements and their packed form have one identity. -/
theorem rendering_isFaithful_packed :
    let pair := tuple [named "int" [], parameter "T"]
    let type := named "Demo.Box" [nullable (array pair 2), parameter "T"]
    let long := tuple (List.replicate 9 (named "int" []))
    let packed := named valueTupleName (List.replicate 7 (named "int" []) ++ [tuple [named "int" [], named "int" []]])
    parse type.render = .ok (named "Demo.Box" [nullable (array (tuple [named "int" [], named "T" []]) 2), named "T" []]) ∧
      long ≠ packed ∧ long.identity = packed.identity := by
  intro pair type long packed
  obtain ⟨hparse, -, -, hidentity⟩ := rendering_isFaithful
  refine ⟨hparse type (by decide +kernel), by decide +kernel, ?_⟩
  exact (hidentity long packed (by decide +kernel) (by decide +kernel) (by decide) (by decide)).mpr (by decide +kernel)

end SchemaClosure.TypeRef
