import SchemaClosure.Proofs.TypeRef.ReadBack

namespace SchemaClosure.TypeRef

/-- The same names, each with the image of its type. -/
def Bindings.mapTypes (f : TypeRef → TypeRef) (bindings : Bindings) : Bindings := bindings.map (Prod.map id f)

variable {bindings outer : Bindings} {scope : List String} {f : TypeRef → TypeRef}

theorem lookup_mapTypes (name : String) : (bindings.mapTypes f).lookup name = (bindings.lookup name).map f := by
  induction bindings with
  | nil => rfl
  | cons binding rest ih =>
    rw [Bindings.mapTypes, List.map_cons, Prod.map, List.lookup_cons, List.lookup_cons, id]
    split
    · rfl
    · exact ih

/-- Bindings that leave every parameter as it is. -/
def Bindings.IsIdentity (bindings : Bindings) : Prop := ∀ binding ∈ bindings, binding.2 = .parameter binding.1

mutual

theorem substitute_of_isIdentity (h : Bindings.IsIdentity bindings) : (type : TypeRef) → type.substitute bindings = type
  | .named _ arguments => by simp [substitute, substituteAll_of_isIdentity h arguments]
  | .parameter name => by
    rw [substitute]
    cases hlookup : bindings.lookup name with
    | none => rfl
    | some type => exact h (name, type) (mem_of_lookup_eq_some hlookup)
  | .array element _ => by simp [substitute, substitute_of_isIdentity h element]
  | .tuple elements => by simp [substitute, substituteAll_of_isIdentity h elements]

theorem substituteAll_of_isIdentity (h : Bindings.IsIdentity bindings) :
    (types : List TypeRef) → substituteAll bindings types = types
  | [] => rfl
  | type :: rest => by simp [substituteAll, substitute_of_isIdentity h type, substituteAll_of_isIdentity h rest]

end

/-- All names in scope are bound. -/
def Bindings.Covers (bindings : Bindings) (scope : List String) : Prop := ∀ name ∈ scope, (bindings.lookup name).isSome = true

mutual

/-- Two substitutions in a row are one, where the first leaves no parameter for the second. -/
theorem substitute_substitute (hcovers : Bindings.Covers bindings scope) : {type : TypeRef} → type.isLegible scope = true →
    (type.substitute bindings).substitute outer = type.substitute (bindings.mapTypes (substitute outer))
  | .named name arguments, h => by
    obtain ⟨-, -, harguments⟩ := isLegible_named_iff.mp h
    simp [substitute, substituteAll_substituteAll hcovers (allLegible_iff.mpr harguments)]
  | .parameter name, h => by
    obtain ⟨type, htype⟩ := Option.isSome_iff_exists.mp (hcovers name (isLegible_parameter_iff.mp h).2)
    simp [substitute, lookup_mapTypes, htype]
  | .array element _, h => by simp [substitute, substitute_substitute hcovers (isLegible_array_iff.mp h).2]
  | .tuple elements, h => by
    obtain ⟨-, helements⟩ := isLegible_tuple_iff.mp h
    simp [substitute, substituteAll_substituteAll hcovers (allLegible_iff.mpr helements)]

theorem substituteAll_substituteAll (hcovers : Bindings.Covers bindings scope) : {types : List TypeRef} →
    allLegible scope types = true →
    substituteAll outer (substituteAll bindings types) = substituteAll (bindings.mapTypes (substitute outer)) types
  | [], _ => rfl
  | type :: rest, h => by
    rw [allLegible, Bool.and_eq_true] at h
    simp [substituteAll, substitute_substitute hcovers h.1, substituteAll_substituteAll hcovers h.2]

end

theorem substitute_tupleOf (elements : List TypeRef) :
    (tupleOf elements).substitute bindings = tupleOf (elements.map (substitute bindings)) :=
  map_tupleOf (fun _ arguments => by rw [substitute, substituteAll_eq_map]) elements

mutual

/-- The normal form of a substitution is a substitution of normal forms into a normal form. -/
theorem normalize_substitute : (type : TypeRef) →
    (type.substitute bindings).normalize = type.normalize.substitute (bindings.mapTypes normalize)
  | .named _ arguments => by simp [substitute, normalize, normalizeAll_substituteAll arguments]
  | .parameter name => by
    simp only [substitute, normalize, lookup_mapTypes]
    cases bindings.lookup name <;> rfl
  | .array element _ => by simp [substitute, normalize, normalize_substitute element]
  | .tuple elements => by
    rw [substitute, normalize, normalize, substitute_tupleOf, ← substituteAll_eq_map, normalizeAll_substituteAll elements]

theorem normalizeAll_substituteAll : (types : List TypeRef) →
    normalizeAll (substituteAll bindings types) = substituteAll (bindings.mapTypes normalize) (normalizeAll types)
  | [] => rfl
  | type :: rest => by simp [substituteAll, normalizeAll, normalize_substitute type, normalizeAll_substituteAll rest]

end

/-- Legible types with one identity have one identity after every substitution. -/
theorem identity_substitute_eq {first second : TypeRef} (hfirst : first.isLegible scope = true) (hsecond : second.isLegible scope = true)
    (h : first.identity = second.identity) (bindings : Bindings) :
    (first.substitute bindings).identity = (second.substitute bindings).identity := by
  have hnormal := normalize_eq_of_identity_eq hfirst hsecond h
  rw [identity, identity, normalize_substitute, normalize_substitute, hnormal]

/-- To substitute for the parameters of a definition is to put other arguments in their place. -/
theorem substituteAll_parameters {names : List String} (hnodup : names.Nodup) {types : List TypeRef} (hlength : types.length = names.length) :
    substituteAll (names.zip types) (names.map .parameter) = types := by
  induction names generalizing types with
  | nil => rw [List.length_eq_zero_iff.mp hlength, List.map_nil, substituteAll]
  | cons name names ih =>
    obtain ⟨hname, hnodup⟩ := List.nodup_cons.mp hnodup
    cases types with
    | nil => simp at hlength
    | cons type types =>
      have hskip : substituteAll ((name, type) :: names.zip types) (names.map .parameter) =
          substituteAll (names.zip types) (names.map .parameter) := by
        simp only [substituteAll_eq_map, List.map_map]
        apply List.map_congr_left
        intro other hother
        have hne : other ≠ name := fun heq => hname (heq ▸ hother)
        simp [substitute, List.lookup_cons, beq_eq_false_iff_ne.mpr hne]
      rw [List.zip_cons_cons, List.map_cons, substituteAll, hskip, ih hnodup (Nat.succ.inj hlength)]
      simp [substitute]

end SchemaClosure.TypeRef
