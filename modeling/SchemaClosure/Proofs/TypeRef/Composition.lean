import SchemaClosure.Proofs.TypeRef.Occurrence

/-!
The laws of substitution. All parameters are replaced at once, so a substitution does not touch what it has put in, and two of them in a row are one that puts the images of the second into those of the first. Packing tuples can be done before or after; and a type is closed by a substitution that binds every parameter in it to a closed type, and by no other.
-/

namespace SchemaClosure.TypeRef

variable {bindings outer : Bindings} {name : String}

/-- One substitution and then another, as one: the images under the first take part in the second, and what only the second binds is bound as it says. -/
def Bindings.andThen (bindings outer : Bindings) : Bindings := bindings.mapTypes (substitute outer) ++ outer

theorem lookup_andThen (name : String) :
    (bindings.andThen outer).lookup name = ((bindings.lookup name).map (substitute outer)).or (outer.lookup name) := by
  rw [Bindings.andThen, List.lookup_append, lookup_mapTypes]

mutual

theorem substitute_andThen : (type : TypeRef) → type.substitute (bindings.andThen outer) = (type.substitute bindings).substitute outer
  | .named name arguments => by simp only [substitute, substituteAll_andThen arguments]
  | .parameter name => by
    rw [substitute, substitute, lookup_andThen]
    cases bindings.lookup name with
    | none => rfl
    | some bound => rfl
  | .array element rank => by simp only [substitute, substitute_andThen element]
  | .tuple elements => by simp only [substitute, substituteAll_andThen elements]

theorem substituteAll_andThen : (types : List TypeRef) →
    substituteAll (bindings.andThen outer) types = substituteAll outer (substituteAll bindings types)
  | [] => rfl
  | type :: rest => by simp only [substituteAll, substitute_andThen type, substituteAll_andThen rest]

end

theorem isOpen_substitute_parameter_iff :
    ((parameter name).substitute bindings).isOpen = true ↔
      bindings.lookup name = none ∨ ∃ bound, bindings.lookup name = some bound ∧ bound.isOpen = true := by
  rw [substitute]
  cases bindings.lookup name with
  | none => simp [isOpen]
  | some bound => simp

/-- A type stays open where a parameter in it is not bound, or is bound to an open type. -/
theorem isOpen_substitute_iff (type : TypeRef) :
    (type.substitute bindings).isOpen = true ↔
      ∃ name, type.Mentions name ∧
        (bindings.lookup name = none ∨ ∃ bound, bindings.lookup name = some bound ∧ bound.isOpen = true) :=
  calc (type.substitute bindings).isOpen = true
      ↔ ∃ left, (type.substitute bindings).Mentions left := isOpen_iff_mentions _
    _ ↔ ∃ left name, type.Mentions name ∧ ((parameter name).substitute bindings).Mentions left :=
        exists_congr fun _ => mentions_substitute_iff type
    _ ↔ ∃ name left, type.Mentions name ∧ ((parameter name).substitute bindings).Mentions left := exists_comm
    _ ↔ ∃ name, type.Mentions name ∧ ((parameter name).substitute bindings).isOpen = true :=
        exists_congr fun name => by rw [exists_and_left, isOpen_iff_mentions]
    _ ↔ _ := exists_congr fun name => and_congr_right' isOpen_substitute_parameter_iff

/-- **Substitution composes, commutes with packing, and closes what it binds to closed types.** -/
theorem substitute_isLawful (bindings outer : Bindings) :
    (∀ name, (bindings.andThen outer).lookup name = ((bindings.lookup name).map (substitute outer)).or (outer.lookup name)) ∧
      (∀ name, (bindings.mapTypes normalize).lookup name = (bindings.lookup name).map normalize) ∧
      ∀ type : TypeRef,
        (type.substitute bindings).substitute outer = type.substitute (bindings.andThen outer) ∧
        (type.substitute bindings).normalize = type.normalize.substitute (bindings.mapTypes normalize) ∧
        ((type.substitute bindings).isOpen = true ↔
          ∃ name, type.Mentions name ∧
            (bindings.lookup name = none ∨ ∃ bound, bindings.lookup name = some bound ∧ bound.isOpen = true)) :=
  ⟨fun _ => lookup_andThen _, fun _ => lookup_mapTypes _, fun type =>
    ⟨(substitute_andThen type).symm, normalize_substitute type, isOpen_substitute_iff type⟩⟩

/-- Parameters that are put in stay, also where they have the names of others that are replaced. -/
example : (named "Demo.Pair" [.parameter "T", .parameter "U"]).substitute [("T", .parameter "U"), ("U", .parameter "T")] =
    named "Demo.Pair" [.parameter "U", .parameter "T"] := by
  decide

end SchemaClosure.TypeRef
