/-!
The codes of diagnostics. The letter and the first digit tell the area: shapes, keys, constructors, unions, the tool itself, and warnings.
-/

namespace SchemaClosure

inductive DiagnosticCode where
  | unsupportedShape
  | unresolvedType
  | inaccessibleType
  | containerUnionCollision
  | ineligibleRoot
  | unmarkedPolymorphic
  | mixedKeys
  | duplicateKey
  | missingKey
  | nullKey
  | missingObjectAttribute
  | noMatchingConstructor
  | ambiguousConstructor
  | constructorMismatch
  | missingUnion
  | duplicateDiscriminator
  | foreignSubtype
  | cancelled
  | invalidInput
  | ignoredKey
  deriving DecidableEq, Repr, Inhabited

namespace DiagnosticCode

inductive Area where
  | shape
  | key
  | constructor
  | union
  | internal
  | warning
  deriving DecidableEq, Repr

/-- All codes in the order of their texts. -/
def all : List DiagnosticCode := [
  .unsupportedShape, .unresolvedType, .inaccessibleType, .containerUnionCollision, .ineligibleRoot,
  .unmarkedPolymorphic, .mixedKeys, .duplicateKey, .missingKey, .nullKey, .missingObjectAttribute,
  .noMatchingConstructor, .ambiguousConstructor, .constructorMismatch, .missingUnion, .duplicateDiscriminator,
  .foreignSubtype, .cancelled, .invalidInput, .ignoredKey]

def text : DiagnosticCode → String
  | .unsupportedShape => "M1001"
  | .unresolvedType => "M1002"
  | .inaccessibleType => "M1003"
  | .containerUnionCollision => "M1004"
  | .ineligibleRoot => "M1005"
  | .unmarkedPolymorphic => "M1006"
  | .mixedKeys => "M2001"
  | .duplicateKey => "M2002"
  | .missingKey => "M2003"
  | .nullKey => "M2004"
  | .missingObjectAttribute => "M2005"
  | .noMatchingConstructor => "M3001"
  | .ambiguousConstructor => "M3002"
  | .constructorMismatch => "M3003"
  | .missingUnion => "M4001"
  | .duplicateDiscriminator => "M4002"
  | .foreignSubtype => "M4003"
  | .cancelled => "M9001"
  | .invalidInput => "M9002"
  | .ignoredKey => "W1001"

instance : ToString DiagnosticCode := ⟨text⟩

def description : DiagnosticCode → String
  | .unsupportedShape => "type shape cannot be serialized"
  | .unresolvedType => "type not found in metadata"
  | .inaccessibleType => "type is not visible to generated code"
  | .containerUnionCollision => "known container type declares union subtypes"
  | .ineligibleRoot => "root type is not serializable"
  | .unmarkedPolymorphic => "member type is an unmarked interface or abstract class"
  | .mixedKeys => "integer and string keys are mixed"
  | .duplicateKey => "duplicate member key"
  | .missingKey => "member has no key"
  | .nullKey => "key is neither an integer nor a string"
  | .missingObjectAttribute => "type is missing the serializable-object attribute"
  | .noMatchingConstructor => "no constructor matches the serialized members"
  | .ambiguousConstructor => "more than one serialization constructor"
  | .constructorMismatch => "serialization constructor parameter does not match a member"
  | .missingUnion => "polymorphic root has no union declarations"
  | .duplicateDiscriminator => "duplicate union discriminator"
  | .foreignSubtype => "union subtype does not derive from the union base"
  | .cancelled => "collection was cancelled"
  | .invalidInput => "invalid metadata or options input"
  | .ignoredKey => "key attribute ignored in map mode"

def area : DiagnosticCode → Area
  | .unsupportedShape | .unresolvedType | .inaccessibleType
  | .containerUnionCollision | .ineligibleRoot | .unmarkedPolymorphic => .shape
  | .mixedKeys | .duplicateKey | .missingKey | .nullKey | .missingObjectAttribute => .key
  | .noMatchingConstructor | .ambiguousConstructor | .constructorMismatch => .constructor
  | .missingUnion | .duplicateDiscriminator | .foreignSubtype => .union
  | .cancelled | .invalidInput => .internal
  | .ignoredKey => .warning

/-- The code with a text. The letter may be written small. -/
def ofText? (text : String) : Option DiagnosticCode := all.find? fun code => code.text == text.toUpper

theorem toUpper_text (code : DiagnosticCode) : code.text.toUpper = code.text := by
  rw [← String.toList_inj, String.toUpper, String.toList_map]
  cases code <;> rfl

theorem ofText?_text (code : DiagnosticCode) : ofText? code.text = some code := by
  rw [ofText?, toUpper_text]
  cases code <;> rfl

/-- A code can be told from its text. -/
theorem text_injective : Function.Injective text := by
  intro first second h
  have hfirst := ofText?_text first
  rw [h, ofText?_text] at hfirst
  exact (Option.some.inj hfirst).symm

end DiagnosticCode

end SchemaClosure
