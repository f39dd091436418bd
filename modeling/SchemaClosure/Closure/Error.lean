import SchemaClosure.Declaration.Basic
import SchemaClosure.Model.Basic

namespace SchemaClosure

/-- Why a type cannot be served. -/
inductive ShapeReason where
  | arrayRank (rank : Nat)
  | unresolved
  | inaccessible (accessibility : Accessibility)
  | containerUnionCollision
  | ineligibleRoot
  | unmarkedPolymorphic
  deriving DecidableEq, Repr

namespace ShapeReason

def code : ShapeReason → DiagnosticCode
  | .arrayRank _ => .unsupportedShape
  | .unresolved => .unresolvedType
  | .inaccessible _ => .inaccessibleType
  | .containerUnionCollision => .containerUnionCollision
  | .ineligibleRoot => .ineligibleRoot
  | .unmarkedPolymorphic => .unmarkedPolymorphic

def message : ShapeReason → String
  | .arrayRank rank => s!"arrays of rank {rank} are not supported (at most 4)"
  | .unresolved => "the type is not declared in the metadata"
  | .inaccessible accessibility => s!"the type is not visible to generated code ({accessibility.name})"
  | .containerUnionCollision => "a known container type cannot also declare union subtypes"
  | .ineligibleRoot => "a root must be a serializable object, a union interface or abstract class, or an enum"
  | .unmarkedPolymorphic => "an interface or abstract class needs union declarations to be serialized"

def suggestions : ShapeReason → List String
  | .inaccessible _ => ["make the type and its containing types public or internal"]
  | .unresolved => ["add the type to the metadata snapshot or list it in `ignoredTypeNames`"]
  | .unmarkedPolymorphic => ["declare its subtypes with union attributes or use a concrete member type"]
  | _ => []

end ShapeReason

/-- Why a constructor parameter has no member. -/
inductive ParameterMismatch where
  | missingMember
  | ambiguousName
  | typeMismatch
  | notReadable
  deriving DecidableEq, Repr

def ParameterMismatch.message : ParameterMismatch → String
  | .missingMember => "no member has a matching key"
  | .ambiguousName => "several members match its name"
  | .typeMismatch => "the member type differs"
  | .notReadable => "the member is not readable"

/-- Why an object has no constructor for decoding. -/
inductive ConstructorFailure where
  | noAccessibleConstructor
  | noMatch
  | ambiguousDesignation
  | designatedParameter (parameter : String) (mismatch : ParameterMismatch)
  deriving DecidableEq, Repr

namespace ConstructorFailure

def code : ConstructorFailure → DiagnosticCode
  | .noAccessibleConstructor | .noMatch => .noMatchingConstructor
  | .ambiguousDesignation => .ambiguousConstructor
  | .designatedParameter .. => .constructorMismatch

def message : ConstructorFailure → String
  | .noAccessibleConstructor => "the type has no public or internal constructor"
  | .noMatch => "no constructor's parameters match the serialized members"
  | .ambiguousDesignation => "more than one constructor is marked as the serialization constructor"
  | .designatedParameter parameter mismatch =>
    s!"parameter `{parameter}` of the serialization constructor does not bind: {mismatch.message}"

end ConstructorFailure

inductive CollectError where
  /-- A type that cannot be served, and the member on the way to it that is nearest to it. -/
  | unsupportedShape (identity : TypeIdentity) (member : Option String) (reason : ShapeReason)
  | mixedKeys (identity : TypeIdentity) (member : String) (expected : KeyMode)
  | noViableConstructor (identity : TypeIdentity) (failure : ConstructorFailure)
  | missingUnion (identity : TypeIdentity)
  | cancelled
  deriving DecidableEq, Repr

namespace CollectError

def shape (type : TypeRef) (reason : ShapeReason) : CollectError := .unsupportedShape type.identity none reason

/-- Tells a shape error the member it was reached through, unless it knows one already. -/
def reachedThrough (error : CollectError) (member : Option String) : CollectError :=
  match error with
  | .unsupportedShape identity none reason => .unsupportedShape identity member reason
  | other => other

def identity? : CollectError → Option TypeIdentity
  | .unsupportedShape identity _ _ | .mixedKeys identity _ _ | .noViableConstructor identity _ | .missingUnion identity => some identity
  | .cancelled => none

def code : CollectError → DiagnosticCode
  | .unsupportedShape _ _ reason => reason.code
  | .mixedKeys .. => .mixedKeys
  | .noViableConstructor _ failure => failure.code
  | .missingUnion _ => .missingUnion
  | .cancelled => .cancelled

def message : CollectError → String
  | .unsupportedShape identity _ reason => s!"cannot serialize `{identity.text}`: {reason.message}"
  | .mixedKeys identity member expected =>
    s!"member `{member}` of `{identity.text}` is keyed differently from the {expected.description} keys before it"
  | .noViableConstructor identity failure => s!"cannot bind a constructor for `{identity.text}`: {failure.message}"
  | .missingUnion identity => s!"root `{identity.text}` is an interface or abstract class without union declarations"
  | .cancelled => "collection was cancelled"

def labels : CollectError → List Label
  | .unsupportedShape identity member reason =>
    { subject := { typeName := identity.text }, message := reason.message } :: member.toList.map fun name =>
      { subject := { typeName := identity.text }, message := s!"reached through member `{name}`", isPrimary := false }
  | .mixedKeys identity member expected =>
    [{ subject := { typeName := identity.text, member := some member }, message := s!"expected a {expected.description} key" }]
  | .noViableConstructor identity (.designatedParameter parameter mismatch) =>
    [{ subject := { typeName := identity.text, member := some parameter }
       message := (ConstructorFailure.designatedParameter parameter mismatch).message }]
  | .noViableConstructor identity failure => [{ subject := { typeName := identity.text }, message := failure.message }]
  | .missingUnion identity => [{ subject := { typeName := identity.text }, message := "no union subtypes declared" }]
  | .cancelled => []

def notes : CollectError → List String
  | .mixedKeys .. => ["the first keyed member fixes the key kind for the whole type"]
  | _ => []

def suggestions : CollectError → List String
  | .unsupportedShape _ _ reason => reason.suggestions
  | .noViableConstructor .. => ["add a constructor whose parameters match the keyed members by key or name"]
  | .missingUnion _ => ["declare at least one discriminator and subtype with a union attribute"]
  | _ => []

def diagnostic (error : CollectError) : Diagnostic :=
  { code := error.code, severity := .error, message := error.message, labels := error.labels, notes := error.notes
    suggestions := error.suggestions }

end CollectError

end SchemaClosure
