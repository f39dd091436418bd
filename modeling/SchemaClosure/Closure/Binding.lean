import SchemaClosure.Closure.Error
import SchemaClosure.Text.LowerCase

namespace SchemaClosure.Binding

/-- The place of the member whose integer key is the position of a parameter. -/
def placeOfKey (members : List MemberSchema) (position : Nat) : Except ParameterMismatch Nat :=
  match members.findIdx? fun member => member.key.integer?.any fun key => key.toInt == (position : Int) with
  | some place => .ok place
  | none => .error .missingMember

/-- The place of the only member whose text key agrees with the name of a parameter, ignoring case. -/
def placeOfName (members : List MemberSchema) (name : String) : Except ParameterMismatch Nat :=
  let matching := members.zipIdx.filter fun (member, _) => member.key.text?.any fun key => Text.eqIgnoringCase key name
  match matching with
  | [] => .error .missingMember
  | [(_, place)] => .ok place
  | _ => .error .ambiguousName

/-- The place of the member that goes to a parameter. It has to have the type of the parameter, and decoding has to be able to read it back. -/
def placeOf (members : List MemberSchema) (keyMode : KeyMode) (position : Nat) (parameter : Parameter) :
    Except ParameterMismatch Nat := do
  let place ← match keyMode with
    | .integer => placeOfKey members position
    | .text => placeOfName members parameter.name
  match members[place]? with
  | none => .error .missingMember
  | some member =>
    if member.declaredType.identity ≠ parameter.type.identity then .error .typeMismatch
    else if !member.isReadable then .error .notReadable
    else .ok place

def placesFrom (members : List MemberSchema) (keyMode : KeyMode) :
    Nat → List Parameter → Except (String × ParameterMismatch) (List Nat)
  | _, [] => .ok []
  | position, parameter :: rest =>
    match placeOf members keyMode position parameter with
    | .error mismatch => .error (parameter.name, mismatch)
    | .ok place => (placesFrom members keyMode (position + 1) rest).map (place :: ·)

def places (members : List MemberSchema) (keyMode : KeyMode) (constructor : Constructor) :
    Except (String × ParameterMismatch) (List Nat) :=
  placesFrom members keyMode 0 constructor.parameters

def widestFirst (constructors : List Constructor) : List Constructor :=
  constructors.mergeSort fun first second => second.parameters.length ≤ first.parameters.length

/-- Binds the designated constructor, or else the widest that fits. Only constructors that codecs see are looked at; a value type without any gets a default value, which is no binding. -/
def bind (constructors : List Constructor) (members : List MemberSchema) (keyMode : KeyMode) (isReferenceType : Bool) :
    Except ConstructorFailure (Option (List Nat)) :=
  let accessible := constructors.filter (·.accessibility.isVisible)
  match accessible.filter Constructor.isDesignated with
  | [designated] =>
    match places members keyMode designated with
    | .ok binding => .ok (some binding)
    | .error (parameter, mismatch) => .error (.designatedParameter parameter mismatch)
  | _ :: _ :: _ => .error .ambiguousDesignation
  | [] =>
    if accessible.isEmpty then (if isReferenceType then .error .noAccessibleConstructor else .ok none)
    else
      match (widestFirst accessible).findSome? fun constructor => (places members keyMode constructor).toOption with
      | some binding => .ok (some binding)
      | none => .error .noMatch

end SchemaClosure.Binding
