import SchemaClosure.Json.Basic

namespace SchemaClosure.Json

/-- A literal taken apart. The digits of an absent fraction are none. -/
structure Numeral where
  negative : Bool
  whole : List Char
  fraction : List Char
  exponent : Option Int
  deriving Repr

namespace Numeral

def digitsValue (digits : List Char) : Nat :=
  digits.foldl (fun value digit => 10 * value + (digit.toNat - '0'.toNat)) 0

def exponent? : List Char → Option Int
  | '-' :: digits => if digits.isEmpty || !digits.all Char.isDigit then none else some (-(digitsValue digits : Int))
  | '+' :: digits => if digits.isEmpty || !digits.all Char.isDigit then none else some (digitsValue digits)
  | digits => if digits.isEmpty || !digits.all Char.isDigit then none else some (digitsValue digits)

/-- A whole part is zero or begins with another digit. -/
def isWhole : List Char → Bool
  | [] => false
  | [_] => true
  | first :: _ => first != '0'

def tail? (negative : Bool) (whole : List Char) : List Char → Option Numeral
  | [] => some ⟨negative, whole, [], none⟩
  | '.' :: rest =>
    let fraction := rest.takeWhile Char.isDigit
    if fraction.isEmpty then none
    else
      match rest.dropWhile Char.isDigit with
      | [] => some ⟨negative, whole, fraction, none⟩
      | e :: exponent =>
        if e = 'e' || e = 'E' then (exponent? exponent).map fun value => ⟨negative, whole, fraction, some value⟩ else none
  | e :: exponent =>
    if e = 'e' || e = 'E' then (exponent? exponent).map fun value => ⟨negative, whole, [], some value⟩ else none

def ofChars? (literal : List Char) : Option Numeral :=
  let negative := literal.head? == some '-'
  let unsigned := if negative then literal.tail else literal
  let whole := unsigned.takeWhile Char.isDigit
  if isWhole whole then tail? negative whole (unsigned.dropWhile Char.isDigit) else none

/-- A literal without fraction and exponent is an integer if 64 bits hold it, with a sign or without; negative zero is none. -/
def toInt? (numeral : Numeral) : Option Int :=
  if numeral.fraction.isEmpty && numeral.exponent.isNone then
    let value := digitsValue numeral.whole
    if numeral.negative then (if value = 0 || 1 <<< 63 < value then none else some (-(value : Int)))
    else if value < 1 <<< 64 then some value
    else none
  else none

/-- The value of `significand` with further digits behind it, as many as 64 bits hold, and how many these are. -/
def extend (significand : Nat) : List Char → Nat × Nat
  | [] => (significand, 0)
  | digit :: rest =>
    let value := 10 * significand + (digit.toNat - '0'.toNat)
    if value < 1 <<< 64 then
      let (total, count) := extend value rest
      (total, count + 1)
    else (significand, 0)

/-- The number with 53 significant bits that is nearest; halfway, the one with an even last bit. -/
def roundToDouble (value : Nat) : Nat :=
  let spacing := 1 <<< (value.log2 - 52)
  let excess := value % spacing
  if 2 * excess < spacing || (2 * excess = spacing && value / spacing % 2 = 0) then value - excess
  else value - excess + spacing

/-- Numbers from here on are nearer to infinity than to any finite double. -/
def doubleLimit : Nat := (1 <<< 1024) - (1 <<< 970)

/-- Whether the number is read as a finite double. It is read as a significand, which is its leading digits as far as 64 bits hold them, times a power of ten; each of the two is rounded to a double, and so is their product. Scaling down never leaves the range. -/
def isFinite (numeral : Numeral) : Bool :=
  let (significand, count) := extend 0 (numeral.whole ++ numeral.fraction)
  let exponent := numeral.exponent.getD 0 + numeral.whole.length - count
  if significand = 0 || exponent < 0 then true
  else if 308 < exponent then false
  else roundToDouble significand * roundToDouble (Nat.pow 10 exponent.toNat) < doubleLimit

end Numeral

def number? (literal : List Char) : Option Json :=
  (Numeral.ofChars? literal).map fun numeral =>
    match numeral.toInt? with
    | some value => .integer value
    | none => .decimal (String.ofList literal)

mutual

/-- Whether every string in a value has a text and every number is a finite double. -/
def isReadable : Json → Bool
  | .decimal literal => ((Numeral.ofChars? literal.toList).map Numeral.isFinite).getD false
  | .string text => text.isSome
  | .array items => allReadable items
  | .object members => allMembersReadable members
  | _ => true

def allReadable : List Json → Bool
  | [] => true
  | item :: rest => item.isReadable && allReadable rest

def allMembersReadable : List (Option String × Json) → Bool
  | [] => true
  | (name, value) :: rest => name.isSome && value.isReadable && allMembersReadable rest

end

end SchemaClosure.Json
