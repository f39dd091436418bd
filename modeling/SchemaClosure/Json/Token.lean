import SchemaClosure.Json.Numeral

namespace SchemaClosure.Json

inductive Token where
  | mark (c : Char)
  | string (text : Option String)
  | literal (value : Json)
  deriving Repr

def isBlank (c : Char) : Bool := c == ' ' || c == '\t' || c == '\n' || c == '\r'

def isMark (c : Char) : Bool := ['[', ']', '{', '}', ',', ':'].contains c

def isLiteralChar (c : Char) : Bool := c.isAlphanum || c == '-' || c == '+' || c == '.'

def literal? (letters : List Char) : Option Json :=
  if letters = ['n', 'u', 'l', 'l'] then some .null
  else if letters = ['t', 'r', 'u', 'e'] then some (.boolean true)
  else if letters = ['f', 'a', 'l', 's', 'e'] then some (.boolean false)
  else number? letters

def isHighSurrogate (unit : Nat) : Bool := 0xD800 ≤ unit && unit ≤ 0xDBFF

def isLowSurrogate (unit : Nat) : Bool := 0xDC00 ≤ unit && unit ≤ 0xDFFF

/-- Takes one more unit of a string: the characters so far, latest first, and a high surrogate that waits for its partner. -/
def joinUnit (state : List Char × Option Nat) (unit : Nat) : Option (List Char × Option Nat) :=
  match state with
  | (chars, some high) =>
    if isLowSurrogate unit then some (Char.ofNat (0x10000 + (high - 0xD800) * 0x400 + (unit - 0xDC00)) :: chars, none)
    else none
  | (chars, none) =>
    if isHighSurrogate unit then some (chars, some unit)
    else if isLowSurrogate unit then none
    else some (Char.ofNat unit :: chars, none)

def joinUnits (units : List Nat) : Option String :=
  match units.foldlM joinUnit ([], none) with
  | some (chars, none) => some (String.ofList chars.reverse)
  | _ => none

def unescape? : Char → Option Nat
  | '"' => some 0x22
  | '\\' => some 0x5C
  | '/' => some 0x2F
  | 'b' => some 0x08
  | 'f' => some 0x0C
  | 'n' => some 0x0A
  | 'r' => some 0x0D
  | 't' => some 0x09
  | _ => none

def hexDigit? (c : Char) : Option Nat :=
  if c.isDigit then some (c.toNat - '0'.toNat)
  else if 'a' ≤ c && c ≤ 'f' then some (c.toNat - 'a'.toNat + 10)
  else if 'A' ≤ c && c ≤ 'F' then some (c.toNat - 'A'.toNat + 10)
  else none

/-- Where in a token the next character stands. Letters and units are collected latest first. -/
inductive Mode where
  | between
  | letters (run : List Char)
  | quoted (units : List Nat)
  | escape (units : List Nat)
  | hex (units : List Nat) (digits : Nat) (value : Nat)
  deriving Repr

/-- A text read so far: the tokens found, latest first, and the place within the next one. -/
structure Scanner where
  found : List Token
  mode : Mode
  deriving Repr

namespace Scanner

def start : Scanner := ⟨[], .between⟩

/-- Reads a character that begins a token or stands between tokens. -/
def stepBetween (found : List Token) (c : Char) : Option Scanner :=
  if isBlank c then some ⟨found, .between⟩
  else if isMark c then some ⟨.mark c :: found, .between⟩
  else if c = '"' then some ⟨found, .quoted []⟩
  else if isLiteralChar c then some ⟨found, .letters [c]⟩
  else none

def step (scanner : Scanner) (c : Char) : Option Scanner :=
  match scanner.mode with
  | .between => stepBetween scanner.found c
  | .letters run =>
    if isLiteralChar c then some ⟨scanner.found, .letters (c :: run)⟩
    else (literal? run.reverse).bind fun value => stepBetween (.literal value :: scanner.found) c
  | .quoted units =>
    if c = '"' then some ⟨.string (joinUnits units.reverse) :: scanner.found, .between⟩
    else if c = '\\' then some ⟨scanner.found, .escape units⟩
    else if c.toNat < 0x20 then none
    else some ⟨scanner.found, .quoted (c.toNat :: units)⟩
  | .escape units =>
    if c = 'u' then some ⟨scanner.found, .hex units 0 0⟩
    else (unescape? c).map fun unit => ⟨scanner.found, .quoted (unit :: units)⟩
  | .hex units digits value =>
    (hexDigit? c).map fun digit =>
      if digits = 3 then ⟨scanner.found, .quoted ((16 * value + digit) :: units)⟩
      else ⟨scanner.found, .hex units (digits + 1) (16 * value + digit)⟩

def finish (scanner : Scanner) : Option (List Token) :=
  match scanner.mode with
  | .between => some scanner.found.reverse
  | .letters run => (literal? run.reverse).map fun value => (.literal value :: scanner.found).reverse
  | _ => none

end Scanner

def tokens? (text : List Char) : Option (List Token) := (text.foldlM Scanner.step Scanner.start).bind Scanner.finish

end SchemaClosure.Json
