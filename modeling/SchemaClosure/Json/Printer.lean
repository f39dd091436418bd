import SchemaClosure.Json.Basic

namespace SchemaClosure.Json

def hexDigit (value : Nat) : Char := if value < 10 then Char.ofNat ('0'.toNat + value) else Char.ofNat ('a'.toNat + (value - 10))

def unicodeEscape (code : Nat) : List Char :=
  ['\\', 'u', hexDigit (code / 4096 % 16), hexDigit (code / 256 % 16), hexDigit (code / 16 % 16), hexDigit (code % 16)]

/-- Quotes, backslashes and the controls of ASCII are escaped, all else stands for itself. -/
def escapeChar (c : Char) : List Char :=
  if c = '"' then ['\\', '"']
  else if c = '\\' then ['\\', '\\']
  else if c = '\n' then ['\\', 'n']
  else if c = '\r' then ['\\', 'r']
  else if c = '\t' then ['\\', 't']
  else if c.toNat = 0x08 then ['\\', 'b']
  else if c.toNat = 0x0C then ['\\', 'f']
  else if c.toNat < 0x20 then unicodeEscape c.toNat
  else [c]

def quotedChars (text : String) : List Char := '"' :: text.toList.flatMap escapeChar ++ ['"']

/-- A string without a text is printed as the empty string. -/
def stringChars (text : Option String) : List Char := quotedChars (text.getD "")

def scalarChars : Json → List Char
  | .null => ['n', 'u', 'l', 'l']
  | .boolean true => ['t', 'r', 'u', 'e']
  | .boolean false => ['f', 'a', 'l', 's', 'e']
  | .integer value => (toString value).toList
  | .decimal literal => literal.toList
  | .string text => stringChars text
  | .array _ => ['[', ']']
  | .object _ => ['{', '}']

mutual

def compactChars : Json → List Char
  | .array (item :: rest) => '[' :: item.compactChars ++ compactItems rest ++ [']']
  | .object ((name, value) :: rest) => '{' :: stringChars name ++ ':' :: value.compactChars ++ compactMembers rest ++ ['}']
  | value => value.scalarChars

def compactItems : List Json → List Char
  | [] => []
  | item :: rest => ',' :: item.compactChars ++ compactItems rest

def compactMembers : List (Option String × Json) → List Char
  | [] => []
  | (name, value) :: rest => ',' :: stringChars name ++ ':' :: value.compactChars ++ compactMembers rest

end

/-- A new line at an indentation of two blanks for every level. -/
def lineBreak (level : Nat) : List Char := '\n' :: List.replicate (2 * level) ' '

mutual

def prettyChars (level : Nat) : Json → List Char
  | .array (item :: rest) =>
    '[' :: lineBreak (level + 1) ++ item.prettyChars (level + 1) ++ prettyItems level rest ++ lineBreak level ++ [']']
  | .object ((name, value) :: rest) =>
    '{' :: lineBreak (level + 1) ++ stringChars name ++ ':' :: ' ' :: value.prettyChars (level + 1) ++
      prettyMembers level rest ++ lineBreak level ++ ['}']
  | value => value.scalarChars

def prettyItems (level : Nat) : List Json → List Char
  | [] => []
  | item :: rest => ',' :: lineBreak (level + 1) ++ item.prettyChars (level + 1) ++ prettyItems level rest

def prettyMembers (level : Nat) : List (Option String × Json) → List Char
  | [] => []
  | (name, value) :: rest =>
    ',' :: lineBreak (level + 1) ++ stringChars name ++ ':' :: ' ' :: value.prettyChars (level + 1) ++ prettyMembers level rest

end

def compact (value : Json) : String := String.ofList value.compactChars

def pretty (value : Json) : String := String.ofList (value.prettyChars 0)

end SchemaClosure.Json
