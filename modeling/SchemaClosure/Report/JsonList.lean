import SchemaClosure.Diagnostic.Basic
import SchemaClosure.Json.Printer

namespace SchemaClosure.JsonList

/-- The control characters of ASCII and of the block after it. -/
def isControl (c : Char) : Bool := c.toNat < 0x20 || (0x7F ≤ c.toNat && c.toNat < 0xA0)

def escapeChar (c : Char) : List Char :=
  if c = '"' then ['\\', '"']
  else if c = '\\' then ['\\', '\\']
  else if c = '\n' then ['\\', 'n']
  else if c = '\r' then ['\\', 'r']
  else if c = '\t' then ['\\', 't']
  else if isControl c then Json.unicodeEscape c.toNat
  else [c]

def quoted (text : String) : String := "\"" ++ String.ofList (text.toList.flatMap escapeChar) ++ "\""

/-- Lines of a list, with a comma behind all but the last. -/
def separated : List String → String
  | [] => ""
  | [item] => item ++ "\n"
  | item :: rest => item ++ ",\n" ++ separated rest

def fieldText (indent name value : String) : String := indent ++ "\"" ++ name ++ "\": " ++ value

def labelText (label : Label) : String :=
  let indent := "        "
  "      \x7b\n" ++ fieldText indent "type" (quoted label.subject.typeName) ++ ",\n" ++
    (match label.subject.member with
      | some member => fieldText indent "member" (quoted member) ++ ",\n"
      | none => "") ++
    fieldText indent "message" (quoted label.message) ++ ",\n" ++
    fieldText indent "primary" (toString label.isPrimary) ++ "\n      \x7d"

def listText (name : String) (items : List String) : String := fieldText "    " name "[\n" ++ separated items ++ "    ]"

def textsText (name : String) (items : List String) : String :=
  listText name (items.map fun item => "      " ++ quoted item)

def diagnosticText (diagnostic : Diagnostic) : String :=
  let indent := "    "
  "  \x7b\n" ++ fieldText indent "code" ("\"" ++ diagnostic.code.text ++ "\"") ++ ",\n" ++
    fieldText indent "severity" ("\"" ++ diagnostic.severity.text ++ "\"") ++ ",\n" ++
    fieldText indent "message" (quoted diagnostic.message) ++ ",\n" ++
    listText "labels" (diagnostic.labels.map labelText) ++ ",\n" ++ textsText "notes" diagnostic.notes ++ ",\n" ++
    textsText "suggestions" diagnostic.suggestions ++ "\n  \x7d"

end SchemaClosure.JsonList
