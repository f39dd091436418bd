/-!
JSON values as a file holds them. Members keep their order and their repetitions, an integer of 64 bits is told from any other number, and a string that names an unpaired surrogate is there but has no text: whether any of these is an error is for the reader of the value to decide.
-/

namespace SchemaClosure

inductive Json where
  | null
  | boolean (value : Bool)
  | integer (value : Int)
  | decimal (literal : String)
  | string (text : Option String)
  | array (items : List Json)
  | object (members : List (Option String × Json))
  deriving Repr, Inhabited

namespace Json

def text (text : String) : Json := .string (some text)

def texts (items : List String) : Json := .array (items.map text)

def optionalText (text? : Option String) : Json := (text?.map text).getD .null

def natural (value : Nat) : Json := .integer value

def record (fields : List (String × Json)) : Json := .object (fields.map fun (name, value) => (some name, value))

mutual

/-- How many arrays and objects stand around the deepest place of a value. -/
def depth : Json → Nat
  | .array items => itemsDepth items + 1
  | .object members => membersDepth members + 1
  | _ => 0

def itemsDepth : List Json → Nat
  | [] => 0
  | item :: rest => max item.depth (itemsDepth rest)

def membersDepth : List (Option String × Json) → Nat
  | [] => 0
  | (_, value) :: rest => max value.depth (membersDepth rest)

end

end Json

end SchemaClosure
