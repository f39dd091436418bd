import SchemaClosure.Json.Basic

/-!
Decoding JSON values: scalars, lists and choices, and records. A record is an object, whose unknown members are passed over, or an array of its fields in their order, of which the last may be missing. A field that is given twice is refused.
-/

namespace SchemaClosure

namespace Json

def text? : Json → Option String
  | .string text => text
  | _ => none

def boolean? : Json → Option Bool
  | .boolean value => some value
  | _ => none

def int32? : Json → Option Int32
  | .integer value => if Int32.minValue.toInt ≤ value ∧ value ≤ Int32.maxValue.toInt then some (Int32.ofInt value) else none
  | _ => none

def list? {α : Type} (decode : Json → Option α) : Json → Option (List α)
  | .array items => items.mapM decode
  | _ => none

def nullable? {α : Type} (decode : Json → Option α) : Json → Option (Option α)
  | .null => some none
  | value => (decode value).map some

/-- One of some named values: its name alone, or its name as the only member of an object, with null. -/
def choice? {α : Type} (choices : List (String × α)) : Json → Option α
  | .string (some name) => choices.lookup name
  | .object [(some name, .null)] => choices.lookup name
  | _ => none

theorem int32?_integer_toInt (value : Int32) : int32? (.integer value.toInt) = some value := by
  rw [int32?, if_pos ⟨Int32.minValue_le_toInt value, Int32.toInt_le value⟩, Int32.ofInt_toInt]

end Json

/-- The fields of a record that are present, each once. -/
structure Record where
  fields : List (String × Json)

namespace Record

def find? (record : Record) (name : String) : Option Json := record.fields.lookup name

/-- Takes one member of an object into a record with the fields `names`. -/
def add? (names : List String) (record : Record) (member : Option String × Json) : Option Record :=
  match member with
  | (none, _) => none
  | (some name, value) =>
    if names.contains name then
      if (record.find? name).isSome then none else some ⟨record.fields ++ [(name, value)]⟩
    else some record

def ofMembers? (names : List String) (members : List (Option String × Json)) : Option Record :=
  members.foldlM (add? names) ⟨[]⟩

def ofItems? (names : List String) (items : List Json) : Option Record :=
  if items.length ≤ names.length then some ⟨names.zip items⟩ else none

def ofJson? (names : List String) : Json → Option Record
  | .object members => ofMembers? names members
  | .array items => ofItems? names items
  | _ => none

/-- Reads a record that has no members besides its fields. -/
def ofJsonExactly? (names : List String) : Json → Option Record
  | .object members => if members.all fun member => member.1.any names.contains then ofMembers? names members else none
  | value => ofJson? names value

def required {α : Type} (record : Record) (name : String) (decode : Json → Option α) : Option α :=
  (record.find? name).bind decode

/-- A field with a value for the case that it is missing. -/
def optional {α : Type} (record : Record) (name : String) (missing : α) (decode : Json → Option α) : Option α :=
  match record.find? name with
  | some value => decode value
  | none => some missing

end Record

end SchemaClosure
