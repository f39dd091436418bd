import SchemaClosure.Json.Token

/-!
Reading a JSON text. The reader goes through the tokens once and keeps a stack of the arrays and objects that are open. A text that is not one JSON value has no reading; where it fails is not told.
-/

namespace SchemaClosure.Json

/-- An open array or object around the value that is being read. What has been read of it stands latest first. -/
inductive Frame where
  | array (items : List Json)
  | object (members : List (Option String × Json)) (name : Option String)
  deriving Repr

/-- What stands at the place that is read. -/
inductive Focus where
  /-- A value has to follow. -/
  | value
  /-- A value or the end of an empty array has to follow. -/
  | firstItem
  /-- A member name has to follow. -/
  | name (members : List (Option String × Json))
  /-- A member name or the end of an empty object has to follow. -/
  | firstName
  /-- The colon after a member name has to follow. -/
  | colon (members : List (Option String × Json)) (name : Option String)
  /-- A value has been read. -/
  | complete (value : Json)
  deriving Repr

structure Reading where
  stack : List Frame
  focus : Focus
  deriving Repr

namespace Reading

def start : Reading := ⟨[], .value⟩

def stepValue (stack : List Frame) : Token → Option Reading
  | .literal value => some ⟨stack, .complete value⟩
  | .string text => some ⟨stack, .complete (.string text)⟩
  | .mark '[' => some ⟨stack, .firstItem⟩
  | .mark '{' => some ⟨stack, .firstName⟩
  | .mark _ => none

def stepName (stack : List Frame) (members : List (Option String × Json)) : Token → Option Reading
  | .string text => some ⟨stack, .colon members text⟩
  | _ => none

def stepComplete (value : Json) : List Frame → Token → Option Reading
  | .array items :: outer, .mark ',' => some ⟨.array (value :: items) :: outer, .value⟩
  | .array items :: outer, .mark ']' => some ⟨outer, .complete (.array (value :: items).reverse)⟩
  | .object members name :: outer, .mark ',' => some ⟨outer, .name ((name, value) :: members)⟩
  | .object members name :: outer, .mark '}' => some ⟨outer, .complete (.object ((name, value) :: members).reverse)⟩
  | _, _ => none

def step (reading : Reading) (token : Token) : Option Reading :=
  match reading.focus, token with
  | .value, token => stepValue reading.stack token
  | .firstItem, .mark ']' => some ⟨reading.stack, .complete (.array [])⟩
  | .firstItem, token => stepValue (.array [] :: reading.stack) token
  | .firstName, .mark '}' => some ⟨reading.stack, .complete (.object [])⟩
  | .firstName, token => stepName reading.stack [] token
  | .name members, token => stepName reading.stack members token
  | .colon members name, .mark ':' => some ⟨.object members name :: reading.stack, .value⟩
  | .colon .., _ => none
  | .complete value, token => stepComplete value reading.stack token

def finish (reading : Reading) : Option Json :=
  match reading.stack, reading.focus with
  | [], .complete value => some value
  | _, _ => none

end Reading

def ofTokens? (tokens : List Token) : Option Json := (tokens.foldlM Reading.step Reading.start).bind Reading.finish

def parse? (text : String) : Option Json := (tokens? text.toList).bind ofTokens?

end SchemaClosure.Json
