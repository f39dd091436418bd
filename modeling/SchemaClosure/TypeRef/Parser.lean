import SchemaClosure.TypeRef.Printer
import SchemaClosure.TypeRef.Token

/-!
Reading a written type. The reader goes through the tokens once and keeps a stack of the brackets that are open, so each token has one effect and the first token without one is the error.
-/

namespace SchemaClosure.TypeRef

/-- What a written type should have had at the place of an error. -/
inductive Expectation where
  | typeName
  | closingBracket
  | furtherArgument
  | furtherElement
  | secondElement
  | endOfText
  deriving DecidableEq, Repr

def Expectation.message : Expectation → String
  | .typeName => "expected a type name"
  | .closingBracket => "expected `]`"
  | .furtherArgument => "expected `,` or `>`"
  | .furtherElement => "expected `,` or `)`"
  | .secondElement => "a tuple needs at least two elements"
  | .endOfText => "unexpected trailing input"

/-- An open list of types: the arguments of a name or the elements of a tuple. The types read so far stand latest first. -/
inductive Frame where
  | arguments (name : String) (types : List TypeRef)
  | elements (types : List TypeRef)
  deriving DecidableEq, Repr

def Frame.push (type : TypeRef) : Frame → Frame
  | .arguments name types => .arguments name (type :: types)
  | .elements types => .elements (type :: types)

/-- What stands at the place that is read. -/
inductive Focus where
  /-- A type begins here. -/
  | opening
  /-- A name has been read, and arguments may follow it. -/
  | path (name : String)
  /-- A type has been read, and suffixes may follow it. -/
  | complete (type : TypeRef)
  /-- The brackets of an array are open. -/
  | brackets (element : TypeRef) (rank : Nat)
  deriving DecidableEq, Repr

structure Reading where
  stack : List Frame
  focus : Focus
  deriving DecidableEq, Repr

namespace Reading

def start : Reading := ⟨[], .opening⟩

/-- What has to follow a type besides its suffixes. -/
def following : List Frame → Expectation
  | [] => .endOfText
  | .arguments .. :: _ => .furtherArgument
  | .elements _ :: _ => .furtherElement

def stepComplete (stack : List Frame) (type : TypeRef) (token : Token) : Except Expectation Reading :=
  match token, stack with
  | .mark '?', _ => .ok ⟨stack, .complete (nullable type)⟩
  | .mark '[', _ => .ok ⟨stack, .brackets type 1⟩
  | .mark ',', frame :: outer => .ok ⟨frame.push type :: outer, .opening⟩
  | .mark '>', .arguments name types :: outer => .ok ⟨outer, .complete (.named name (type :: types).reverse)⟩
  | .mark ')', .elements types :: outer =>
    if types.isEmpty then .error .secondElement else .ok ⟨outer, .complete (.tuple (type :: types).reverse)⟩
  | _, _ => .error (following stack)

def step (reading : Reading) (token : Token) : Except Expectation Reading :=
  match reading.focus with
  | .opening =>
    match token with
    | .mark '(' => .ok ⟨.elements [] :: reading.stack, .opening⟩
    | .mark _ => .error .typeName
    | .word letters => if isPath letters then .ok ⟨reading.stack, .path (String.ofList letters)⟩ else .error .typeName
  | .path name =>
    if token = .mark '<' then .ok ⟨.arguments name [] :: reading.stack, .opening⟩
    else stepComplete reading.stack (.named name []) token
  | .complete type => stepComplete reading.stack type token
  | .brackets element rank =>
    match token with
    | .mark ',' => .ok ⟨reading.stack, .brackets element (rank + 1)⟩
    | .mark ']' => .ok ⟨reading.stack, .complete (.array element rank)⟩
    | _ => .error .closingBracket

def finish (reading : Reading) : Except Expectation TypeRef :=
  match reading.focus, reading.stack with
  | .path name, [] => .ok (.named name [])
  | .complete type, [] => .ok type
  | .opening, _ => .error .typeName
  | .brackets .., _ => .error .closingBracket
  | .path _, stack | .complete _, stack => .error (following stack)

end Reading

/-- Where a text stops being a written type, in bytes, and what was expected there. -/
structure ParseError where
  input : String
  offset : Nat
  expectation : Expectation
  deriving DecidableEq, Repr

def ParseError.message (error : ParseError) : String :=
  s!"invalid type `{error.input}` at offset {error.offset}: {error.expectation.message}"

/-- A tuple with one element is refused behind its closing bracket, all else at the token itself. -/
def refusalOffset (offset : Nat) : Expectation → Nat
  | .secondElement => offset + 1
  | _ => offset

/-- Reads lexemes up to the end of a text of `size` bytes. -/
def readFrom (size : Nat) : Reading → List Lexeme → Except (Nat × Expectation) TypeRef
  | reading, [] => reading.finish.mapError (size, ·)
  | reading, lexeme :: rest =>
    match reading.step lexeme.token with
    | .ok next => readFrom size next rest
    | .error expectation => .error (refusalOffset lexeme.offset expectation, expectation)

/-- Reads a written type. Every name is read as a named type; which names are type parameters only a declaration can tell. -/
def parse (text : String) : Except ParseError TypeRef :=
  (readFrom (byteLength text.toList) .start (lexemes text.toList)).mapError fun (offset, expectation) =>
    ⟨text, offset, expectation⟩

end SchemaClosure.TypeRef
