import SchemaClosure.CommandLine.Arguments
import SchemaClosure.Closure.Collection
import SchemaClosure.Declaration.Json
import SchemaClosure.Json.Reader
import SchemaClosure.Snapshot.Validation

namespace SchemaClosure

inductive InputError where
  | unreadable (path : String)
  | malformed (path : String)
  | snapshot (error : SnapshotError)
  | root (text : String) (error : TypeRef.ParseError)
  deriving DecidableEq, Repr

namespace InputError

def message : InputError → String
  | .unreadable path => s!"cannot read `{path}`"
  | .malformed path => s!"`{path}` is not valid JSON input"
  | .snapshot error => s!"invalid metadata snapshot: {error.message}"
  | .root text error => s!"invalid root type `{text}`: {error.message}"

def labels : InputError → List Label
  | .root text _ => [{ subject := { typeName := text }, message := "not a type expression" }]
  | _ => []

def notes : InputError → List String
  | .malformed _ => ["snapshot files hold `\x7b \"types\": [...] \x7d`; options use camelCase keys"]
  | _ => []

def diagnostic (error : InputError) : Diagnostic :=
  { code := .invalidInput, severity := .error, message := error.message, labels := error.labels, notes := error.notes }

end InputError

/-- The contents of files by path; none for a file that cannot be read as text. -/
abbrev Files := String → Option String

namespace Files

def json (files : Files) (path : String) : Except InputError Json :=
  match files path with
  | none => .error (.unreadable path)
  | some contents =>
    match Json.parse? contents with
    | none => .error (.malformed path)
    | some value => .ok value

def snapshot (files : Files) (path : String) : Except InputError Snapshot := do
  match Declaration.listOfFile? (← files.json path) with
  | none => .error (.malformed path)
  | some declarations => (Snapshot.ofDeclarations declarations).mapError .snapshot

def options (files : Files) (path : String) : Except InputError Options := do
  match Options.ofJson? (← files.json path) with
  | none => .error (.malformed path)
  | some options => .ok options

end Files

/-- Reads root types against a snapshot. The first text that is no type is the error. -/
def Snapshot.resolveRoots (snapshot : Snapshot) (texts : List String) : Except InputError (List TypeRef) :=
  texts.mapM fun text => (snapshot.resolveType text).mapError (.root text)

end SchemaClosure
