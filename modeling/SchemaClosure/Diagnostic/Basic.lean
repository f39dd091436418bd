import SchemaClosure.Diagnostic.Code
import SchemaClosure.Json.Basic

namespace SchemaClosure

inductive Severity where
  | error
  | warning
  | note
  deriving DecidableEq, Repr

def Severity.text : Severity → String
  | .error => "error"
  | .warning => "warning"
  | .note => "note"

theorem Severity.text_injective : Function.Injective text := by
  intro first second
  cases first <;> cases second <;> decide

/-- A type, or one member of it. Constructor parameters and union subtypes count as members. -/
structure Subject where
  typeName : String
  member : Option String := none
  deriving DecidableEq, Repr

def Subject.text (subject : Subject) : String :=
  match subject.member with
  | some member => s!"{subject.typeName}::{member}"
  | none => subject.typeName

/-- What a diagnostic says about one subject. The primary labels are the places of the finding itself. -/
structure Label where
  subject : Subject
  message : String
  isPrimary : Bool := true
  deriving DecidableEq, Repr

structure Diagnostic where
  code : DiagnosticCode
  severity : Severity
  message : String := ""
  labels : List Label := []
  notes : List String := []
  suggestions : List String := []
  deriving DecidableEq, Repr

namespace Diagnostic

def defaultSeverity (code : DiagnosticCode) : Severity := if code.area = .warning then .warning else .error

def subject? (diagnostic : Diagnostic) : Option Subject := (diagnostic.labels.find? (·.isPrimary)).map (·.subject)

def isError (diagnostic : Diagnostic) : Bool := diagnostic.severity == .error

def marker (label : Label) : String := if label.isPrimary then "-->" else "   "

def text (diagnostic : Diagnostic) : String :=
  s!"{diagnostic.severity.text} [{diagnostic.code.text}]: {diagnostic.message}" ++
  String.join (diagnostic.labels.map fun label => s!"\n  {marker label} {label.subject.text}: {label.message}") ++
  String.join (diagnostic.notes.map fun note => s!"\n  = note: {note}") ++
  String.join (diagnostic.suggestions.map fun suggestion => s!"\n  = help: {suggestion}")

end Diagnostic

namespace Subject

def toJson (subject : Subject) : Json :=
  .record (("type", .text subject.typeName) :: subject.member.toList.map fun member => ("member", .text member))

end Subject

namespace Label

def toJson (label : Label) : Json :=
  .record [("subject", label.subject.toJson), ("message", .text label.message), ("is_primary", .boolean label.isPrimary)]

end Label

namespace Diagnostic

def toJson (diagnostic : Diagnostic) : Json := .record [
  ("code", .text diagnostic.code.text), ("severity", .text diagnostic.severity.text), ("message", .text diagnostic.message),
  ("labels", .array (diagnostic.labels.map Label.toJson)), ("notes", .texts diagnostic.notes),
  ("suggestions", .texts diagnostic.suggestions)]

end Diagnostic

end SchemaClosure
