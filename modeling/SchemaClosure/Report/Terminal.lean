import SchemaClosure.Diagnostic.Basic

namespace SchemaClosure

/-- How many diagnostics of a report are errors, and how many are not. -/
structure Tally where
  errors : Nat
  warnings : Nat
  deriving DecidableEq, Repr

def Tally.ofDiagnostics (diagnostics : List Diagnostic) : Tally :=
  { errors := diagnostics.countP Diagnostic.isError
    warnings := diagnostics.length - diagnostics.countP Diagnostic.isError }

def Tally.isEmpty (tally : Tally) : Bool := tally.errors == 0 && tally.warnings == 0

inductive ColorMode where
  | auto
  | always
  | never
  deriving DecidableEq, Repr, Inhabited

namespace ColorMode

/-- Colors that are left open are used at a terminal only. -/
def useColors : ColorMode → (isTerminal : Bool) → Bool
  | .auto, isTerminal => isTerminal
  | .always, _ => true
  | .never, _ => false

def text : ColorMode → String
  | .auto => "auto"
  | .always => "always"
  | .never => "never"

def all : List ColorMode := [.auto, .always, .never]

def ofText (text : String) : Except String ColorMode :=
  match all.find? fun mode => mode.text == text with
  | some mode => .ok mode
  | none => .error s!"unknown color mode `{text}` (expected auto, always, or never)"

end ColorMode

namespace Terminal

inductive Style where
  | error
  | warning
  | note
  | help
  | bold
  | secondary
  deriving DecidableEq, Repr

def Style.parameters : Style → String
  | .error => "1;31"
  | .warning => "1;33"
  | .note => "1;36"
  | .help => "1;32"
  | .bold => "1"
  | .secondary => "1;34"

def escape (parameters : String) : String := "\x1b[" ++ parameters ++ "m"

def paint (colors : Bool) (style : Style) (text : String) : String :=
  if colors then escape style.parameters ++ text ++ escape "0" else text

def severityStyle : Severity → Style
  | .error => .error
  | .warning => .warning
  | .note => .note

def labelText (colors : Bool) (label : Label) : String :=
  "  " ++ Diagnostic.marker label ++ " " ++ paint colors .bold label.subject.text ++ ": " ++
    paint colors (if label.isPrimary then .error else .secondary) label.message ++ "\n"

def noteText (colors : Bool) (note : String) : String := "  = " ++ paint colors .bold "note" ++ ": " ++ note ++ "\n"

def suggestionText (colors : Bool) (suggestion : String) : String :=
  "  = " ++ paint colors .help "help" ++ ": " ++ suggestion ++ "\n"

/-- A diagnostic and the empty line after it. -/
def diagnosticText (colors : Bool) (diagnostic : Diagnostic) : String :=
  paint colors (severityStyle diagnostic.severity) diagnostic.severity.text ++
  paint colors .bold ("[" ++ diagnostic.code.text ++ "]") ++ ": " ++ diagnostic.message ++ "\n" ++
  String.join (diagnostic.labels.map (labelText colors)) ++
  String.join (diagnostic.notes.map (noteText colors)) ++
  String.join (diagnostic.suggestions.map (suggestionText colors)) ++ "\n"

def warningCount (count : Nat) : String := s!"{count} warning" ++ (if count = 1 then "" else "s") ++ " emitted"

def errorCount (count : Nat) : String := if count = 1 then "previous error" else s!"{count} previous errors"

/-- The last line of a report; a report without findings has none. -/
def summary (colors : Bool) (tally : Tally) : String :=
  if 0 < tally.errors then
    paint colors .error "error" ++ ": aborting due to " ++ errorCount tally.errors ++
      (if 0 < tally.warnings then "; " ++ warningCount tally.warnings else "") ++ "\n"
  else if 0 < tally.warnings then paint colors .warning "warning" ++ ": " ++ warningCount tally.warnings ++ "\n"
  else ""

end Terminal

end SchemaClosure
