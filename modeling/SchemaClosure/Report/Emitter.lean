import SchemaClosure.Report.JsonList
import SchemaClosure.Report.Terminal

/-!
Writing diagnostics one after another, and whole reports. An emitter carries what earlier diagnostics leave behind: in a list, whether the next one needs a comma in front.
-/

namespace SchemaClosure

inductive Emitter where
  | terminal (colors : Bool)
  | json (started : Bool)
  deriving DecidableEq, Repr

namespace Emitter

def ofColorMode (mode : ColorMode) (isTerminal : Bool) : Emitter := .terminal (mode.useColors isTerminal)

def opening : Emitter → String
  | .terminal _ => ""
  | .json _ => "[\n"

def closing (tally : Tally) : Emitter → String
  | .terminal colors => Terminal.summary colors tally
  | .json _ => "\n]\n"

def emit (diagnostic : Diagnostic) : Emitter → String × Emitter
  | .terminal colors => (Terminal.diagnosticText colors diagnostic, .terminal colors)
  | .json started => ((if started then ",\n" else "") ++ JsonList.diagnosticText diagnostic, .json true)

def emitAll (emitter : Emitter) : List Diagnostic → String × Emitter
  | [] => ("", emitter)
  | diagnostic :: rest =>
    let (text, next) := emitter.emit diagnostic
    let (others, last) := next.emitAll rest
    (text ++ others, last)

def report (emitter : Emitter) (diagnostics : List Diagnostic) : String × Emitter :=
  let (text, last) := emitter.emitAll diagnostics
  (emitter.opening ++ text ++ last.closing (.ofDiagnostics diagnostics), last)

end Emitter

end SchemaClosure
