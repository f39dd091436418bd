import SchemaClosure.CommandLine.Input
import SchemaClosure.Diagnostic.Explanation
import SchemaClosure.Model.Json
import SchemaClosure.Model.Listing
import SchemaClosure.Report.Emitter

namespace SchemaClosure.CommandLine

/-- The status and the output of a run. -/
structure Outcome where
  status : Nat := 0
  standardOutput : String := ""
  standardError : String := ""
  deriving DecidableEq, Repr

/-- More steps than any collection that ends will take. -/
def fuel : Nat := 1 <<< 62

/-- Loads the input and collects every root set; errors become diagnostics. None if the collection is left unfinished. -/
def collection (files : Files) (arguments : Arguments) : Option (Except Diagnostic Model) :=
  let input : Except InputError (Context × List (List TypeRef)) := do
    let snapshot ← files.snapshot arguments.snapshot
    let options ← match arguments.options with
      | some path => files.options path
      | none => pure {}
    let sets ← arguments.rootSets.mapM snapshot.resolveRoots
    return (⟨snapshot, options⟩, sets)
  match input with
  | .error error => some (.error error.diagnostic)
  | .ok (context, sets) => (context.collectSets fuel sets).map fun collected => collected.mapError CollectError.diagnostic

def modelText (format : OutputFormat) (model : Model) : String :=
  match format with
  | .text => model.listing
  | .json => model.toJson.pretty ++ "\n"

def reportText (format : OutputFormat) (color : ColorMode) (diagnostics : List Diagnostic) : String :=
  let emitter := match format with
    | .text => Emitter.ofColorMode color false
    | .json => .json false
  (emitter.report diagnostics).1

/-- The model goes to the standard output and its diagnostics to the standard error; any error among them shows in the status. -/
def outcomeOf (arguments : Arguments) (collected : Except Diagnostic Model) : Outcome :=
  let (output, diagnostics) := match collected with
    | .ok model => (modelText arguments.format model, model.diagnostics)
    | .error diagnostic => ("", [diagnostic])
  { status := if diagnostics.any Diagnostic.isError then 1 else 0
    standardOutput := output
    standardError := reportText arguments.format arguments.color diagnostics }

def collect (files : Files) (arguments : List String) : Option Outcome :=
  match Arguments.parse arguments with
  | .error message => some {
      status := 2
      standardError := s!"error: {message}\n" ++ "Usage: mpgenc collect <snapshot.json> --root <Type> [options]\n" }
  | .ok parsed => (collection files parsed).map (outcomeOf parsed)

def explain : List String → Outcome
  | [] => { status := 1, standardError := "Usage: mpgenc explain <ERROR_CODE>\nExample: mpgenc explain M2002\n" }
  | text :: _ =>
    match DiagnosticCode.ofText? text with
    | some code => { standardOutput := code.explanation ++ "\n" }
    | none => {
        status := 1
        standardError := s!"Unknown error code: {text}\n\n" ++
          "Codes have the format MXXXX (errors) or WXXXX (warnings) where X is a digit.\n" ++
          "Examples: M1002, M2002, M3001, W1001\n" }

def usage : String := String.join ([
  "mpgenc (MessagePack schema closure)",
  "",
  "Usage: mpgenc <command> [options]",
  "",
  "Commands:",
  "  collect <snapshot.json>  Compute the schema model of the given roots",
  "  explain <code>           Explain an error code (e.g., M2002)",
  "  help                     Show this help message",
  "  version                  Show version information",
  "",
  "Collect options:",
  "  --root, -r <Type>       Add a root type to the current root set",
  "  --set                   Start a new, independent root set",
  "  --options <file.json>   Collector options (forceMapMode, ignoredTypeNames,",
  "                          customFormatterCatalog)",
  "  --format <text|json>    Output format (default: text)",
  "  --color <mode>          Diagnostic colors: auto, always, never",
  "",
  "Global options:",
  "  --trace-tree            Print engine spans as an indented tree",
  "                          (filter with RUST_LOG)",
  "",
  "Exit status is 1 when collection fails or reports errors.",
  "",
  "Examples:",
  "  mpgenc collect types.json --root Demo.Person",
  "  mpgenc collect types.json -r Demo.Order --set -r Demo.Invoice --format json",
  "  mpgenc explain M3001"].map (· ++ "\n"))

def version : String := "0.1.0-alpha.1"

/-- Runs a command. A request for a trace does not change the outcome, wherever it stands. -/
def run (files : Files) (arguments : List String) : Option Outcome :=
  match arguments.filter (· != "--trace-tree") with
  | [] => some { standardOutput := usage }
  | command :: rest =>
    if command = "collect" then collect files rest
    else if command = "explain" || command = "--explain" then some (explain rest)
    else if ["help", "--help", "-h"].contains command then some { standardOutput := usage }
    else if ["version", "--version", "-V"].contains command then some { standardOutput := s!"mpgenc {version}\n" }
    else some { status := 1, standardOutput := usage, standardError := s!"Unknown command: {command}\n\n" }

/-- The files that a run may ask for. -/
def paths (arguments : List String) : List String :=
  match arguments.filter (· != "--trace-tree") with
  | "collect" :: rest =>
    match Arguments.parse rest with
    | .ok parsed => parsed.snapshot :: parsed.options.toList
    | .error _ => []
  | _ => []

end SchemaClosure.CommandLine
