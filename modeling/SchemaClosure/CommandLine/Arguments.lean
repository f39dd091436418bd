import SchemaClosure.Report.Terminal

namespace SchemaClosure.CommandLine

inductive OutputFormat where
  | text
  | json
  deriving DecidableEq, Repr, Inhabited

namespace OutputFormat

def keyword : OutputFormat → String
  | .text => "text"
  | .json => "json"

def all : List OutputFormat := [.text, .json]

def ofText (text : String) : Except String OutputFormat :=
  match all.find? fun format => format.keyword == text with
  | some format => .ok format
  | none => .error s!"unknown format `{text}` (expected text or json)"

end OutputFormat

structure Arguments where
  snapshot : String
  /-- Roots that are collected together form a set; no set is empty. -/
  rootSets : List (List String)
  options : Option String := none
  format : OutputFormat := .text
  color : ColorMode := .auto
  deriving DecidableEq, Repr

namespace Arguments

/-- The arguments read so far. The roots of the set that is still open are apart from the sets before it; all stand latest first. -/
structure Draft where
  snapshot : Option String := none
  closedSets : List (List String) := []
  openSet : List String := []
  options : Option String := none
  format : OutputFormat := .text
  color : ColorMode := .auto
  deriving DecidableEq, Repr

namespace Draft

/-- Ends the open set. A set without roots leaves no trace. -/
def closeSet (draft : Draft) : Draft :=
  if draft.openSet.isEmpty then draft
  else { draft with closedSets := draft.openSet.reverse :: draft.closedSets, openSet := [] }

/-- Whether an argument is followed by its value. -/
def takesValue (argument : String) : Bool := ["--root", "-r", "--options", "--format", "--color"].contains argument

def addValue (draft : Draft) (argument value : String) : Except String Draft :=
  match argument with
  | "--options" => .ok { draft with options := some value }
  | "--format" => (OutputFormat.ofText value).map fun format => { draft with format }
  | "--color" => (ColorMode.ofText value).map fun color => { draft with color }
  | _ => .ok { draft with openSet := value :: draft.openSet }

def addSingle (draft : Draft) (argument : String) : Except String Draft :=
  if argument = "--set" then .ok draft.closeSet
  else if argument.toList.head? = some '-' then .error s!"unknown option `{argument}`"
  else
    match draft.snapshot with
    | none => .ok { draft with snapshot := some argument }
    | some _ => .error s!"unexpected argument `{argument}`"

def finish (draft : Draft) : Except String Arguments :=
  let sets := draft.closeSet.closedSets.reverse
  match draft.snapshot with
  | none => .error "missing snapshot file"
  | some snapshot =>
    if sets.isEmpty then .error "at least one --root is required"
    else .ok { snapshot, rootSets := sets, options := draft.options, format := draft.format, color := draft.color }

end Draft

def parseFrom (draft : Draft) : List String → Except String Arguments
  | [] => draft.finish
  | [argument] =>
    if Draft.takesValue argument then .error s!"`{argument}` needs a value"
    else do (← draft.addSingle argument).finish
  | argument :: value :: rest =>
    if Draft.takesValue argument then do parseFrom (← draft.addValue argument value) rest
    else do parseFrom (← draft.addSingle argument) (value :: rest)

/-- Reads arguments from left to right. An option that is given again replaces its value. -/
def parse (arguments : List String) : Except String Arguments := parseFrom {} arguments

end Arguments

end SchemaClosure.CommandLine
