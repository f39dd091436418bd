import SchemaClosure.Catalog
import SchemaClosure.Json.Record
import SchemaClosure.OrderedMap

namespace SchemaClosure

/-- Whether every member is keyed by name, which types are served elsewhere, and which have a codec written by hand. -/
structure Options where
  forceMapMode : Bool := false
  ignoredTypeNames : OrderedSet := .empty
  customFormatters : OrderedMap String := .empty
  deriving DecidableEq

namespace Options

def ignoreType (options : Options) (signature : String) : Options :=
  { options with ignoredTypeNames := options.ignoredTypeNames.add signature }

def addFormatter (options : Options) (signature codec : String) : Options :=
  { options with customFormatters := options.customFormatters.insert signature codec }

/-- A collection stops at leaf types and at ignored types without looking further. -/
def isTerminal (options : Options) (signature : String) : Bool :=
  Catalog.isLeaf signature || options.ignoredTypeNames.contains signature

def customCodec? (options : Options) (signature : String) : Option String := options.customFormatters.find? signature

def toJson (options : Options) : Json := .record [
  ("forceMapMode", .boolean options.forceMapMode), ("ignoredTypeNames", .texts options.ignoredTypeNames.keys),
  ("customFormatterCatalog", .record (options.customFormatters.entries.map fun (signature, codec) => (signature, .text codec)))]

/-- Reads a map of texts. A repeated key keeps its last value. -/
def textMap? : Json → Option (OrderedMap String)
  | .object members => do
    let entries ← members.mapM fun (name, value) => do return (← name, ← value.text?)
    return .ofList entries
  | _ => none

def ofJson? (value : Json) : Option Options := do
  let record ← Record.ofJson? ["forceMapMode", "ignoredTypeNames", "customFormatterCatalog"] value
  let ignored ← record.optional "ignoredTypeNames" [] (Json.list? Json.text?)
  return {
    forceMapMode := ← record.optional "forceMapMode" false Json.boolean?
    ignoredTypeNames := .ofElements ignored
    customFormatters := ← record.optional "customFormatterCatalog" .empty textMap? }

end Options

end SchemaClosure
