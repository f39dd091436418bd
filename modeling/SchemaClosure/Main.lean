import SchemaClosure.CommandLine.Program

open SchemaClosure

/-- The text of a file, or nothing. -/
def readText (path : String) : IO (Option String) := do
  try
    return some (← IO.FS.readFile path)
  catch _ =>
    return none

def main (arguments : List String) : IO UInt32 := do
  let files ← (CommandLine.paths arguments).mapM fun path => return (path, ← readText path)
  match CommandLine.run (fun path => (files.lookup path).join) arguments with
  | none =>
    IO.eprintln "error: the collection was left unfinished"
    return 1
  | some outcome =>
    IO.print outcome.standardOutput
    IO.eprint outcome.standardError
    return outcome.status.toUInt32
