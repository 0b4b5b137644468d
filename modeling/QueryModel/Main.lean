import QueryModel.Cli.Run

/-!
# The command line

Reads the files of a run, runs, and prints.
-/

namespace QueryModel

/-- What is printed for a command line that is refused. -/
def usageLine : String :=
  "usage: shapegen (check | build) --ir FILE [-c FILE] [-p PACKAGE] [--serial] [--compact]"

/-- The files among some paths that can be read. -/
def readFiles (paths : List String) : IO Files :=
  paths.filterMapM fun (path : String) => do
    try
      return some (path, ← IO.FS.readFile path)
    catch _ =>
      return none

end QueryModel

open QueryModel

/-- Runs what the arguments ask for. -/
def main (arguments : List String) : IO UInt32 := do
  match Request.ofArguments arguments with
  | .version =>
    IO.println versionLine
    return 0
  | .refused =>
    IO.eprintln usageLine
    return 2
  | .run i =>
    match i.run (← readFiles i.paths) with
    | .error e =>
      IO.eprintln s!"{e.code}: {e.message}"
      match e.help with
      | some help => IO.eprintln s!"  help: {help}"
      | none => pure ()
      return 1
    | .ok answer =>
      IO.print answer.printed
      IO.eprint answer.diagnostics
      return answer.exitCode.toUInt32
