import RestModel.Command.Run

/-!
# The program — arguments and files in, resources out

The only place that touches the outside: it reads the files that a run may
ask for, prints what the run leaves behind, and exits with its code.
-/

namespace RestModel

/-- The names in a command line that a run may look up. -/
def Invocation.fileNames : Invocation → List String
  | .run (.resources input config) => input.schema :: config.toList
  | .run (.paths input) => [input.schema]
  | _ => []

/-- The contents of the given files, as far as they can be read. -/
def readFiles (names : List String) : IO Files := do
  let contents ← names.mapM fun (name : String) => do
    try return (name, some (← IO.FS.readBinFile name)) catch _ => return (name, none)
  return fun name => (contents.lookup name).join

end RestModel

open RestModel in
/-- Runs the program on its arguments. -/
def main (arguments : List String) : IO UInt32 := do
  let invocation := Invocation.ofArguments arguments
  let report := invocation.report (← readFiles invocation.fileNames)
  IO.print report.stdout
  if let some breakdown := report.breakdown then
    IO.eprintln ("Error: " ++ breakdown.message)
    for cause in breakdown.causes do
      IO.eprintln ("  caused by: " ++ cause)
  return report.exitCode.toUInt32
