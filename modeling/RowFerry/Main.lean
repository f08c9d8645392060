import RowFerry.Command.Report

/-!
The program. No driver manager is linked into it, so a command with a configuration that can be used
ends by saying so.
-/

namespace RowFerry

/-- Reads the configuration of an invocation from its file. -/
def readConfiguration (path : String) : IO (Except Failure Config) := do
  try
    let text ← IO.FS.readFile path
    pure (Config.ofYaml text)
  catch e =>
    match e with
    | .noFileOrDirectory .. => pure (.error (.io "No such file or directory (os error 2)"))
    | e => pure (.error (.io (toString e)))

/-- Writes a report; the exit code of a program that was broken off is that of an abort. -/
def Report.print (r : Report) : IO UInt32 := do
  IO.print r.output
  match r.failure with
  | some f => IO.eprintln f.report
  | none => pure ()
  pure (match r.ending with
    | .exit code => UInt32.ofNat code
    | .killed => 134)

/-- What is said of a configuration that can be used. -/
def noDriver : Failure :=
  .config (.reported "no ODBC driver manager is linked into this program")

def runProgram (args : List String) : IO UInt32 := do
  match Invocation.ofArgs args with
  | .error e => (Report.ofNoCommand e).print
  | .ok i =>
    match ← readConfiguration i.configPath with
    | .error f => (Report.ofFailure f).print
    | .ok _ => (Report.ofFailure noDriver).print

end RowFerry

def main (args : List String) : IO UInt32 := RowFerry.runProgram args
