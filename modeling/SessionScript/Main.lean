import SessionScript.CommandLine.Run

/-!
# The program

Reads the environment and the scenario file, runs the scenario, and shows what was done in the
order and with the pauses of the session. There is no network: a connection can not be opened.
-/

namespace SessionScript.CommandLine

/-- The state of the machine: where code runs, and what random numbers are drawn from. -/
structure Machine where
  evaluator : Evaluator := .standard
  source : StdGen

/-- The place of the evaluator. -/
def Machine.place : EvaluatorPlace Machine :=
  ⟨Machine.evaluator, fun ev m => { m with evaluator := ev }⟩

/-- Draws a number below a bound. -/
def Machine.draw : Functions.Draw Machine := fun n m =>
  let (k, source) := randNat m.source 0 (n - 1)
  (k, { m with source := source })

/-- The failure of every attempt to open a connection. -/
def unreachable : Failure :=
  .host (HostError.ofKind "OSError" [.int 101, .text "Network is unreachable"])

/-- Looks for a file. -/
def findFile (path : String) : IO FileState := do
  try
    return .file (← IO.FS.readBinFile path).toList
  catch
    | .noFileOrDirectory _ _ _ => return .missing
    | .permissionDenied _ _ _ => return .unreadable
    | _ => return .directory

/-- The variables of the environment that hold settings. -/
def readEnvironment : IO (List (String × String)) := do
  let names := ["TARGET", "DEFER_CONNECTION", "OPEN_TIMEOUT", "CLOSE_TIMEOUT", "ALLOW_CODE",
    "LOG_LEVEL"].map fun n => String.ofList (Settings.stem.toList.map Char.toUpper) ++ n
  names.filterMapM fun n => do return (← IO.getEnv n).map fun value => (n, value)

/-- Shows what was done: entries of the log are printed, and pauses are waited for. -/
def replay (level : LogLevel) : Action → IO Unit
  | .log e =>
    if level.shows e.severity then IO.eprintln (e.severity.name ++ ": " ++ e.message) else pure ()
  | .sleeps seconds => IO.sleep (seconds.toFloat * 1000).toUInt32
  | _ => pure ()

end SessionScript.CommandLine

open SessionScript SessionScript.CommandLine in
/-- Does what the words of the command line ask for. -/
def main (words : List String) : IO UInt32 := do
  let state ← match scenarioPath? words with
    | some path => findFile path
    | none => pure .missing
  let machine : Machine := { source := mkStdGen (← IO.monoNanosNow) }
  let world : World Machine Unit := { host := machine, audience := (), openings := [some unreachable] }
  let c := call Machine.draw Machine.place (fun _ => state) (← readEnvironment) world words
  for action in c.trace do replay (c.level.getD (.atLeast .warning)) action
  match c.finish with
  | .done output => IO.print output
  | .crashed f => IO.eprintln (f.kind ++ ": " ++ f.plainText)
  | finish => IO.eprint finish.output
  return UInt32.ofNat c.finish.exitCode
