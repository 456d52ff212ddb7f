/-
  RobotPipeline/Main.lean
  =======================
  **The program: a pipeline is rehearsed on a bench.**

  The bench is kept in one file of the working directory. Ledgers, logs and all
  that stages make are files of the bench, so a rehearsal never touches a real
  one.
-/
import RobotPipeline.CommandLine.Perform
import RobotPipeline.Rehearsal.Bench
import RobotPipeline.Rehearsal.Machine

open RobotPipeline

/-- The file that the bench is kept in. -/
def benchFile : String := "bench.json"

def variableNames : List String :=
  [Variables.followerPort, Variables.leaderPort, Variables.hubUser, Variables.searchPath, "HOME",
    "HF_LEROBOT_CALIBRATION"] ++ Settings.variableNames

def setVariables : IO Variables := do
  let values ← variableNames.mapM fun name => do return (name, ← IO.getEnv name)
  return values.filterMap fun v => v.2.map (v.1, ·)

/-- Performs an invocation on a bench, and gives the exit code. -/
def rehearse (vars : Variables) (i : CommandLine.Invocation) (bench : Rehearsal.Bench) :
    IO UInt32 := do
  let (result, w) := (CommandLine.perform Rehearsal.machine vars i).perform
    { files := bench.files, clock := Rehearsal.Bench.clock, readings := bench.readings
      tool := none }
  IO.FS.writeFile benchFile
    (Rehearsal.Bench.encode { files := w.files, readings := w.readings })
  IO.print w.output
  IO.eprint w.errors
  match result with
  | .ok () => return 0
  | .error e =>
    IO.eprintln ("Error: " ++ e.message)
    return UInt32.ofNat e.exitCode

/-- The bench in the file, or a fresh one if there is no file. -/
def currentBench : IO (Option Rehearsal.Bench) := do
  try
    return Rehearsal.Bench.decode? (← IO.FS.readFile benchFile)
  catch _ =>
    return some { files := Rehearsal.Bench.usualFiles ["work"] }

def main (args : List String) : IO UInt32 := do
  let vars ← setVariables
  match CommandLine.parse vars args with
  | .error e =>
    IO.eprintln e.message
    return UInt32.ofNat e.exitCode
  | .ok invocation =>
    match ← currentBench with
    | some bench => rehearse vars invocation bench
    | none =>
      IO.eprintln ("Error: " ++ benchFile ++ " is no bench")
      return 1
