/-
  RobotPipeline/Pipeline/Progress.lean
  ====================================
  **What the operator is told while a run goes on.**
-/
import RobotPipeline.Run.Basic

namespace RobotPipeline.Progress

def nameWidth : Nat := 20

/-- The start of a line about the stage at a place, which is shown from 1. -/
def heading (place total : Nat) (stage : String) : String :=
  "[" ++ Text.decimal (place + 1) ++ "/" ++ Text.decimal total ++ "] "
    ++ Text.padRight ' ' nameWidth stage ++ " "

def started (run : Run) : String := "Starting run " ++ run.runId

def resumed (run : Run) : String :=
  match run.stages[run.currentIndex]? with
  | some r => "Resuming run " ++ run.runId ++ " at stage '" ++ r.name ++ "'"
  | none => "Run " ++ run.runId ++ " is already complete"

def launched (place total : Nat) (stage : String) (arguments : List String) : String :=
  heading place total stage ++ "running: " ++ " ".intercalate arguments

def reached (place total : Nat) (stage : String) (status : Status) (duration : Option Span)
    (detail : Option String) : String :=
  heading place total stage ++ status.text
    ++ (match duration with
      | some d => " (" ++ d.text ++ ")"
      | none => "")
    ++ (match detail with
      | some d => ": " ++ d
      | none => "")

def finished (run : Run) : String := "Run " ++ run.runId ++ " complete"

end RobotPipeline.Progress
