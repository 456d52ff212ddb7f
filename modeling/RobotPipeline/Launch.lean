/-
  RobotPipeline/Launch.lean
  =========================
  **A command that is ready to be launched.**
-/
import RobotPipeline.Time.Span
import RobotPipeline.Variable

namespace RobotPipeline

/-- One launch of the command of a stage, with everything filled in. -/
structure Launch where
  stage : String
  /-- The program and its arguments. -/
  arguments : List String
  timeLimit : Option Span := none
  /-- The file that gets the output. -/
  logPath : Option String := none
  /-- All variables of the process. -/
  vars : Variables := []
  /-- The command talks to the operator. -/
  interactive : Bool := false
deriving DecidableEq, Repr

end RobotPipeline
