/-
  RobotPipeline/Failure.lean
  ==========================
  **Why a launch or a whole invocation fails.**
-/
import RobotPipeline.Ledger.Error

namespace RobotPipeline

/-! ### Launches -/

/-- Why a launched command has no outcome. -/
inductive LaunchError where
  /-- There is no program to launch. -/
  | emptyCommand (stage : String)
  | notStarted (stage program : String) (cause : IoError)
  /-- The process was started, and then lost. -/
  | lost (stage : String) (cause : IoError)
  | io (cause : IoError)
deriving DecidableEq, Repr

namespace LaunchError

def message : LaunchError → String
  | .emptyCommand stage => "Stage '" ++ stage ++ "' resolved to an empty command"
  | .notStarted stage program cause =>
    "Failed to spawn '" ++ program ++ "' for stage '" ++ stage ++ "': " ++ cause.message
  | .lost stage cause => "Lost track of the process for stage '" ++ stage ++ "': " ++ cause.message
  | .io cause => "IO error: " ++ cause.message

/-- Whether the process was started, so that it may have left something half done. -/
def processRan : LaunchError → Bool
  | .lost .. => true
  | _ => false

/-- The texts of an error and of what caused it, outermost first. -/
def chain (e : LaunchError) : List String :=
  match e with
  | .emptyCommand _ => [e.message]
  | .notStarted _ _ cause => [e.message, cause.message]
  | .lost _ cause => [e.message, cause.message]
  | .io cause => [e.message, cause.message]

end LaunchError

/-! ### Invocations -/

/-- Why an invocation fails. -/
inductive Failure where
  | configuration (cause : RegistryError)
  /-- Checks of a stage do not hold. -/
  | notReady (stage : String) (failed : List String)
  | stageFailed (stage : String) (exitCode : Int32) (timedOut : Bool)
  | cancelled (stage : String)
  | blocked (stage blocking : String) (status : Status)
  | notSkippable (stage : String)
  | invalidSkip (stage : String) (status : Status)
  | needsForce (stage : String)
  | invalidParameter (reason : String)
  | ledger (cause : LedgerError)
  | launch (cause : LaunchError)
deriving DecidableEq, Repr

namespace Failure

def message : Failure → String
  | .configuration cause => "Configuration error: " ++ cause.message
  | .notReady stage failed => "Stage '" ++ stage ++ "' is not ready: " ++ ", ".intercalate failed
  | .stageFailed stage code true =>
    "Stage '" ++ stage ++ "' timed out (exit code " ++ Text.decimalInt code.toInt ++ ")"
  | .stageFailed stage code false =>
    "Stage '" ++ stage ++ "' exited with code " ++ Text.decimalInt code.toInt
  | .cancelled stage => "Stage '" ++ stage ++ "' was cancelled"
  | .blocked stage blocking status =>
    "Stage '" ++ stage ++ "' is blocked by earlier stage '" ++ blocking ++ "' (" ++ status.text
      ++ ")"
  | .notSkippable stage => "Stage '" ++ stage ++ "' is not skippable"
  | .invalidSkip stage status =>
    "Stage '" ++ stage ++ "' cannot be skipped while " ++ status.text
  | .needsForce stage => "Stage '" ++ stage ++ "' already succeeded; pass --force to run it again"
  | .invalidParameter reason => "Invalid parameter: " ++ reason
  | .ledger cause => "Ledger error: " ++ cause.message
  | .launch cause => "Runner error: " ++ cause.message

/-- The texts of a failure and of what caused it, outermost first. -/
def chain (f : Failure) : List String :=
  match f with
  | .configuration cause => f.message :: cause.chain
  | .ledger cause => f.message :: cause.chain
  | .launch cause => f.message :: cause.chain
  | _ => [f.message]

def stage? : Failure → Option String
  | .notReady stage _ => some stage
  | .stageFailed stage _ _ => some stage
  | .cancelled stage => some stage
  | .blocked stage _ _ => some stage
  | .notSkippable stage => some stage
  | .invalidSkip stage _ => some stage
  | .needsForce stage => some stage
  | _ => none

/-- The exit code of a program that ends with a failure. -/
def exitCode : Failure → Nat
  | .cancelled _ => 130
  | .configuration _ => 2
  | .ledger _ => 2
  | .invalidParameter _ => 2
  | _ => 1

end Failure

end RobotPipeline
