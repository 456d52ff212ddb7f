/-
  RobotPipeline/Ledger/Error.lean
  ===============================
  **Why a ledger cannot be read or written.**
-/
import RobotPipeline.IoError
import RobotPipeline.Run.Basic

namespace RobotPipeline

namespace OrderViolation

def message (v : OrderViolation) : String :=
  "Stage order violated: '" ++ v.stage ++ "' is " ++ v.status.text ++ " while earlier stage '"
    ++ v.blocking ++ "' is " ++ v.blockingStatus.text

end OrderViolation

/-- What is wrong with what a ledger holds. -/
inductive Corruption where
  /-- It is no record of a run. -/
  | unreadable (reason : String)
  | otherDataset (dataset : String)
  | stageOrder (violation : OrderViolation)
deriving DecidableEq, Repr

def Corruption.message : Corruption → String
  | .unreadable reason => reason
  | .otherDataset dataset => "snapshot belongs to dataset '" ++ dataset ++ "'"
  | .stageOrder violation => violation.message

/-- Why a ledger operation is refused. -/
inductive LedgerError where
  | notFound (dataset : String)
  | corrupted (path : String) (what : Corruption)
  /-- The ledger records other stages than those of the pipeline. -/
  | pipelineMismatch (dataset : String) (recorded : List String)
  | stageOrder (violation : OrderViolation)
  | io (cause : IoError)
deriving DecidableEq, Repr

namespace LedgerError

/-- What the operator can do about a ledger that is of no use. -/
def advice : String := "; start a fresh run with \x60rigforge run --restart\x60"

def message : LedgerError → String
  | .notFound dataset => "No ledger recorded for '" ++ dataset ++ "'"
  | .corrupted path what =>
    "Ledger at " ++ path ++ " is corrupted (" ++ what.message ++ ")" ++ advice
  | .pipelineMismatch dataset recorded =>
    "Ledger for '" ++ dataset ++ "' records a different pipeline (" ++ ", ".intercalate recorded
      ++ ")" ++ advice
  | .stageOrder violation => violation.message
  | .io cause => "IO error: " ++ cause.message

/-- The texts of an error and of what caused it, outermost first. -/
def chain (e : LedgerError) : List String :=
  match e with
  | .io cause => [e.message, cause.message]
  | _ => [e.message]

end LedgerError

end RobotPipeline
