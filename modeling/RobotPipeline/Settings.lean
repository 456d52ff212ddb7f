/-
  RobotPipeline/Settings.lean
  ===========================
  **Settings that hold for every run.**

  They say where ledgers and logs are kept, how long a stage without a limit
  may run, how long a stopped stage gets to shut down, where the toolkit keeps
  its calibration, and which workflow file replaces the built-in pipeline.
-/
import RobotPipeline.Path
import RobotPipeline.Text.Blank
import RobotPipeline.Time.Span
import RobotPipeline.Variable

namespace RobotPipeline

/-- The settings of the program. -/
structure Settings where
  stateDir : String
  defaultTimeLimit : Option Span
  killGrace : Span
  calibrationDir : String
  workflowFile : Option String
deriving DecidableEq, Repr

/-- Why settings are refused. -/
inductive SettingsError where
  /-- A variable holds no number. -/
  | invalidValue (key : String) (cause : Text.NumeralError)
  | emptyStateDir
  | zeroTimeLimit
  | longKillGrace
deriving DecidableEq, Repr

namespace SettingsError

def detail : SettingsError → String
  | .invalidValue _ cause => cause.message
  | .emptyStateDir => "state_dir must not be empty"
  | .zeroTimeLimit => "default_timeout must be greater than 0"
  | .longKillGrace => "kill_grace must not exceed 300 seconds"

def message : SettingsError → String
  | .invalidValue key cause => "Invalid value for " ++ key ++ ": " ++ cause.message
  | e => "Configuration validation failed: " ++ e.detail

end SettingsError

namespace Settings

/-! ### Directories -/

def runsDir (s : Settings) : String := Path.join s.stateDir "runs"
def logsDir (s : Settings) : String := Path.join s.stateDir "logs"

/-- The toolkit's own place for calibration. -/
def toolkitCalibrationDir (vars : Variables) : String :=
  match vars.get? "HF_LEROBOT_CALIBRATION" with
  | some dir => dir
  | none =>
    ["huggingface", "lerobot", "calibration"].foldl Path.join
      (Path.join ((vars.get? "HOME").getD ".") ".cache")

def maxKillGrace : Span := Span.ofSeconds 300

def usual (vars : Variables) : Settings where
  stateDir := "./.rigforge"
  defaultTimeLimit := none
  killGrace := Span.ofSeconds 5
  calibrationDir := toolkitCalibrationDir vars
  workflowFile := none

/-! ### Checking and reading -/

/-- Checks settings; the first thing that is wrong is reported. -/
def validate (s : Settings) : Except SettingsError Unit :=
  if s.stateDir = "" then .error .emptyStateDir
  else if s.defaultTimeLimit.any (fun t => t.toNanos = 0) then .error .zeroTimeLimit
  else if maxKillGrace.toNanos < s.killGrace.toNanos then .error .longKillGrace
  else .ok ()

/-- The seconds a variable holds, blanks around the number ignored; `none` if it is not set. -/
def secondsOf (vars : Variables) (key : String) : Except SettingsError (Option Span) :=
  match vars.get? key with
  | none => .ok none
  | some value =>
    match Text.readWord64 (Text.trim value.toList) with
    | .ok s => .ok (some (Span.ofSeconds s))
    | .error cause => .error (.invalidValue key cause)

def stateDirVariable : String := "RIGFORGE_STATE_DIR"
def timeLimitVariable : String := "RIGFORGE_STAGE_TIMEOUT_SECS"
def killGraceVariable : String := "RIGFORGE_KILL_GRACE_SECS"
def calibrationDirVariable : String := "RIGFORGE_CALIBRATION_DIR"
def workflowVariable : String := "RIGFORGE_WORKFLOW"

def variableNames : List String :=
  [stateDirVariable, timeLimitVariable, killGraceVariable, calibrationDirVariable, workflowVariable]

/-- The settings that the variables make, checked. -/
def ofVariables (vars : Variables) : Except SettingsError Settings := do
  let usual := Settings.usual vars
  let limit ← secondsOf vars timeLimitVariable
  let grace ← secondsOf vars killGraceVariable
  let s : Settings := {
    stateDir := (vars.get? stateDirVariable).getD usual.stateDir
    defaultTimeLimit := limit
    killGrace := grace.getD usual.killGrace
    calibrationDir := (vars.get? calibrationDirVariable).getD usual.calibrationDir
    workflowFile := (vars.get? workflowVariable).filter (fun v => !Text.isBlankText v) }
  s.validate
  return s

end Settings

end RobotPipeline
