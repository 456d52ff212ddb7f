/-
  RobotPipeline/Pipeline/Basic.lean
  =================================
  **Taking a dataset through the pipeline.**

  An invocation opens the recorded run or makes a new one, and then goes
  through the stages in order:

  * a stage that is complete is passed over;
  * the checks of a stage are made right before its launch;
  * that a stage is running is committed before its launch, so a crash shows
    up as an interrupted stage, and its outcome is committed before the next
    stage is looked at;
  * the first stage that fails ends the invocation. Nothing is tried twice.

  Going through the list of stages once is enough: a stage that has succeeded
  is not looked at again.
-/
import RobotPipeline.Pipeline.Progress
import RobotPipeline.Readiness
import RobotPipeline.World

namespace RobotPipeline

/-- A pipeline with the settings it is run with. -/
structure Pipeline where
  registry : Registry
  settings : Settings
  /-- Nothing is told to the operator. -/
  silent : Bool := false

namespace Pipeline

variable {σ : Type}

def ledger (p : Pipeline) : Ledger := Ledger.ofSettings p.settings

def size (p : Pipeline) : Nat := p.registry.stages.length

def skippedNote : String := "skipped by operator"

def tell {ε : Type} (p : Pipeline) (line : String) : Action σ ε Unit :=
  if p.silent then pure () else Action.printLine line

/-! ### The recorded run -/

/-- The error that a run records other stages. -/
def mismatch (run : Run) : Failure := .ledger (.pipelineMismatch run.dataset run.names)

/-- Loads the run of a dataset; it has to have the stages of the pipeline. -/
def load (p : Pipeline) (tree : FileTree) (dataset : String) : Except Failure Run :=
  match p.ledger.load tree dataset with
  | .error e => .error (.ledger e)
  | .ok run => if run.names = p.registry.names then .ok run else .error (mismatch run)

def status (p : Pipeline) (dataset : String) : Action σ Failure Run := do
  Action.ofExcept (p.load (← get).files dataset)

def validate (params : Parameters) : Except Failure Unit :=
  match params.validate with
  | .ok () => .ok ()
  | .error e => .error (.invalidParameter e.message)

/-! ### One stage -/

def logPath (p : Pipeline) (run : Run) (stage : String) (attempt : UInt32) : String :=
  Path.join (Path.join p.settings.logsDir run.runId)
    (stage ++ "-" ++ Text.decimal attempt.toNat ++ ".log")

def launchOf (p : Pipeline) (env : Snapshot) (run : Run) (s : Stage) : Launch where
  stage := s.name
  arguments := env.arguments s
  timeLimit := (s.timeLimit.map (·.resolve env.params)).or p.settings.defaultTimeLimit
  logPath := some (p.logPath run s.name (((run.record? s.name).map (·.attempts)).getD 0 + 1))
  vars := env.vars
  interactive := s.interactive

/-- Ends the invocation because checks of a stage do not hold. -/
def stopUnready (p : Pipeline) (place : Nat) (s : Stage) (run : Run) (failed : List String) :
    Action σ Failure Run := do
  let detail := "not ready: " ++ ", ".intercalate failed
  let run := run.setNote s.name detail
  Action.save p.ledger run
  p.tell (Progress.reached place p.size s.name ((run.status? s.name).getD .pending) none
    (some detail))
  throw (.notReady s.name failed)

/-- Commits that a command could not be launched or was lost, and ends the invocation. -/
def stopLaunch (p : Pipeline) (place : Nat) (s : Stage) (run : Run) (e : LaunchError) :
    Action σ Failure Run := do
  let run := run.markFailed (← Action.now) s.name e.message e.processRan
  Action.save p.ledger run
  p.tell (Progress.reached place p.size s.name .failed none (some e.message))
  throw (.launch e)

/-- Commits the outcome of a stage; ends the invocation unless it is a success. -/
def settle (p : Pipeline) (place : Nat) (s : Stage) (run : Run) (o : Outcome) :
    Action σ Failure Run := do
  let run := run.applyOutcome (← Action.now) s.name o
  Action.save p.ledger run
  p.tell (Progress.reached place p.size s.name ((run.status? s.name).getD .failed)
    (some o.duration) (if o.isSuccess then none else some o.summary))
  if o.cancelled then throw (.cancelled s.name)
  else if !o.isSuccess then throw (.stageFailed s.name o.exitCode o.timedOut)
  else return run

def launchStage (p : Pipeline) (executor : Executor σ) (env : Snapshot) (place : Nat) (s : Stage)
    (run : Run) : Action σ Failure Run := do
  let l := p.launchOf env run s
  let run := run.markRunning (← Action.now) s.name
  Action.save p.ledger run
  p.tell (Progress.launched place p.size s.name l.arguments)
  match ← Action.launch executor l with
  | .error e => p.stopLaunch place s run e
  | .ok o => p.settle place s run o

/-- Runs the first incomplete stage. -/
def runStage (p : Pipeline) (executor : Executor σ) (env : Snapshot) (place : Nat) (s : Stage)
    (run : Run) : Action σ Failure Run := do
  let w ← get
  if w.wantsEnd then throw (.cancelled s.name)
  else
    let failed := Readiness.check p.registry env run w.files s
    Action.record (.checked s.name env w.files failed)
    match failed with
    | [] => p.launchStage executor env place s run
    | failed => p.stopUnready place s run failed

/-! ### All stages -/

/-- Runs the incomplete stages among those from a place on. -/
def driveFrom (p : Pipeline) (executor : Executor σ) (env : Snapshot) :
    (place : Nat) → List Stage → Run → Action σ Failure Run
  | _, [], run => do
    p.tell (Progress.finished run)
    return run
  | place, s :: rest, run => do
    if run.firstIncomplete? = some place then
      let run ← p.runStage executor env place s run
      driveFrom p executor env (place + 1) rest run
    else driveFrom p executor env (place + 1) rest run

def drive (p : Pipeline) (executor : Executor σ) (env : Snapshot) (run : Run) :
    Action σ Failure Run :=
  p.driveFrom executor env 0 p.registry.stages run

/-! ### Invocations -/

/-- Opens the recorded run, with the stages now asked for, or makes a new one; commits it. Tells
whether the run was recorded. -/
def openRun (p : Pipeline) (params : Parameters) : Action σ Failure (Run × Bool) := do
  match p.load (← get).files params.dataset with
  | .ok run =>
    let run := run.includeOptional (← Action.now) params.included
    let run := { run with parameters := some params }
    Action.save p.ledger run
    return (run, true)
  | .error (.ledger (.notFound _)) =>
    let run := Run.forRegistry (← Action.now) p.registry params
    Action.save p.ledger run
    return (run, false)
  | .error e => throw e

/-- Executes or resumes the run of the dataset of a snapshot. -/
def executeWith (p : Pipeline) (executor : Executor σ) (env : Snapshot) : Action σ Failure Run := do
  Action.ofExcept (validate env.params)
  let (run, recorded) ← p.openRun env.params
  p.tell (if recorded then Progress.resumed run else Progress.started run)
  p.drive executor env run

/-- Executes or resumes the run of a dataset, in the environment of the process. -/
def execute (p : Pipeline) (executor : Executor σ) (vars : Variables) (params : Parameters) :
    Action σ Failure Run := do
  Action.ofExcept (validate params)
  p.executeWith executor (Snapshot.take params p.settings vars)

/-- The parameters that a retry starts from: those on record, without ports and account. -/
def retryParameters (p : Pipeline) (dataset : String) : Action σ Failure Parameters := do
  let run ← p.status dataset
  return (run.parameters.getD (.usual dataset)).withoutPorts

/-- The run that a retry starts from: the stage and what comes after it is reset. Refused unless
the stage may be retried. -/
def resetForRetry (p : Pipeline) (now : Instant) (env : Snapshot) (stage : String) (force : Bool)
    (run : Run) : Except Failure Run :=
  match p.registry.stage? stage with
  | none => .error (.configuration (.unknownStage stage))
  | some _ =>
    match run.position? stage with
    | none => .error (mismatch run)
    | some place =>
      match run.stages[place]? with
      | none => .error (mismatch run)
      | some record =>
        if record.status.isComplete ∧ !force then .error (.needsForce stage)
        else
          match (run.stages.take place).find? (fun r => !r.status.isComplete) with
          | some blocking => .error (.blocked stage blocking.name blocking.status)
          | none =>
            let run := run.change stage StageRecord.reset
            .ok { run.resetFrom now place with parameters := some env.params }

/-- Runs a stage again, and every stage after it. -/
def retryWith (p : Pipeline) (executor : Executor σ) (env : Snapshot) (stage : String)
    (force : Bool) : Action σ Failure Run := do
  let run ← p.status env.params.dataset
  let run ← Action.ofExcept (p.resetForRetry (← Action.now) env stage force run)
  Action.save p.ledger run
  p.tell (Progress.resumed run)
  p.drive executor env run

/-- Runs a stage again, in the environment of the process. -/
def retry (p : Pipeline) (executor : Executor σ) (vars : Variables) (dataset stage : String)
    (force : Bool) : Action σ Failure Run := do
  let params ← p.retryParameters dataset
  p.retryWith executor (Snapshot.take params p.settings vars) stage force

/-- The recorded run of a dataset, or else a new one. -/
def runToSkip (p : Pipeline) (now : Instant) (tree : FileTree) (dataset : String) :
    Except Failure Run :=
  match p.load tree dataset with
  | .ok run => .ok run
  | .error (.ledger (.notFound _)) =>
    (validate (.usual dataset)).map fun _ => Run.forRegistry now p.registry (.usual dataset)
  | .error e => .error e

/-- Skips a stage that may be skipped and has not succeeded. -/
def skip (p : Pipeline) (dataset stage : String) : Action σ Failure Run := do
  match p.registry.stage? stage with
  | none => throw (.configuration (.unknownStage stage))
  | some s =>
    if !s.skippable then throw (.notSkippable stage)
    let run ← Action.ofExcept (p.runToSkip (← Action.now) (← get).files dataset)
    match run.status? stage with
    | none => throw (mismatch run)
    | some status =>
      if status = .failed ∨ status = .pending then
        let run := run.markSkipped (← Action.now) stage skippedNote
        Action.save p.ledger run
        return run
      else throw (.invalidSkip stage status)

/-- Archives the recorded run of a dataset, so that the next one starts afresh. Gives the path of
the archived snapshot. -/
def restart (p : Pipeline) (dataset : String) : Action σ Failure (Option String) := do
  let now ← Action.now
  match p.ledger.archive (← get).files now dataset with
  | .error e => throw (.ledger e)
  | .ok (path, files) =>
    modify fun w => { w with files := files }
    return path

end Pipeline

end RobotPipeline
