/-
  RobotPipeline/CommandLine/Perform.lean
  ======================================
  **Doing what an invocation asks for.**

  Settings come from the variables and then from the flags; the pipeline comes
  from the workflow file that the settings name, or is the built-in one. Then
  the task is done, and what the operator asked to see is printed.
-/
import RobotPipeline.CommandLine.Invocation
import RobotPipeline.CommandLine.Listing
import RobotPipeline.Launcher
import RobotPipeline.Pipeline.Basic
import RobotPipeline.Registry.Workflow

namespace RobotPipeline.CommandLine

/-! ### Errors -/

/-- Why an invocation could not be performed. -/
inductive CommandError where
  | settings (cause : SettingsError)
  /-- There is no pipeline, or none in the workflow file at a path. -/
  | workflow (path : Option String) (cause : RegistryError)
  | failure (cause : Failure)
deriving DecidableEq, Repr

namespace CommandError

/-- The texts of an error and of what caused it, outermost first. -/
def chain : CommandError → List String
  | .settings cause => [cause.message]
  | .workflow path cause =>
    (path.map ("Failed to load workflow from " ++ ·)).toList ++ cause.chain
  | .failure cause => cause.chain

def message (e : CommandError) : String := ": ".intercalate e.chain

/-- The exit code of a program that ends with an error. -/
def exitCode : CommandError → Nat
  | .settings _ => 2
  | .workflow _ _ => 2
  | .failure cause => cause.exitCode

end CommandError

/-! ### Settings and pipeline -/

/-- The settings of an invocation, checked. -/
def settingsOf (vars : Variables) (i : Invocation) : Except SettingsError Settings := do
  let s ← Settings.ofVariables vars
  let s : Settings := { s with
    stateDir := i.stateDir.getD s.stateDir
    workflowFile := i.workflow.or s.workflowFile
    defaultTimeLimit := (i.stageTimeout.map Span.ofSeconds).or s.defaultTimeLimit }
  s.validate
  return s

def registryOf (tree : FileTree) (s : Settings) : Except CommandError Registry :=
  match s.workflowFile with
  | none => Registry.builtIn.mapError (.workflow none)
  | some path => (Registry.ofFile tree path).mapError (.workflow (some path))

/-! ### Tasks -/

variable {σ : Type}

def printLines {ε : Type} (lines : List String) : Action σ ε Unit := lines.forM Action.printLine

def performRun (p : Pipeline) (executor : Executor σ) (vars : Variables) (params : Parameters)
    (restart : Bool) : Action σ Failure Unit := do
  Action.ofExcept (Pipeline.validate params)
  if restart then
    match ← p.restart params.dataset with
    | some path => Action.printLine ("Archived previous run to " ++ path)
    | none => pure ()
  let _ ← p.execute executor vars params

def performTask (p : Pipeline) (executor : Executor σ) (vars : Variables) :
    Task → Action σ Failure Unit
  | .run params restart => performRun p executor vars params restart
  | .status dataset json => do
    let run ← p.status dataset
    if json then Action.printLine (Json.pretty run.toDatum) else printLines (runLines run)
  | .retry dataset stage force followerPort leaderPort hubUser => do
    let params ← p.retryParameters dataset
    let params := { params with
      followerPort := followerPort.or params.followerPort
      leaderPort := leaderPort.or params.leaderPort
      hubUser := hubUser.or params.hubUser }
    let _ ← p.retryWith executor (Snapshot.take params p.settings vars) stage force
  | .skip dataset stage => do
    let run ← p.skip dataset stage
    printLines (("Stage '" ++ stage ++ "' marked skipped") :: runLines run)
  | .stages json =>
    if json then Action.printLine (pipelineJson p.registry)
    else printLines (pipelineLines p.registry)

/-- Performs an invocation; the commands of stages run on a machine. -/
def perform (machine : Machine) (vars : Variables) (i : Invocation) :
    Action (Option Span) CommandError Unit := do
  let settings ← Action.ofExcept ((settingsOf vars i).mapError .settings)
  let registry ← Action.ofExcept (registryOf (← get).files settings)
  let launcher : Launcher := {
    machine := machine, grace := settings.killGrace, operatorInput := i.operatorInput }
  let p : Pipeline := { registry := registry, settings := settings }
  ExceptT.adapt .failure (performTask p launcher.run vars i.task)

end RobotPipeline.CommandLine
