/-
  RobotPipeline/CommandLine/Invocation.lean
  =========================================
  **What the arguments of the program ask for.**

  The arguments name a task, with flags of its own behind it. The general flags
  may stand before or behind the name; behind it they count more.
-/
import RobotPipeline.CommandLine.Flag
import RobotPipeline.Parameters
import RobotPipeline.Variable

namespace RobotPipeline.CommandLine

/-! ### Tasks -/

/-- What the operator wants to be done. -/
inductive Task where
  | run (params : Parameters) (restart : Bool)
  | status (dataset : String) (json : Bool)
  | retry (dataset stage : String) (force : Bool) (followerPort leaderPort hubUser : Option String)
  | skip (dataset stage : String)
  | stages (json : Bool)
deriving DecidableEq, Repr

/-- A task, and what holds for every task. -/
structure Invocation where
  stateDir : Option String
  workflow : Option String
  /-- The time limit of stages without one, in seconds. -/
  stageTimeout : Option UInt64
  operatorInput : Option String
  task : Task
deriving DecidableEq, Repr

/-! ### The flags of each task -/

def dataset : Flag := { name := "dataset", letter := some 'd', value := some .text }
def stage : Flag := { name := "stage", letter := some 's', value := some .text }
def json : Flag := { name := "json" }

def generalFlags : List Flag :=
  [{ name := "log-level", letter := some 'l', value := some .text },
    { name := "state-dir", value := some .path }, { name := "workflow", value := some .path },
    { name := "stage-timeout", value := some .word64 },
    { name := "operator-input", value := some .path }, Flag.help]

/-- The flags for ports and account, with the variables that stand in for them. -/
def portFlags : List (Flag × String) :=
  [({ name := "follower-port", value := some .text }, Variables.followerPort),
    ({ name := "leader-port", value := some .text }, Variables.leaderPort),
    ({ name := "hf-user", value := some .text }, Variables.hubUser)]

def runFlags : List Flag :=
  [dataset, { name := "episodes", letter := some 'n', value := some .word32 },
    { name := "episode-seconds", value := some .word64 },
    { name := "reset-seconds", value := some .word64 },
    { name := "teleop-seconds", value := some .word64 }, { name := "task", value := some .text },
    { name := "camera", value := some .camera, repeatable := true }]
  ++ portFlags.map (·.1)
  ++ [{ name := "follower-id", value := some .text }, { name := "leader-id", value := some .text },
    { name := "policy", value := some .text }, { name := "device", value := some .text },
    { name := "steps", value := some .word64 }, { name := "batch-size", value := some .word32 },
    { name := "eval-env", value := some .text }, { name := "dataset-root", value := some .path },
    { name := "with", value := some .text, repeatable := true }, { name := "restart" }]

/-- A task by its name: its flags, those that have to be given, and what is made of them. -/
structure TaskForm where
  name : String
  flags : List Flag
  required : List String
  make : Variables → Given → Task

def parametersOf (vars : Variables) (given : Given) : Parameters :=
  let usual := Parameters.usual ((given.get? "dataset").getD "")
  let text (name default : String) : String := (given.get? name).getD default
  let long (name : String) (default : UInt64) : UInt64 :=
    ((given.get? name).bind word64?).getD default
  let short (name : String) (default : UInt32) : UInt32 :=
    ((given.get? name).bind word32?).getD default
  let port (name var : String) : Option String := (given.get? name).or (vars.get? var)
  let cameras := (given.all "camera").filterMap fun spec => (Camera.parse spec).toOption
  { dataset := usual.dataset
    episodes := short "episodes" usual.episodes
    episodeSeconds := long "episode-seconds" usual.episodeSeconds
    resetSeconds := long "reset-seconds" usual.resetSeconds
    teleopSeconds := long "teleop-seconds" usual.teleopSeconds
    task := text "task" usual.task
    cameras := if cameras.isEmpty then usual.cameras else cameras
    followerPort := port "follower-port" Variables.followerPort
    leaderPort := port "leader-port" Variables.leaderPort
    hubUser := port "hf-user" Variables.hubUser
    followerId := text "follower-id" usual.followerId
    leaderId := text "leader-id" usual.leaderId
    policy := text "policy" usual.policy
    device := text "device" usual.device
    steps := long "steps" usual.steps
    batchSize := short "batch-size" usual.batchSize
    evalEnv := text "eval-env" usual.evalEnv
    datasetRoot := given.get? "dataset-root"
    included := given.all "with" }

def taskForms : List TaskForm :=
  let text (given : Given) (name : String) : String := (given.get? name).getD ""
  [{ name := "run", flags := runFlags, required := ["dataset"]
     make := fun vars given => .run (parametersOf vars given) (given.has "restart") },
    { name := "status", flags := [dataset, json], required := ["dataset"]
      make := fun _ given => .status (text given "dataset") (given.has "json") },
    { name := "retry", required := ["dataset", "stage"]
      flags := [dataset, stage, { name := "force" }] ++ portFlags.map (·.1)
      make := fun _ given => .retry (text given "dataset") (text given "stage") (given.has "force")
        (given.get? "follower-port") (given.get? "leader-port") (given.get? "hf-user") },
    { name := "skip", flags := [dataset, stage], required := ["dataset", "stage"]
      make := fun _ given => .skip (text given "dataset") (text given "stage") },
    { name := "stages", flags := [json], required := []
      make := fun _ given => .stages (given.has "json") }]

def helpTask : String := "help"

def taskNames : List String := taskForms.map (·.name) ++ [helpTask]

/-! ### Reading arguments -/

/-- What the arguments behind the help task lead to. -/
def helpOn : List String → UsageError
  | [] => .help
  | name :: rest =>
    if name ∉ taskNames then .unknownTask name
    else
      match rest with
      | [] => .help
      | extra :: _ => .unknownTask extra

/-- The invocation that flags before and behind the name of a task make. -/
def assemble (vars : Variables) (before behind : Given) (form : TaskForm) : Invocation :=
  let get? (name : String) : Option String := (behind.get? name).or (before.get? name)
  { stateDir := get? "state-dir"
    workflow := get? "workflow"
    stageTimeout := (get? "stage-timeout").bind word64?
    operatorInput := get? "operator-input"
    task := form.make vars behind }

def readTask (form : TaskForm) (args : List String) : Except UsageError Given := do
  let (s, _) ← scan { flags := form.flags ++ generalFlags } {} args
  let given := (← s.settle).given
  match form.required.filter (fun name => !given.has name) with
  | [] => .ok given
  | missing => .error (.missing missing)

/-- Reads the arguments of the program. Mistakes behind the name of the task are reported before a
wrong value right before it. -/
def parse (vars : Variables) (args : List String) : Except UsageError Invocation := do
  let (s, task?) ← scan { flags := generalFlags ++ [Flag.version], tasks := taskNames } {} args
  match task? with
  | none =>
    let given := (← s.settle).given
    .error (if given.isEmpty then .noArguments else .noTask)
  | some (name, rest) =>
    match taskForms.find? (fun form => form.name = name) with
    | none => .error (helpOn rest)
    | some form =>
      let behind ← readTask form rest
      .ok (assemble vars (← s.settle).given behind form)

end RobotPipeline.CommandLine
