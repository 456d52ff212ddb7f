/-
  RobotPipeline/Parameters.lean
  =============================
  **What the operator asks of a run.**

  Parameters say which dataset is recorded, how much of it, with which arms
  and cameras, and how the policy trained on it is set up. They are checked
  before anything is launched.
-/
import RobotPipeline.Camera

namespace RobotPipeline

/-- The parameters of a run. -/
structure Parameters where
  /-- The name of the dataset, which is also the name of the run's ledger. -/
  dataset : String
  episodes : UInt32
  episodeSeconds : UInt64
  resetSeconds : UInt64
  teleopSeconds : UInt64
  task : String
  cameras : List Camera
  followerPort : Option String
  leaderPort : Option String
  hubUser : Option String
  followerId : String
  leaderId : String
  policy : String
  device : String
  steps : UInt64
  batchSize : UInt32
  evalEnv : String
  datasetRoot : Option String
  /-- Optional stages that this run is to include. -/
  included : List String
deriving DecidableEq, Repr

namespace Parameters

/-- The parameters of an operator who names nothing but the dataset. -/
def usual (dataset : String) : Parameters where
  dataset := dataset
  episodes := 5
  episodeSeconds := 30
  resetSeconds := 10
  teleopSeconds := 60
  task := "Pick and place"
  cameras := [Camera.front]
  followerPort := none
  leaderPort := none
  hubUser := none
  followerId := "follower_arm"
  leaderId := "leader_arm"
  policy := "act"
  device := "cuda"
  steps := 10000
  batchSize := 8
  evalEnv := "simxarm"
  datasetRoot := none
  included := []

/-- The parameters without ports and account, so that these come from the environment again. -/
def withoutPorts (p : Parameters) : Parameters :=
  { p with followerPort := none, leaderPort := none, hubUser := none }

/-! ### Validity -/

/-- Why parameters are refused. -/
inductive Invalid where
  | datasetName (dataset : String)
  | noEpisodes
  | noEpisodeSeconds
  | noTeleopSeconds
  | noTraining
  | noTask
  | cameraTwice (name : String)
deriving DecidableEq, Repr

def Invalid.message : Invalid → String
  | .datasetName dataset =>
    "dataset '" ++ dataset ++ "' must start with a letter or digit and contain only letters, "
      ++ "digits, '.', '_' or '-'"
  | .noEpisodes => "episodes must be at least 1"
  | .noEpisodeSeconds => "episode-seconds must be at least 1"
  | .noTeleopSeconds => "teleop-seconds must be at least 1"
  | .noTraining => "steps and batch-size must be at least 1"
  | .noTask => "task description must not be empty"
  | .cameraTwice name => "camera '" ++ name ++ "' is declared twice"

def isDatasetChar (c : Char) : Bool := c.isAlphanum || c = '.' || c = '_' || c = '-'

/-- Whether a text names a dataset: it starts with an ASCII letter or digit and goes on with these,
dots, underscores and dashes. Such a name is a single component of a path. -/
def isDatasetName (s : String) : Bool :=
  match s.toList with
  | [] => false
  | c :: rest => c.isAlphanum && rest.all isDatasetChar

/-- The first camera that has the name of an earlier one; `seen` holds the earlier names. -/
def repeatedCamera? (seen : List String) : List Camera → Option String
  | [] => none
  | c :: rest => if c.name ∈ seen then some c.name else repeatedCamera? (c.name :: seen) rest

/-- Checks parameters; the first thing that is wrong is reported. -/
def validate (p : Parameters) : Except Invalid Unit :=
  if !isDatasetName p.dataset then .error (.datasetName p.dataset)
  else if p.episodes = 0 then .error .noEpisodes
  else if p.episodeSeconds = 0 then .error .noEpisodeSeconds
  else if p.teleopSeconds = 0 then .error .noTeleopSeconds
  else if p.steps = 0 ∨ p.batchSize = 0 then .error .noTraining
  else if Text.isBlankText p.task then .error .noTask
  else
    match repeatedCamera? [] p.cameras with
    | some name => .error (.cameraTwice name)
    | none => .ok ()

/-- Parameters that pass the check. -/
def Valid (p : Parameters) : Prop := p.validate = .ok ()

instance (p : Parameters) : Decidable p.Valid :=
  match h : p.validate with
  | .ok () => .isTrue h
  | .error e => .isFalse (by simp [Valid, h])

/-! ### Written form -/

def fieldNames : List String :=
  ["dataset", "episodes", "episode_seconds", "reset_seconds", "teleop_seconds", "task", "cameras",
    "follower_port", "leader_port", "hf_user", "follower_id", "leader_id", "policy", "device",
    "steps", "batch_size", "eval_env", "dataset_root", "include"]

def toDatum (p : Parameters) : Datum :=
  .fields [
    ("dataset", .text p.dataset),
    ("episodes", .natural p.episodes.toNat),
    ("episode_seconds", .natural p.episodeSeconds.toNat),
    ("reset_seconds", .natural p.resetSeconds.toNat),
    ("teleop_seconds", .natural p.teleopSeconds.toNat),
    ("task", .text p.task),
    ("cameras", .list (p.cameras.map Camera.toDatum)),
    ("follower_port", .textOrNull p.followerPort),
    ("leader_port", .textOrNull p.leaderPort),
    ("hf_user", .textOrNull p.hubUser),
    ("follower_id", .text p.followerId),
    ("leader_id", .text p.leaderId),
    ("policy", .text p.policy),
    ("device", .text p.device),
    ("steps", .natural p.steps.toNat),
    ("batch_size", .natural p.batchSize.toNat),
    ("eval_env", .text p.evalEnv),
    ("dataset_root", .textOrNull p.datasetRoot),
    ("include", .texts p.included)]

def read? {δ : Type} [Source δ] (d : δ) : Option Parameters := do
  let p ← Source.record? fieldNames d
  some {
    dataset := ← p.required "dataset" Source.text?
    episodes := ← p.required "episodes" Source.word32?
    episodeSeconds := ← p.required "episode_seconds" Source.word64?
    resetSeconds := ← p.required "reset_seconds" Source.word64?
    teleopSeconds := ← p.required "teleop_seconds" Source.word64?
    task := ← p.required "task" Source.text?
    cameras := ← p.required "cameras" (Source.listOf? Camera.read?)
    followerPort := ← p.optional "follower_port" Source.text?
    leaderPort := ← p.optional "leader_port" Source.text?
    hubUser := ← p.optional "hf_user" Source.text?
    followerId := ← p.required "follower_id" Source.text?
    leaderId := ← p.required "leader_id" Source.text?
    policy := ← p.required "policy" Source.text?
    device := ← p.required "device" Source.text?
    steps := ← p.orDefault "steps" 10000 Source.word64?
    batchSize := ← p.orDefault "batch_size" 8 Source.word32?
    evalEnv := ← p.orDefault "eval_env" "simxarm" Source.text?
    datasetRoot := ← p.optional "dataset_root" Source.text?
    included := ← p.required "include" (Source.listOf? Source.text?) }

end Parameters

end RobotPipeline
