/-
  RobotPipeline/Snapshot.lean
  ===========================
  **The environment of an invocation, frozen.**

  A snapshot is taken once, at the start: parameters, variables, and the
  values of all holes that follow from them. Checks, arguments and child
  processes see nothing else. A port or account among the parameters stands in
  for the variable of that name.
-/
import RobotPipeline.Settings
import RobotPipeline.Stage.Declaration

namespace RobotPipeline

/-- A frozen environment. -/
structure Snapshot where
  params : Parameters
  vars : Variables
  values : Values
deriving DecidableEq, Repr

namespace Snapshot

/-- Variables with a parameter in place of one of them. -/
def override (name : String) (value : Option String) (vars : Variables) : Variables :=
  match value with
  | some v => vars.set name v
  | none => vars

def effectiveVars (p : Parameters) (vars : Variables) : Variables :=
  override Variables.hubUser p.hubUser
    (override Variables.leaderPort p.leaderPort
      (override Variables.followerPort p.followerPort vars))

/-- The trimmed value of a variable; empty if it is not set. -/
def trimmedVar (vars : Variables) (name : String) : String :=
  Text.trimText ((vars.get? name).getD "")

/-- A name qualified by the account, if there is one. -/
def qualified (user name : String) : String := if user = "" then name else user ++ "/" ++ name

def datasetDirOf (p : Parameters) (s : Settings) : String :=
  p.datasetRoot.getD (Path.join (Path.join s.stateDir "datasets") p.dataset)

def derive (p : Parameters) (s : Settings) (vars : Variables) : Values :=
  let user := trimmedVar vars Variables.hubUser
  let policyName := p.dataset ++ "-" ++ p.policy
  [("dataset", p.dataset),
    ("repo_id", qualified user p.dataset),
    ("hf_user", user),
    ("episodes", Text.decimal p.episodes.toNat),
    ("episode_seconds", Text.decimal p.episodeSeconds.toNat),
    ("reset_seconds", Text.decimal p.resetSeconds.toNat),
    ("teleop_seconds", Text.decimal p.teleopSeconds.toNat),
    ("task", p.task),
    ("cameras", Camera.toolkitMapping p.cameras),
    ("follower_port", trimmedVar vars Variables.followerPort),
    ("leader_port", trimmedVar vars Variables.leaderPort),
    ("follower_id", p.followerId),
    ("leader_id", p.leaderId),
    ("policy", p.policy),
    ("policy_repo_id", qualified user policyName),
    ("device", p.device),
    ("steps", Text.decimal p.steps.toNat),
    ("batch_size", Text.decimal p.batchSize.toNat),
    ("eval_env", p.evalEnv),
    ("dataset_dir", datasetDirOf p s),
    ("calibration_dir", s.calibrationDir),
    ("train_output_dir",
      Path.join (Path.join (Path.join s.stateDir "outputs") "train") policyName)]

def take (p : Parameters) (s : Settings) (vars : Variables) : Snapshot :=
  let vars := effectiveVars p vars
  { params := p, vars := vars, values := derive p s vars }

/-- The value of a variable that is not blank. -/
def var? (e : Snapshot) (name : String) : Option String :=
  (e.vars.get? name).filter (fun v => !Text.isBlankText v)

def render (e : Snapshot) (template : String) : String := Template.render e.values template

/-- The argument list of a stage, the program first. -/
def arguments (e : Snapshot) (s : Stage) : List String := s.command.render e.values

def datasetDir (e : Snapshot) : String := (e.values.get? "dataset_dir").getD ""

end Snapshot

end RobotPipeline
