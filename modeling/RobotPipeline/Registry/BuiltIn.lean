/-
  RobotPipeline/Registry/BuiltIn.lean
  ===================================
  **The built-in pipeline of a leader and a follower arm.**

  Each stage hands its work to one command-line tool; the robot moves only
  inside these tools. The stages `diagnose`, `replay`, `train` and `evaluate`
  run only when asked for.
-/
import RobotPipeline.Registry.Basic
import RobotPipeline.Variable

namespace RobotPipeline.Registry.BuiltIn

open Precondition

def followerType : String := "so101_follower"
def leaderType : String := "so101_leader"
def diagnosticTool : String := "wrist_roll_diagnostic.py"

def followerArgs : List String :=
  ["--robot.type=" ++ followerType, "--robot.port={follower_port}", "--robot.id={follower_id}"]

def leaderArgs : List String :=
  ["--teleop.type=" ++ leaderType, "--teleop.port={leader_port}", "--teleop.id={leader_id}"]

def cameraArgs : List String := ["--robot.cameras={cameras}"]

def followerSet : Precondition := .variableSet Variables.followerPort
def leaderSet : Precondition := .variableSet Variables.leaderPort
def followerPresent : Precondition := .devicePresent Variables.followerPort
def leaderPresent : Precondition := .devicePresent Variables.leaderPort
def followerCalibrated : Precondition := .artifact "follower-calibration"
def leaderCalibrated : Precondition := .artifact "leader-calibration"

/-- Where training leaves the policy. -/
def policyPath : String := "{train_output_dir}/checkpoints/last/pretrained_model"

def discover : Stage where
  name := "discover"
  ordinal := 1
  description := "Confirm both arms and every camera are attached"
  preconditions :=
    [.commandAvailable "lerobot-find-cameras", followerSet, leaderSet, followerPresent,
      leaderPresent, .camerasPresent]
  command := ⟨"lerobot-find-cameras", ["opencv"]⟩
  skippable := true
  timeLimit := some (.fixed 120)

def calibrateFollower : Stage where
  name := "calibrate-follower"
  ordinal := 2
  description := "Calibrate the follower arm joint ranges"
  preconditions := [.commandAvailable "lerobot-calibrate", followerSet, followerPresent]
  command := ⟨"lerobot-calibrate", followerArgs⟩
  produces :=
    [⟨"follower-calibration",
      some ("{calibration_dir}/robots/" ++ followerType ++ "/{follower_id}.json")⟩]
  interactive := true
  skippable := true

def calibrateLeader : Stage where
  name := "calibrate-leader"
  ordinal := 3
  description := "Calibrate the leader arm joint ranges"
  preconditions := [.commandAvailable "lerobot-calibrate", leaderSet, leaderPresent]
  command := ⟨"lerobot-calibrate", leaderArgs⟩
  produces :=
    [⟨"leader-calibration",
      some ("{calibration_dir}/teleoperators/" ++ leaderType ++ "/{leader_id}.json")⟩]
  interactive := true
  skippable := true

def diagnose : Stage where
  name := "diagnose"
  ordinal := 4
  description := "Exercise the follower wrist-roll motor and report its registers"
  preconditions := [.commandAvailable diagnosticTool, followerPresent, followerCalibrated]
  command := ⟨diagnosticTool, ["--port={follower_port}", "--motor-id=5"]⟩
  skippable := true
  optional := true
  timeLimit := some (.fixed 300)

def teleoperate : Stage where
  name := "teleoperate"
  ordinal := 5
  description := "Drive the follower from the leader to verify the setup"
  preconditions :=
    [.commandAvailable "lerobot-teleoperate", followerPresent, leaderPresent, .camerasPresent,
      followerCalibrated, leaderCalibrated]
  command :=
    ⟨"lerobot-teleoperate",
      followerArgs ++ cameraArgs ++ leaderArgs
        ++ ["--display_data=false", "--teleop_time_s={teleop_seconds}"]⟩
  skippable := true
  timeLimit := some (.teleoperation 30)

def record : Stage where
  name := "record"
  ordinal := 6
  description := "Record teleoperated episodes into a local dataset"
  preconditions :=
    [.commandAvailable "lerobot-record", followerPresent, leaderPresent, .camerasPresent,
      followerCalibrated, leaderCalibrated]
  command :=
    ⟨"lerobot-record",
      followerArgs ++ cameraArgs ++ leaderArgs
        ++ ["--display_data=false", "--dataset.repo_id={repo_id}",
          "--dataset.root={dataset_dir}", "--dataset.num_episodes={episodes}",
          "--dataset.episode_time_s={episode_seconds}",
          "--dataset.reset_time_s={reset_seconds}", "--dataset.single_task={task}",
          "--dataset.push_to_hub=false"]⟩
  produces := [⟨"dataset", some "{dataset_dir}"⟩]
  timeLimit := some (.recording 120)

def upload : Stage where
  name := "upload"
  ordinal := 7
  description := "Upload the recorded dataset to the Hugging Face Hub"
  preconditions :=
    [.commandAvailable "huggingface-cli", .variableSet Variables.hubUser, .artifact "dataset"]
  command :=
    ⟨"huggingface-cli", ["upload", "{repo_id}", "{dataset_dir}", "--repo-type=dataset"]⟩
  produces := [⟨"hub-dataset", none⟩]
  timeLimit := some (.fixed 1800)

def replay : Stage where
  name := "replay"
  ordinal := 8
  description := "Replay the first recorded episode on the follower"
  preconditions :=
    [.commandAvailable "lerobot-replay", followerPresent, followerCalibrated, .artifact "dataset"]
  command :=
    ⟨"lerobot-replay",
      followerArgs
        ++ ["--dataset.repo_id={repo_id}", "--dataset.root={dataset_dir}",
          "--dataset.episode=0"]⟩
  skippable := true
  optional := true
  timeLimit := some (.recording 60)

def train : Stage where
  name := "train"
  ordinal := 9
  description := "Train a policy on the uploaded dataset"
  preconditions := [.commandAvailable "lerobot-train", .artifact "hub-dataset"]
  command :=
    ⟨"lerobot-train",
      ["--policy.type={policy}", "--policy.device={device}", "--dataset.repo_id={repo_id}",
        "--batch_size={batch_size}", "--steps={steps}", "--output_dir={train_output_dir}",
        "--policy.push_to_hub=true", "--policy.repo_id={policy_repo_id}"]⟩
  produces := [⟨"policy", some policyPath⟩]
  skippable := true
  optional := true

def evaluate : Stage where
  name := "evaluate"
  ordinal := 10
  description := "Evaluate the last training checkpoint in simulation"
  preconditions := [.commandAvailable "lerobot-eval", .artifact "policy"]
  command :=
    ⟨"lerobot-eval",
      ["--policy.path=" ++ policyPath, "--policy.device={device}", "--env.type={eval_env}",
        "--env.episode_length=200", "--eval.n_episodes=10", "--eval.batch_size=1"]⟩
  skippable := true
  optional := true

def stages : List Stage :=
  [discover, calibrateFollower, calibrateLeader, diagnose, teleoperate, record, upload, replay,
    train, evaluate]

end RobotPipeline.Registry.BuiltIn

namespace RobotPipeline.Registry

def builtIn : Except RegistryError Registry := ofStages BuiltIn.stages

end RobotPipeline.Registry
