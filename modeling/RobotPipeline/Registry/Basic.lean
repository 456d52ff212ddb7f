/-
  RobotPipeline/Registry/Basic.lean
  =================================
  **The registry: a pipeline that has been checked.**

  Stages may be declared in any order; the registry keeps them by increasing
  ordinal. It accepts a pipeline when there is a stage, when names, ordinals
  and artifacts are unique, when every command names a program and every hole
  is known, and when every artifact a stage depends on is produced by an
  earlier stage. So the stages can be run from front to back.

  A value of type `Registry` carries the proof that its stages passed.
-/
import RobotPipeline.Registry.Error
import RobotPipeline.Stage.Declaration

namespace RobotPipeline

/-- The names that a hole may have. -/
def holeNames : List String :=
  ["dataset", "repo_id", "hf_user", "episodes", "episode_seconds", "reset_seconds",
    "teleop_seconds", "task", "cameras", "follower_port", "leader_port", "follower_id",
    "leader_id", "policy", "policy_repo_id", "device", "steps", "batch_size", "eval_env",
    "dataset_dir", "calibration_dir", "train_output_dir"]

namespace Registry

/-! ### The check -/

def produces (s : Stage) (artifact : String) : Bool := s.produces.any (fun a => a.name = artifact)

/-- Checks one stage against the stages before it (the nearest first). -/
def checkStage (before : List Stage) (s : Stage) : Except RegistryError Unit :=
  if before.any (fun b => b.name = s.name) then .error (.duplicateStage s.name)
  else
    match before.head?.filter (fun b => b.ordinal = s.ordinal) with
    | some b => .error (.duplicateOrdinal s.ordinal b.name s.name)
    | none =>
      if Text.isBlankText s.command.program then .error (.emptyCommand s.name)
      else
        match s.holes.find? (fun hole => hole ∉ holeNames) with
        | some hole => .error (.unknownHole s.name hole)
        | none => .ok ()

/-- Checks each stage by itself, in order. -/
def checkStages (before : List Stage) : List Stage → Except RegistryError Unit
  | [] => .ok ()
  | s :: rest => do
    checkStage before s
    checkStages (s :: before) rest

/-- Checks the artifacts of one stage against those made so far, each with its stage; gives what
is made then. -/
def checkArtifacts (made : List (String × String)) (stage : String) :
    List Artifact → Except RegistryError (List (String × String))
  | [] => .ok made
  | a :: rest =>
    match made.find? (fun m => m.1 = a.name) with
    | some m => .error (.duplicateArtifact a.name m.2 stage)
    | none => checkArtifacts ((a.name, stage) :: made) stage rest

/-- Checks that no artifact is produced twice. -/
def checkProducts (made : List (String × String)) : List Stage → Except RegistryError Unit
  | [] => .ok ()
  | s :: rest => do
    let made ← checkArtifacts made s.name s.produces
    checkProducts made rest

/-- Checks what one stage depends on: `before` it there must be a producer. -/
def checkDependency (before : List Stage) (s : Stage) (after : List Stage) (artifact : String) :
    Except RegistryError Unit :=
  if before.any (produces · artifact) then .ok ()
  else
    match (s :: after).find? (produces · artifact) with
    | some producer => .error (.forwardReference s.name artifact producer.name)
    | none => .error (.unknownArtifact s.name artifact)

def checkDependencies (before : List Stage) : List Stage → Except RegistryError Unit
  | [] => .ok ()
  | s :: rest => do
    s.dependencies.forM (checkDependency before s rest)
    checkDependencies (before ++ [s]) rest

def check (stages : List Stage) : Except RegistryError Unit := do
  checkStages [] stages
  checkProducts [] stages
  checkDependencies [] stages

/-- The order of the pipeline. -/
def before (a b : Stage) : Bool := a.ordinal ≤ b.ordinal

end Registry

/-! ### The registry -/

/-- Stages in pipeline order that have passed the check. -/
structure Registry where
  stages : List Stage
  nonempty : stages ≠ []
  sorted : stages.Pairwise (fun a b => Registry.before a b = true)
  checked : Registry.check stages = .ok ()
deriving DecidableEq, Repr

namespace Registry

theorem pairwise_mergeSort (declared : List Stage) :
    (declared.mergeSort before).Pairwise (fun a b => before a b = true) :=
  List.pairwise_mergeSort
    (fun a b c => by simp only [before, decide_eq_true_eq]; exact UInt32.le_trans)
    (fun a b => by
      simp only [before, Bool.or_eq_true, decide_eq_true_eq]; exact UInt32.le_total ..)
    declared

/-- The registry of declared stages, in any order. -/
def ofStages (declared : List Stage) : Except RegistryError Registry :=
  if hn : declared = [] then .error .empty
  else
    match h : check (declared.mergeSort before) with
    | .error e => .error e
    | .ok () =>
      .ok {
        stages := declared.mergeSort before
        nonempty := fun e => hn (by
          have hl := congrArg List.length e
          rw [List.length_mergeSort] at hl
          exact List.eq_nil_of_length_eq_zero hl)
        sorted := pairwise_mergeSort declared
        checked := h }

/-- The names of the stages, in order. -/
def names (r : Registry) : List String := r.stages.map (·.name)

def stage? (r : Registry) (name : String) : Option Stage :=
  r.stages.find? (fun s => s.name = name)

/-- The stage with a name, or the error that there is none. -/
def getStage (r : Registry) (name : String) : Except RegistryError Stage :=
  match r.stage? name with
  | some s => .ok s
  | none => .error (.unknownStage name)

/-- The place of a stage in the pipeline, from 0. -/
def position? (r : Registry) (name : String) : Option Nat :=
  r.stages.findIdx? (fun s => s.name = name)

def producer? (r : Registry) (artifact : String) : Option Stage :=
  r.stages.find? (produces · artifact)

def artifact? (r : Registry) (name : String) : Option Artifact :=
  (r.producer? name).bind fun s => s.produces.find? (fun a => a.name = name)

end Registry

end RobotPipeline
