/-
  RobotPipeline/Proofs/Readiness/Device.lean
  ==========================================
  **The port that is checked is the port that is used, but for the blanks around it.**

  The check of a port and the holes for it go back to the same variable, with
  the port among the parameters in its place if there is one. The check asks
  for the device of that name as it is given. In the arguments the blanks
  around it are taken off, so they name this device only if it has none.
-/
import RobotPipeline.Proofs.Readiness.Reported
import RobotPipeline.Proofs.Registry.Rendered
import RobotPipeline.Proofs.Snapshot

namespace RobotPipeline

/-! ### The ports of the rig -/

/-- The two arms of the rig. -/
inductive Arm where
  | follower
  | leader
deriving DecidableEq, Repr

namespace Arm

/-- The variable of the port of an arm. -/
def portVariable : Arm → String
  | follower => Variables.followerPort
  | leader => Variables.leaderPort

/-- The hole for the port of an arm. -/
def portHole : Arm → String
  | follower => "follower_port"
  | leader => "leader_port"

/-- The port of an arm, if it is among the parameters. -/
def namedPort (p : Parameters) : Arm → Option String
  | follower => p.followerPort
  | leader => p.leaderPort

/-- The port of an arm: the one among the parameters, or else the one of the variable. -/
def port? (p : Parameters) (vars : Variables) (arm : Arm) : Option String :=
  (arm.namedPort p).or (vars.get? arm.portVariable)

variable (arm : Arm) (p : Parameters) (settings : Settings) (vars : Variables)

theorem get?_portVariable :
    (Snapshot.take p settings vars).vars.get? arm.portVariable = arm.port? p vars := by
  cases arm with
  | follower => exact Snapshot.get?_followerPort p vars
  | leader => exact Snapshot.get?_leaderPort p vars

theorem values_portHole :
    (Snapshot.take p settings vars).values.get? arm.portHole =
      some (Text.trimText ((arm.port? p vars).getD "")) := by
  rw [← get?_portVariable arm p settings vars]
  cases arm with
  | follower => exact Snapshot.values_follower_port p settings vars
  | leader => exact Snapshot.values_leader_port p settings vars

end Arm

/-! ### Checked and used -/

namespace Readiness

variable {registry : Registry} {env : Snapshot} {run : Run} {tree : FileTree} {s : Stage}

/-- A device that is not reported missing is there. -/
theorem holds_of_not_mem_check {var : String} (checks : .devicePresent var ∈ s.preconditions)
    (unreported : "device:" ++ var ∉ check registry env run tree s) :
    Holds registry env run tree (.devicePresent var) := by
  by_contra fails
  apply unreported
  rw [check, List.mem_flatMap]
  refine ⟨_, checks, ?_⟩
  rw [(reports_failures _).eq_namesOf fails]
  exact List.mem_singleton_self _

/-- If a stage does not report the port of an arm, there is such a port, and a device of this name.
In the arguments of the stage every hole for the port is filled with it, without the blanks around
it. That is not empty; and the device of that name is there if no blanks have been taken off. -/
theorem used_of_checked (arm : Arm) (p : Parameters) (settings : Settings) (vars : Variables)
    (registry : Registry) (run : Run) (tree : FileTree) (s : Stage)
    (checks : .devicePresent arm.portVariable ∈ s.preconditions)
    (unreported : "device:" ++ arm.portVariable ∉
      check registry (Snapshot.take p settings vars) run tree s) :
    ∃ port, arm.port? p vars = some port ∧ Leads tree port ∧
      List.Forall₂
        (Template.Fills (Snapshot.take p settings vars).values arm.portHole (Text.trimText port))
        s.command.parts ((Snapshot.take p settings vars).arguments s) ∧
      Text.trimText port ≠ "" ∧ (Text.Bare port.toList → Leads tree (Text.trimText port)) := by
  cases holds_of_not_mem_check checks unreported with
  | @devicePresent _ port set leads =>
    have hport : arm.port? p vars = some port := by
      rw [← arm.get?_portVariable p settings vars, set.value_eq]
    have value := arm.values_portHole p settings vars
    rw [hport, Option.getD_some] at value
    refine ⟨port, hport, leads, ?_, set.trimText_ne_empty, fun bare => ?_⟩
    · rw [Snapshot.arguments, Command.render, List.forall₂_map_right_iff, List.forall₂_same]
      exact fun part _ => Template.fills_render value part
    · rwa [Text.trimText_of_bare bare]

/-! ### Samples -/

namespace Sample

def record : Stage where
  name := "record"
  ordinal := 40
  preconditions := [.devicePresent "FOLLOWER_PORT"]
  command := ⟨"record", ["--robot.port={follower_port}"]⟩

/-- The operator names the port, whatever the variable says. -/
def named : Snapshot :=
  Snapshot.take { Parameters.usual "cubes" with followerPort := some "/cam0" } settings
    [("FOLLOWER_PORT", "/cam1")]

def padded : Snapshot :=
  Snapshot.take (Parameters.usual "cubes") settings [("FOLLOWER_PORT", "port ")]

/-- The only device is one with a blank at the end of its name. -/
def blankEnd : FileTree where
  entries := [(["port "], .device)]
  here := []

end Sample

theorem used_of_checked_record :
    .devicePresent Arm.follower.portVariable ∈ Sample.record.preconditions ∧
      "device:" ++ Arm.follower.portVariable ∉
        check Registry.Sample.registry Sample.named Sample.cubes Sample.files Sample.record ∧
      Leads Sample.files (Text.trimText "/cam0") := by
  have checks : .devicePresent Arm.follower.portVariable ∈ Sample.record.preconditions := by decide
  have unreported : "device:" ++ Arm.follower.portVariable ∉
      check Registry.Sample.registry Sample.named Sample.cubes Sample.files Sample.record := by
    decide +kernel
  obtain ⟨port, hport, -, -, -, used⟩ := used_of_checked .follower
    { Parameters.usual "cubes" with followerPort := some "/cam0" } Sample.settings
    [("FOLLOWER_PORT", "/cam1")] Registry.Sample.registry Sample.cubes Sample.files Sample.record
    checks unreported
  obtain rfl : "/cam0" = port := Option.some.inj hport
  exact ⟨checks, unreported, used (Text.bare_of_forall (by simp [Text.isBlank]))⟩

/-- With a blank at its end, the port that is checked is there, and the one that is used is not. -/
theorem not_used_of_padded :
    .devicePresent Arm.follower.portVariable ∈ Sample.record.preconditions ∧
      check Registry.Sample.registry Sample.padded Sample.cubes Sample.blankEnd Sample.record = [] ∧
      Sample.padded.arguments Sample.record = ["record", "--robot.port=port"] ∧
      ¬ Leads Sample.blankEnd "port" := by
  refine ⟨by decide, by decide +kernel, by decide +kernel, ?_⟩
  rw [← pathExists_iff]
  decide +kernel

end Readiness

end RobotPipeline
