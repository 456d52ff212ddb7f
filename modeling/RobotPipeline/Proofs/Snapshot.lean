/-
  RobotPipeline/Proofs/Snapshot.lean
  ==================================
  **A snapshot has the ports and the account that the operator names, else those of the variables.**

  What the operator names takes the place of one variable each, and changes no
  other. The holes of the two ports hold what the snapshot has in these
  variables, without the blanks around it.
-/
import RobotPipeline.Snapshot

namespace RobotPipeline

/-! ### Variables -/

namespace Variables

theorem get?_set_self (vars : Variables) (name value : String) :
    (vars.set name value).get? name = some value := by
  simp [get?, set]

theorem get?_set_other (vars : Variables) {name other : String} (h : other ≠ name)
    (value : String) : (vars.set name value).get? other = vars.get? other := by
  have same : ∀ v : String × String,
      (!decide (v.1 = name) && decide (v.1 = other)) = decide (v.1 = other) := by
    intro v
    by_cases hv : v.1 = other
    · simp [hv, h]
    · simp [hv]
  unfold get? set
  rw [List.reverse_append, List.reverse_singleton, List.singleton_append, List.find?_cons,
    ← List.filter_reverse, List.find?_filter]
  simp [h.symm, same]

end Variables

/-! ### What is named, and what is not -/

namespace Snapshot

variable (p : Parameters) (settings : Settings) (vars : Variables)

theorem get?_override_self (name : String) (value : Option String) :
    (override name value vars).get? name = value.or (vars.get? name) := by
  cases value with
  | none => rfl
  | some v => exact vars.get?_set_self name v

theorem get?_override_other {name other : String} (h : other ≠ name) (value : Option String) :
    (override name value vars).get? other = vars.get? other := by
  cases value with
  | none => rfl
  | some v => exact vars.get?_set_other h v

theorem get?_followerPort :
    (effectiveVars p vars).get? Variables.followerPort =
      p.followerPort.or (vars.get? Variables.followerPort) := by
  rw [effectiveVars, get?_override_other _ (by decide), get?_override_other _ (by decide),
    get?_override_self]

theorem get?_leaderPort :
    (effectiveVars p vars).get? Variables.leaderPort =
      p.leaderPort.or (vars.get? Variables.leaderPort) := by
  rw [effectiveVars, get?_override_other _ (by decide), get?_override_self,
    get?_override_other _ (by decide)]

theorem get?_hubUser :
    (effectiveVars p vars).get? Variables.hubUser =
      p.hubUser.or (vars.get? Variables.hubUser) := by
  rw [effectiveVars, get?_override_self, get?_override_other _ (by decide),
    get?_override_other _ (by decide)]

/-! ### What stands in the holes -/

theorem values_follower_port :
    (take p settings vars).values.get? "follower_port" =
      some (trimmedVar (effectiveVars p vars) Variables.followerPort) := by
  simp [take, derive, Values.get?]

theorem values_leader_port :
    (take p settings vars).values.get? "leader_port" =
      some (trimmedVar (effectiveVars p vars) Variables.leaderPort) := by
  simp [take, derive, Values.get?]

theorem values_hf_user :
    (take p settings vars).values.get? "hf_user" =
      some (trimmedVar (effectiveVars p vars) Variables.hubUser) := by
  simp [take, derive, Values.get?]

end Snapshot

end RobotPipeline
