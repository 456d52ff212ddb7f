/-
  RobotPipeline/Proofs/Stage/TimeLimit.lean
  =========================================
  **A time limit is the planned number of seconds, or the largest number of 64 bits.**

  The sums and the product that make a limit each end at the largest number.
  What comes out is what the plan gives without any bound, cut off once
  (`toNat_seconds`): a number that was cut off early is cut off again whatever
  is added to it, and whatever it is multiplied by but zero, which makes zero
  of both.
-/
import Mathlib.Algebra.Ring.Nat
import RobotPipeline.Stage.TimeLimit

namespace RobotPipeline

/-! ### Cut-off numbers -/

/-- A number, or the largest of 64 bits if that is smaller. -/
def cutOff (n : Nat) : Nat := min (2 ^ 64 - 1) n

theorem toNat_topWord : topWord.toNat = 2 ^ 64 - 1 := by decide

theorem cutOff_of_le {n : Nat} (h : n ≤ 2 ^ 64 - 1) : cutOff n = n := Nat.min_eq_right h

theorem cutOff_of_ge {n : Nat} (h : 2 ^ 64 - 1 ≤ n) : cutOff n = 2 ^ 64 - 1 := Nat.min_eq_left h

theorem cutOff_mono {m n : Nat} (h : m ≤ n) : cutOff m ≤ cutOff n := by
  unfold cutOff
  omega

theorem cutOff_cutOff_add (m n : Nat) : cutOff (cutOff m + n) = cutOff (m + n) := by
  unfold cutOff
  omega

theorem cutOff_cutOff_mul (m n : Nat) : cutOff (cutOff m * n) = cutOff (m * n) := by
  rcases Nat.le_total m (2 ^ 64 - 1) with hm | hm
  · rw [cutOff_of_le hm]
  · rw [cutOff_of_ge hm]
    rcases Nat.eq_zero_or_pos n with rfl | hn
    · rw [Nat.mul_zero, Nat.mul_zero]
    · have early : 2 ^ 64 - 1 ≤ (2 ^ 64 - 1) * n := Nat.le_mul_of_pos_right _ hn
      have exact : 2 ^ 64 - 1 ≤ m * n := Nat.le_trans hm (Nat.le_mul_of_pos_right _ hn)
      rw [cutOff_of_ge early, cutOff_of_ge exact]

theorem toNat_saturatingAdd (a b : UInt64) :
    (saturatingAdd a b).toNat = cutOff (a.toNat + b.toNat) := by
  unfold saturatingAdd
  rw [toNat_topWord]
  split
  · rename_i h
    rw [UInt64.toNat_add, Nat.mod_eq_of_lt (by omega), cutOff_of_le h]
  · rename_i h
    rw [toNat_topWord, cutOff_of_ge (by omega)]

theorem toNat_saturatingMul (a b : UInt64) :
    (saturatingMul a b).toNat = cutOff (a.toNat * b.toNat) := by
  unfold saturatingMul
  rw [toNat_topWord]
  split
  · rename_i h
    rw [UInt64.toNat_mul, Nat.mod_eq_of_lt (by omega), cutOff_of_le h]
  · rename_i h
    rw [toNat_topWord, cutOff_of_ge (by omega)]

/-! ### Limits -/

/-- Nothing that limits are planned with is more in the first parameters than in the second. -/
structure Parameters.PlansAtMost (p q : Parameters) : Prop where
  episodes : p.episodes ≤ q.episodes
  episodeSeconds : p.episodeSeconds ≤ q.episodeSeconds
  resetSeconds : p.resetSeconds ≤ q.resetSeconds
  teleopSeconds : p.teleopSeconds ≤ q.teleopSeconds

namespace TimeLimit

/-- The seconds of a limit as planned, however many they are. -/
def planned (p : Parameters) : TimeLimit → Nat
  | .fixed s => s.toNat
  | .recording margin =>
    (p.episodeSeconds.toNat + p.resetSeconds.toNat) * p.episodes.toNat + margin.toNat
  | .teleoperation margin => p.teleopSeconds.toNat + margin.toNat

/-- Limits of the same kind, the number in the first being at most that in the second. -/
inductive AtMost : TimeLimit → TimeLimit → Prop where
  | fixed {s s' : UInt64} (h : s ≤ s') : AtMost (.fixed s) (.fixed s')
  | recording {m m' : UInt64} (h : m ≤ m') : AtMost (.recording m) (.recording m')
  | teleoperation {m m' : UInt64} (h : m ≤ m') : AtMost (.teleoperation m) (.teleoperation m')

theorem toNat_seconds (p : Parameters) (t : TimeLimit) :
    (t.seconds p).toNat = cutOff (t.planned p) := by
  cases t with
  | fixed s =>
    exact (cutOff_of_le (Nat.le_sub_one_of_lt s.toNat_lt)).symm
  | recording margin =>
    rw [seconds, toNat_saturatingAdd, toNat_saturatingMul, toNat_saturatingAdd, cutOff_cutOff_add,
      UInt32.toNat_toUInt64, planned]
    -- the product is cut off inside the sum, and the sum of a round inside the product
    rw [← cutOff_cutOff_add, cutOff_cutOff_mul, cutOff_cutOff_add]
  | teleoperation margin => exact toNat_saturatingAdd p.teleopSeconds margin

theorem planned_mono {p q : Parameters} {t u : TimeLimit} (hp : p.PlansAtMost q)
    (ht : t.AtMost u) : t.planned p ≤ u.planned q := by
  cases ht with
  | fixed h => exact h
  | recording h =>
    have round := Nat.add_le_add hp.episodeSeconds hp.resetSeconds
    exact Nat.add_le_add (Nat.mul_le_mul round hp.episodes) h
  | teleoperation h => exact Nat.add_le_add hp.teleopSeconds h

/-- A limit is the planned number of whole seconds, cut off at the largest number of 64 bits. So it
is not lowered when any number that it is planned with is raised. -/
theorem resolve_never_wraps (p : Parameters) (t : TimeLimit) :
    (t.resolve p).seconds.toNat = min (2 ^ 64 - 1) (t.planned p) ∧ (t.resolve p).nanos = 0 ∧
      ∀ (q : Parameters) (u : TimeLimit), p.PlansAtMost q → t.AtMost u →
        (t.resolve p).toNanos ≤ (u.resolve q).toNanos := by
  refine ⟨toNat_seconds p t, rfl, fun q u hp ht => ?_⟩
  have seconds : (t.seconds p).toNat ≤ (u.seconds q).toNat := by
    rw [toNat_seconds, toNat_seconds]
    exact cutOff_mono (planned_mono hp ht)
  simp only [resolve, Span.ofSeconds, Span.toNanos, Nat.add_zero]
  exact Nat.mul_le_mul_right _ seconds

/-! ### Samples -/

namespace Sample

/-- A round takes more seconds than 64 bits can hold, but there is none. -/
def noRounds : Parameters :=
  { Parameters.usual "cubes" with episodes := 0, episodeSeconds := topWord }

/-- The same with three rounds. -/
def longRounds : Parameters := { noRounds with episodes := 3 }

end Sample

theorem resolve_never_wraps_recording :
    Sample.noRounds.PlansAtMost Sample.longRounds ∧ AtMost (.recording 120) (.recording 120) ∧
      (resolve Sample.noRounds (.recording 120)).toNanos ≤
        (resolve Sample.longRounds (.recording 120)).toNanos := by
  have plans : Sample.noRounds.PlansAtMost Sample.longRounds :=
    ⟨by decide, by decide, by decide, by decide⟩
  have margin : AtMost (.recording 120) (.recording 120) := .recording (by decide)
  exact ⟨plans, margin, (resolve_never_wraps Sample.noRounds (.recording 120)).2.2 _ _ plans margin⟩

example : resolve Sample.noRounds (.recording 120) = Span.ofSeconds 120 := by decide

example : resolve Sample.longRounds (.recording 120) = Span.ofSeconds topWord := by decide

end TimeLimit

end RobotPipeline
