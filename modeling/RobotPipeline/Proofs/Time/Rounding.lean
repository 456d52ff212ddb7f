/-
  RobotPipeline/Proofs/Time/Rounding.lean
  =======================================
  **The tenths that a span is shown with are those nearest to it.**

  The tenths are not rounded from the span but from a binary fraction, which
  itself comes of two roundings. Each of them is off by at most 1 / 2 ^ 47
  (`abs_value_nearestBinary_sub_le`), and a span is a whole number of
  nanoseconds. So where a span does not lie halfway between two tenths, its
  fraction lies on the same side, and where it does, either tenth is as near
  (`tenths_near`).
-/
import Mathlib.Algebra.Order.Field.Basic
import Mathlib.Data.Rat.Cast.Order
import Mathlib.Tactic.Linarith
import Mathlib.Tactic.NormNum
import Mathlib.Tactic.Positivity
import Mathlib.Tactic.Ring
import RobotPipeline.Time.Span

namespace RobotPipeline.Span

/-! ### Rounding to an integer -/

/-- A quotient is rounded down or up, and never to the farther side. -/
theorem roundHalfEven_cases (a b : Nat) :
    (roundHalfEven a b = a / b ∧ 2 * (a % b) ≤ b) ∨
      (roundHalfEven a b = a / b + 1 ∧ b ≤ 2 * (a % b)) := by
  unfold roundHalfEven
  dsimp only
  split
  · exact .inl ⟨rfl, by omega⟩
  · split
    · exact .inr ⟨rfl, by omega⟩
    · split
      · exact .inl ⟨rfl, by omega⟩
      · exact .inr ⟨rfl, by omega⟩

theorem abs_roundHalfEven_sub_le {b : Nat} (hb : 0 < b) (a : Nat) :
    |(roundHalfEven a b : ℚ) - a / b| ≤ 1 / 2 := by
  have pos : (0 : ℚ) < b := by exact_mod_cast hb
  have whole : (a : ℚ) = b * (a / b : Nat) + (a % b : Nat) := by
    exact_mod_cast (Nat.div_add_mod a b).symm
  have split : (a : ℚ) / b = (a / b : Nat) + ((a % b : Nat) : ℚ) / b := by
    rw [div_eq_iff pos.ne', add_mul, div_mul_cancel₀ _ pos.ne', mul_comm]
    exact whole
  have low : (0 : ℚ) ≤ ((a % b : Nat) : ℚ) / b := by positivity
  have high : ((a % b : Nat) : ℚ) / b < 1 := by
    rw [div_lt_one pos]
    exact_mod_cast Nat.mod_lt a hb
  rw [split, abs_le]
  rcases roundHalfEven_cases a b with ⟨down, near⟩ | ⟨up, near⟩
  · have half : ((a % b : Nat) : ℚ) / b ≤ 1 / 2 := by
      have := (Nat.cast_le (α := ℚ)).mpr near
      rw [div_le_iff₀ pos]
      push_cast at this
      linarith
    rw [down]
    constructor <;> linarith
  · have half : 1 / 2 ≤ ((a % b : Nat) : ℚ) / b := by
      have := (Nat.cast_le (α := ℚ)).mpr near
      rw [le_div_iff₀ pos]
      push_cast at this
      linarith
    rw [up, Nat.cast_add, Nat.cast_one]
    constructor <;> linarith

/-! ### Rounding to a binary fraction -/

/-- The number that a binary fraction is. -/
def BinaryFraction.value (f : BinaryFraction) : ℚ := f.num / 2 ^ f.scale

/-- Fractions below 64 have at least 46 of their bits behind the point. -/
theorem exists_scale {a b : Nat} (ha : a ≠ 0) (small : a < 64 * b) :
    ∃ s, 46 ≤ s ∧ nearestBinary a b = ⟨roundHalfEven (a <<< s) b, s⟩ := by
  have bits : Nat.log2 a < Nat.log2 b + 7 := by
    rw [Nat.log2_lt ha]
    calc a < 64 * b := small
      _ < 64 * 2 ^ (Nat.log2 b + 1) := Nat.mul_lt_mul_of_pos_left Nat.lt_log2_self (by decide)
      _ = 2 ^ (Nat.log2 b + 7) := by rw [Nat.pow_add, Nat.pow_add 2 _ 7]; omega
  rw [nearestBinary, if_neg ha]
  dsimp only
  split
  · exact ⟨_, by omega, rfl⟩
  · exact ⟨_, by omega, rfl⟩

theorem abs_value_nearestBinary_sub_le {a b : Nat} (hb : 0 < b) (small : a < 64 * b) :
    |(nearestBinary a b).value - a / b| ≤ 1 / 2 ^ 47 := by
  by_cases ha : a = 0
  · subst ha
    simp [nearestBinary, BinaryFraction.value]
  · obtain ⟨s, hs, eq⟩ := exists_scale ha small
    have pos : (0 : ℚ) < 2 ^ s := by positivity
    have fine : (2 : ℚ) ^ 46 ≤ 2 ^ s := pow_le_pow_right₀ (by norm_num) hs
    have near := abs_roundHalfEven_sub_le hb (a <<< s)
    have scaled : (nearestBinary a b).value - (a : ℚ) / b =
        ((roundHalfEven (a <<< s) b : ℚ) - ((a <<< s : Nat) : ℚ) / b) / 2 ^ s := by
      rw [eq, BinaryFraction.value, Nat.shiftLeft_eq]
      push_cast
      rw [sub_div, div_div, mul_div_mul_right _ _ pos.ne']
    rw [scaled, abs_div, abs_of_pos pos, div_le_iff₀ pos]
    calc |(roundHalfEven (a <<< s) b : ℚ) - ((a <<< s : Nat) : ℚ) / b| ≤ 1 / 2 := near
      _ = 1 / 2 ^ 47 * 2 ^ 46 := by norm_num
      _ ≤ 1 / 2 ^ 47 * 2 ^ s := by gcongr

/-- Adding whole seconds to a fraction rounds once more. -/
theorem abs_value_nearestBinary_add_sub_le {s : Nat} {f : BinaryFraction} (hs : s < 60)
    (hf : f.value ≤ 2) :
    |(nearestBinary ((s <<< f.scale) + f.num) (1 <<< f.scale)).value - (s + f.value)| ≤
      1 / 2 ^ 47 := by
  have unit : 0 < 1 <<< f.scale := by simp [Nat.shiftLeft_eq]
  have fraction : (f.num : ℚ) = f.value * 2 ^ f.scale := by
    rw [BinaryFraction.value, div_mul_cancel₀ _ (by positivity)]
  have sum : (((s <<< f.scale) + f.num : Nat) : ℚ) =
      (s + f.value) * ((1 <<< f.scale : Nat) : ℚ) := by
    rw [Nat.shiftLeft_eq, Nat.shiftLeft_eq]
    push_cast
    rw [fraction, one_mul, add_mul]
  have small : (s <<< f.scale) + f.num < 64 * (1 <<< f.scale) := by
    have seconds : (s : ℚ) ≤ 59 := by exact_mod_cast Nat.le_of_lt_succ hs
    rw [← Nat.cast_lt (α := ℚ), sum]
    push_cast
    gcongr
    linarith
  have near := abs_value_nearestBinary_sub_le unit small
  rwa [sum, mul_div_cancel_right₀ _ (by exact_mod_cast unit.ne')] at near

/-! ### Spans below a minute -/

/-- The nanoseconds are the first to be rounded, by themselves. -/
theorem abs_value_nanos_sub_le (d : Span) :
    |(nearestBinary d.nanos 1000000000).value - d.nanos / 10 ^ 9| ≤ 1 / 2 ^ 47 := by
  have bound := d.nanos_lt
  have near := abs_value_nearestBinary_sub_le (a := d.nanos) (b := 1000000000) (by decide) (by omega)
  push_cast at near
  norm_num at near ⊢
  exact near

section BelowMinute

variable {d : Span}

theorem abs_value_binarySeconds_sub_le (short : d.seconds.toNat < 60) :
    |d.binarySeconds.value - d.toNanos / 10 ^ 9| ≤ 2 / 2 ^ 47 := by
  have first := abs_le.mp d.abs_value_nanos_sub_le
  have below : (d.nanos : ℚ) / 10 ^ 9 < 1 := by
    rw [div_lt_one (by norm_num)]
    exact_mod_cast d.nanos_lt
  have fraction : (nearestBinary d.nanos 1000000000).value ≤ 2 := by linarith [first.2]
  have second := abs_le.mp (abs_value_nearestBinary_add_sub_le short fraction)
  have exact : (d.toNanos : ℚ) / 10 ^ 9 = d.seconds.toNat + d.nanos / 10 ^ 9 := by
    rw [toNanos]
    push_cast
    ring
  change |(nearestBinary _ _).value - _| ≤ _
  rw [exact, abs_le]
  constructor
  · linarith [first.1, second.1]
  · linarith [first.2, second.2]

/-- The tenths are off by half of one at most, and by what the fraction is off by. -/
theorem abs_tenths_sub_le (short : d.seconds.toNat < 60) :
    |(d.tenths : ℚ) - d.toNanos / 10 ^ 8| ≤ 1 / 2 + 20 / 2 ^ 47 := by
  have fraction := abs_value_binarySeconds_sub_le short
  have rounded := abs_roundHalfEven_sub_le (b := 1 <<< d.binarySeconds.scale)
    (by simp [Nat.shiftLeft_eq]) (10 * d.binarySeconds.num)
  have scaled : ((10 * d.binarySeconds.num : Nat) : ℚ) / (1 <<< d.binarySeconds.scale : Nat) =
      10 * d.binarySeconds.value := by
    rw [BinaryFraction.value, Nat.shiftLeft_eq]
    push_cast
    rw [one_mul, mul_div_assoc]
  rw [scaled] at rounded
  change |(d.tenths : ℚ) - _| ≤ _ at rounded
  have tenfold : (d.toNanos : ℚ) / 10 ^ 8 = 10 * (d.toNanos / 10 ^ 9) := by ring
  rw [tenfold, abs_le]
  rw [abs_le] at fraction rounded
  constructor <;> linarith

/-- The tenths are off by half of one at most. -/
theorem tenths_near (short : d.seconds.toNat < 60) :
    d.tenths * 100000000 ≤ d.toNanos + 50000000 ∧
      d.toNanos ≤ d.tenths * 100000000 + 50000000 := by
  have near := abs_le.mp (abs_tenths_sub_le short)
  -- what the fraction is off by is less than a nanosecond, so on whole nanoseconds it is lost
  have low : (d.tenths : ℚ) * 100000000 < d.toNanos + 50000000 + 1 := by
    linarith [near.2]
  have high : (d.toNanos : ℚ) < d.tenths * 100000000 + 50000000 + 1 := by
    linarith [near.1]
  constructor
  · exact Nat.le_of_lt_succ (by exact_mod_cast low)
  · exact Nat.le_of_lt_succ (by exact_mod_cast high)

end BelowMinute

end RobotPipeline.Span
