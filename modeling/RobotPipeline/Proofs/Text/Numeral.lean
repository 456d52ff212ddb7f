/-
  RobotPipeline/Proofs/Text/Numeral.lean
  ======================================
  **Decimal digits read back as the number that they were written from.**

  Within a bound, the texts that are read as a number are just the numerals of
  that number (`readNat_eq_ok_iff`): digits, as many as one likes, that stand
  for it, with or without a plus sign in front.
-/
import Mathlib.Algebra.Ring.Nat
import RobotPipeline.Text.Blank
import RobotPipeline.Text.Numeral

namespace RobotPipeline

/-- A reader goes on with what it has read. -/
theorem bind_of_eq_some {α β : Type} {read : Option α} {a : α} {next : α → Option β}
    (h : read = some a) : (read >>= next) = next a := by
  rw [h]
  rfl

namespace Text

/-- The number that a list of digits stands for. -/
def valueOf (ds : List Char) : Nat := ds.foldl (fun n c => 10 * n + (digitValue? c).getD 0) 0

theorem digitValue?_digitChar {n : Nat} (h : n < 10) : digitValue? n.digitChar = some n := by
  have all : ∀ m : Fin 10, digitValue? (Nat.digitChar m) = some m.val := by decide
  exact all ⟨n, h⟩

theorem isSome_digitValue?_iff {c : Char} :
    (digitValue? c).isSome = true ↔ '0' ≤ c ∧ c ≤ '9' := by
  unfold digitValue?
  split <;> simp_all

theorem digit_range {c : Char} (h : (digitValue? c).isSome = true) :
    48 ≤ c.toNat ∧ c.toNat ≤ 57 :=
  isSome_digitValue?_iff.mp h

theorem isBlank_of_digit {c : Char} (h : (digitValue? c).isSome = true) : isBlank c = false := by
  have range := digit_range h
  simp only [isBlank, Bool.or_eq_false_iff, Bool.and_eq_false_iff, decide_eq_false_iff_not,
    beq_eq_false_iff_ne]
  omega

theorem digits_of_lt {n : Nat} (h : n < 10) : digits n = [n.digitChar] := Nat.toDigits_of_lt_base h

theorem digits_of_le {n : Nat} (h : 10 ≤ n) :
    digits n = digits (n / 10) ++ [(n % 10).digitChar] :=
  Nat.toDigits_of_base_le (by decide) h

theorem digits_ne_nil (n : Nat) : digits n ≠ [] := Nat.toDigits_ne_nil

theorem isSome_digitValue?_of_mem_digits {n : Nat} {c : Char} (hc : c ∈ digits n) :
    (digitValue? c).isSome = true := by
  induction n using Nat.strongRecOn with
  | ind n ih =>
    by_cases h : n < 10
    · rw [digits_of_lt h, List.mem_singleton] at hc
      rw [hc, digitValue?_digitChar h]
      rfl
    · have hle : 10 ≤ n := by omega
      rw [digits_of_le hle, List.mem_append, List.mem_singleton] at hc
      rcases hc with hc | rfl
      · exact ih (n / 10) (by omega) hc
      · rw [digitValue?_digitChar (Nat.mod_lt n (by decide))]
        rfl

theorem not_mem_digits {c : Char} (h : digitValue? c = none) (n : Nat) : c ∉ digits n := by
  intro hc
  have digit := isSome_digitValue?_of_mem_digits hc
  simp [h] at digit

/-- A number above zero is written without a zero in front. -/
theorem head?_digits_ne_zero {n : Nat} (h : 0 < n) : (digits n).head? ≠ some '0' := by
  induction n using Nat.strongRecOn with
  | ind n ih =>
    by_cases hlt : n < 10
    · have all : ∀ m : Fin 10, 0 < m.val → Nat.digitChar m ≠ '0' := by decide
      rw [digits_of_lt hlt]
      simpa using all ⟨n, hlt⟩ h
    · have hle : 10 ≤ n := by omega
      have first := ih (n / 10) (by omega) (by omega)
      obtain ⟨c, cs, hcs⟩ := List.exists_cons_of_ne_nil (digits_ne_nil (n / 10))
      rw [hcs] at first
      rw [digits_of_le hle, hcs]
      exact first

theorem valueOf_append_digit (ds : List Char) {m : Nat} (h : m < 10) :
    valueOf (ds ++ [m.digitChar]) = 10 * valueOf ds + m := by
  simp [valueOf, digitValue?_digitChar h]

theorem valueOf_digits (n : Nat) : valueOf (digits n) = n := by
  induction n using Nat.strongRecOn with
  | ind n ih =>
    by_cases h : n < 10
    · have := valueOf_append_digit [] h
      rw [digits_of_lt h]
      simpa [valueOf] using this
    · have hle : 10 ≤ n := by omega
      rw [digits_of_le hle, valueOf_append_digit _ (Nat.mod_lt n (by decide)),
        ih (n / 10) (by omega)]
      omega

theorem digits_inj {n m : Nat} (h : digits n = digits m) : n = m := by
  rw [← valueOf_digits n, h, valueOf_digits]

theorem decimal_inj {n m : Nat} (h : decimal n = decimal m) : n = m :=
  digits_inj (String.ofList_injective h)

/-! ### Padding -/

/-- The characters of a number with zeros in front. -/
def paddedDigits (width n : Nat) : List Char :=
  List.replicate (width - (digits n).length) '0' ++ digits n

theorem toList_zeroPadded (width n : Nat) : (zeroPadded width n).toList = paddedDigits width n := by
  simp [zeroPadded, padLeft, decimal, paddedDigits]

theorem isSome_digitValue?_of_mem_paddedDigits {width n : Nat} {c : Char}
    (hc : c ∈ paddedDigits width n) : (digitValue? c).isSome = true := by
  rcases List.mem_append.mp hc with hc | hc
  · rw [(List.mem_replicate.mp hc).2]
    rfl
  · exact isSome_digitValue?_of_mem_digits hc

theorem valueOf_zeros_append (k : Nat) (ds : List Char) :
    valueOf (List.replicate k '0' ++ ds) = valueOf ds := by
  have zero : (digitValue? '0').getD 0 = 0 := by decide
  induction k with
  | zero => rfl
  | succ k ih =>
    rw [List.replicate_succ, List.cons_append, valueOf, List.foldl_cons, zero]
    exact ih

theorem valueOf_paddedDigits (width n : Nat) : valueOf (paddedDigits width n) = n := by
  rw [paddedDigits, valueOf_zeros_append, valueOf_digits]

/-- A number that fits is written with exactly the digits asked for. -/
theorem length_paddedDigits {width n : Nat} (hw : 0 < width) (h : n < 10 ^ width) :
    (paddedDigits width n).length = width := by
  have hle : (digits n).length ≤ width := (Nat.length_toDigits_le_iff (by decide) hw).mpr h
  rw [paddedDigits, List.length_append, List.length_replicate]
  omega

/-! ### Reading within a bound -/

/-- Decimal digits that stand for a number. -/
structure IsDecimal (n : Nat) (ds : List Char) : Prop where
  nonempty : ds ≠ []
  digits : ∀ c ∈ ds, '0' ≤ c ∧ c ≤ '9'
  value : valueOf ds = n

/-- A numeral: digits, with or without a plus sign in front. -/
inductive Numeral (n : Nat) : List Char → Prop where
  | unsigned {ds : List Char} (h : IsDecimal n ds) : Numeral n ds
  | signed {ds : List Char} (h : IsDecimal n ds) : Numeral n ('+' :: ds)

theorem isDecimal_digits (n : Nat) : IsDecimal n (digits n) :=
  ⟨digits_ne_nil n, fun _ hc => isSome_digitValue?_iff.mp (isSome_digitValue?_of_mem_digits hc),
    valueOf_digits n⟩

theorem isDecimal_paddedDigits (width n : Nat) : IsDecimal n (paddedDigits width n) := by
  refine ⟨?_, ?_, valueOf_paddedDigits width n⟩
  · intro none
    exact digits_ne_nil n (List.append_eq_nil_iff.mp none).2
  · intro c hc
    exact isSome_digitValue?_iff.mp (isSome_digitValue?_of_mem_paddedDigits hc)

theorem numeral_digits (n : Nat) : Numeral n (digits n) := .unsigned (isDecimal_digits n)

/-- A numeral has digits in it, and perhaps a plus sign. -/
theorem Numeral.mem {n : Nat} {cs : List Char} (h : Numeral n cs) {c : Char} (hc : c ∈ cs) :
    c = '+' ∨ (digitValue? c).isSome = true := by
  cases h with
  | unsigned h => exact .inr (isSome_digitValue?_iff.mpr (h.digits c hc))
  | signed h =>
    rcases List.mem_cons.mp hc with rfl | hc
    · exact .inl rfl
    · exact .inr (isSome_digitValue?_iff.mpr (h.digits c hc))

/-- The number that digits make behind a number that was read before them. -/
def valueFrom (value : Nat) (ds : List Char) : Nat :=
  ds.foldl (fun n c => 10 * n + (digitValue? c).getD 0) value

theorem le_valueFrom (value : Nat) (ds : List Char) : value ≤ valueFrom value ds := by
  induction ds generalizing value with
  | nil => exact Nat.le_refl value
  | cons c ds ih =>
    have := ih (10 * value + (digitValue? c).getD 0)
    rw [valueFrom, List.foldl_cons]
    exact Nat.le_trans (by omega) this

/-- The digits in base ten are the decimal ones. -/
theorem digitIn?_ten (c : Char) : digitIn? 10 c = digitValue? c := by
  by_cases digit : '0' ≤ c ∧ c ≤ '9'
  · have range : 48 ≤ c.toNat ∧ c.toNat ≤ 57 := digit
    simp [digitIn?, digitValue?, digit, Option.filter]
    omega
  · simp only [digitIn?, digitValue?, if_neg digit]
    split
    · simp [Option.filter]
    · split
      · simp [Option.filter]
      · rfl

/-- Reading stops at the first thing that is no digit, and as soon as the number is too large; as it
only grows, the whole number is too large then. -/
theorem readDigits_eq_ok_iff {limit value n : Nat} (hvalue : value ≤ limit) (ds : List Char) :
    readDigits 10 limit value ds = .ok n ↔
      (∀ c ∈ ds, (digitValue? c).isSome = true) ∧ valueFrom value ds = n ∧ n ≤ limit := by
  induction ds generalizing value with
  | nil =>
    simp only [readDigits, Except.ok.injEq, valueFrom, List.foldl_nil, List.not_mem_nil]
    constructor
    · rintro rfl
      exact ⟨by simp, rfl, hvalue⟩
    · exact fun h => h.2.1
  | cons c ds ih =>
    rw [readDigits, digitIn?_ten]
    cases hd : digitValue? c with
    | none => simp [hd]
    | some d =>
      have next : valueFrom value (c :: ds) = valueFrom (10 * value + d) ds := by
        simp [valueFrom, hd]
      dsimp only
      split
      · rename_i small
        rw [ih small, next]
        simp [hd]
      · rename_i large
        have := le_valueFrom (10 * value + d) ds
        rw [next]
        simp only [reduceCtorEq, false_iff]
        rintro ⟨-, rfl, hn⟩
        omega

theorem readDigits_zero_eq_ok_iff {limit n : Nat} {ds : List Char} (nonempty : ds ≠ []) :
    readDigits 10 limit 0 ds = .ok n ↔ IsDecimal n ds ∧ n ≤ limit := by
  rw [readDigits_eq_ok_iff (Nat.zero_le limit)]
  simp only [isSome_digitValue?_iff]
  constructor
  · rintro ⟨digits, value, bound⟩
    exact ⟨⟨nonempty, digits, value⟩, bound⟩
  · rintro ⟨⟨-, digits, value⟩, bound⟩
    exact ⟨digits, value, bound⟩

theorem numeral_plus_iff {n : Nat} {ds : List Char} : Numeral n ('+' :: ds) ↔ IsDecimal n ds := by
  constructor
  · intro h
    cases h with
    | unsigned h => exact absurd (h.digits '+' (by simp)) (by decide)
    | signed h => exact h
  · exact .signed

theorem numeral_iff_of_ne_plus {n : Nat} {c : Char} (h : c ≠ '+') {ds : List Char} :
    Numeral n (c :: ds) ↔ IsDecimal n (c :: ds) := by
  constructor
  · intro hn
    cases hn with
    | unsigned hn => exact hn
    | signed _ => exact absurd rfl h
  · exact .unsigned

/-- What is read as a number within a bound is a numeral of that number. -/
theorem readNat_eq_ok_iff {limit n : Nat} {cs : List Char} :
    readNat limit cs = .ok n ↔ Numeral n cs ∧ n ≤ limit := by
  cases cs with
  | nil =>
    have none : ¬ Numeral n [] := by
      intro h
      cases h with
      | unsigned h => exact h.nonempty rfl
    simp [readNat, readNatIn, none]
  | cons c ds =>
    by_cases plus : c = '+'
    · subst plus
      cases ds with
      | nil =>
        have none : ¬ IsDecimal n [] := fun h => h.nonempty rfl
        simp [readNat, readNatIn, numeral_plus_iff, none]
      | cons d ds =>
        rw [readNat, readNatIn, readDigits_zero_eq_ok_iff (by simp), numeral_plus_iff]
        simp
    · rw [readNat, readNatIn, readDigits_zero_eq_ok_iff (by simp), numeral_iff_of_ne_plus plus]
      all_goals simp [plus]

/-- What is read as a number of 32 bits is a numeral of that number. -/
theorem readWord32_eq_ok_iff {cs : List Char} {w : UInt32} :
    readWord32 cs = .ok w ↔ Numeral w.toNat cs := by
  have bound : w.toNat ≤ maxWord32 := Nat.le_of_lt_succ w.toNat_lt
  constructor
  · intro h
    cases hn : readNat maxWord32 cs with
    | error e => simp [readWord32, hn, Except.map] at h
    | ok n =>
      obtain ⟨numeral, small⟩ := readNat_eq_ok_iff.mp hn
      obtain rfl : UInt32.ofNat n = w := by simpa [readWord32, hn, Except.map] using h
      rwa [UInt32.toNat_ofNat_of_lt' (Nat.lt_succ_of_le small)]
  · intro numeral
    rw [readWord32, readNat_eq_ok_iff.mpr ⟨numeral, bound⟩, Except.map, UInt32.ofNat_toNat]

end Text

end RobotPipeline
