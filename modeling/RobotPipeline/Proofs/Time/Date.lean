/-
  RobotPipeline/Proofs/Time/Date.lean
  ===================================
  **The date that is found for a number has this number.**

  Taking off whole periods of 400, 100, 4 and 1 years leaves a day of one
  year (`exists_yearAndDay`), and going through the lengths of the months
  leaves a day of one month (`monthAndDay_spec`). So a date is found for every
  number from the first day of the calendar to the last, and for no other.
-/
import Mathlib.Algebra.Ring.Nat
import Mathlib.Tactic.ByContra
import RobotPipeline.Time.Date

namespace RobotPipeline.Date

/-! ### Years -/

def yearLength (leap : Bool) : Nat := if leap then 366 else 365

/-- Years by the periods that make them up: the number of days before one. -/
theorem daysBeforeYear_periods (p : Int) {c q y : Int} (hc : 0 ≤ c ∧ c ≤ 3) (hq : 0 ≤ q ∧ q ≤ 24)
    (hy : 0 ≤ y ∧ y ≤ 3) :
    daysBeforeYear (400 * p + 100 * c + 4 * q + y + 1) =
      146097 * p + 36524 * c + 1461 * q + 365 * y := by
  unfold daysBeforeYear
  omega

/-- The last year of four is a leap year, but for a hundredth year that is no four hundredth. -/
theorem isLeap_periods (p : Int) {c q y : Int} (hc : 0 ≤ c ∧ c ≤ 3) (hq : 0 ≤ q ∧ q ≤ 24)
    (hy : 0 ≤ y ∧ y ≤ 3) :
    isLeap (400 * p + 100 * c + 4 * q + y + 1) = true ↔ y = 3 ∧ (q ≠ 24 ∨ c = 3) := by
  simp only [isLeap, ne_eq, Bool.and_eq_true, Bool.or_eq_true, decide_eq_true_eq]
  omega

theorem daysBeforeYear_succ (year : Int) :
    daysBeforeYear (year + 1) = daysBeforeYear year + yearLength (isLeap year) := by
  unfold yearLength
  cases h : isLeap year with
  | true =>
    simp only [isLeap, ne_eq, Bool.and_eq_true, Bool.or_eq_true, decide_eq_true_eq] at h
    unfold daysBeforeYear
    simp only [if_true]
    omega
  | false =>
    simp only [isLeap, ne_eq, Bool.and_eq_false_iff, Bool.or_eq_false_iff, decide_eq_false_iff_not,
      Decidable.not_not] at h
    unfold daysBeforeYear
    simp only [Bool.false_eq_true, if_false]
    omega

theorem daysBeforeYear_mono {year year' : Int} (h : year ≤ year') :
    daysBeforeYear year ≤ daysBeforeYear year' := by
  rcases Int.lt_or_eq_of_le h with hlt | rfl
  · unfold daysBeforeYear
    omega
  · exact Int.le_refl _

/-! ### Months -/

/-- The day of a year that is `n` days after its first one, by month and day of the month. -/
theorem monthAndDay_spec (month : Nat) {lengths : List Nat} {n : Nat} (h : n < lengths.sum) :
    ∃ i, ∃ hi : i < lengths.length, (monthAndDay month lengths n).1 = month + i ∧
      (lengths.take i).sum + (monthAndDay month lengths n).2 = n + 1 ∧
      1 ≤ (monthAndDay month lengths n).2 ∧ (monthAndDay month lengths n).2 ≤ lengths[i] := by
  induction lengths generalizing month n with
  | nil => simp at h
  | cons length rest ih =>
    rw [List.sum_cons] at h
    cases rest with
    | nil =>
      refine ⟨0, by simp, rfl, ?_⟩
      simp only [List.sum_nil, Nat.add_zero] at h
      simp only [monthAndDay, List.take_zero, List.sum_nil, List.getElem_cons_zero]
      omega
    | cons next rest =>
      by_cases hn : n < length
      · refine ⟨0, by simp, ?_⟩
        rw [monthAndDay.eq_3 _ _ _ _ (by simp), if_pos hn]
        simp only [List.take_zero, List.sum_nil, List.getElem_cons_zero]
        omega
      · obtain ⟨i, hi, hmonth, hsum, hlow, hhigh⟩ := ih (month + 1) (n := n - length) (by omega)
        refine ⟨i + 1, by simpa using hi, ?_⟩
        rw [monthAndDay.eq_3 _ _ _ _ (by simp), if_neg hn, List.take_succ_cons, List.sum_cons,
          List.getElem_cons_succ]
        exact ⟨by omega, by omega, hlow, hhigh⟩

theorem sum_monthLengths (leap : Bool) : (monthLengths leap).sum = yearLength leap := by
  cases leap <;> rfl

theorem daysBeforeMonth_succ (leap : Bool) (i : Nat) :
    daysBeforeMonth leap (i + 1) = ((monthLengths leap).take i).sum := by
  rw [daysBeforeMonth, Nat.add_sub_cancel, List.sum_eq_foldl]

theorem monthLength_succ (leap : Bool) {i : Nat} (hi : i < (monthLengths leap).length) :
    monthLength leap (i + 1) = (monthLengths leap)[i] := by
  rw [monthLength, if_neg (by omega), Nat.add_sub_cancel, List.getD_eq_getElem?_getD,
    List.getElem?_eq_getElem hi, Option.getD_some]

/-- Only the twelve months have days, and none has more than 31. -/
theorem monthLength_bounds {leap : Bool} {month : Nat} (h : 0 < monthLength leap month) :
    1 ≤ month ∧ month ≤ 12 ∧ monthLength leap month ≤ 31 := by
  have short : ∀ (leap : Bool) (m : Fin 13), monthLength leap m ≤ 31 := by decide
  have hlow : 1 ≤ month := by
    rcases Nat.eq_zero_or_pos month with rfl | hpos
    · simp [monthLength] at h
    · exact hpos
  have hhigh : month ≤ 12 := by
    by_contra hgt
    have none : monthLength leap month = 0 := by
      have hlen : (monthLengths leap).length ≤ month - 1 := by
        simp only [monthLengths, List.length_cons, List.length_nil]
        omega
      rw [monthLength, if_neg (by omega), List.getD_eq_getElem?_getD,
        List.getElem?_eq_none hlen]
      rfl
    omega
  exact ⟨hlow, hhigh, short leap ⟨month, by omega⟩⟩

/-! ### Dates -/

theorem inCalendar_iff {year : Int} {month day : Nat} :
    inCalendar year month day = true ↔ firstYear ≤ year ∧ year ≤ lastYear ∧ 1 ≤ day ∧
      day ≤ monthLength (isLeap year) month := by
  simp [inCalendar, and_assoc]

theorem of?_self (d : Date) : of? d.year d.month d.day = some d := by
  rw [of?, dif_pos d.valid]

theorem bounds (d : Date) :
    firstYear ≤ d.year ∧ d.year ≤ lastYear ∧ 1 ≤ d.month ∧ d.month ≤ 12 ∧ 1 ≤ d.day ∧
      d.day ≤ 31 := by
  obtain ⟨hfirst, hlast, hday, hlen⟩ := inCalendar_iff.mp d.valid
  obtain ⟨hlow, hhigh, h31⟩ := monthLength_bounds (Nat.lt_of_lt_of_le hday hlen)
  exact ⟨hfirst, hlast, hlow, hhigh, hday, by omega⟩

/-- A date lies in its year. -/
theorem dayNumber_bounds (d : Date) :
    daysBeforeYear d.year ≤ d.dayNumber ∧ d.dayNumber < daysBeforeYear (d.year + 1) := by
  obtain ⟨-, -, -, hmonth, -, -⟩ := d.bounds
  obtain ⟨-, -, hday, hlength⟩ := inCalendar_iff.mp d.valid
  have fits : ∀ (leap : Bool) (m : Fin 13),
      daysBeforeMonth leap m + monthLength leap m ≤ yearLength leap := by decide
  have : daysBeforeMonth (isLeap d.year) d.month + monthLength (isLeap d.year) d.month ≤
      yearLength (isLeap d.year) := fits _ ⟨d.month, by omega⟩
  rw [daysBeforeYear_succ, dayNumber]
  omega

/-- The first day of the calendar, and the first day after it. -/
def firstDay : Int := daysBeforeYear firstYear
def dayAfterLast : Int := daysBeforeYear (lastYear + 1)

theorem dayNumber_inCalendar (d : Date) : firstDay ≤ d.dayNumber ∧ d.dayNumber < dayAfterLast := by
  obtain ⟨hfirst, hlast, -⟩ := inCalendar_iff.mp d.valid
  obtain ⟨hlow, hhigh⟩ := d.dayNumber_bounds
  exact ⟨Int.le_trans (daysBeforeYear_mono hfirst) hlow,
    Int.lt_of_lt_of_le hhigh (daysBeforeYear_mono (by omega))⟩

/-! ### From numbers to dates -/

/-- A number stands for a day of a year, counted from 0; this is where the date is looked for. -/
theorem exists_yearAndDay (n : Int) :
    ∃ (year : Int) (k : Nat), daysBeforeYear year + k = n ∧ k < yearLength (isLeap year) ∧
      ofDayNumber? n = of? year (monthAndDay 1 (monthLengths (isLeap year)) k).1
        (monthAndDay 1 (monthLengths (isLeap year)) k).2 := by
  let r := n % 146097
  let c := min 3 (r / 36524)
  let q := (r - c * 36524) / 1461
  let r' := (r - c * 36524) % 1461
  let y := min 3 (r' / 365)
  have hr : 0 ≤ r ∧ r < 146097 ∧ 146097 * (n / 146097) + r = n := by omega
  have hc : 0 ≤ c ∧ c ≤ 3 ∧ 36524 * c ≤ r ∧ (r < 36524 * c + 36524 ∨ c = 3) := by omega
  have hq : 0 ≤ q ∧ q ≤ 24 ∧ 36524 * c + 1461 * q + r' = r ∧ 0 ≤ r' ∧ r' < 1461 := by omega
  have hy : 0 ≤ y ∧ y ≤ 3 ∧ 365 * y ≤ r' ∧ (r' < 365 * y + 365 ∨ y = 3) := by omega
  refine ⟨400 * (n / 146097) + 100 * c + 4 * q + y + 1, (r' - y * 365).toNat, ?_, ?_, rfl⟩
  · rw [daysBeforeYear_periods _ ⟨hc.1, hc.2.1⟩ ⟨hq.1, hq.2.1⟩ ⟨hy.1, hy.2.1⟩]
    omega
  · have leap := isLeap_periods (n / 146097) ⟨hc.1, hc.2.1⟩ ⟨hq.1, hq.2.1⟩ ⟨hy.1, hy.2.1⟩
    unfold yearLength
    split
    · omega
    · rename_i hleap
      rw [leap] at hleap
      omega

/-- A date is found for the numbers of the calendar, and no other. -/
theorem ofDayNumber?_eq_none_iff {n : Int} :
    ofDayNumber? n = none ↔ n < firstDay ∨ dayAfterLast ≤ n := by
  obtain ⟨year, k, hn, hk, heq⟩ := exists_yearAndDay n
  obtain ⟨i, hi, hmonth, -, hlow, hhigh⟩ :=
    monthAndDay_spec 1 (by rwa [sum_monthLengths (isLeap year)])
  have hlength := monthLength_succ (isLeap year) hi
  rw [heq, of?, dite_eq_right_iff]
  simp only [reduceCtorEq, imp_false, inCalendar_iff, hmonth, Nat.add_comm 1 i, hlength]
  have next := daysBeforeYear_succ year
  unfold firstDay dayAfterLast
  constructor
  · intro out
    rcases Int.lt_or_le year firstYear with hyear | hyear
    · have := daysBeforeYear_mono (show year + 1 ≤ firstYear by omega)
      omega
    · have hlast : lastYear < year := by
        rcases Int.lt_or_le lastYear year with h | h
        · exact h
        · exact absurd ⟨hyear, h, hlow, hhigh⟩ out
      have := daysBeforeYear_mono (show lastYear + 1 ≤ year by omega)
      omega
  · rintro out ⟨hfirst, hlast, -, -⟩
    have low := daysBeforeYear_mono hfirst
    have high := daysBeforeYear_mono (show year + 1 ≤ lastYear + 1 by omega)
    omega

theorem dayNumber_of_ofDayNumber? {n : Int} {d : Date} (h : ofDayNumber? n = some d) :
    d.dayNumber = n := by
  obtain ⟨year, k, hn, hk, heq⟩ := exists_yearAndDay n
  obtain ⟨i, hi, hmonth, hsum, -, -⟩ :=
    monthAndDay_spec 1 (by rwa [sum_monthLengths (isLeap year)])
  rw [heq, of?] at h
  split at h
  · obtain rfl := Option.some.inj h
    rw [dayNumber]
    simp only [hmonth, Nat.add_comm 1 i, daysBeforeMonth_succ]
    omega
  · cases h

end RobotPipeline.Date
