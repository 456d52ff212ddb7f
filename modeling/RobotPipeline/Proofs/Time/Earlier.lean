/-
  RobotPipeline/Proofs/Time/Earlier.lean
  ======================================
  **Going back by a span.**

  Apart from leap seconds an instant is a number of nanoseconds on one line
  (`sinceDayZero`), and the calendar is a stretch of this line. There `before?`
  is a subtraction that fails when it leaves the stretch (`before?_of_inCalendar`
  and `before?_of_earlier`), and `nanosSince` is the difference of two points.
-/
import RobotPipeline.Proofs.Time.Date
import RobotPipeline.Time.Instant

namespace RobotPipeline.Instant

/-- The seconds from the beginning of day 0, leap seconds not counted. -/
def secondNumber (i : Instant) : Int := i.date.dayNumber * 86400 + i.second

/-- The nanoseconds from the beginning of day 0, leap seconds not counted. -/
def sinceDayZero (i : Instant) : Int := i.secondNumber * 1000000000 + i.nanos

/-- The beginning of the calendar. -/
def earliest : Int := Date.firstDay * 86400 * 1000000000

/-- No leap second. A clock that counts the seconds since some day gives no other instants. -/
def Ordinary (i : Instant) : Prop := i.nanos < 1000000000

instance (i : Instant) : Decidable i.Ordinary :=
  inferInstanceAs (Decidable (i.nanos < 1000000000))

theorem secondNumber_inCalendar (i : Instant) :
    Date.firstDay * 86400 ≤ i.secondNumber ∧ i.secondNumber < Date.dayAfterLast * 86400 := by
  obtain ⟨hfirst, hlast⟩ := i.date.dayNumber_inCalendar
  have := i.second_lt
  unfold secondNumber
  omega

/-! ### Moving by whole seconds -/

theorem of?_of_lt (date : Date) {second nanos : Nat} (hs : second < 86400)
    (hn : nanos < 1000000000) : ∃ i, of? date second nanos = some i ∧
      i.date = date ∧ i.second = second ∧ i.nanos = nanos := by
  have bound : nanos < nanosBound second := by
    unfold nanosBound
    split <;> omega
  exact ⟨_, dif_pos ⟨hs, bound⟩, rfl, rfl, rfl⟩

/-- Where the second that is looked for lies in the calendar, it is found. -/
theorem moved?_of_inCalendar {i : Instant} {seconds : Int} {nanos : Nat}
    (hn : nanos < 1000000000) (hfirst : Date.firstDay * 86400 ≤ i.secondNumber + seconds)
    (hlast : i.secondNumber + seconds < Date.dayAfterLast * 86400) :
    ∃ s, i.moved? seconds nanos = some s ∧ s.secondNumber = i.secondNumber + seconds ∧
      s.nanos = nanos := by
  unfold secondNumber at hfirst hlast
  unfold moved?
  dsimp only
  by_cases same : ((i.second : Int) + seconds) / 86400 = 0
  · -- on the same day
    rw [if_pos same]
    have hlt : ((i.second : Int) + seconds).toNat < 86400 := by omega
    obtain ⟨s, hs, hdate, hsecond, hnanos⟩ := of?_of_lt i.date hlt hn
    refine ⟨s, hs, ?_, hnanos⟩
    rw [secondNumber, secondNumber, hdate, hsecond]
    omega
  · rw [if_neg same]
    cases found : Date.ofDayNumber?
        (i.date.dayNumber + ((i.second : Int) + seconds) / 86400) with
    | none =>
      rw [Date.ofDayNumber?_eq_none_iff] at found
      omega
    | some date =>
      have hnumber := Date.dayNumber_of_ofDayNumber? found
      have hlt : (((i.second : Int) + seconds) % 86400).toNat < 86400 := by omega
      obtain ⟨s, hs, hdate, hsecond, hnanos⟩ := of?_of_lt date hlt hn
      refine ⟨s, hs, ?_, hnanos⟩
      rw [secondNumber, secondNumber, hdate, hsecond, hnumber]
      omega

/-- Where it lies outside of the calendar, it is not. -/
theorem moved?_of_not_inCalendar {i : Instant} {seconds : Int} {nanos : Nat}
    (out : i.secondNumber + seconds < Date.firstDay * 86400 ∨
      Date.dayAfterLast * 86400 ≤ i.secondNumber + seconds) : i.moved? seconds nanos = none := by
  obtain ⟨hfirst, hlast⟩ := i.date.dayNumber_inCalendar
  unfold secondNumber at out
  have other : ¬ ((i.second : Int) + seconds) / 86400 = 0 := by omega
  have missing : Date.ofDayNumber?
      (i.date.dayNumber + ((i.second : Int) + seconds) / 86400) = none := by
    rw [Date.ofDayNumber?_eq_none_iff]
    omega
  unfold moved?
  dsimp only
  rw [if_neg other, missing]

/-! ### Going back by a span -/

section Before
variable {now : Instant} (hnow : now.Ordinary) (d : Span)
include hnow

/-- Going back by a span is a move by whole seconds, with a second borrowed where the nanoseconds
need it. -/
theorem before?_eq_moved? : ∃ (seconds : Int) (nanos : Nat),
    now.before? d = now.moved? seconds nanos ∧ nanos < 1000000000 ∧
    (now.secondNumber + seconds) * 1000000000 + nanos = now.sinceDayZero - d.toNanos := by
  have hd := d.nanos_lt
  have stays : (decide (d.seconds ≠ 0) && decide (1000000000 ≤ now.nanos)) = false := by
    rw [Bool.and_eq_false_iff]
    exact .inr (decide_eq_false (Nat.not_le.mpr hnow))
  unfold Ordinary at hnow
  unfold before? sinceDayZero Span.toNanos
  dsimp only
  rw [stays]
  by_cases borrow : d.nanos ≤ now.nanos
  · refine ⟨_, _, if_pos borrow, ?_, ?_⟩ <;> simp only [Bool.false_eq_true, if_false] <;> omega
  · refine ⟨_, _, if_neg borrow, ?_, ?_⟩ <;> simp only [Bool.false_eq_true, if_false] <;> omega

/-- What starts within the calendar starts at the point that the subtraction gives. -/
theorem before?_of_inCalendar (h : earliest ≤ now.sinceDayZero - d.toNanos) :
    ∃ start, now.before? d = some start ∧ start.Ordinary ∧
      start.sinceDayZero = now.sinceDayZero - d.toNanos := by
  obtain ⟨seconds, nanos, hmoved, hnanos, htotal⟩ := before?_eq_moved? hnow d
  have last := now.secondNumber_inCalendar.2
  unfold earliest at h
  have within : Date.firstDay * 86400 ≤ now.secondNumber + seconds := by omega
  -- going back does not leave the calendar at its end
  have notLater : now.secondNumber + seconds ≤ now.secondNumber := by
    unfold sinceDayZero Ordinary at *
    omega
  obtain ⟨start, hstart, hsecond, hn⟩ := moved?_of_inCalendar hnanos within (by omega)
  refine ⟨start, hmoved.trans hstart, ?_, ?_⟩
  · rw [Ordinary, hn]
    exact hnanos
  · rw [sinceDayZero, hsecond, hn, htotal]

theorem before?_of_earlier (h : now.sinceDayZero - d.toNanos < earliest) :
    now.before? d = none := by
  obtain ⟨seconds, nanos, hmoved, hnanos, htotal⟩ := before?_eq_moved? hnow d
  unfold earliest at h
  rw [hmoved]
  exact moved?_of_not_inCalendar (.inl (by omega))

end Before

/-! ### The distance of two instants -/

theorem nanosSince_of_ordinary {i start : Instant} (hi : i.Ordinary) (hstart : start.Ordinary) :
    i.nanosSince start = i.sinceDayZero - start.sinceDayZero := by
  unfold Ordinary at hi hstart
  have noLeap : ¬ (start.second < i.second ∧ 1000000000 ≤ start.nanos) ∧
      ¬ (i.second < start.second ∧ 1000000000 ≤ i.nanos) := by omega
  unfold nanosSince sinceDayZero secondNumber
  dsimp only
  rw [if_neg noLeap.1, if_neg noLeap.2]
  omega

end RobotPipeline.Instant
