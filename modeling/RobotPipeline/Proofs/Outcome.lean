/-
  RobotPipeline/Proofs/Outcome.lean
  =================================
  **When an outcome can be made, and how long it says the attempt took.**

  An outcome is made at its end, so its start has to be found by going back.
  A span that is too long to go back by counts as none, but one that is short
  enough is not checked against the calendar: where it reaches back to before
  the first day, there is no outcome at all. Where there is one, its two
  instants are as far apart as the attempt was long, or coincide
  (`elapsed_of_made`).
-/
import RobotPipeline.Outcome
import RobotPipeline.Proofs.Time.Earlier

namespace RobotPipeline.Outcome

/-- The three ways to make the outcome of an attempt that ends now. -/
inductive Made (now : Instant) (stage : String) (d : Span) : Option Outcome → Prop where
  | exited (code : Int32) : Made now stage d (exited? now stage code d)
  | timedOut : Made now stage d (timedOut? now stage d)
  | cancelled : Made now stage d (cancelled? now stage d)

/-- When an attempt of a given length started that ends now, on the line of nanoseconds. -/
def startPoint (now : Instant) (d : Span) : Int := now.sinceDayZero - d.toNanos

section Made
variable {now : Instant} {stage : String} {d : Span} {made : Option Outcome}

/-- All of them stand and fall with the start. -/
theorem made_startOf (h : Made now stage d made) :
    (startOf now d = none → made = none) ∧
    ∀ start, startOf now d = some start → ∃ o, made = some o ∧ o.stage = stage ∧
      o.duration = d ∧ o.startedAt = start ∧ o.finishedAt = now := by
  cases h with
  | exited code =>
    refine ⟨fun hnone => by simp [exited?, hnone], fun start hstart => ?_⟩
    exact ⟨_, by rw [exited?, hstart]; rfl, rfl, rfl, rfl, rfl⟩
  | timedOut =>
    refine ⟨fun hnone => by simp [timedOut?, exited?, hnone], fun start hstart => ?_⟩
    exact ⟨_, by rw [timedOut?, exited?, hstart]; rfl, rfl, rfl, rfl, rfl⟩
  | cancelled =>
    refine ⟨fun hnone => by simp [cancelled?, exited?, hnone], fun start hstart => ?_⟩
    exact ⟨_, by rw [cancelled?, exited?, hstart]; rfl, rfl, rfl, rfl, rfl⟩

/-- The calendar is shorter than the longest span that an instant can be moved by. -/
theorem startPoint_lt_earliest (hnow : now.Ordinary) (long : maxShift < d.toNanos) :
    startPoint now d < Instant.earliest := by
  have late := now.secondNumber_inCalendar.2
  have hlast : Date.dayAfterLast = 95745399 := by decide
  have hfirst : Date.firstDay = -95746130 := by decide
  unfold Instant.Ordinary at hnow
  unfold maxShift at long
  unfold startPoint Instant.sinceDayZero Instant.earliest
  omega

/-- An outcome is missing where a span that an instant can be moved by reaches back to before the
calendar. Else the attempt took, by its two instants, as long as it did if the calendar has the
start, and no time if not. -/
theorem elapsed_of_made (hnow : now.Ordinary) (h : Made now stage d made) :
    (made = none ↔ d.toNanos ≤ maxShift ∧ startPoint now d < Instant.earliest) ∧
    ∀ o, made = some o → o.stage = stage ∧ o.duration = d ∧ o.finishedAt = now ∧
      o.finishedAt.nanosSince o.startedAt =
        if Instant.earliest ≤ startPoint now d then (d.toNanos : Int) else 0 := by
  obtain ⟨missing, found⟩ := made_startOf h
  by_cases long : d.toNanos ≤ maxShift
  · have start : startOf now d = now.before? d := if_pos long
    by_cases within : Instant.earliest ≤ startPoint now d
    · obtain ⟨s, hs, hordinary, hpoint⟩ := Instant.before?_of_inCalendar hnow d within
      obtain ⟨o, rfl, hstage, hduration, hstarted, hfinished⟩ := found s (start.trans hs)
      refine ⟨by simp [Int.not_lt.mpr within], fun o' ho' => ?_⟩
      obtain rfl := Option.some.inj ho'
      refine ⟨hstage, hduration, hfinished, ?_⟩
      rw [if_pos within, hfinished, hstarted, Instant.nanosSince_of_ordinary hnow hordinary, hpoint]
      omega
    · have early := Int.not_le.mp within
      obtain rfl := missing (start.trans (Instant.before?_of_earlier hnow d early))
      simp [long, early]
  · have start : startOf now d = some now := if_neg long
    have early := startPoint_lt_earliest hnow (Nat.not_le.mp long)
    obtain ⟨o, rfl, hstage, hduration, hstarted, hfinished⟩ := found now start
    refine ⟨by simp [long], fun o' ho' => ?_⟩
    obtain rfl := Option.some.inj ho'
    refine ⟨hstage, hduration, hfinished, ?_⟩
    rw [if_neg (Int.not_le.mpr early), hfinished, hstarted,
      Instant.nanosSince_of_ordinary hnow hnow, Int.sub_self]

end Made

namespace Sample

def now : Instant :=
  { date := { year := 2031, month := 5, day := 6 }, second := 25689, nanos := 123456789 }

end Sample

/-- An attempt of a quarter of a million years, which began in the calendar. -/
theorem elapsed_of_longAttempt : Sample.now.Ordinary ∧ ∃ o,
    exited? Sample.now "record" 0 (Span.ofSeconds 8000000000000) = some o ∧
      o.finishedAt.nanosSince o.startedAt = 8000000000000000000000 := by
  have hnow : Sample.now.Ordinary := by decide
  have within : Instant.earliest ≤ startPoint Sample.now (Span.ofSeconds 8000000000000) := by
    decide +kernel
  have hmade : Made Sample.now "record" (Span.ofSeconds 8000000000000)
      (exited? Sample.now "record" 0 (Span.ofSeconds 8000000000000)) := .exited 0
  obtain ⟨missing, elapsed⟩ := elapsed_of_made hnow hmade
  cases made : exited? Sample.now "record" 0 (Span.ofSeconds 8000000000000) with
  | none => exact absurd (missing.mp made).2 (Int.not_lt.mpr within)
  | some o =>
    obtain ⟨-, -, -, hns⟩ := elapsed o made
    rw [if_pos within] at hns
    exact ⟨hnow, o, rfl, hns.trans (by decide +kernel)⟩

/-- One of ten million million seconds has no outcome, though an instant can be moved by as many. -/
theorem no_outcome_of_overlongAttempt :
    Sample.now.Ordinary ∧ (Span.ofSeconds 10000000000000).toNanos ≤ maxShift ∧
    exited? Sample.now "record" 0 (Span.ofSeconds 10000000000000) = none ∧
    timedOut? Sample.now "record" (Span.ofSeconds 10000000000000) = none ∧
    cancelled? Sample.now "record" (Span.ofSeconds 10000000000000) = none := by
  decide +kernel

end RobotPipeline.Outcome
