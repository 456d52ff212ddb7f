/-
  RobotPipeline/Proofs/Time/Span.lean
  ===================================
  **The text of a span says how long it is.**

  `Shows` says which texts a span may have, without a word on how they are
  made: fields for hours, minutes and seconds that add up to its whole seconds,
  or below a minute a field for the nearest tenth of a second.

  Which of these is taken is decided by the whole seconds, and the tenths are
  rounded after that. So from 59.95 s on (`RoundsToMinute`) a span below a
  minute is shown with sixty seconds. All others have their text
  (`shows_text_iff`).
-/
import RobotPipeline.Proofs.Text.Numeral
import RobotPipeline.Proofs.Time.Rounding

namespace RobotPipeline.Span

open Text

/-! ### Fields -/

/-- Digits for a number, with no zero in front of other digits. -/
structure IsCount (n : Nat) (ds : List Char) : Prop where
  decimal : IsDecimal n ds
  bare : ds.head? = some '0' → ds = ['0']

/-- Two digits for a number below sixty. -/
structure IsSixtieth (n : Nat) (ds : List Char) : Prop where
  decimal : IsDecimal n ds
  two : ds.length = 2
  below : n < 60

/-- One digit. -/
structure IsTenth (n : Nat) (ds : List Char) : Prop where
  decimal : IsDecimal n ds
  one : ds.length = 1

theorem isCount_digits (n : Nat) : IsCount n (digits n) := by
  refine ⟨isDecimal_digits n, ?_⟩
  intro zero
  rcases Nat.eq_zero_or_pos n with rfl | pos
  · rfl
  · exact absurd zero (head?_digits_ne_zero pos)

theorem isSixtieth_paddedDigits {n : Nat} (below : n < 60) : IsSixtieth n (paddedDigits 2 n) :=
  ⟨isDecimal_paddedDigits 2 n, length_paddedDigits (by decide) (by omega), below⟩

theorem isTenth_digits {n : Nat} (h : n < 10) : IsTenth n (digits n) :=
  ⟨isDecimal_digits n, by rw [digits_of_lt h]; rfl⟩

/-! ### Shapes -/

/-- No number of tenths of a second is nearer to a span. -/
def IsNearestTenth (d : Span) (t : Nat) : Prop :=
  ∀ k : Nat, ((t : Int) * 100000000 - d.toNanos).natAbs ≤
    ((k : Int) * 100000000 - d.toNanos).natAbs

/-- The texts that a span may be shown as: `1h02m03s` from an hour on, `2m05s` from a minute on,
and `4.2s` below a minute. -/
inductive Shows (d : Span) : List Char → Prop where
  | hours {h m s : Nat} {hs ms ss : List Char} (long : 3600 ≤ d.seconds.toNat)
      (hour : IsCount h hs) (minute : IsSixtieth m ms) (second : IsSixtieth s ss)
      (whole : 3600 * h + 60 * m + s = d.seconds.toNat) :
      Shows d (hs ++ ['h'] ++ ms ++ ['m'] ++ ss ++ ['s'])
  | minutes {m s : Nat} {ms ss : List Char} (long : 60 ≤ d.seconds.toNat)
      (short : d.seconds.toNat < 3600) (minute : IsCount m ms) (second : IsSixtieth s ss)
      (whole : 60 * m + s = d.seconds.toNat) : Shows d (ms ++ ['m'] ++ ss ++ ['s'])
  | tenths {s t : Nat} {ss ts : List Char} (short : d.seconds.toNat < 60) (second : IsCount s ss)
      (below : s < 60) (tenth : IsTenth t ts) (nearest : d.IsNearestTenth (10 * s + t)) :
      Shows d (ss ++ ['.'] ++ ts ++ ['s'])

/-- Spans below a minute that have no nearer tenth than the whole minute. -/
def RoundsToMinute (d : Span) : Prop := 59950000000 ≤ d.toNanos ∧ d.toNanos < 60000000000

instance (d : Span) : Decidable d.RoundsToMinute := inferInstanceAs (Decidable (_ ∧ _))

/-! ### Tenths -/

section Tenths

variable {d : Span}

theorem isNearestTenth_tenths (short : d.seconds.toNat < 60) : d.IsNearestTenth d.tenths := by
  obtain ⟨low, high⟩ := tenths_near short
  intro k
  omega

theorem toNanos_lt_iff {s : Nat} : d.toNanos < s * 1000000000 ↔ d.seconds.toNat < s := by
  have := d.nanos_lt
  unfold toNanos
  omega

/-- Half a tenth below a minute both tenths are as near; the fraction lies above the middle. -/
theorem tenths_of_middle (h : d.toNanos = 59950000000) : d.tenths = 600 := by
  obtain ⟨seconds, nanos, nanos_lt⟩ := d
  change seconds.toNat * 1000000000 + nanos = 59950000000 at h
  obtain rfl : nanos = 950000000 := by omega
  have whole : seconds.toNat = (59 : UInt64).toNat := by
    rw [show (59 : UInt64).toNat = 59 from rfl]
    omega
  obtain rfl := UInt64.toNat_inj.mp whole
  have middle : (⟨59, 950000000, by decide⟩ : Span).tenths = 600 := by decide
  exact middle

theorem tenths_lt_iff (short : d.seconds.toNat < 60) : d.tenths < 600 ↔ ¬ d.RoundsToMinute := by
  obtain ⟨low, high⟩ := tenths_near short
  have bound : d.toNanos < 60000000000 := toNanos_lt_iff.mpr short
  unfold RoundsToMinute
  by_cases middle : d.toNanos = 59950000000
  · have := tenths_of_middle middle
    omega
  · omega

theorem tenths_of_roundsToMinute (h : d.RoundsToMinute) : d.tenths = 600 := by
  have short : d.seconds.toNat < 60 := toNanos_lt_iff.mp h.2
  obtain ⟨low, -⟩ := tenths_near short
  have least : ¬ d.tenths < 600 := fun few => (tenths_lt_iff short).mp few h
  have := h.2
  omega

end Tenths

/-! ### Texts -/

section Text

variable {d : Span}

theorem shows_text_of_hours (long : 3600 ≤ d.seconds.toNat) : d.Shows d.text.toList := by
  have eq : d.text.toList = digits (d.seconds.toNat / 3600) ++ ['h'] ++
      paddedDigits 2 (d.seconds.toNat % 3600 / 60) ++ ['m'] ++
      paddedDigits 2 (d.seconds.toNat % 60) ++ ['s'] := by
    simp [text, long, decimal, toList_zeroPadded]
  rw [eq]
  exact .hours long (isCount_digits _) (isSixtieth_paddedDigits (by omega))
    (isSixtieth_paddedDigits (by omega)) (by omega)

theorem shows_text_of_minutes (long : 60 ≤ d.seconds.toNat) (short : d.seconds.toNat < 3600) :
    d.Shows d.text.toList := by
  have eq : d.text.toList = digits (d.seconds.toNat / 60) ++ ['m'] ++
      paddedDigits 2 (d.seconds.toNat % 60) ++ ['s'] := by
    simp [text, long, Nat.not_le.mpr short, decimal, toList_zeroPadded]
  rw [eq]
  exact .minutes long short (isCount_digits _) (isSixtieth_paddedDigits (by omega)) (by omega)

theorem text_of_short (short : d.seconds.toNat < 60) :
    d.text = decimal (d.tenths / 10) ++ "." ++ decimal (d.tenths % 10) ++ "s" := by
  have noHour : ¬ 3600 ≤ d.seconds.toNat := by omega
  simp only [text, if_neg noHour, if_neg (Nat.not_le.mpr short)]

theorem shows_text_of_tenths (short : d.seconds.toNat < 60) (few : d.tenths < 600) :
    d.Shows d.text.toList := by
  have eq : d.text.toList = digits (d.tenths / 10) ++ ['.'] ++ digits (d.tenths % 10) ++ ['s'] := by
    simp [text_of_short short, decimal]
  have nearest : d.IsNearestTenth (10 * (d.tenths / 10) + d.tenths % 10) := by
    rw [Nat.div_add_mod]
    exact isNearestTenth_tenths short
  rw [eq]
  exact .tenths short (isCount_digits _) (by omega) (isTenth_digits (by omega)) nearest

theorem text_of_roundsToMinute (h : d.RoundsToMinute) : d.text = "60.0s" := by
  rw [text_of_short (toNanos_lt_iff.mp h.2), tenths_of_roundsToMinute h]
  decide

/-- Sixty seconds are a minute. -/
theorem not_shows_sixty (short : d.seconds.toNat < 60) : ¬ d.Shows "60.0s".toList := by
  have fields : ∀ cs, d.Shows cs → cs ≠ ['6', '0', '.', '0', 's'] := by
    intro cs shown eq
    cases shown with
    | hours long => omega
    | minutes long => omega
    | @tenths s t ss ts short second below tenth nearest =>
      have two : ss.length = 2 := by
        have len := congrArg List.length eq
        simp only [List.length_append, List.length_cons, List.length_nil, tenth.one] at len
        omega
      obtain ⟨a, b, rfl⟩ := List.length_eq_two.mp two
      obtain ⟨rfl, rfl, -⟩ : a = '6' ∧ b = '0' ∧ _ := by simpa using eq
      have sixty : valueOf ['6', '0'] = 60 := by decide
      have := second.decimal.value
      omega
  exact fun shown => fields _ shown rfl

/-- A span is shown by the fields that it has, but for those that round to the minute they are
below: these are shown as `60.0s`. -/
theorem shows_text_iff (d : Span) :
    (d.Shows d.text.toList ↔ ¬ d.RoundsToMinute) ∧ (d.RoundsToMinute → d.text = "60.0s") := by
  refine ⟨⟨?_, ?_⟩, text_of_roundsToMinute⟩
  · intro shown rounds
    rw [text_of_roundsToMinute rounds] at shown
    exact not_shows_sixty (toNanos_lt_iff.mp rounds.2) shown
  · intro below
    by_cases hour : 3600 ≤ d.seconds.toNat
    · exact shows_text_of_hours hour
    · by_cases minute : 60 ≤ d.seconds.toNat
      · exact shows_text_of_minutes minute (Nat.not_le.mp hour)
      · have short := Nat.not_le.mp minute
        exact shows_text_of_tenths short ((tenths_lt_iff short).mpr below)

end Text

/-! ### Samples -/

namespace Sample

/-- The longest span below a minute that does not round to it. -/
def underMinute : Span := ⟨59, 949999999, by decide⟩

def almostMinute : Span := ⟨59, 960000000, by decide⟩

end Sample

theorem shows_text_iff_underMinute :
    ¬ Sample.underMinute.RoundsToMinute ∧ Sample.underMinute.Shows "59.9s".toList := by
  have below : ¬ Sample.underMinute.RoundsToMinute := by decide
  have printed : Sample.underMinute.text = "59.9s" := by decide
  have shown := (shows_text_iff Sample.underMinute).1.mpr below
  rw [printed] at shown
  exact ⟨below, shown⟩

/-- Four hundredths of a second below a minute a span is shown with sixty seconds. -/
theorem not_shows_text_almostMinute :
    Sample.almostMinute.seconds.toNat < 60 ∧ Sample.almostMinute.text = "60.0s" ∧
      ¬ Sample.almostMinute.Shows Sample.almostMinute.text.toList := by
  have short : Sample.almostMinute.seconds.toNat < 60 := by decide
  have printed : Sample.almostMinute.text = "60.0s" := text_of_roundsToMinute (by decide)
  refine ⟨short, printed, ?_⟩
  rw [printed]
  exact not_shows_sixty short

end RobotPipeline.Span
