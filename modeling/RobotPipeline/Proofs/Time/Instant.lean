/-
  RobotPipeline/Proofs/Time/Instant.lean
  ======================================
  **An instant reads back from its text.**

  Each part of the text is a number with a mark behind it that is no digit, so
  reading stops where writing did. A leap second is shown as second 60 and
  reads back as the thousand million nanoseconds that it is kept as.
-/
import Mathlib.Data.List.TakeWhile
import Mathlib.Tactic.ByContra
import RobotPipeline.Proofs.Text.Numeral
import RobotPipeline.Proofs.Time.Date
import RobotPipeline.Time.Instant

namespace RobotPipeline.Instant

open Text (digitValue? paddedDigits trimLeft valueOf)

/-! ### Digits and what follows them -/

def Ended (rest : List Char) : Prop := ∀ c ∈ rest.head?, (digitValue? c).isSome = false

theorem ended_cons {c : Char} (h : (digitValue? c).isSome = false) (rest : List Char) :
    Ended (c :: rest) := by
  simpa [Ended] using h

theorem takeWhile_digits {ds rest : List Char} (hds : ∀ c ∈ ds, (digitValue? c).isSome = true)
    (hrest : Ended rest) : (ds ++ rest).takeWhile (fun c => (digitValue? c).isSome) = ds := by
  rw [List.takeWhile_append_of_pos hds]
  cases rest with
  | nil => simp
  | cons c rest =>
    have hc := hrest c rfl
    simp [hc]

/-- Digits are read up to the character behind them, or up to the width. -/
theorem readNumber?_append {width : Nat} {ds rest : List Char} (hne : ds ≠ [])
    (hds : ∀ c ∈ ds, (digitValue? c).isSome = true) (hlen : ds.length ≤ width)
    (hrest : ds.length = width ∨ Ended rest) :
    readNumber? width (ds ++ rest) = some (valueOf ds, rest) := by
  have taken : ((ds ++ rest).take width).takeWhile (fun c => (digitValue? c).isSome) = ds := by
    rw [List.take_append, List.take_of_length_le hlen]
    rcases hrest with rfl | hrest
    · rw [Nat.sub_self, List.take_zero]
      exact takeWhile_digits hds (by simp [Ended])
    · apply takeWhile_digits hds
      intro c hc
      cases rest with
      | nil => simp at hc
      | cons d rest =>
        cases hk : width - ds.length with
        | zero => simp [hk] at hc
        | succ k =>
          rw [hk, List.take_succ_cons] at hc
          exact hrest c hc
  have nonempty : ds.isEmpty = false := by simpa using hne
  simp [readNumber?, taken, nonempty, valueOf]

theorem trimLeft_cons {c : Char} (h : Text.isBlank c = false) (rest : List Char) :
    trimLeft (c :: rest) = c :: rest := by
  simp [trimLeft, h]

theorem paddedDigits_ne_nil (width n : Nat) : paddedDigits width n ≠ [] := by
  simp [paddedDigits, Text.digits_ne_nil]

theorem trimLeft_paddedDigits (width n : Nat) (rest : List Char) :
    trimLeft (paddedDigits width n ++ rest) = paddedDigits width n ++ rest := by
  obtain ⟨c, cs, h⟩ := List.exists_cons_of_ne_nil (paddedDigits_ne_nil width n)
  have hc : (digitValue? c).isSome = true :=
    Text.isSome_digitValue?_of_mem_paddedDigits (h ▸ List.mem_cons_self)
  rw [h, List.cons_append, trimLeft_cons (Text.isBlank_of_digit hc)]

theorem readNumber?_paddedDigits {width k n : Nat} (hlen : (paddedDigits k n).length ≤ width)
    {rest : List Char} (hrest : (paddedDigits k n).length = width ∨ Ended rest) :
    readNumber? width (paddedDigits k n ++ rest) = some (n, rest) := by
  rw [readNumber?_append (paddedDigits_ne_nil k n)
    (fun c hc => Text.isSome_digitValue?_of_mem_paddedDigits hc) hlen hrest,
    Text.valueOf_paddedDigits]

/-! ### The parts of an instant -/

theorem readPart?_paddedDigits {low high n : Nat} (hlow : low ≤ n) (hhigh : n ≤ high)
    (h : n < 100) (rest : List Char) :
    readPart? low high (paddedDigits 2 n ++ rest) = some (n, rest) := by
  have hlen : (paddedDigits 2 n).length = 2 := Text.length_paddedDigits (by decide) (by simpa using h)
  rw [readPart?, trimLeft_paddedDigits, readNumber?_paddedDigits (by omega) (.inl hlen)]
  simp [hlow, hhigh]

theorem takeMark?_cons {mark : Char} (h : Text.isBlank mark = false) (rest : List Char) :
    takeMark? mark (mark :: rest) = some rest := by
  simp [takeMark?, trimLeft_cons h]

/-- What begins with a number does not begin with a sign. -/
theorem paddedDigits_append_ne_cons {c : Char} (h : (digitValue? c).isSome = false) (width n : Nat)
    (rest tail : List Char) : paddedDigits width n ++ rest ≠ c :: tail := by
  obtain ⟨d, ds, hd⟩ := List.exists_cons_of_ne_nil (paddedDigits_ne_nil width n)
  have digit : (digitValue? d).isSome = true :=
    Text.isSome_digitValue?_of_mem_paddedDigits (hd ▸ List.mem_cons_self)
  rw [hd, List.cons_append]
  intro heq
  rw [(List.cons.inj heq).1] at digit
  simp [h] at digit

theorem readYear?_yearText {year : Int} (hlow : Date.firstYear ≤ year)
    (hhigh : year ≤ Date.lastYear) {rest : List Char} (hrest : Ended rest) :
    readYear? ((yearText year).toList ++ rest) = some (year, rest) := by
  unfold Date.firstYear at hlow
  unfold Date.lastYear at hhigh
  have signed : readNumber? (paddedDigits 4 year.natAbs ++ rest).length
      (paddedDigits 4 year.natAbs ++ rest) = some (year.natAbs, rest) :=
    readNumber?_paddedDigits (by simp) (.inr hrest)
  unfold yearText
  split
  · rename_i h
    have hlen : (paddedDigits 4 year.toNat).length = 4 :=
      Text.length_paddedDigits (by decide) (by omega)
    rw [Text.toList_zeroPadded, readYear?, trimLeft_paddedDigits]
    split
    · rename_i heq
      exact absurd heq (paddedDigits_append_ne_cons (by decide) 4 _ rest _)
    · rename_i heq
      exact absurd heq (paddedDigits_append_ne_cons (by decide) 4 _ rest _)
    · rw [readNumber?_paddedDigits (by omega) (.inl hlen)]
      simp only [Option.some.injEq, Prod.mk.injEq, and_true]
      omega
  · rename_i h
    have hmax : year.natAbs ≤ maxYear := by
      unfold maxYear
      omega
    split
    · rename_i hneg
      rw [String.toList_append, Text.toList_zeroPadded]
      change readYear? ('-' :: (paddedDigits 4 year.natAbs ++ rest)) = _
      have hle : year.natAbs ≤ maxYear + 1 := by omega
      simp only [readYear?, trimLeft_cons (show Text.isBlank '-' = false by decide), signed, hle,
        if_true, Option.some.injEq, Prod.mk.injEq, and_true]
      omega
    · rename_i hpos
      rw [String.toList_append, Text.toList_zeroPadded]
      change readYear? ('+' :: (paddedDigits 4 year.natAbs ++ rest)) = _
      simp only [readYear?, trimLeft_cons (show Text.isBlank '+' = false by decide), signed, hmax,
        if_true, Option.some.injEq, Prod.mk.injEq, and_true]
      omega

/-- A fraction of three, six or nine digits stands for its nanoseconds. -/
theorem readFraction?_digits {k n : Nat} (hk : 0 < k) (hk9 : k ≤ 9) (hn : n < 10 ^ k)
    {rest : List Char} (hrest : Ended rest) :
    readFraction? ('.' :: (paddedDigits k n ++ rest)) = some (n * 10 ^ (9 - k), rest) := by
  have hlen := Text.length_paddedDigits hk hn
  have dropped : rest.dropWhile (fun c => (digitValue? c).isSome) = rest := by
    cases rest with
    | nil => rfl
    | cons c rest => simp [hrest c rfl]
  rw [readFraction?, readNumber?_paddedDigits (by omega) (.inr hrest)]
  simp only [dropped, List.length_append, hlen, Nat.add_sub_cancel, Nat.pow_eq]

theorem readFraction?_fractionText {n : Nat} (h : n < 1000000000) {c : Char} (hdot : c ≠ '.')
    (hc : (digitValue? c).isSome = false) (rest : List Char) :
    readFraction? ((fractionText n).toList ++ c :: rest) = some (n, c :: rest) := by
  have ended : Ended (c :: rest) := ended_cons hc rest
  unfold fractionText
  split
  · rename_i hzero
    subst hzero
    change readFraction? (c :: rest) = _
    rw [readFraction?.eq_2]
    intro tail heq
    exact hdot (List.cons.inj heq).1
  · have dotted : ∀ k m, ("." ++ Text.zeroPadded k m).toList ++ c :: rest =
        '.' :: (paddedDigits k m ++ c :: rest) := by
      intro k m
      rw [String.toList_append, Text.toList_zeroPadded]
      rfl
    split
    · rename_i hmilli
      have hm : n / 1000000 < 10 ^ 3 := by omega
      rw [dotted, readFraction?_digits (by decide) (by decide) hm ended]
      simp only [Option.some.injEq, Prod.mk.injEq, and_true]
      omega
    · split
      · rename_i hmicro
        have hm : n / 1000 < 10 ^ 6 := by omega
        rw [dotted, readFraction?_digits (by decide) (by decide) hm ended]
        simp only [Option.some.injEq, Prod.mk.injEq, and_true]
        omega
      · have hm : n < 10 ^ 9 := by omega
        rw [dotted, readFraction?_digits (by decide) (by decide) hm ended]
        simp

/-! ### The whole instant -/

theorem of?_self (i : Instant) : of? i.date i.second i.nanos = some i := by
  rw [of?, dif_pos ⟨i.second_lt, i.nanos_lt⟩]

theorem shift?_zero (i : Instant) : i.shift? 0 = some i := by
  have days : (i.second : Int) / 86400 = 0 := by
    have := i.second_lt
    omega
  simp [shift?, moved?, days, of?_self]

/-- The second that is shown, and what stands behind it, are those of the instant. -/
theorem of?_shown (i : Instant) :
    of? i.date (i.hour * 3600 + i.minute * 60 + min i.secondOfMinute 59)
      ((if i.secondOfMinute = 60 then 1000000000 else 0) + i.subsecond) = some i := by
  have hn := i.nanos_lt
  unfold nanosBound at hn
  have shown : i.hour * 3600 + i.minute * 60 + min i.secondOfMinute 59 = i.second ∧
      (if i.secondOfMinute = 60 then 1000000000 else 0) + i.subsecond = i.nanos := by
    unfold hour minute secondOfMinute subsecond
    by_cases hleap : 1000000000 ≤ i.nanos
    · have hlast : i.second % 60 = 59 := by
        by_contra hne
        rw [if_neg hne] at hn
        omega
      simp only [hleap, if_true, hlast]
      omega
    · have hnot : i.second % 60 ≠ 60 := by omega
      simp only [hleap, if_false, Nat.add_zero, hnot]
      omega
  rw [shown.1, shown.2, of?_self]

theorem subsecond_lt (i : Instant) : i.subsecond < 1000000000 := by
  have hn := i.nanos_lt
  unfold nanosBound at hn
  unfold subsecond
  split at hn <;> split <;> omega

theorem secondOfMinute_le (i : Instant) : i.secondOfMinute ≤ 60 := by
  unfold secondOfMinute
  split <;> omega

/-- The text of an instant, part by part. -/
theorem toList_text (i : Instant) :
    i.text.toList = (yearText i.date.year).toList ++ '-' :: (paddedDigits 2 i.date.month ++
      '-' :: (paddedDigits 2 i.date.day ++ 'T' :: (paddedDigits 2 i.hour ++
      ':' :: (paddedDigits 2 i.minute ++ ':' :: (paddedDigits 2 i.secondOfMinute ++
      ((fractionText i.subsecond).toList ++ ['Z'])))))) := by
  simp [text, localText, dateText, clockText, Text.toList_zeroPadded]

/-- Every instant, leap seconds included, reads back from its text. -/
theorem read?_text (i : Instant) : read? i.text = some i := by
  obtain ⟨hfirst, hlast, hmonth, hmonth', hday, hday'⟩ := i.date.bounds
  have hhour : i.hour ≤ 23 := by
    have := i.second_lt
    unfold hour
    omega
  have hminute : i.minute ≤ 59 := by
    unfold minute
    omega
  have dash : Text.isBlank '-' = false := by decide
  have colon : Text.isBlank ':' = false := by decide
  have offset : readOffset? (trimLeft ['Z']) = some (0, []) := by decide +kernel
  have within : ¬ 86400 ≤ (0 : Int).natAbs := by decide
  rw [read?, toList_text, bind_of_eq_some (readYear?_yearText hfirst hlast (ended_cons (by decide) _))]
  dsimp only
  rw [bind_of_eq_some (takeMark?_cons dash _),
    bind_of_eq_some (readPart?_paddedDigits hmonth hmonth' (by omega) _)]
  dsimp only
  rw [bind_of_eq_some (takeMark?_cons dash _),
    bind_of_eq_some (readPart?_paddedDigits hday hday' (by omega) _)]
  dsimp only
  rw [if_pos (.inl rfl), bind_of_eq_some rfl,
    bind_of_eq_some (readPart?_paddedDigits (Nat.zero_le _) hhour (by omega) _)]
  dsimp only
  rw [bind_of_eq_some (takeMark?_cons colon _),
    bind_of_eq_some (readPart?_paddedDigits (Nat.zero_le _) hminute (by omega) _)]
  dsimp only
  rw [bind_of_eq_some (takeMark?_cons colon _),
    bind_of_eq_some (readPart?_paddedDigits (Nat.zero_le _) i.secondOfMinute_le (by
      have := i.secondOfMinute_le
      omega) _)]
  dsimp only
  have fraction : readFraction? ((fractionText i.subsecond).toList ++ ['Z']) =
      some (i.subsecond, ['Z']) :=
    readFraction?_fractionText i.subsecond_lt (by decide) (by decide) []
  rw [bind_of_eq_some fraction]
  dsimp only
  rw [bind_of_eq_some offset]
  dsimp only
  rw [if_neg (by decide), if_neg within, bind_of_eq_some i.date.of?_self,
    bind_of_eq_some i.of?_shown, Int.neg_zero, shift?_zero]

end RobotPipeline.Instant
