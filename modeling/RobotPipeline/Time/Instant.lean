/-
  RobotPipeline/Time/Instant.lean
  ===============================
  **Instants of universal time: reading, writing, distance.**

  An instant is a date, a second of that day and a number of nanoseconds. A
  leap second is the second before it with a thousand million nanoseconds or
  more.

  The written form is that of RFC 3339 with `Z`, and a fraction of three, six
  or nine digits where one is needed. Reading is more generous: a fraction of
  any length, an offset from universal time, lower-case letters, a space for
  the `T`, and blanks between the parts.
-/
import RobotPipeline.Time.Date
import RobotPipeline.Time.Span
import RobotPipeline.Text.Blank

namespace RobotPipeline

namespace Instant

/-- The nanoseconds that a second of the day may have: the last second of a minute may be followed
by a leap second. -/
def nanosBound (second : Nat) : Nat := if second % 60 = 59 then 2000000000 else 1000000000

end Instant

/-- An instant of universal time. -/
structure Instant where
  date : Date
  /-- The second of the day. -/
  second : Nat
  nanos : Nat
  second_lt : second < 86400 := by decide
  nanos_lt : nanos < Instant.nanosBound second := by decide
deriving DecidableEq, Repr

namespace Instant

/-- The instant with the given parts, if there is one. -/
def of? (date : Date) (second nanos : Nat) : Option Instant :=
  if h : second < 86400 ∧ nanos < nanosBound second then some ⟨date, second, nanos, h.1, h.2⟩
  else none

/-! ### Writing -/

/-- A year: four digits where they suffice, else a sign and at least four digits. -/
def yearText (year : Int) : String :=
  if 0 ≤ year ∧ year ≤ 9999 then Text.zeroPadded 4 year.toNat
  else (if year < 0 then "-" else "+") ++ Text.zeroPadded 4 year.natAbs

def hour (i : Instant) : Nat := i.second / 3600
def minute (i : Instant) : Nat := i.second % 3600 / 60

/-- The second of the minute; 60 in a leap second. -/
def secondOfMinute (i : Instant) : Nat :=
  i.second % 60 + (if 1000000000 ≤ i.nanos then 1 else 0)

/-- The nanoseconds of the second that is shown. -/
def subsecond (i : Instant) : Nat :=
  if 1000000000 ≤ i.nanos then i.nanos - 1000000000 else i.nanos

/-- A fraction with as many groups of three digits as it needs. -/
def fractionText (n : Nat) : String :=
  if n = 0 then ""
  else if n % 1000000 = 0 then "." ++ Text.zeroPadded 3 (n / 1000000)
  else if n % 1000 = 0 then "." ++ Text.zeroPadded 6 (n / 1000)
  else "." ++ Text.zeroPadded 9 n

/-- Hours, minutes and seconds around a separator. -/
def clockText (separator : String) (i : Instant) : String :=
  Text.zeroPadded 2 i.hour ++ separator ++ Text.zeroPadded 2 i.minute ++ separator
    ++ Text.zeroPadded 2 i.secondOfMinute

/-- Year, month and day around a separator. -/
def dateText (separator : String) (d : Date) : String :=
  yearText d.year ++ separator ++ Text.zeroPadded 2 d.month ++ separator ++ Text.zeroPadded 2 d.day

/-- Date and time of day, with a fraction. -/
def localText (i : Instant) : String :=
  dateText "-" i.date ++ "T" ++ clockText ":" i ++ fractionText i.subsecond

/-- The form kept in ledgers. -/
def text (i : Instant) : String := i.localText ++ "Z"

/-- The form in log headers, with the offset spelled out. -/
def offsetText (i : Instant) : String := i.localText ++ "+00:00"

/-- The form in listings. -/
def listingText (i : Instant) : String := dateText "-" i.date ++ " " ++ clockText ":" i ++ " UTC"

/-- The form in run ids and archive names. -/
def stamp (i : Instant) : String := dateText "" i.date ++ "T" ++ clockText "" i

/-! ### Shifting -/

/-- The instant `seconds` later, with the given nanoseconds; `none` outside the calendar. -/
def moved? (i : Instant) (seconds : Int) (nanos : Nat) : Option Instant :=
  let total := (i.second : Int) + seconds
  let days := total / 86400
  if days = 0 then of? i.date total.toNat nanos
  else
    match Date.ofDayNumber? (i.date.dayNumber + days) with
    | some date => of? date (total % 86400).toNat nanos
    | none => none

/-- The instant `seconds` later, with the same nanoseconds; `none` outside the calendar. -/
def shift? (i : Instant) (seconds : Int) : Option Instant := i.moved? seconds i.nanos

/-- The instant a span earlier; `none` outside the calendar. A whole second before a leap second is
in the second that shows as 59. -/
def before? (i : Instant) (d : Span) : Option Instant :=
  let leaves : Bool := d.seconds ≠ 0 && 1000000000 ≤ i.nanos
  let second : Int := (if leaves then 1 else 0) - (d.seconds.toNat : Int)
  let nanos := if leaves then i.nanos - 1000000000 else i.nanos
  if d.nanos ≤ nanos then i.moved? second (nanos - d.nanos)
  else i.moved? (second - 1) (nanos + 1000000000 - d.nanos)

/-- The instant a number of nanoseconds later; an instant at the end of the calendar stays. -/
def after (i : Instant) (nanos : Nat) : Instant :=
  let total := i.nanos + nanos
  (i.moved? (total / 1000000000) (total % 1000000000)).getD i

/-- The nanoseconds from one instant to another. A leap second between them counts. -/
def nanosSince (i start : Instant) : Int :=
  let days := i.date.dayNumber - start.date.dayNumber
  let leap : Int :=
    if start.second < i.second ∧ 1000000000 ≤ start.nanos then 1
    else if i.second < start.second ∧ 1000000000 ≤ i.nanos then -1
    else 0
  (days * 86400 + i.second - start.second + leap) * 1000000000 + i.nanos - start.nanos

/-! ### Reading -/

open Text (trimLeft digitValue?)

/-- Reads one to `width` digits. -/
def readNumber? (width : Nat) (cs : List Char) : Option (Nat × List Char) :=
  let ds := (cs.take width).takeWhile (fun c => (digitValue? c).isSome)
  if ds.isEmpty then none
  else some (ds.foldl (fun n c => 10 * n + (digitValue? c).getD 0) 0, cs.drop ds.length)

/-- Reads a number of at most two digits in a range, blanks in front skipped. -/
def readPart? (low high : Nat) (cs : List Char) : Option (Nat × List Char) :=
  match readNumber? 2 (trimLeft cs) with
  | some (n, rest) => if low ≤ n ∧ n ≤ high then some (n, rest) else none
  | none => none

def maxYear : Nat := 2147483647

/-- Reads a year: four digits at most, or a sign and any number of digits. -/
def readYear? (cs : List Char) : Option (Int × List Char) :=
  match trimLeft cs with
  | '-' :: rest =>
    match readNumber? rest.length rest with
    | some (n, rest) => if n ≤ maxYear + 1 then some (-(n : Int), rest) else none
    | none => none
  | '+' :: rest =>
    match readNumber? rest.length rest with
    | some (n, rest) => if n ≤ maxYear then some ((n : Int), rest) else none
    | none => none
  | cs =>
    match readNumber? 4 cs with
    | some (n, rest) => some ((n : Int), rest)
    | none => none

/-- Takes a separator, blanks in front skipped. -/
def takeMark? (mark : Char) (cs : List Char) : Option (List Char) :=
  match trimLeft cs with
  | c :: rest => if c = mark then some rest else none
  | [] => none

/-- Reads a fraction, if there is one; digits after the ninth do not count. -/
def readFraction? : List Char → Option (Nat × List Char)
  | '.' :: rest =>
    match readNumber? 9 rest with
    | none => none
    | some (n, after) =>
      some (n * Nat.pow 10 (9 - (rest.length - after.length)),
        after.dropWhile (fun c => (digitValue? c).isSome))
  | cs => some (0, cs)

def twoDigits? (a b : Char) : Option (Nat × Nat) := do
  some (← digitValue? a, ← digitValue? b)

/-- Reads an offset after its sign: hours, colons or blanks, minutes. -/
def readOffsetDigits? : List Char → Option (Nat × List Char)
  | a :: b :: rest =>
    match twoDigits? a b with
    | none => none
    | some (h, h') =>
      match rest.dropWhile (fun c => c = ':' || Text.isBlank c) with
      | c :: d :: rest =>
        match twoDigits? c d with
        | none => none
        | some (m, m') =>
          if m ≤ 5 then some ((10 * h + h') * 3600 + (10 * m + m') * 60, rest) else none
      | _ => none
  | _ => none

/-- Reads the offset from universal time in seconds. -/
def readOffset? (cs : List Char) : Option (Int × List Char) :=
  match cs with
  | c :: rest =>
    if c = 'Z' ∨ c = 'z' then some (0, rest)
    else if (cs.take 3).map Char.toUpper = ['U', 'T', 'C'] then some (0, cs.drop 3)
    else if c = '+' then (readOffsetDigits? rest).map fun (n, r) => ((n : Int), r)
    else if c = '-' ∨ c = '\u2212' then (readOffsetDigits? rest).map fun (n, r) => (-(n : Int), r)
    else none
  | [] => none

def read? (s : String) : Option Instant := do
  let (year, cs) ← readYear? s.toList
  let cs ← takeMark? '-' cs
  let (month, cs) ← readPart? 1 12 cs
  let cs ← takeMark? '-' cs
  let (day, cs) ← readPart? 1 31 cs
  let cs ←
    match cs with
    | c :: rest => if c = 'T' ∨ c = 't' ∨ c = ' ' then some rest else none
    | [] => none
  let (hour, cs) ← readPart? 0 23 cs
  let cs ← takeMark? ':' cs
  let (minute, cs) ← readPart? 0 59 cs
  let cs ← takeMark? ':' cs
  let (second, cs) ← readPart? 0 60 cs
  let (fraction, cs) ← readFraction? cs
  let (offset, cs) ← readOffset? (trimLeft cs)
  if !(trimLeft cs).isEmpty then none
  else if 86400 ≤ offset.natAbs then none
  else
    let date ← Date.of? year month day
    let leap := if second = 60 then 1000000000 else 0
    let i ← of? date (hour * 3600 + minute * 60 + min second 59) (leap + fraction)
    i.shift? (-offset)

end Instant

end RobotPipeline
