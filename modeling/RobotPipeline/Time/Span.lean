/-
  RobotPipeline/Time/Span.lean
  ============================
  **Lengths of time, and how they are shown.**

  A span is a number of seconds of 64 bits and a number of nanoseconds below
  one second. It is shown as `1h02m03s` from an hour on, as `2m05s` from a
  minute on, and below that as seconds with one decimal.

  The decimal is that of the nearest binary fraction with 53 significant bits,
  so it rounds the exact span except at the exact ties, where the binary
  fraction may lie on either side.
-/
import RobotPipeline.Text.Numeral

namespace RobotPipeline

def nanosPerSecond : Nat := 1000000000

/-- A length of time. -/
structure Span where
  seconds : UInt64
  nanos : Nat := 0
  nanos_lt : nanos < 1000000000 := by decide
deriving DecidableEq, Repr

namespace Span

def ofSeconds (s : UInt64) : Span := { seconds := s }

def zero : Span := ofSeconds 0

/-- The span of `total` nanoseconds; `none` if its seconds need more than 64 bits. -/
def ofNanos? (total : Nat) : Option Span :=
  if total / 1000000000 ≤ Text.maxWord64 then
    some ⟨UInt64.ofNat (total / 1000000000), total % 1000000000, Nat.mod_lt _ (by decide)⟩
  else none

def ofMillis (ms : UInt64) : Span :=
  ⟨ms / 1000, ms.toNat % 1000 * 1000000, by
    have := Nat.mod_lt ms.toNat (show 1000 > 0 by decide)
    omega⟩

/-- The span of a number of seconds and any number of nanoseconds, whole seconds of which carry. -/
def ofParts? (seconds : UInt64) (nanos : Nat) : Option Span :=
  ofNanos? (seconds.toNat * 1000000000 + nanos)

def toNanos (d : Span) : Nat := d.seconds.toNat * 1000000000 + d.nanos

/-! ### Binary fractions -/

/-- `a / b` rounded to the nearest integer, ties to even. -/
def roundHalfEven (a b : Nat) : Nat :=
  let q := a / b
  let r := 2 * (a % b)
  if r < b then q
  else if b < r then q + 1
  else if q % 2 = 0 then q else q + 1

/-- A fraction `num / 2 ^ scale`. -/
structure BinaryFraction where
  num : Nat
  scale : Nat

/-- The nearest fraction to `a / b` with 53 significant bits, for `0 < b` and `a < 64 b`. -/
def nearestBinary (a b : Nat) : BinaryFraction :=
  if a = 0 then ⟨0, 0⟩
  else
    let scale := 53 + Nat.log2 b - Nat.log2 a
    let scale := if (a <<< scale) / b < 1 <<< 53 then scale else scale - 1
    ⟨roundHalfEven (a <<< scale) b, scale⟩

/-- The seconds of a span below a minute as a binary fraction: first the nanoseconds are one, then
their sum with the seconds. -/
def binarySeconds (d : Span) : BinaryFraction :=
  let f := nearestBinary d.nanos 1000000000
  nearestBinary ((d.seconds.toNat <<< f.scale) + f.num) (1 <<< f.scale)

/-- The tenths of a second a span below a minute is shown with. -/
def tenths (d : Span) : Nat :=
  let f := d.binarySeconds
  roundHalfEven (10 * f.num) (1 <<< f.scale)

/-! ### Text -/

def text (d : Span) : String :=
  let s := d.seconds.toNat
  if 3600 ≤ s then
    Text.decimal (s / 3600) ++ "h" ++ Text.zeroPadded 2 (s % 3600 / 60) ++ "m"
      ++ Text.zeroPadded 2 (s % 60) ++ "s"
  else if 60 ≤ s then
    Text.decimal (s / 60) ++ "m" ++ Text.zeroPadded 2 (s % 60) ++ "s"
  else
    Text.decimal (d.tenths / 10) ++ "." ++ Text.decimal (d.tenths % 10) ++ "s"

end Span

end RobotPipeline
