/-
  RobotPipeline/Text/Numeral.lean
  ===============================
  **Decimal numerals: reading them within a bound, writing them to a width.**

  A natural number is read from an optional `+` and at least one ASCII digit.
  Reading stops at the first thing that is wrong, so a text that is both too
  large and ill-formed reports whichever comes first.
-/

namespace RobotPipeline.Text

/-! ### Digits -/

def digitValue? (c : Char) : Option Nat :=
  if '0' ≤ c ∧ c ≤ '9' then some (c.toNat - '0'.toNat) else none

/-- The value of a digit in a base up to sixteen. -/
def digitIn? (base : Nat) (c : Char) : Option Nat :=
  let value :=
    if '0' ≤ c ∧ c ≤ '9' then some (c.toNat - '0'.toNat)
    else if 'a' ≤ c ∧ c ≤ 'f' then some (c.toNat - 'a'.toNat + 10)
    else if 'A' ≤ c ∧ c ≤ 'F' then some (c.toNat - 'A'.toNat + 10)
    else none
  value.filter (· < base)

/-- The decimal digits of a number, most significant first. -/
def digits (n : Nat) : List Char := Nat.toDigits 10 n

def decimal (n : Nat) : String := String.ofList (digits n)

def decimalInt (n : Int) : String :=
  if n < 0 then "-" ++ decimal n.natAbs else decimal n.natAbs

/-! ### Reading -/

/-- Why a text is no number within the bound. -/
inductive NumeralError where
  | empty
  | invalidDigit
  | tooLarge
deriving DecidableEq, Repr

def NumeralError.message : NumeralError → String
  | .empty => "cannot parse integer from empty string"
  | .invalidDigit => "invalid digit found in string"
  | .tooLarge => "number too large to fit in target type"

/-- Continues a number with the digits that follow, none of which may lift it over `limit`. -/
def readDigits (base limit : Nat) : Nat → List Char → Except NumeralError Nat
  | value, [] => .ok value
  | value, c :: rest =>
    match digitIn? base c with
    | none => .error .invalidDigit
    | some d =>
      if base * value + d ≤ limit then readDigits base limit (base * value + d) rest
      else .error .tooLarge

/-- Reads a numeral in a base: an optional `+`, then digits. -/
def readNatIn (base limit : Nat) : List Char → Except NumeralError Nat
  | [] => .error .empty
  | ['+'] => .error .invalidDigit
  | '+' :: rest => readDigits base limit 0 rest
  | cs => readDigits base limit 0 cs

/-- Reads a decimal number of at most `limit`. -/
def readNat (limit : Nat) (cs : List Char) : Except NumeralError Nat := readNatIn 10 limit cs

def maxWord32 : Nat := 0xFFFFFFFF

def maxWord64 : Nat := 0xFFFFFFFFFFFFFFFF

def readWord32 (cs : List Char) : Except NumeralError UInt32 :=
  (readNat maxWord32 cs).map UInt32.ofNat

def readWord64 (cs : List Char) : Except NumeralError UInt64 :=
  (readNat maxWord64 cs).map UInt64.ofNat

/-! ### Columns -/

/-- Pads on the left to at least `width` characters. -/
def padLeft (fill : Char) (width : Nat) (s : String) : String :=
  String.ofList (List.replicate (width - s.length) fill) ++ s

/-- Pads on the right to at least `width` characters. -/
def padRight (fill : Char) (width : Nat) (s : String) : String :=
  s ++ String.ofList (List.replicate (width - s.length) fill)

/-- A number with zeros in front, at least `width` digits long. -/
def zeroPadded (width n : Nat) : String := padLeft '0' width (decimal n)

end RobotPipeline.Text
