/-
  RobotPipeline/Yaml/Scheme.lean
  ==============================
  **What a scalar stands for.**

  A plain scalar may stand for a null, a flag, an integer or a number with a
  fraction; any other scalar is a text. Which of these a plain scalar is shows
  in its characters alone: integers may be hexadecimal, octal or binary, and
  digits behind a leading zero are a text.
-/
import RobotPipeline.Datum
import RobotPipeline.Text.Numeral

namespace RobotPipeline.Yaml

open Text (digitValue? readNatIn)

/-! ### Nulls and flags -/

def isNull (text : String) : Bool := text ∈ ["null", "Null", "NULL", "~"]

def flag? (text : String) : Option Bool :=
  if text ∈ ["true", "True", "TRUE"] then some true
  else if text ∈ ["false", "False", "FALSE"] then some false
  else none

/-! ### Integers -/

/-- A text without one sign in front. -/
def withoutSign : List Char → List Char
  | '+' :: rest => rest
  | '-' :: rest => rest
  | cs => cs

def startsWithSign (cs : List Char) : Bool := cs.head?.any (fun c => c = '+' || c = '-')

/-- Digits behind a leading zero, perhaps with a sign: no number. -/
def isZeroPadded (cs : List Char) : Bool :=
  match withoutSign cs with
  | '0' :: c :: rest => (c :: rest).all (fun c => (digitValue? c).isSome)
  | _ => false

/-- The base that a numeral announces, with the numeral behind the announcement. -/
def based? : List Char → Option (Nat × List Char)
  | '0' :: 'x' :: rest => some (16, rest)
  | '0' :: 'o' :: rest => some (8, rest)
  | '0' :: 'b' :: rest => some (2, rest)
  | _ => none

/-- The number of some digits, which have no sign. -/
def magnitude? (base limit : Nat) (ds : List Char) : Option Nat :=
  if startsWithSign ds then none else (readNatIn base limit ds).toOption

/-- A number of at most `limit`, perhaps with a plus. -/
def unsigned? (limit : Nat) (cs : List Char) : Option Nat :=
  let unsigned := match cs with
    | '+' :: rest => rest
    | cs => cs
  match based? unsigned with
  | some (base, ds) => magnitude? base limit ds
  | none => if isZeroPadded cs then none else magnitude? 10 limit unsigned

/-- The size of a number with a minus, of at most `limit`. -/
def negative? (limit : Nat) : List Char → Option Nat
  | '-' :: rest =>
    match based? rest with
    | some (base, ds) => magnitude? base limit ds
    | none => if isZeroPadded ('-' :: rest) then none else magnitude? 10 limit rest
  | _ => none

/-- The number of 64 bits that a plain scalar stands for. -/
def word64? (text : String) : Option Nat := unsigned? Text.maxWord64 text.toList

/-- The integer that a plain scalar stands for. Integers beyond 64 bits but within 128 are no data:
then the answer is `some none`. -/
def integer? (text : String) : Option (Option Int) :=
  let cs := text.toList
  match unsigned? Text.maxWord64 cs, negative? (1 <<< 63) cs with
  | some n, _ => some (some n)
  | none, some n => some (some (-(n : Int)))
  | none, none =>
    if (unsigned? ((1 <<< 128) - 1) cs).isSome || (negative? (1 <<< 127) cs).isSome then some none
    else none

/-! ### Numbers with a fraction -/

/-- Takes an exponent; digits are needed. -/
def exponent? : List Char → Option Int
  | [] => some 0
  | e :: rest =>
    let ds := withoutSign rest
    if (e = 'e' ∨ e = 'E') ∧ !ds.isEmpty ∧ ds.all (fun c => (digitValue? c).isSome) then
      let n : Int := ds.foldl (fun n c => 10 * n + (digitValue? c).getD 0) 0
      some (if rest.head? = some '-' then -n else n)
    else none

/-- Whether `digits * 10 ^ exponent` is less than what rounds to infinity in double precision. -/
def isFinite (digits : Nat) (exponent : Int) : Bool :=
  let size : Int := (Nat.toDigits 10 digits).length + exponent
  if digits = 0 ∨ size < 309 then true
  else if 309 < size then false
  else
    let bound : Nat := (1 <<< 1024) - (1 <<< 970)
    if 0 ≤ exponent then digits * Nat.pow 10 exponent.toNat < bound
    else digits < bound * Nat.pow 10 exponent.natAbs

/-- Whether a text without a sign is a number with a finite value in double precision. -/
def isFiniteNumber (cs : List Char) : Bool :=
  let isDigit (c : Char) : Bool := (digitValue? c).isSome
  let whole := cs.takeWhile isDigit
  let (fraction, rest) := match cs.drop whole.length with
    | '.' :: rest => (rest.takeWhile isDigit, rest.dropWhile isDigit)
    | rest => ([], rest)
  if whole.isEmpty && fraction.isEmpty then false
  else
    match exponent? rest with
    | none => false
    | some e =>
      isFinite ((whole ++ fraction).foldl (fun n c => 10 * n + (digitValue? c).getD 0) 0)
        (e - fraction.length)

/-- Whether a text is a number in the sense of the tag for fractions. -/
def isFraction (text : String) : Bool :=
  let cs := text.toList
  let unsigned := match cs with
    | '+' :: rest => if startsWithSign rest then [] else rest
    | cs => cs
  String.ofList unsigned ∈ [".inf", ".Inf", ".INF"]
    || text ∈ ["-.inf", "-.Inf", "-.INF", ".nan", ".NaN", ".NAN"]
    || isFiniteNumber (match unsigned with
      | '-' :: rest => rest
      | cs => cs)

/-! ### Data -/

def plainDatum? (text : String) : Option Datum :=
  if text = "" ∨ isNull text then some .null
  else
    match flag? text, integer? text with
    | some b, _ => some (.flag b)
    | none, some n => n.map .integer
    | none, none =>
      if !isZeroPadded text.toList && isFraction text then some (.fraction text)
      else some (.text text)

end RobotPipeline.Yaml
