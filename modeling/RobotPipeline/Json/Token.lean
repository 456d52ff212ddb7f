/-
  RobotPipeline/Json/Token.lean
  =============================
  **The tokens of a JSON text.**

  The scanner takes one character at a time. A quote starts a text, which ends
  at the next quote without a backslash before it; any other character that is
  neither white space nor punctuation starts a bare word, which must be one of
  `null`, `true` and `false` or a number. Where two tokens touch, the grammar
  of values decides whether they may.
-/
import RobotPipeline.Datum
import RobotPipeline.Text.Numeral

namespace RobotPipeline.Json

open Text (digitValue? digitIn?)

inductive Token where
  | openList
  | closeList
  | openRecord
  | closeRecord
  | comma
  | colon
  /-- A text; `none` if half of a surrogate pair is in it. -/
  | text (s : Option String)
  /-- A null, a flag or a number. -/
  | atom (d : Datum)

/-! ### Text -/

/-- The number that four hexadecimal digits stand for. -/
def hexValue? (a b c d : Char) : Option Nat := do
  let a ← digitIn? 16 a
  let b ← digitIn? 16 b
  let c ← digitIn? 16 c
  let d ← digitIn? 16 d
  some (((a * 16 + b) * 16 + c) * 16 + d)

def shortEscape? (c : Char) : Option Nat :=
  if c = '"' then some 34
  else if c = '\\' then some 92
  else if c = '/' then some 47
  else if c = 'b' then some 8
  else if c = 'f' then some 12
  else if c = 'n' then some 10
  else if c = 'r' then some 13
  else if c = 't' then some 9
  else none

/-- The code points of a raw text, escapes resolved, behind those read so far (in reverse).
Fails on a raw control character and on an escape that is none. -/
def codePoints? (done : List Nat) : List Char → Option (List Nat)
  | [] => some done.reverse
  | '\\' :: 'u' :: a :: b :: c :: d :: rest =>
    match hexValue? a b c d with
    | none => none
    | some n => codePoints? (n :: done) rest
  | '\\' :: e :: rest =>
    match shortEscape? e with
    | none => none
    | some n => codePoints? (n :: done) rest
  | c :: rest => if c = '\\' ∨ c.toNat < 32 then none else codePoints? (c.toNat :: done) rest

def isHighSurrogate (n : Nat) : Bool := 0xD800 ≤ n && n ≤ 0xDBFF
def isLowSurrogate (n : Nat) : Bool := 0xDC00 ≤ n && n ≤ 0xDFFF

/-- Joins surrogate pairs, behind the characters read so far (in reverse); `none` if a half is
left over. -/
def joinSurrogates? (done : List Char) : List Nat → Option (List Char)
  | [] => some done.reverse
  | [n] =>
    if isHighSurrogate n || isLowSurrogate n then none else some (Char.ofNat n :: done).reverse
  | n :: m :: rest =>
    if isHighSurrogate n then
      if isLowSurrogate m then
        joinSurrogates? (Char.ofNat (0x10000 + (n - 0xD800) * 0x400 + (m - 0xDC00)) :: done) rest
      else none
    else if isLowSurrogate n then none
    else joinSurrogates? (Char.ofNat n :: done) (m :: rest)

def textToken? (raw : List Char) : Option Token :=
  (codePoints? [] raw).map fun ns => .text ((joinSurrogates? [] ns).map String.ofList)

/-! ### Numbers and words -/

def isDigit (c : Char) : Bool := (digitValue? c).isSome

/-- Takes off the exponent of a number, if there is one; `none` if it is ill-formed. -/
def afterExponent? : List Char → Option Bool
  | [] => some false
  | e :: rest =>
    if e = 'e' ∨ e = 'E' then
      let unsigned := match rest with
        | '+' :: ds => ds
        | '-' :: ds => ds
        | ds => ds
      if unsigned.isEmpty || !unsigned.all isDigit then none else some true
    else none

/-- What follows the integer part of a number: `some true` if it has a fraction or exponent. -/
def hasFraction? : List Char → Option Bool
  | '.' :: rest =>
    if (rest.takeWhile isDigit).isEmpty then none
    else (afterExponent? (rest.dropWhile isDigit)).map fun _ => true
  | rest => afterExponent? rest

def naturalValue (ds : List Char) : Nat :=
  ds.foldl (fun n c => 10 * n + (digitValue? c).getD 0) 0

/-- Reads a number without its sign. -/
def magnitude? (negative : Bool) (lexeme cs : List Char) : Option Datum :=
  let whole := cs.takeWhile isDigit
  if whole.isEmpty || (whole.head? == some '0' && whole.length ≠ 1) then none
  else
    match hasFraction? (cs.dropWhile isDigit) with
    | none => none
    | some true => some (.fraction (String.ofList lexeme))
    | some false =>
      if negative then
        if naturalValue whole = 0 then some (.fraction (String.ofList lexeme))
        else some (.integer (-(Int.ofNat (naturalValue whole))))
      else some (.integer (Int.ofNat (naturalValue whole)))

def number? : List Char → Option Datum
  | '-' :: rest => magnitude? true ('-' :: rest) rest
  | cs => magnitude? false cs cs

def wordToken? (word : List Char) : Option Token :=
  if word = "null".toList then some (.atom .null)
  else if word = "true".toList then some (.atom (.flag true))
  else if word = "false".toList then some (.atom (.flag false))
  else (number? word).map .atom

/-! ### Scanning -/

/-- What the scanner is inside of; words and texts are kept in reverse. -/
inductive Scan where
  | between
  | word (read : List Char)
  | text (read : List Char) (escaped : Bool)

def isSpace (c : Char) : Bool := c = ' ' || c = '\t' || c = '\n' || c = '\r'

def punctuation? (c : Char) : Option Token :=
  if c = '[' then some .openList
  else if c = ']' then some .closeList
  else if c = '{' then some .openRecord
  else if c = '}' then some .closeRecord
  else if c = ',' then some .comma
  else if c = ':' then some .colon
  else none

/-- Takes a character that no token has begun before, behind the tokens so far (in reverse). -/
def scanFresh (done : List Token) (c : Char) : List Token × Scan :=
  if isSpace c then (done, .between)
  else if c = '"' then (done, .text [] false)
  else
    match punctuation? c with
    | some t => (t :: done, .between)
    | none => (done, .word [c])

def scanStep (done : List Token) (c : Char) : Scan → Option (List Token × Scan)
  | .between => some (scanFresh done c)
  | .word read =>
    if isSpace c || c = '"' || (punctuation? c).isSome then
      (wordToken? read.reverse).map fun t => scanFresh (t :: done) c
    else some (done, .word (c :: read))
  | .text read escaped =>
    if escaped then some (done, .text (c :: read) false)
    else if c = '\\' then some (done, .text (c :: read) true)
    else if c = '"' then (textToken? read.reverse).map fun t => (t :: done, .between)
    else some (done, .text (c :: read) false)

/-- The tokens of the characters that follow, behind those so far (in reverse). -/
def scan (done : List Token) (state : Scan) : List Char → Option (List Token)
  | [] =>
    match state with
    | .between => some done.reverse
    | .word read => (wordToken? read.reverse).map fun t => (t :: done).reverse
    | .text .. => none
  | c :: rest =>
    match scanStep done c state with
    | none => none
    | some (done, state) => scan done state rest

def tokens? (cs : List Char) : Option (List Token) := scan [] .between cs

end RobotPipeline.Json
