/-
  RobotPipeline/Rehearsal/Arithmetic.lean
  =======================================
  **The number that an expression comes to.**

  Expressions have decimal numbers and variables, the logical operators,
  comparisons, the operations of arithmetic, and parentheses. A variable that
  holds no number counts as zero.
-/
import RobotPipeline.Text.Numeral

namespace RobotPipeline.Rehearsal.Arithmetic

/-- What an expression is made of. -/
inductive Token where
  | number (n : Int)
  | name (s : String)
  | sign (s : String)
deriving DecidableEq, Repr

/-- The signs, the longer ones first. -/
def signs : List String :=
  ["<=", ">=", "==", "!=", "&&", "||", "+", "-", "*", "/", "%", "<", ">", "!", "(", ")"]

def isSpace (c : Char) : Bool := c = ' ' || c = '\t' || c = '\n'

def isNameChar (c : Char) : Bool := c.isAlphanum || c = '_'

def numeral? (cs : List Char) : Option Int :=
  (Text.readNat ((1 <<< 63) - 1) cs).toOption.map Int.ofNat

/-- The tokens of an expression; `steps` bounds their number. -/
def tokens? : Nat → List Char → Option (List Token)
  | 0, _ => none
  | _, [] => some []
  | steps + 1, c :: rest =>
    if isSpace c then tokens? steps rest
    else if isNameChar c then
      let word := (c :: rest).takeWhile isNameChar
      let after := (c :: rest).drop word.length
      let token? := if c.isDigit then (numeral? word).map .number
        else some (.name (String.ofList word))
      match token?, tokens? steps after with
      | some t, some ts => some (t :: ts)
      | _, _ => none
    else
      match signs.find? (fun s => s.toList.isPrefixOf (c :: rest)) with
      | some s => (tokens? steps ((c :: rest).drop s.length)).map (.sign s :: ·)
      | none => none

/-- The operators by how tightly they bind, the loosest first. -/
def levels : List (List String) :=
  [["||"], ["&&"], ["==", "!="], ["<", "<=", ">", ">="], ["+", "-"], ["*", "/", "%"]]

def ofBool (b : Bool) : Int := if b then 1 else 0

def wrap (n : Int) : Int := Int.bmod n (1 <<< 64)

/-- What an operator makes of two numbers; `none` for a division by zero. -/
def combine? (sign : String) (a b : Int) : Option Int :=
  match sign with
  | "||" => some (ofBool (a ≠ 0 || b ≠ 0))
  | "&&" => some (ofBool (a ≠ 0 && b ≠ 0))
  | "==" => some (ofBool (a = b))
  | "!=" => some (ofBool (a ≠ b))
  | "<" => some (ofBool (a < b))
  | "<=" => some (ofBool (a ≤ b))
  | ">" => some (ofBool (b < a))
  | ">=" => some (ofBool (b ≤ a))
  | "+" => some (wrap (a + b))
  | "-" => some (wrap (a - b))
  | "*" => some (wrap (a * b))
  | "/" => if b = 0 then none else some (Int.tdiv a b)
  | "%" => if b = 0 then none else some (Int.tmod a b)
  | _ => none

def valueOf (vars : String → String) (name : String) : Int :=
  match (vars name).toList with
  | '-' :: cs => -((numeral? cs).getD 0)
  | cs => (numeral? cs).getD 0

mutual

/-- Evaluates an expression of the given levels; operators of one level go from left to right. -/
def binary? (vars : String → String) : Nat → List (List String) → List Token →
    Option (Int × List Token)
  | 0, _, _ => none
  | steps + 1, [], ts => unary? vars steps ts
  | steps + 1, level :: levels, ts => do
    let (a, ts) ← binary? vars steps levels ts
    more? vars steps level levels a ts

/-- Goes on with the operators of a level behind a number. -/
def more? (vars : String → String) : Nat → List String → List (List String) → Int → List Token →
    Option (Int × List Token)
  | 0, _, _, _, _ => none
  | steps + 1, level, levels, a, ts =>
    match ts with
    | .sign s :: rest =>
      if s ∈ level then do
        let (b, rest) ← binary? vars steps levels rest
        more? vars steps level levels (← combine? s a b) rest
      else some (a, ts)
    | _ => some (a, ts)

/-- Evaluates a number, a variable, or an expression behind a sign or in parentheses. -/
def unary? (vars : String → String) : Nat → List Token → Option (Int × List Token)
  | 0, _ => none
  | steps + 1, ts =>
    match ts with
    | .number n :: rest => some (n, rest)
    | .name s :: rest => some (valueOf vars s, rest)
    | .sign "-" :: rest => (unary? vars steps rest).map fun (n, r) => (wrap (-n), r)
    | .sign "+" :: rest => unary? vars steps rest
    | .sign "!" :: rest => (unary? vars steps rest).map fun (n, r) => (ofBool (n = 0), r)
    | .sign "(" :: rest => do
      match ← binary? vars steps levels rest with
      | (n, .sign ")" :: rest) => some (n, rest)
      | _ => none
    | _ => none

end

def evaluate? (vars : String → String) (expression : String) : Option Int := do
  let cs := expression.toList
  let ts ← tokens? (cs.length + 1) cs
  if ts.isEmpty then some 0
  else
    match ← binary? vars (20 * (ts.length + 1)) levels ts with
    | (n, []) => some n
    | _ => none

end RobotPipeline.Rehearsal.Arithmetic
