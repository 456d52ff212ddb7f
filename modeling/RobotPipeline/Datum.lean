/-
  RobotPipeline/Datum.lean
  ========================
  **Plain data: what a document says before anyone reads meaning into it.**

  A datum is a null, a flag, a number, a text, a list, or a record whose
  fields keep the order they were written in. Ledgers and listings are JSON
  documents, which are data throughout; a workflow file is a YAML document,
  parts of which are read as data.
-/

namespace RobotPipeline

/-- The label of a field. -/
inductive Key where
  | named (name : String)
  /-- A whole number, which stands for the field at that place. -/
  | indexed (place : Nat)
  /-- A label that is neither: it names no field. -/
  | other
deriving DecidableEq, Repr

/-- Plain data. -/
inductive Datum where
  | null
  | flag (b : Bool)
  /-- A number written as an integer. -/
  | integer (n : Int)
  /-- A number written with a fraction or an exponent, or as minus zero. -/
  | fraction (lexeme : String)
  | text (s : String)
  /-- A text with half of a surrogate pair in it, which no string can hold. -/
  | brokenText
  | list (items : List Datum)
  | record (fields : List (Key × Datum))
deriving Repr

namespace Datum

def fields (fs : List (String × Datum)) : Datum :=
  .record (fs.map fun f => (.named f.1, f.2))

def natural (n : Nat) : Datum := .integer (Int.ofNat n)

/-- A text, or null in its absence. -/
def textOrNull : Option String → Datum
  | some s => .text s
  | none => .null

def texts (xs : List String) : Datum := .list (xs.map .text)

/-- The value of the first field with a name. -/
def field? (name : String) : Datum → Option Datum
  | .record fs => (fs.find? (fun f => f.1 = .named name)).map (·.2)
  | _ => none

end Datum

end RobotPipeline
