/-
  RobotPipeline/Json/Writer.lean
  ==============================
  **Data as JSON text.**

  The compact form has no white space; the pretty form puts each item and
  field on a line of its own, indented by two spaces per level. Fields keep
  their order. Text escapes the quote, the backslash and the control
  characters below the space, and nothing else.
-/
import RobotPipeline.Datum
import RobotPipeline.Text.Numeral

namespace RobotPipeline.Json

open Text (digits)

/-! ### Text -/

def hex4 (n : Nat) : List Char :=
  let ds := Nat.toDigits 16 n
  List.replicate (4 - ds.length) '0' ++ ds

def escapeChar (c : Char) : List Char :=
  if c = '"' then ['\\', '"']
  else if c = '\\' then ['\\', '\\']
  else if c.toNat = 8 then ['\\', 'b']
  else if c.toNat = 9 then ['\\', 't']
  else if c.toNat = 10 then ['\\', 'n']
  else if c.toNat = 12 then ['\\', 'f']
  else if c.toNat = 13 then ['\\', 'r']
  else if c.toNat < 32 then ['\\', 'u'] ++ hex4 c.toNat
  else [c]

def quote (s : String) : List Char := '"' :: (s.toList.flatMap escapeChar ++ ['"'])

/-- The digits of an integer, with a minus sign in front of a negative one. -/
def integerChars (n : Int) : List Char :=
  if n < 0 then '-' :: digits n.natAbs else digits n.natAbs

/-- A field label. A label that is no name has no JSON form and is written as empty text. -/
def keyChars : Key → List Char
  | .named name => quote name
  | .indexed place => quote (Text.decimal place)
  | .other => quote ""

/-! ### Values -/

/-- The datum without its parts. -/
def atomChars : Datum → List Char
  | .flag true => "true".toList
  | .flag false => "false".toList
  | .integer n => integerChars n
  | .fraction lexeme => lexeme.toList
  | .text s => quote s
  | _ => "null".toList

mutual

def compactChars : Datum → List Char
  | .list items => '[' :: (compactItems items ++ [']'])
  | .record fields => '{' :: (compactFields fields ++ ['}'])
  | d => atomChars d

/-- The items of a list, separated by commas. -/
def compactItems : List Datum → List Char
  | [] => []
  | [d] => compactChars d
  | d :: rest => compactChars d ++ ',' :: compactItems rest

/-- The fields of a record, separated by commas. -/
def compactFields : List (Key × Datum) → List Char
  | [] => []
  | [(k, d)] => keyChars k ++ ':' :: compactChars d
  | (k, d) :: rest => keyChars k ++ ':' :: (compactChars d ++ ',' :: compactFields rest)

end

/-- A new line at an indentation level. -/
def lineBreak (level : Nat) : List Char := '\n' :: List.replicate (2 * level) ' '

mutual

/-- The pretty form of a datum that starts at an indentation level. -/
def prettyChars (level : Nat) : Datum → List Char
  | .list [] => ['[', ']']
  | .list items => '[' :: (prettyItems (level + 1) items ++ lineBreak level ++ [']'])
  | .record [] => ['{', '}']
  | .record fields => '{' :: (prettyFields (level + 1) fields ++ lineBreak level ++ ['}'])
  | d => atomChars d

/-- The items of a list, each on its own line. -/
def prettyItems (level : Nat) : List Datum → List Char
  | [] => []
  | [d] => lineBreak level ++ prettyChars level d
  | d :: rest => lineBreak level ++ (prettyChars level d ++ ',' :: prettyItems level rest)

/-- The fields of a record, each on its own line. -/
def prettyFields (level : Nat) : List (Key × Datum) → List Char
  | [] => []
  | [(k, d)] => lineBreak level ++ (keyChars k ++ ':' :: ' ' :: prettyChars level d)
  | (k, d) :: rest =>
    lineBreak level
      ++ (keyChars k ++ ':' :: ' ' :: (prettyChars level d ++ ',' :: prettyFields level rest))

end

def compact (d : Datum) : String := String.ofList (compactChars d)

def pretty (d : Datum) : String := String.ofList (prettyChars 0 d)

end RobotPipeline.Json
