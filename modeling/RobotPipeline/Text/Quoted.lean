/-
  RobotPipeline/Text/Quoted.lean
  ==============================
  **Quoted text: one line, no character hidden.**

  The header of a stage log shows the argument list of the command. Each
  argument is written between double quotes; a quote and a backslash get a
  backslash in front, the usual control characters their short escapes, and
  every other hidden character its code point in braces. A single quote stays
  as it is.
-/
import RobotPipeline.Text.Visible
import RobotPipeline.Text.Numeral

namespace RobotPipeline.Text

def hexDigits (n : Nat) : List Char := Nat.toDigits 16 n

/-- The code point of a character as `\u{…}`. -/
def codePointEscape (c : Char) : List Char :=
  ['\\', 'u', '{'] ++ hexDigits c.toNat ++ ['}']

/-- A character as it stands between double quotes. -/
def quotedChar (c : Char) : List Char :=
  if c = '"' then ['\\', '"']
  else if c = '\\' then ['\\', '\\']
  else if c = '\n' then ['\\', 'n']
  else if c = '\r' then ['\\', 'r']
  else if c = '\t' then ['\\', 't']
  else if c.toNat = 0 then ['\\', '0']
  else if isVisible c then [c]
  else codePointEscape c

def quoted (s : String) : String :=
  String.ofList (['"'] ++ s.toList.flatMap quotedChar ++ ['"'])

/-- A list of texts, each quoted, between brackets. -/
def quotedList (xs : List String) : String :=
  "[" ++ ", ".intercalate (xs.map quoted) ++ "]"

end RobotPipeline.Text
