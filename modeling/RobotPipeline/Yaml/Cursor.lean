/-
  RobotPipeline/Yaml/Cursor.lean
  ==============================
  **The characters of a YAML text, and a place among them.**

  A text is read in a normal form: every newline, in whatever way it is
  written, is the one character `\n`, and no byte-order mark stands in front.
  The line and paragraph separators also end a line and stay what they are.
-/

namespace RobotPipeline.Yaml

/-! ### Characters -/

/-- A character that ends a line, in normal form. -/
def isBreak (c : Char) : Bool := c = '\n' || c = '\u2028' || c = '\u2029'

def isBlank (c : Char) : Bool := c = ' ' || c = '\t'

/-- A character of the names of anchors, directives and tag handles. -/
def isWordChar (c : Char) : Bool := c.isAlphanum || c = '_' || c = '-'

/-- Whether a character may stand in a YAML text at all. -/
def isAllowed (c : Char) : Bool :=
  let n := c.toNat
  n = 0x09 || n = 0x0A || n = 0x0D || (0x20 ≤ n && n ≤ 0x7E) || n = 0x85
    || (0xA0 ≤ n && n ≤ 0xD7FF) || (0xE000 ≤ n && n ≤ 0xFFFD && n ≠ 0xFEFF) || 0x10000 ≤ n

def unifyBreaks : List Char → List Char
  | [] => []
  | '\r' :: '\n' :: rest => '\n' :: unifyBreaks rest
  | c :: rest => (if c = '\r' ∨ c = '\u0085' then '\n' else c) :: unifyBreaks rest

/-- The normal form of a text; `none` if it holds a character that may not stand there. -/
def normal? (text : List Char) : Option (List Char) :=
  let text := match text with
    | '\uFEFF' :: rest => rest
    | text => text
  if text.all isAllowed then some (unifyBreaks text) else none

/-! ### Places -/

/-- A place in a text, everything counted from 0. -/
structure Place where
  line : Nat := 0
  column : Nat := 0
  /-- The number of characters before it. -/
  offset : Nat := 0

namespace Place

/-- The place some characters further on the same line. -/
def right (p : Place) (n : Nat) : Place := { p with column := p.column + n, offset := p.offset + n }

/-- The start of the next line, behind the break at this place. -/
def down (p : Place) : Place := ⟨p.line + 1, 0, p.offset + 1⟩

end Place

/-- A place with the text from there on. -/
structure Cursor where
  place : Place
  rest : List Char

namespace Cursor

def skip (c : Cursor) (n : Nat) : Cursor := ⟨c.place.right n, c.rest.drop n⟩

/-- Goes over the characters of the same line that satisfy a test. -/
def skipWhile (p : Char → Bool) (c : Cursor) : Cursor := c.skip (c.rest.takeWhile p).length

/-- Goes over a line break, if there is one. -/
def skipBreak (c : Cursor) : Cursor :=
  match c.rest with
  | ch :: rest => if isBreak ch then ⟨c.place.down, rest⟩ else c
  | [] => c

/-- Goes over a comment, if one starts here. -/
def skipComment (c : Cursor) : Cursor :=
  if c.rest.head? = some '#' then c.skipWhile (fun ch => !isBreak ch) else c

end Cursor

/-! ### Looking ahead -/

/-- Whether a text starts with a blank or a line break, or is over. -/
def startsWithGap : List Char → Bool
  | [] => true
  | c :: _ => isBlank c || isBreak c

def atLineEnd : List Char → Bool
  | [] => true
  | c :: _ => isBreak c

/-- Whether a text starts with three times a character and then a gap. -/
def startsWithTriple (mark : Char) (text : List Char) : Bool :=
  text.take 3 = [mark, mark, mark] && startsWithGap (text.drop 3)

def atDocumentMark (p : Place) (text : List Char) : Bool :=
  p.column = 0 && (startsWithTriple '-' text || startsWithTriple '.' text)

end RobotPipeline.Yaml
