/-
  RobotPipeline/Yaml/Scalar.lean
  ==============================
  **The text of a scalar: quoted, plain or in a block.**

  In a quoted or plain scalar lines are folded: a single line break counts as
  a space, and of several the first is dropped. Blanks around a break do not
  count. A block scalar keeps its lines, or folds those that do not start with
  a blank.

  Each reader takes one character at a time.
-/
import RobotPipeline.Yaml.Cursor
import RobotPipeline.Text.Numeral

namespace RobotPipeline.Yaml

/-- How a scalar is written. -/
inductive Style where
  | plain
  | quoted
  | literal
  | folded
deriving DecidableEq, Repr

/-! ### Folding -/

/-- What was read since the last character that counts; lists are in reverse. -/
inductive Gap where
  /-- Blanks on the same line. -/
  | blanks (read : List Char)
  /-- A line break, unless it was escaped, and the breaks after it. -/
  | breaks (first : Option Char) (more : List Char)

/-- A text in the middle of being folded, in reverse. -/
structure Folding where
  text : List Char := []
  gap : Gap := .blanks []

namespace Folding

/-- What a gap counts for, put behind the text. -/
def settle (f : Folding) : List Char :=
  match f.gap with
  | .blanks read => read ++ f.text
  | .breaks (some '\n') [] => ' ' :: f.text
  | .breaks (some '\n') more => more ++ f.text
  | .breaks (some first) more => more ++ first :: f.text
  | .breaks none more => more ++ f.text

/-- Takes a character that counts. -/
def char (f : Folding) (c : Char) : Folding := ⟨c :: f.settle, .blanks []⟩

def blank (f : Folding) (c : Char) : Folding :=
  match f.gap with
  | .blanks read => { f with gap := .blanks (c :: read) }
  | .breaks .. => f

def lineBreak (f : Folding) (c : Char) : Folding :=
  match f.gap with
  | .blanks _ => { f with gap := .breaks (some c) [] }
  | .breaks first more => { f with gap := .breaks first (c :: more) }

/-- Takes a line break that counts for nothing. -/
def escapedBreak (f : Folding) : Folding := ⟨f.settle, .breaks none []⟩

/-- Whether a line break came last. -/
def onNewLine (f : Folding) : Bool :=
  match f.gap with
  | .blanks _ => false
  | .breaks .. => true

/-- Whether a blank or a line break came last. -/
def inGap (f : Folding) : Bool :=
  match f.gap with
  | .blanks read => !read.isEmpty
  | .breaks .. => true

end Folding

/-! ### Quoted scalars -/

/-- Where the reader of a quoted scalar is in an escape. -/
inductive Escape where
  | outside
  | begun
  /-- In a character code of which some digits are left to read. -/
  | code (left value : Nat)

/-- The character that a letter behind a backslash stands for. -/
def shortEscape? (c : Char) : Option Char :=
  match c with
  | '0' => some '\x00'
  | 'a' => some '\x07'
  | 'b' => some '\x08'
  | 't' => some '\t'
  | '\t' => some '\t'
  | 'n' => some '\n'
  | 'v' => some '\x0b'
  | 'f' => some '\x0c'
  | 'r' => some '\r'
  | 'e' => some '\x1b'
  | ' ' => some ' '
  | '"' => some '"'
  | '/' => some '/'
  | '\\' => some '\\'
  | 'N' => some '\u0085'
  | '_' => some '\u00a0'
  | 'L' => some '\u2028'
  | 'P' => some '\u2029'
  | _ => none

/-- The number of digits of the character code that a letter behind a backslash announces. -/
def codeLength? (c : Char) : Option Nat :=
  if c = 'x' then some 2 else if c = 'u' then some 4 else if c = 'U' then some 8 else none

def ofCode? (n : Nat) : Option Char := if n.isValidChar then some (Char.ofNat n) else none

/-- Reads a quoted scalar behind its opening quote. -/
def quoted? (quote : Char) (f : Folding) (p : Place) : Escape → List Char → Option (String × Cursor)
  | _, [] => none
  | .outside, '\'' :: '\'' :: rest =>
    if quote = '\'' then quoted? quote (f.char '\'') (p.right 2) .outside rest
    else quoted? quote ((f.char '\'').char '\'') (p.right 2) .outside rest
  | .outside, c :: rest =>
    if atDocumentMark p (c :: rest) then none
    else if c = quote then some (String.ofList f.settle.reverse, ⟨p.right 1, rest⟩)
    else if c = '\\' ∧ quote = '"' then quoted? quote f (p.right 1) .begun rest
    else if isBlank c then quoted? quote (f.blank c) (p.right 1) .outside rest
    else if isBreak c then quoted? quote (f.lineBreak c) p.down .outside rest
    else quoted? quote (f.char c) (p.right 1) .outside rest
  | .begun, c :: rest =>
    if isBreak c then quoted? quote f.escapedBreak p.down .outside rest
    else
      match shortEscape? c, codeLength? c with
      | some e, _ => quoted? quote (f.char e) (p.right 1) .outside rest
      | none, some n => quoted? quote f (p.right 1) (.code n 0) rest
      | none, none => none
  | .code left value, c :: rest =>
    match Text.digitIn? 16 c with
    | none => none
    | some d =>
      if left ≤ 1 then
        match ofCode? (16 * value + d) with
        | none => none
        | some e => quoted? quote (f.char e) (p.right 1) .outside rest
      else quoted? quote f (p.right 1) (.code (left - 1) (16 * value + d)) rest

/-! ### Plain scalars -/

def isFlowIndicator (c : Char) : Bool := c = ',' || c = '[' || c = ']' || c = '{' || c = '}'

/-- Whether a plain scalar ends before a character of its line. -/
def endsPlain (flow : Bool) (c : Char) (rest : List Char) : Bool :=
  (c = ':' && startsWithGap rest) || (flow && isFlowIndicator c)

/-- Whether a colon stands where a plain scalar in a flow collection may not have one. -/
def isStrayColon (flow : Bool) (c : Char) (rest : List Char) : Bool :=
  flow && c = ':' && rest.head?.any (fun d => isFlowIndicator d || d = '?')

/-- Reads a plain scalar, of which every line but the first stands at column `indent` or right of
it. Tells whether line breaks came after it. -/
def plain? (flow : Bool) (indent : Nat) (f : Folding) (p : Place) :
    List Char → Option (String × Bool × Cursor)
  | [] => some (String.ofList f.text.reverse, f.onNewLine, ⟨p, []⟩)
  | c :: rest =>
    let stop := some (String.ofList f.text.reverse, f.onNewLine, ⟨p, c :: rest⟩)
    if isBlank c then
      if c = '\t' ∧ f.onNewLine ∧ p.column < indent then none
      else plain? flow indent (f.blank c) (p.right 1) rest
    else if isBreak c then plain? flow indent (f.lineBreak c) p.down rest
    else if (!flow && f.onNewLine && p.column < indent) || atDocumentMark p (c :: rest)
        || (f.inGap && c = '#') then stop
    else if isStrayColon flow c rest then none
    else if endsPlain flow c rest then stop
    else plain? flow indent (f.char c) (p.right 1) rest

/-! ### Block scalars -/

/-- What happens to the line breaks at the end of a block scalar. -/
inductive Chomping where
  | strip
  /-- One break is kept. -/
  | clip
  | keep

/-- The sign that says what happens to the breaks at the end. -/
def chomping? (c : Char) : Option Chomping :=
  if c = '+' then some .keep else if c = '-' then some .strip else none

/-- The digit that says how far a block scalar is indented. -/
def indentation? (c : Char) : Option Nat := Text.digitValue? c

/-- Reads the signs behind the indicator of a block scalar: the chomping and the indentation (0
when it is not said), in either order. An indentation of 0 may not be said. -/
def blockSigns? (c : Cursor) : Option (Chomping × Nat × Cursor) :=
  match c.rest with
  | a :: rest =>
    match chomping? a, indentation? a with
    | some chomping, _ =>
      match rest.head?.bind indentation? with
      | some 0 => none
      | some n => some (chomping, n, c.skip 2)
      | none => some (chomping, 0, c.skip 1)
    | none, some 0 => none
    | none, some n =>
      match rest.head?.bind chomping? with
      | some chomping => some (chomping, n, c.skip 2)
      | none => some (.clip, n, c.skip 1)
    | none, none => some (.clip, 0, c)
  | [] => some (.clip, 0, c)

/-- Reads the empty lines in front of a block scalar with no said indentation. Gives the breaks (in
reverse) and the widest indentation; a tab may not be part of it. -/
def leadingBreaks? (widest : Nat) (read : List Char) (p : Place) :
    List Char → Option (List Char × Nat × Cursor)
  | [] => some (read, max widest p.column, ⟨p, []⟩)
  | c :: rest =>
    if c = ' ' then leadingBreaks? widest read (p.right 1) rest
    else if c = '\t' then none
    else if isBreak c then leadingBreaks? (max widest p.column) (c :: read) p.down rest
    else some (read, max widest p.column, ⟨p, c :: rest⟩)

/-- A block scalar in the middle of being read; lists are in reverse. -/
structure Block where
  text : List Char := []
  /-- The break of the last line with text. -/
  ended : Option Char := none
  /-- The breaks of the empty lines after it. -/
  empty : List Char := []
  /-- Whether the last line with text started with a blank. -/
  indented : Bool := false
  /-- Whether a line with text is being read. -/
  inLine : Bool := false

namespace Block

/-- Takes the first character of a line with text. -/
def startLine (folds : Bool) (b : Block) (c : Char) : Block :=
  let joined :=
    if folds ∧ b.ended = some '\n' ∧ !b.indented ∧ !isBlank c then
      if b.empty.isEmpty then ' ' :: b.text else b.text
    else b.ended.toList ++ b.text
  { text := c :: (b.empty ++ joined), indented := isBlank c, inLine := true }

/-- The text with the breaks at its end that are kept. -/
def chomp (b : Block) : Chomping → List Char
  | .strip => b.text
  | .clip => b.ended.toList ++ b.text
  | .keep => b.empty ++ b.ended.toList ++ b.text

/-- Reads the lines of a block scalar that stand at column `indent` or right of it. -/
def lines? (folds : Bool) (indent : Nat) (b : Block) (p : Place) :
    List Char → Option (Block × Cursor)
  | [] => some (b, ⟨p, []⟩)
  | c :: rest =>
    if b.inLine then
      if isBreak c then lines? folds indent { b with ended := some c, inLine := false } p.down rest
      else lines? folds indent { b with text := c :: b.text } (p.right 1) rest
    else if c = ' ' ∧ p.column < indent then lines? folds indent b (p.right 1) rest
    else if c = '\t' ∧ p.column < indent then none
    else if isBreak c then lines? folds indent { b with empty := c :: b.empty } p.down rest
    else if p.column = indent then lines? folds indent (b.startLine folds c) (p.right 1) rest
    else some (b, ⟨p, c :: rest⟩)

end Block

/-- Reads a block scalar behind its indicator, in a collection at column `outer - 1`. -/
def block? (folds : Bool) (outer : Nat) (c : Cursor) : Option (String × Cursor) := do
  let (chomping, said, c) ← blockSigns? c
  let c := (c.skipWhile isBlank).skipComment
  if !atLineEnd c.rest then none
  else
    let c := c.skipBreak
    let (empty, indent, c) ←
      if said = 0 then
        (leadingBreaks? 0 [] c.place c.rest).map fun (breaks, widest, c) =>
          (breaks, max widest (max outer 1), c)
      else some ([], outer - 1 + said, c)
    let (b, c) ← Block.lines? folds indent { empty := empty } c.place c.rest
    some (String.ofList (b.chomp chomping).reverse, c)

end RobotPipeline.Yaml
