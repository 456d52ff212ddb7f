/-
  RobotPipeline/Rehearsal/Pattern.lean
  ====================================
  **Patterns: `*`, `?` and sets of characters.**

  A pattern is matched against a whole text. A quoted character of a pattern
  stands for itself.
-/

namespace RobotPipeline.Rehearsal

/-- A character of a word, and whether it was quoted. -/
abbrev Mark : Type := Char × Bool

/-- An element of a pattern. -/
inductive Glyph where
  | char (c : Char)
  | any
  | many
  /-- One of some ranges, or none of them. -/
  | set (negated : Bool) (ranges : List (Char × Char))

namespace Pattern

/-- The ranges of a set, from its characters. -/
def ranges : List Mark → List (Char × Char)
  | (a, _) :: ('-', false) :: (b, _) :: rest => (a, b) :: ranges rest
  | (a, _) :: rest => (a, a) :: ranges rest
  | [] => []

/-- The set that starts behind an opening bracket, and what follows its closing one. -/
def set? (cs : List Mark) : Option (Glyph × List Mark) :=
  let (negated, body) := match cs with
    | ('!', false) :: rest => (true, rest)
    | ('^', false) :: rest => (true, rest)
    | cs => (false, cs)
  let (first, rest) := (body.take 1, body.drop 1)
  let inner := first ++ rest.takeWhile (fun m => m ≠ (']', false))
  match rest.dropWhile (fun m => m ≠ (']', false)) with
  | _ :: after => if first.isEmpty then none else some (.set negated (ranges inner), after)
  | [] => none

/-- The elements of a pattern; `steps` bounds their number. -/
def glyphs : Nat → List Mark → List Glyph
  | 0, _ => []
  | _, [] => []
  | steps + 1, (c, quoted) :: rest =>
    if quoted then .char c :: glyphs steps rest
    else if c = '*' then .many :: glyphs steps rest
    else if c = '?' then .any :: glyphs steps rest
    else if c = '[' then
      match set? rest with
      | some (g, after) => g :: glyphs steps after
      | none => .char c :: glyphs steps rest
    else .char c :: glyphs steps rest

def ofMarks (cs : List Mark) : List Glyph := glyphs cs.length cs

def fits (c : Char) : Glyph → Bool
  | .char d => c = d
  | .any => true
  | .many => false
  | .set negated ranges => ranges.any (fun r => r.1 ≤ c && c ≤ r.2) != negated

def someTail (test : List Char → Bool) : List Char → Bool
  | [] => test []
  | c :: rest => test (c :: rest) || someTail test rest

def matchesAll : List Glyph → List Char → Bool
  | [], cs => cs.isEmpty
  | .many :: rest, cs => someTail (matchesAll rest) cs
  | _ :: _, [] => false
  | g :: rest, c :: cs => fits c g && matchesAll rest cs

/-- The text without a prefix that matches, the shortest or the longest. -/
def dropStart (longest : Bool) (pattern : List Glyph) (cs : List Char) : List Char :=
  let lengths := List.range (cs.length + 1)
  let lengths := if longest then lengths.reverse else lengths
  match lengths.find? (fun n => matchesAll pattern (cs.take n)) with
  | some n => cs.drop n
  | none => cs

/-- The text without a suffix that matches, the shortest or the longest. -/
def dropEnd (longest : Bool) (pattern : List Glyph) (cs : List Char) : List Char :=
  let lengths := List.range (cs.length + 1)
  let lengths := if longest then lengths else lengths.reverse
  match lengths.find? (fun n => matchesAll pattern (cs.drop n)) with
  | some n => cs.take n
  | none => cs

/-- Whether a word has an unquoted sign of a pattern in it. -/
def isPattern (cs : List Mark) : Bool :=
  cs.any (fun m => !m.2 && (m.1 = '*' || m.1 = '?' || m.1 = '['))

end Pattern

end RobotPipeline.Rehearsal
