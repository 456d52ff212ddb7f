/-
  RobotPipeline/Yaml/Token.lean
  =============================
  **The tokens of a YAML text.**

  Besides what is written, the tokens say where block collections begin and
  end, which follows from the columns. Whether a value is the key of a mapping
  shows only at the colon behind it; so the place of every value that may turn
  out to be a key is remembered, and the tokens that make it one are put in
  front of it then.
-/
import RobotPipeline.Yaml.Scalar
import RobotPipeline.Text.Utf8

namespace RobotPipeline.Yaml

inductive Token where
  /-- The version that a text says it follows. -/
  | version (major minor : Nat)
  /-- A handle that stands for the start of a tag. -/
  | handle (name start : String)
  | documentStart
  | documentEnd
  | blockListStart
  | blockMapStart
  /-- The end of a block collection. -/
  | blockEnd
  | flowListStart
  | flowListEnd
  | flowMapStart
  | flowMapEnd
  /-- The dash in front of an item. -/
  | dash
  | comma
  | key
  | value
  | alias (name : String)
  | anchor (name : String)
  | tag (handle rest : String)
  | scalar (text : String) (style : Style)
deriving DecidableEq, Repr

/-- A place where a key may have begun. -/
structure PossibleKey where
  place : Place
  /-- The number of tokens before it. -/
  number : Nat
  /-- The block mapping around it needs a key here. -/
  required : Bool

/-- The most characters in front of the colon of a key. -/
def maxKeyLength : Nat := 1024

/-- Whether it is too late for the colon of a key. -/
def PossibleKey.isStale (k : PossibleKey) (p : Place) : Bool :=
  k.place.line < p.line || k.place.offset + maxKeyLength < p.offset

/-- A text whose tokens are being collected. -/
structure Scanner where
  cursor : Cursor
  /-- The tokens so far, in reverse. -/
  tokens : List Token := []
  /-- The number of tokens so far. -/
  count : Nat := 0
  /-- The column behind the first of the innermost block collection; 0 outside of all. -/
  outer : Nat := 0
  /-- The same for the block collections around it. -/
  outers : List Nat := []
  /-- The possible key of each open flow collection, innermost first, and that of the block. -/
  keys : List (Option PossibleKey) := [none]
  /-- Whether a key may begin here. -/
  keyAllowed : Bool := true

namespace Scanner

/-! ### Collecting -/

def column (s : Scanner) : Nat := s.cursor.place.column

def inFlow (s : Scanner) : Bool := 1 < s.keys.length

def push (s : Scanner) (t : Token) : Scanner :=
  { s with tokens := t :: s.tokens, count := s.count + 1 }

/-- Puts a token behind the first `number` tokens. -/
def insert (s : Scanner) (number : Nat) (t : Token) : Scanner :=
  { s with tokens := s.tokens.insertIdx (s.count - number) t, count := s.count + 1 }

def skip (s : Scanner) (n : Nat) : Scanner := { s with cursor := s.cursor.skip n }

/-! ### Columns -/

/-- Ends the block collections that stand right of a column, the innermost first. -/
def endBlocksFrom (limit : Nat) : List Nat → Scanner → Scanner
  | [], s => s
  | outer :: outers, s =>
    if limit < s.outer then
      endBlocksFrom limit outers { s.push .blockEnd with outer := outer, outers := outers }
    else s

/-- Ends the block collections whose column is `limit` or right of it. -/
def endBlocks (s : Scanner) (limit : Nat) : Scanner :=
  if s.inFlow then s else endBlocksFrom limit s.outers s

/-- Begins a block collection at a column right of the innermost one, behind the first `number`
tokens. -/
def beginBlock (s : Scanner) (column number : Nat) (t : Token) : Scanner :=
  if !s.inFlow && s.outer ≤ column then
    { s.insert number t with outer := column + 1, outers := s.outer :: s.outers }
  else s

/-! ### Keys -/

/-- Forgets the keys for which it is too late; `none` if one of them is required. -/
def dropStaleKeys? (s : Scanner) : Option Scanner :=
  let late (k : Option PossibleKey) : Bool := k.any (·.isStale s.cursor.place)
  if s.keys.any (fun k => late k && k.any (·.required)) then none
  else some { s with keys := s.keys.map fun k => if late k then none else k }

/-- Forgets the innermost possible key; `none` if it is required. -/
def dropKey? (s : Scanner) : Option Scanner :=
  match s.keys with
  | some k :: keys => if k.required then none else some { s with keys := none :: keys }
  | _ => some s

/-- Remembers this place if a key may begin here. -/
def noteKey? (s : Scanner) : Option Scanner :=
  if s.keyAllowed then
    (s.dropKey?).map fun s =>
      let k : PossibleKey :=
        ⟨s.cursor.place, s.count, !s.inFlow && s.outer = s.column + 1⟩
      { s with keys := some k :: s.keys.drop 1 }
  else some s

def allowKey (s : Scanner) (allowed : Bool) : Scanner := { s with keyAllowed := allowed }

/-! ### Between tokens -/

/-- Goes over blanks, comments and line breaks. A tab may not stand where a key may begin in a
block. -/
def skipGaps (s : Scanner) : Nat → Scanner
  | 0 => s
  | steps + 1 =>
    let tabs := s.inFlow || !s.keyAllowed
    let c := (s.cursor.skipWhile (fun ch => ch = ' ' || (tabs && ch = '\t'))).skipComment
    match c.rest with
    | ch :: _ =>
      if isBreak ch then
        skipGaps { s with cursor := c.skipBreak, keyAllowed := s.keyAllowed || !s.inFlow } steps
      else { s with cursor := c }
    | [] => { s with cursor := c }

/-! ### Directives -/

/-- Reads a number of at most nine digits. -/
def versionNumber? (c : Cursor) : Option (Nat × Cursor) :=
  let ds := c.rest.takeWhile Char.isDigit
  if ds.isEmpty || 9 < ds.length then none
  else
    match Text.readNat 999999999 ds with
    | .ok n => some (n, c.skip ds.length)
    | .error _ => none

/-- Reads a tag handle: `!`, a word, and `!` again unless it only starts a tag. -/
def tagHandle? (declared : Bool) (c : Cursor) : Option (List Char × Cursor) :=
  match c.rest with
  | '!' :: rest =>
    let word := rest.takeWhile isWordChar
    match rest.drop word.length with
    | '!' :: _ => some ('!' :: (word ++ ['!']), c.skip (word.length + 2))
    | _ =>
      if declared && !word.isEmpty then none
      else some ('!' :: word, c.skip (word.length + 1))
  | _ => none

def isTagChar (verbatim : Bool) (c : Char) : Bool :=
  isWordChar c || c ∈ [';', '/', '?', ':', '@', '&', '=', '+', '$', '.', '%', '!', '~', '*', '\'',
    '(', ')'] || (verbatim && (c = ',' || c = '[' || c = ']'))

/-- The bytes of a tag, with those written as `%` and two digits in their place. -/
def tagBytes? : List Char → Option Text.Bytes
  | [] => some []
  | '%' :: a :: b :: rest =>
    match Text.digitIn? 16 a, Text.digitIn? 16 b, tagBytes? rest with
    | some a, some b, some bytes => some (UInt8.ofNat (16 * a + b) :: bytes)
    | _, _, _ => none
  | c :: rest => if c = '%' then none else (tagBytes? rest).map (Text.encodeChar c ++ ·)

def tagText? (verbatim : Bool) (c : Cursor) : Option (String × Cursor) :=
  let written := c.rest.takeWhile (isTagChar verbatim)
  match (tagBytes? written).bind Text.decodeText? with
  | some text => some (text, c.skip written.length)
  | none => none

def directive? (c : Cursor) : Option (Token × Cursor) := do
  let name := c.rest.takeWhile isWordChar
  let c := c.skip name.length
  if !startsWithGap c.rest then none
  else
    let c := c.skipWhile isBlank
    let (t, c) ←
      if name = "YAML".toList then do
        let (major, c) ← versionNumber? c
        if c.rest.head? ≠ some '.' then none
        let (minor, c) ← versionNumber? (c.skip 1)
        some (Token.version major minor, c)
      else if name = "TAG".toList then do
        let (handle, c) ← tagHandle? true c
        if !c.rest.head?.any isBlank then none
        let c := c.skipWhile isBlank
        let (start, after) ← tagText? true c
        if start.isEmpty || !startsWithGap after.rest then none
        some (Token.handle (String.ofList handle) start, after)
      else none
    let c := (c.skipWhile isBlank).skipComment
    if atLineEnd c.rest then some (t, c.skipBreak) else none

/-! ### Anchors and tags -/

/-- Reads the name of an anchor or alias behind its sign. -/
def anchorName? (c : Cursor) : Option (String × Cursor) :=
  let name := c.rest.takeWhile isWordChar
  let after := c.skip name.length
  let ends := startsWithGap after.rest
    || after.rest.head?.any (fun ch => ch ∈ ['?', ':', ',', ']', '}', '%', '@', '\x60'])
  if name.isEmpty || !ends then none else some (String.ofList name, after)

/-- Reads a tag. A tag without a handle of its own has the handle `!`, the bare `!` and a verbatim
tag have none. -/
def tag? (inFlow : Bool) (c : Cursor) : Option (Token × Cursor) := do
  let (t, c) ←
    if c.rest.take 2 = ['!', '<'] then do
      let (text, c) ← tagText? true (c.skip 2)
      if text.isEmpty || c.rest.head? ≠ some '>' then none
      some (Token.tag "" text, c.skip 1)
    else do
      let (handle, after) ← tagHandle? false c
      if handle.length ≠ 1 && handle.getLast? = some '!' then
        let (text, c) ← tagText? false after
        if text.isEmpty then none
        some (Token.tag (String.ofList handle) text, c)
      else
        let (text, c) ← tagText? false after
        let text := String.ofList (handle.drop 1) ++ text
        some (if text.isEmpty then Token.tag "" "!" else Token.tag "!" text, c)
  if startsWithGap c.rest || (inFlow && c.rest.head? = some ',') then some (t, c) else none

/-! ### The next token -/

/-- Ends all block collections in front of a directive or a document mark. -/
def closeAll? (s : Scanner) : Option Scanner := ((s.endBlocks 0).dropKey?).map (·.allowKey false)

/-- Adds the token of a value that may be a key. -/
def pushValue? (s : Scanner) (read : Option (Token × Cursor)) : Option Scanner := do
  let s ← s.noteKey?
  let (t, c) ← read
  some (({ s with cursor := c }.push t).allowKey false)

def openFlow? (s : Scanner) (t : Token) : Option Scanner :=
  (s.noteKey?).map fun s => (({ s with keys := none :: s.keys }.push t).skip 1).allowKey true

def closeFlow? (s : Scanner) (t : Token) : Option Scanner :=
  (s.dropKey?).map fun s =>
    let keys := if s.inFlow then s.keys.drop 1 else s.keys
    (({ s with keys := keys }.push t).skip 1).allowKey false

def dash? (s : Scanner) : Option Scanner :=
  if !s.inFlow && !s.keyAllowed then none
  else
    ((s.beginBlock s.column s.count .blockListStart).dropKey?).map fun s =>
      ((s.push .dash).skip 1).allowKey true

def key? (s : Scanner) : Option Scanner :=
  if !s.inFlow && !s.keyAllowed then none
  else
    ((s.beginBlock s.column s.count .blockMapStart).dropKey?).map fun s =>
      ((s.push .key).skip 1).allowKey (!s.inFlow)

/-- Adds a colon; a possible key in front of it becomes one. -/
def value? (s : Scanner) : Option Scanner :=
  match s.keys with
  | some k :: keys =>
    let s := (s.insert k.number .key).beginBlock k.place.column k.number .blockMapStart
    some ((({ s with keys := none :: keys }.push .value).skip 1).allowKey false)
  | _ =>
    if !s.inFlow && !s.keyAllowed then none
    else
      some ((((s.beginBlock s.column s.count .blockMapStart).push .value).skip 1).allowKey
        (!s.inFlow))

def blockScalar? (s : Scanner) (style : Style) : Option Scanner := do
  let s ← s.dropKey?
  let (text, c) ← block? (style = .folded) s.outer (s.cursor.skip 1)
  some (({ s with cursor := c }.push (.scalar text style)).allowKey true)

def quotedScalar? (s : Scanner) (quote : Char) : Option Scanner :=
  let c := s.cursor.skip 1
  s.pushValue? ((quoted? quote {} c.place .outside c.rest).map fun (text, c) =>
    (.scalar text .quoted, c))

/-- Adds a plain scalar; behind line breaks a key may begin. -/
def plainScalar? (s : Scanner) : Option Scanner := do
  let (text, onNewLine, c) ← plain? s.inFlow s.outer {} s.cursor.place s.cursor.rest
  let s ← s.pushValue? (some (.scalar text .plain, c))
  some (s.allowKey onNewLine)

/-- Whether a plain scalar may start with a character. -/
def startsPlain (flow : Bool) (c : Char) (rest : List Char) : Bool :=
  if c = '-' then !rest.head?.any isBlank
  else if c = '?' ∨ c = ':' then !flow && !startsWithGap rest
  else
    !(isBlank c || c ∈ [',', '[', ']', '{', '}', '#', '&', '*', '!', '|', '>', '\'', '"', '%', '@',
      '\x60'])

/-- Adds the next token of a text that goes on with `c :: rest`. -/
def token? (s : Scanner) (c : Char) (rest : List Char) : Option Scanner :=
  let gap := startsWithGap rest
  if s.column = 0 ∧ c = '%' then do
    let s ← s.closeAll?
    let (t, c) ← directive? (s.cursor.skip 1)
    some ({ s with cursor := c }.push t)
  else if s.column = 0 ∧ startsWithTriple '-' (c :: rest) then
    (s.closeAll?).map fun s => (s.push .documentStart).skip 3
  else if s.column = 0 ∧ startsWithTriple '.' (c :: rest) then
    (s.closeAll?).map fun s => (s.push .documentEnd).skip 3
  else if c = '[' then s.openFlow? .flowListStart
  else if c = '{' then s.openFlow? .flowMapStart
  else if c = ']' then s.closeFlow? .flowListEnd
  else if c = '}' then s.closeFlow? .flowMapEnd
  else if c = ',' then (s.dropKey?).map fun s => ((s.push .comma).skip 1).allowKey true
  else if c = '-' ∧ gap then s.dash?
  else if c = '?' ∧ (s.inFlow || gap) then s.key?
  else if c = ':' ∧ (s.inFlow || gap) then s.value?
  else if c = '*' then
    s.pushValue? ((anchorName? (s.cursor.skip 1)).map fun (name, c) => (.alias name, c))
  else if c = '&' then
    s.pushValue? ((anchorName? (s.cursor.skip 1)).map fun (name, c) => (.anchor name, c))
  else if c = '!' then s.pushValue? (tag? s.inFlow s.cursor)
  else if c = '|' ∧ !s.inFlow then s.blockScalar? .literal
  else if c = '>' ∧ !s.inFlow then s.blockScalar? .folded
  else if c = '\'' ∨ c = '"' then s.quotedScalar? c
  else if startsPlain s.inFlow c rest then s.plainScalar?
  else none

/-- Collects tokens; each takes at least one character. -/
def run : Nat → Scanner → Option Scanner
  | 0, _ => none
  | steps + 1, s => do
    let s := s.skipGaps (s.cursor.rest.length + 1)
    let s ← s.dropStaleKeys?
    let s := s.endBlocks (s.column + 1)
    match s.cursor.rest with
    | [] => (s.endBlocks 0).dropKey?
    | c :: rest => run steps (← s.token? c rest)

end Scanner

def tokens? (text : List Char) : Option (List Token) :=
  (Scanner.run (text.length + 1) { cursor := ⟨{}, text⟩ }).map (·.tokens.reverse)

end RobotPipeline.Yaml
