/-
  RobotPipeline/Rehearsal/Reader.lean
  ===================================
  **The script that a text is.**

  Words are read character by character, commands word by word. A reserved
  word counts only where a command may start. The steps a reader may take are
  bounded by the length of the text.
-/
import RobotPipeline.Rehearsal.Syntax

namespace RobotPipeline.Rehearsal

/-- What is left to read, and the number of the line. -/
structure Unread where
  rest : List Char
  line : Nat := 1

namespace Unread

abbrev Reader : Type → Type := StateT Unread Option

/-! ### Characters -/

/-- A character that ends a word. -/
def isMeta (c : Char) : Bool := c ∈ [' ', '\t', '\n', ';', '&', '|', '(', ')', '<', '>']

def isNameStart (c : Char) : Bool := c.isAlpha || c = '_'
def isNameChar (c : Char) : Bool := c.isAlphanum || c = '_'

def isName (cs : List Char) : Bool :=
  cs.head?.any isNameStart && cs.all isNameChar

/-- A parameter with a sign for its name. -/
def isSpecial (c : Char) : Bool := c ∈ ['@', '*', '#', '?', '-', '$', '!'] || c.isDigit

def left : Reader (List Char) := do return (← get).rest

def skip (n : Nat) : Reader Unit := modify fun u =>
  { rest := u.rest.drop n, line := u.line + ((u.rest.take n).filter (· = '\n')).length }

/-- Goes over the characters that satisfy a test, and gives them. -/
def takeWhile (p : Char → Bool) : Reader (List Char) := do
  let cs := (← left).takeWhile p
  skip cs.length
  return cs

def startsWith (cs : String) : Reader Bool := do return cs.toList.isPrefixOf (← left)

/-- Goes over some characters if the text goes on with them. -/
def take (cs : String) : Reader Bool := do
  if ← startsWith cs then
    skip cs.length
    return true
  else return false

def expect (cs : String) : Reader Unit := do
  if !(← take cs) then failure

/-- The text without blanks and joined lines in front. -/
def dropBlanks : List Char → List Char
  | ' ' :: rest => dropBlanks rest
  | '\t' :: rest => dropBlanks rest
  | '\\' :: '\n' :: rest => dropBlanks rest
  | cs => cs

def blanks : Reader Unit := do
  let cs ← left
  skip (cs.length - (dropBlanks cs).length)
  if ← startsWith "#" then
    let _ ← takeWhile (· ≠ '\n')
    return ()

/-- Goes over blanks, comments and newlines. -/
def gaps : Nat → Reader Unit
  | 0 => blanks
  | steps + 1 => do
    blanks
    if ← take "\n" then gaps steps

/-- Puts a character in front of the parts of a word. -/
def consChar (c : Char) (quoted : Bool) : Word → Word
  | .text s q :: rest =>
    if q = quoted then .text (String.ofList [c] ++ s) q :: rest
    else .text (String.ofList [c]) quoted :: .text s q :: rest
  | rest => .text (String.ofList [c]) quoted :: rest

def consText (s : List Char) (quoted : Bool) (w : Word) : Word :=
  match s, quoted with
  | [], true => .text "" true :: w
  | s, quoted => s.foldr (fun c w => consChar c quoted w) w

/-- The text up to the parentheses that close an expression, and what follows them. -/
def takeExpression : Nat → List Char → List Char → Option (List Char × List Char)
  | 0, read, ')' :: ')' :: rest => some (read.reverse, rest)
  | depth, read, '(' :: rest => takeExpression (depth + 1) ('(' :: read) rest
  | depth + 1, read, ')' :: rest => takeExpression depth (')' :: read) rest
  | depth, read, c :: rest => takeExpression depth (c :: read) rest
  | _, _, [] => none

/-! ### Words and commands -/

/-- How far the parts of a word go. -/
inductive Extent where
  /-- To a blank or an operator. -/
  | word
  /-- To a double quote. -/
  | quotes
  /-- To a closing brace. -/
  | brace (quoted : Bool)
  /-- To the end. -/
  | all

def Extent.isQuoted : Extent → Bool
  | .word => false
  | .quotes => true
  | .brace quoted => quoted
  | .all => true

/-- Whether a character is behind the parts of a word. -/
def Extent.endsAt (c : Char) : Extent → Bool
  | .word => isMeta c
  | .quotes => c = '"'
  | .brace _ => c = '}'
  | .all => false

/-- The words that end a list of commands where a command may start. -/
def closers : List String :=
  ["then", "else", "elif", "fi", "do", "done", "esac", "\x7d", ";;"]

def plainWord : Reader String := do
  return String.ofList ((← left).takeWhile fun c => !isMeta c && c ∉ ['\'', '"', '\\', '$', '\x60'])

def isAtWord (w : String) : Reader Bool := do
  let rest ← left
  return w.toList.isPrefixOf rest && (rest.drop w.length).head?.all isMeta

/-- Goes over a reserved word, if the text goes on with it. -/
def takeWord (w : String) : Reader Bool := do
  if ← isAtWord w then
    skip w.length
    return true
  else return false

def expectWord (steps : Nat) (w : String) : Reader Unit := do
  gaps steps
  if !(← takeWord w) then failure

def atCloser : Reader Bool := do
  if (← left).isEmpty || (← startsWith ")") || (← startsWith ";;") then return true
  else return (← plainWord) ∈ closers

/-- The name and the text behind the equals sign, if a word starts like an assignment. -/
def assignedName? (cs : List Char) : Option (List Char) :=
  let name := cs.takeWhile isNameChar
  if isName name && (cs.drop name.length).head? = some '=' then some name else none

mutual

def parts : Nat → Extent → Reader Word
  | 0, _ => failure
  | steps + 1, extent => do
    match ← left with
    | [] =>
      match extent with
      | .word => return []
      | .all => return []
      | _ => failure
    | c :: rest =>
      if extent.endsAt c then return []
      else if c = '\'' ∧ !extent.isQuoted then
        skip 1
        let cs ← takeWhile (· ≠ '\'')
        expect "'"
        return consText cs true (← parts steps extent)
      else if c = '"' ∧ !extent.isQuoted then
        skip 1
        let inner ← parts steps .quotes
        expect "\""
        let inner := if inner.isEmpty then [.text "" true] else inner
        return inner ++ (← parts steps extent)
      else if c = '\\' then
        match rest with
        | '\n' :: _ =>
          skip 2
          parts steps extent
        | e :: _ =>
          if extent.isQuoted ∧ e ∉ ['$', '\x60', '"', '\\'] then
            skip 1
            return consChar c true (← parts steps extent)
          else
            skip 2
            return consChar e true (← parts steps extent)
        | [] =>
          skip 1
          return consChar c extent.isQuoted (← parts steps extent)
      else if c = '$' then
        skip 1
        let part ← dollar steps extent.isQuoted
        return part :: (← parts steps extent)
      else if c = '\x60' then failure
      else
        skip 1
        return consChar c extent.isQuoted (← parts steps extent)

def dollar : Nat → Bool → Reader Part
  | 0, _ => failure
  | steps + 1, quoted => do
    if ← take "((" then
      match takeExpression 0 [] (← left) with
      | none => failure
      | some (inner, after) =>
        skip ((← left).length - after.length)
        match (parts steps .all).run { rest := inner } with
        | some (w, _) => return .number w quoted
        | none => failure
    else if ← take "(" then
      let script ← commands steps
      expect ")"
      return .output script quoted
    else if ← take "\x7b" then
      let part ← braced steps quoted
      expect "\x7d"
      return part
    else
      match ← left with
      | c :: _ =>
        if isNameStart c then
          let name ← takeWhile isNameChar
          return .value (String.ofList name) .plain quoted
        else if isSpecial c then
          skip 1
          return .value (String.ofList [c]) .plain quoted
        else return .text "$" quoted
      | [] => return .text "$" quoted

/-- Reads what stands between the braces of a parameter. -/
def braced : Nat → Bool → Reader Part
  | 0, _ => failure
  | steps + 1, quoted => do
    let counting := (← startsWith "#") && !(← startsWith "#\x7d")
    if counting then skip 1
    let name ← match ← left with
      | c :: _ =>
        if isNameStart c then takeWhile isNameChar
        else if c.isDigit then takeWhile Char.isDigit
        else if isSpecial c then do
          skip 1
          pure [c]
        else failure
      | [] => failure
    let name := String.ofList name
    if counting then return .value name .length quoted
    else if ← startsWith "\x7d" then return .value name .plain quoted
    else if ← take "##" then
      return .value name (.trim false true (← parts steps (.brace false))) quoted
    else if ← take "#" then
      return .value name (.trim false false (← parts steps (.brace false))) quoted
    else if ← take "%%" then
      return .value name (.trim true true (← parts steps (.brace false))) quoted
    else if ← take "%" then
      return .value name (.trim true false (← parts steps (.brace false))) quoted
    else
      let colon ← take ":"
      let make : Bool → Word → Use ←
        if ← take "-" then pure Use.orElse
        else if ← take "=" then pure Use.orSet
        else if ← take "+" then pure Use.insteadOf
        else if ← take "?" then pure Use.orFail
        else failure
      return .value name (make colon (← parts steps (.brace quoted))) quoted

/-- Reads redirections, as many as there are. -/
def redirects : Nat → Reader (List Redirect)
  | 0 => failure
  | steps + 1 => do
    blanks
    match ← redirect? steps with
    | some r => return r :: (← redirects steps)
    | none => return []

/-- Reads a redirection, if one comes next. -/
def redirect? : Nat → Reader (Option Redirect)
  | 0 => failure
  | steps + 1 => do
    let cs ← left
    let digits := cs.takeWhile Char.isDigit
    match cs.drop digits.length with
    | sign :: _ =>
      if sign = '<' ∨ sign = '>' then
        skip digits.length
        let descriptor :=
          if digits.isEmpty then (if sign = '<' then 0 else 1)
          else digits.foldl (fun n c => 10 * n + (c.toNat - 48)) 0
        let word : Reader Word := do
          blanks
          parts steps .word
        if (← startsWith "<<") then failure
        else if ← take ">>" then return some (.output descriptor true (← word))
        else if (← take ">&") || (← take "<&") then return some (.copy descriptor (← word))
        else if (← take ">|") || (← take ">") then
          return some (.output descriptor false (← word))
        else
          skip 1
          return some (.input (← word))
      else return none
    | [] => return none

def simpleWords : Nat → (onlyAssigned : Bool) →
    Reader (List (String × Word) × List Word × List Redirect)
  | 0, _ => failure
  | steps + 1, onlyAssigned => do
    blanks
    match ← redirect? steps with
    | some r =>
      let (assigned, words, rs) ← simpleWords steps onlyAssigned
      return (assigned, words, r :: rs)
    | none =>
      let cs ← left
      if cs.head?.all isMeta then return ([], [], [])
      else
        match onlyAssigned, assignedName? cs with
        | true, some name =>
          skip (name.length + 1)
          let value ← parts steps .word
          let (assigned, words, rs) ← simpleWords steps true
          return ((String.ofList name, value) :: assigned, words, rs)
        | _, _ =>
          let w ← parts steps .word
          let (assigned, words, rs) ← simpleWords steps false
          return (assigned, w :: words, rs)

/-- Reads the branches of a choice behind `if` or `elif`. -/
def branches : Nat → Reader (List (Script × Script) × Script)
  | 0 => failure
  | steps + 1 => do
    let test ← commands steps
    expectWord steps "then"
    let body ← commands steps
    gaps steps
    if ← takeWord "elif" then
      let (more, otherwise) ← branches steps
      return ((test, body) :: more, otherwise)
    else if ← takeWord "else" then
      let otherwise ← commands steps
      expectWord steps "fi"
      return ([(test, body)], otherwise)
    else
      expectWord steps "fi"
      return ([(test, body)], [])

def patterns : Nat → Reader (List Word)
  | 0 => failure
  | steps + 1 => do
    blanks
    let w ← parts steps .word
    blanks
    if ← take "|" then return w :: (← patterns steps)
    else
      expect ")"
      return [w]

def arms : Nat → Reader (List (List Word × Script))
  | 0 => failure
  | steps + 1 => do
    gaps steps
    if ← takeWord "esac" then return []
    else
      let _ ← take "("
      let ps ← patterns steps
      let body ← commands steps
      gaps steps
      if ← take ";;" then return (ps, body) :: (← arms steps)
      else
        expectWord steps "esac"
        return [(ps, body)]

def loopBody : Nat → Reader Script
  | 0 => failure
  | steps + 1 => do
    expectWord steps "do"
    let body ← commands steps
    expectWord steps "done"
    return body

def wordList : Nat → Reader (List Word)
  | 0 => failure
  | steps + 1 => do
    blanks
    if (← left).head?.all isMeta then return []
    else
      let w ← parts steps .word
      return w :: (← wordList steps)

def command : Nat → Reader Command
  | 0 => failure
  | steps + 1 => do
    blanks
    if ← take "(" then
      let body ← commands steps
      expect ")"
      return .apart body (← redirects steps)
    else if ← takeWord "\x7b" then
      let body ← commands steps
      expectWord steps "\x7d"
      return .block body (← redirects steps)
    else if ← takeWord "if" then
      let (bs, otherwise) ← branches steps
      return .choice bs otherwise (← redirects steps)
    else if ← takeWord "while" then
      let test ← commands steps
      let body ← loopBody steps
      return .loop test body (← redirects steps)
    else if ← takeWord "for" then
      blanks
      let name ← takeWhile isNameChar
      gaps steps
      let words ← if ← takeWord "in" then
          (some <$> wordList steps : Reader (Option (List Word)))
        else pure none
      blanks
      let _ ← take ";"
      let body ← loopBody steps
      return .each (String.ofList name) words body (← redirects steps)
    else if ← takeWord "case" then
      blanks
      let w ← parts steps .word
      expectWord steps "in"
      let arms ← arms steps
      return .cases w arms (← redirects steps)
    else
      let cs ← left
      let name := cs.takeWhile isNameChar
      if isName name && "()".toList.isPrefixOf (dropBlanks (cs.drop name.length)) then
        skip name.length
        blanks
        skip 2
        gaps steps
        return .define (String.ofList name) (← command steps)
      else
        let line := (← get).line
        let (assigned, words, rs) ← simpleWords steps true
        if assigned.isEmpty && words.isEmpty && rs.isEmpty then failure
        else return .simple line assigned words rs

def piped : Nat → Reader (List Command)
  | 0 => failure
  | steps + 1 => do
    let c ← command steps
    blanks
    if (← startsWith "|") && !(← startsWith "||") then
      skip 1
      gaps steps
      return c :: (← piped steps)
    else return [c]

def pipeline : Nat → Reader Command
  | 0 => failure
  | steps + 1 => do
    blanks
    let negated ← takeWord "!"
    let c ← match ← piped steps with
      | [c] => pure c
      | cs => pure (.pipe cs)
    return if negated then .negate c else c

/-- Reads what follows a pipeline on its line: pipelines that depend on how it went. -/
def conditions : Nat → Command → Reader Command
  | 0, _ => failure
  | steps + 1, c => do
    blanks
    if ← take "&&" then
      gaps steps
      conditions steps (.andThen c (← pipeline steps))
    else if ← take "||" then
      gaps steps
      conditions steps (.orElse c (← pipeline steps))
    else return c

/-- Reads a list of commands, up to what closes it. -/
def commands : Nat → Reader Script
  | 0 => failure
  | steps + 1 => do
    gaps steps
    if ← atCloser then return []
    else
      let c ← conditions steps (← pipeline steps)
      blanks
      if ← startsWith ";;" then return [c]
      else if ← take ";" then return c :: (← commands steps)
      else if ← take "&" then return .background c :: (← commands steps)
      else if ← take "\n" then return c :: (← commands steps)
      else return [c]

end

end Unread

/-- The script that a text is; `none` if it is none. -/
def script? (text : String) : Option Script :=
  let cs := text.toList
  match (Unread.commands (8 * cs.length + 64)).run { rest := cs } with
  | some (script, ⟨[], _⟩) => some script
  | _ => none

/-- Whether a quote is open at the end of a text; `quote` is the one that is open at its start. -/
def hasOpenQuote (quote : Option Char) : List Char → Bool
  | [] => quote.isSome
  | c :: rest =>
    match quote with
    | some '\'' => hasOpenQuote (if c = '\'' then none else quote) rest
    | some _ =>
      if c = '\\' then hasOpenQuote quote (rest.drop 1)
      else hasOpenQuote (if c = '"' then none else quote) rest
    | none =>
      if c = '\\' then hasOpenQuote none (rest.drop 1)
      else hasOpenQuote (if c = '\'' ∨ c = '"' then some c else none) rest
termination_by cs => cs.length
decreasing_by all_goals simp; try omega

end RobotPipeline.Rehearsal
