/-
  RobotPipeline/Rehearsal/Shell.lean
  ==================================
  **How a shell follows a script.**

  A word is expanded, a command is run, a program is started: each of these
  may need the others, so they are defined together. All of them spend a step
  whenever they call each other, which bounds how deep a script can go; how
  long a loop can go on is bounded on its own.
-/
import RobotPipeline.Rehearsal.Arithmetic
import RobotPipeline.Rehearsal.Builtin
import RobotPipeline.Rehearsal.Image

namespace RobotPipeline.Rehearsal.Shell

open Act Builtin

/-! ### Parameters -/

def value? (p : Process) (name : String) : Option String :=
  let joined := if p.args.isEmpty then none else some (" ".intercalate p.args)
  match name with
  | "#" => some (Text.decimal p.args.length)
  | "?" => some (Text.decimal p.status)
  | "$" => some (Text.decimal p.id)
  | "!" => (p.jobs.getLast?).map fun j => Text.decimal j.id
  | "0" => some p.name
  | "@" => joined
  | "*" => joined
  | name =>
    match (Text.readNat 1000000 name.toList).toOption with
    | some n => p.args[n - 1]?
    | none => p.vars.get? name

def pieces (quoted : Bool) (s : String) : List Item :=
  if quoted then Item.ofText true s else Item.ofValue s

def argumentPieces (p : Process) (name : String) (quoted : Bool) : List Item :=
  if name = "*" ∧ quoted then Item.ofText true (" ".intercalate p.args)
  else Item.ofArguments quoted p.args

/-- The pieces of a word that stands in for a value. -/
def loosened (quoted : Bool) (items : List Item) : List Item :=
  if quoted then items
  else items.map fun
    | .mark (c, false) => .loose c
    | item => item

def withoutNewlines (bytes : Text.Bytes) : String :=
  let bytes := (bytes.reverse.dropWhile (· = Text.newline)).reverse
  String.ofList (Text.decodeLossy (bytes.filter (· ≠ 0)))

/-- The search path of a shell that was started without one. -/
def usualPath : String := "/usr/local/sbin:/usr/local/bin:/usr/sbin:/usr/bin:/sbin:/bin"

/-- The program of a name, as a process with some variables looks it up. -/
def findProgram (vars : Variables) (name : String) : Act (Except IoError (String × Image)) := do
  return Image.find (← get).files ((vars.get? Variables.searchPath).getD "") name

/-! ### Redirection -/

/-- An absolute path for a path from the working directory. -/
def absolute (tree : FileTree) (path : String) : String :=
  Path.join (Utility.workingDirectory tree) path

def openReason (create : Bool) (cause : IoError) : String :=
  if cause = .notFound then (if create then "Directory nonexistent" else "No such file")
  else Utility.reason cause

def direct (descriptor : Nat) (sink : Option Sink) : Act Unit :=
  change fun p => { p with
    sinks := (sink.map (descriptor, ·)).toList ++ p.sinks.filter (fun k => k.1 ≠ descriptor) }

def directToFile (descriptor : Nat) (appending : Bool) (path : String) : Act Bool := do
  if path = "/dev/stdout" ∨ path = "/dev/stderr" then
    direct descriptor ((← own).sink? (if path = "/dev/stdout" then 1 else 2))
    return true
  let tree := (← get).files
  let opened : Except IoError FileTree := match appending, tree.read path with
    | true, .ok _ => .ok tree
    | _, _ => tree.write path (.text "")
  match opened with
  | .ok files =>
    modify fun s => { s with files := files }
    direct descriptor (some (.file (absolute tree path)))
    return true
  | .error cause =>
    fault ("cannot create " ++ path ++ ": " ++ openReason true cause)
    return false

def readFrom (path : String) : Act Bool := do
  match (← get).files.read path with
  | .ok content =>
    modify fun s => { s with input := content.toBytes }
    return true
  | .error cause =>
    if cause = .isADirectory then
      modify fun s => { s with input := [] }
      return true
    fault ("cannot open " ++ path ++ ": " ++ openReason false cause)
    return false

/-- Lets a descriptor lead where another one leads, or nowhere. -/
def copyDescriptor (descriptor : Nat) (target : String) : Act Bool := do
  match (Text.readNat 1000 target.toList).toOption with
  | some other => direct descriptor ((← own).sink? other)
  | none =>
    if descriptor = 0 then modify fun s => { s with input := [] }
    else direct descriptor none
  return true

/-- Puts descriptors back as they were, and the input if it was another one. -/
def putBack (rs : List Redirect) (s t : Scene) : Scene :=
  let input := if rs.any (fun r => r matches .input _ | .copy 0 _) then s.input else t.input
  { t with input := input, own := { t.own with sinks := s.own.sinks } }

/-- What is wrong with a text that is no script. -/
def syntaxComplaint (text : String) : String :=
  if hasOpenQuote none text.toList then "Syntax error: Unterminated quoted string"
  else "Syntax error: end of file unexpected"

/-! ### Costs -/

/-- The microseconds that a command of the shell takes. -/
def commandTime : Nat := 20

/-- The microseconds that starting a program takes. -/
def startTime : Nat := 1000

def maxRounds : Nat := 100000

/-- How long a command in the background is followed: an hour. -/
def horizon : Nat := 3600000000

/-! ### Following a script -/

/-- Does something for each element, while it says so. -/
def eachWhile {α : Type} (step : α → Act Bool) : List α → Act Unit
  | [] => return
  | a :: rest => do if ← step a then eachWhile step rest

/-- Runs the body of a loop. Tells whether the loop goes on. -/
def round (body : Act Unit) : Act Bool := fun s =>
  let inner : Act Unit :=
    restoring (fun s t => { t with own := { t.own with loops := s.own.loops } }) do
      change fun p => { p with loops := p.loops + 1 }
      body
  match (inner.run s : Id _) with
  | (.ok (), t) => (.ok true, t)
  | (.error (.broke levels), t) =>
    if levels ≤ 1 then (.ok false, t) else (.error (.broke (levels - 1)), t)
  | (.error (.skipped levels), t) =>
    if levels ≤ 1 then (.ok true, t) else (.error (.skipped (levels - 1)), t)
  | (.error leave, t) => (.error leave, t)

/-- The status of the function that an act runs. -/
def called (act : Act Nat) : Act Nat := fun s =>
  match (act.run s : Id _) with
  | (.error (.returned code), t) => (.ok code, t)
  | other => other

/-- The status that a script ends with, if it is not killed. -/
def ended (act : Act Unit) : Act Nat := fun s =>
  match (act.run s : Id _) with
  | (.ok (), t) => (.ok t.own.status, t)
  | (.error (.exited code), t) => (.ok code, t)
  | (.error (.returned code), t) => (.ok code, t)
  | (.error (.broke _), t) => (.ok 0, t)
  | (.error (.skipped _), t) => (.ok 0, t)
  | (.error leave, t) => (.error leave, t)

def setStatus (status : Nat) : Act Unit := change fun p => { p with status := status }

/-- Runs a test, which may fail. -/
def asTest (act : Act Unit) : Act Nat := do
  restoring (fun s t => { t with own := { t.own with testing := s.own.testing } }) do
    change fun p => { p with testing := true }
    act
  return (← own).status

/-- Takes the status of a command, and exits if it may not fail. -/
def conclude (status : Nat) : Act Unit := do
  setStatus status
  let p ← own
  if status ≠ 0 && p.exitsOnFailure && !p.testing then throw (.exited status)

/-- The options in front of the arguments of a shell. -/
def shellOptions : List String → List Char × List String
  | arg :: rest =>
    match arg.toList with
    | '-' :: c :: letters =>
      let (more, args) := shellOptions rest
      ((c :: letters) ++ more, args)
    | _ => ([], arg :: rest)
  | [] => ([], [])

mutual

def items : Nat → Word → Act (List Item)
  | 0, _ => throw .lost
  | steps + 1, word => do
    let parts ← word.mapM fun part => match part with
      | .text s quoted => return Item.ofText quoted s
      | .value name use quoted => parameter steps name use quoted
      | .number expression quoted => do
        let text := Item.text (← items steps expression)
        let p ← own
        match Arithmetic.evaluate? (fun name => (value? p name).getD "") text with
        | some n => return pieces quoted (Text.decimalInt n)
        | none => abort ("arithmetic expression: expecting primary: \"" ++ text ++ "\"")
      | .output script quoted => do
        let (status, bytes) ← capturing
          (apart (fun p => { p with sinks := (1, .captured) :: p.sinks.filter (fun k => k.1 ≠ 1) })
            (do setStatus (← enclosed steps script)))
        change fun p => { p with substituted := some status }
        return pieces quoted (withoutNewlines bytes)
    return parts.flatten

def parameter : Nat → String → Use → Bool → Act (List Item)
  | 0, _, _, _ => throw .lost
  | steps + 1, name, use, quoted => do
    let p ← own
    let v? := value? p name
    let plain := if name = "@" ∨ name = "*" then argumentPieces p name quoted
      else match v? with
        | some v => pieces quoted v
        | none => if quoted then [.present] else []
    let isAbsent (colon : Bool) : Bool := match v? with
      | none => true
      | some v => colon && v = ""
    match use with
    | .plain => return plain
    | .length => return pieces quoted (Text.decimal (v?.getD "").utf8ByteSize)
    | .orElse colon word =>
      if isAbsent colon then return loosened quoted (← items steps word) else return plain
    | .orSet colon word =>
      if isAbsent colon then
        let found ← items steps word
        assign name (Item.text found)
        return pieces quoted (Item.text found)
      else return plain
    | .insteadOf colon word =>
      if isAbsent colon then return if quoted then [.present] else []
      else return loosened quoted (← items steps word)
    | .orFail colon word =>
      if isAbsent colon then
        let text := Item.text (← items steps word)
        let text := if text ≠ "" then text
          else if colon then "parameter not set or null" else "parameter not set"
        abort (name ++ ": " ++ text)
      else return plain
    | .trim atEnd longest pattern =>
      let glyphs := Pattern.ofMarks (Item.marks (← items steps pattern))
      let cs := (v?.getD "").toList
      let cs := if atEnd then Pattern.dropEnd longest glyphs cs
        else Pattern.dropStart longest glyphs cs
      return pieces quoted (String.ofList cs)

def expand : Nat → List Word → Act (List String)
  | 0, _ => throw .lost
  | steps + 1, words => do
    let found ← words.mapM fun word => do
      let fields := Item.fields (← items steps word)
      let tree := (← get).files
      return fields.flatMap (Pattern.paths tree)
    return found.flatten

/-- Carries redirections out. Tells whether all could be. -/
def redirect : Nat → List Redirect → Act Bool
  | 0, _ => throw .lost
  | steps + 1, rs => rs.foldlM (fun done r => do
    if !done then return false
    match r with
    | .input word => readFrom (Item.text (← items steps word))
    | .output descriptor appending word =>
      directToFile descriptor appending (Item.text (← items steps word))
    | .copy descriptor target => copyDescriptor descriptor (Item.text (← items steps target))) true

def redirecting : Nat → List Redirect → Act Nat → Act Nat
  | 0, _, _ => throw .lost
  | steps + 1, rs, act =>
    if rs.isEmpty then act
    else restoring (putBack rs) do
      if ← redirect steps rs then act else return 2

def evaluate : Nat → String → Act Nat
  | 0, _ => throw .lost
  | steps + 1, text => do
    match script? text with
    | none => abort (syntaxComplaint text)
    | some script =>
      if script.isEmpty then setStatus 0
      script.forM (command steps)
      return (← own).status

/-- Runs a script to its end, and then what is set for the end. -/
def enclosed : Nat → Script → Act Nat
  | 0, _ => throw .lost
  | steps + 1, script => do
    let status ← ended do
      script.dropLast.forM (command steps)
      match script.getLast? with
      | some c =>
        change fun p => { p with final := true }
        command steps c
      | none => return
    match (← own).trap? "EXIT" with
    | none => return status
    | some text =>
      change fun p => { p.setTrap "EXIT" none with status := status }
      ended do
        let _ ← evaluate steps text
        setStatus status

/-- Runs the command of a signal that was caught. -/
def settle : Nat → Act Unit
  | 0 => throw .lost
  | steps + 1 => do
    let p ← own
    match p.due with
    | none => return
    | some text =>
      change fun p => { p with due := none }
      let _ ← evaluate steps text
      setStatus p.status

/-- Runs a shell with the given arguments in the process that runs. -/
def shell : Nat → String → List String → Act Nat
  | 0, _, _ => throw .lost
  | steps + 1, name, args => do
    let (letters, rest) := shellOptions args
    setFlags true letters
    let (name, args, text?) ←
      if 'c' ∈ letters then
        pure (rest[1]?.getD name, rest.drop 2, rest.head?)
      else
        match rest with
        | [] => do
          let bytes ← readAll
          pure (name, [], some (String.ofList (Text.decodeLossy bytes)))
        | file :: args => do
          let text? := match (← get).files.read file with
            | .ok content => some (String.ofList (Text.decodeLossy content.toBytes))
            | .error _ => none
          pure (if text?.isSome then file else name, args, text?)
    change fun p => { p with
      name := name, args := args, line := 0, deaf := p.traps.map (·.1)
      vars := if (p.vars.get? Variables.searchPath).isSome then p.vars
        else p.vars.set Variables.searchPath usualPath }
    match text? with
    | none =>
      fault (if 'c' ∈ letters then "-c requires an argument"
        else "cannot open " ++ rest.head?.getD "" ++ ": No such file")
      throw (.exited 2)
    | some text =>
      match script? text with
      | none =>
        change fun p => { p with line := 1 }
        abort (syntaxComplaint text)
      | some script => enclosed steps script

/-- Runs an image in the process that runs. `path` is where it was found, and the first of `args` is
its own name. -/
def run : Nat → Image → String → String → List String → Act Nat
  | 0, _, _, _, _ => throw .lost
  | steps + 1, image, path, name, args => do
    match image with
    | .utility act => act args
    | .shell => shell steps name args
    | .bare _ => shell steps name (path :: args)
    | .interpreted program argument =>
      match Image.ofPath (← get).files program with
      | .ok image => run steps image program program (argument.toList ++ path :: args)
      | .error _ => return 127
    | .environment =>
      let assigned := args.takeWhile (fun a => a.toList.any (· = '='))
      let _ ← exportAll assigned
      match args.drop assigned.length with
      | [] => Utility.printenv []
      | name :: args =>
        match ← findProgram (← own).vars name with
        | .ok (path, image) => run steps image path name args
        | .error cause =>
          complain ("env: '" ++ name ++ "': " ++ Utility.reason cause)
          return if cause = .notFound then 127 else 126

/-- Finds a program and runs it as a process of its own, or in place of the shell. Says which signal
ended it, if the shell goes on. -/
def program : Nat → (inPlace : Bool) → Variables → String → List String → Act Nat
  | 0, _, _, _, _ => throw .lost
  | steps + 1, inPlace, assigned, name, args => do
    let p ← own
    let withAssigned (vars : Variables) : Variables :=
      assigned.foldl (fun vars v => vars.set v.1 v.2) vars
    let vars := withAssigned p.environment
    match ← findProgram (withAssigned p.vars) name with
    | .error cause =>
      let what := (if inPlace then "exec: " else "") ++ name
      if cause = .permissionDenied then
        fault (what ++ ": Permission denied")
        return 126
      else
        fault (what ++ ": not found")
        return 127
    | .ok (path, image) =>
      let act : Act Unit := do
        pass startTime
        setStatus (← run steps image path name args)
      let start (p : Process) : Process := { p with
        vars := vars, exported := vars.map (·.1), functions := [], exitsOnFailure := false,
        testing := false, status := 0 }
      if inPlace then apart start act
      else
        modify fun s => { s with nextId := s.nextId + 1 }
        let id := (← get).nextId
        let (status, signal) ← asChild (fun p => { start p with id := id }) act
        match signal.bind deathNotice? with
        | some notice => if !p.final then complain notice
        | none => pure ()
        return status

/-- Runs a command by its name: a function, a command of the shell or a program. -/
def invoke : Nat → (functions : Bool) → Variables → String → List String → Act Nat
  | 0, _, _, _, _ => throw .lost
  | steps + 1, functions, assigned, name, args => do
    let p ← own
    let withAssigned (act : Act Nat) : Act Nat := do
      for (n, v) in assigned do
        assign n v
      let status ← act
      if name ∉ special then
        for (n, _) in assigned do
          change fun q => { q with vars := p.vars.filter (·.1 = n) ++ q.vars.filter (·.1 ≠ n) }
      return status
    match if functions then p.functions.find? (fun f => f.1 = name) else none with
    | some (_, body) =>
      withAssigned <| restoring (fun s t => { t with own := { t.own with args := s.own.args } }) do
        change fun q => { q with args := args }
        called do
          command steps body
          return (← own).status
    | none =>
      match name with
      | "exec" =>
        match args with
        | [] => return 0
        | name :: args => throw (.exited (← program steps true assigned name args))
      | "command" =>
        match args with
        | "-v" :: name :: _ =>
          if (find? name).isSome || p.functions.any (fun f => f.1 = name) then
            print (fun _ => Text.encodeText (name ++ "\n")) []
          else
            match ← findProgram p.vars name with
            | .ok (path, _) => print (fun _ => Text.encodeText (path ++ "\n")) []
            | .error _ => return 127
        | name :: args => invoke steps false assigned name args
        | [] => return 0
      | name =>
        match find? name with
        | some act => withAssigned (act args)
        | none => program steps false assigned name args

def simple : Nat → List (String × Word) → List Word → List Redirect → Act Nat
  | 0, _, _, _ => throw .lost
  | steps + 1, assigned, words, rs => do
    change fun p => { p with substituted := none }
    let fields ← expand steps words
    let assigned ← assigned.mapM fun (name, word) => do
      let value := Item.text (← items steps word)
      if fields.isEmpty then assign name value
      return (name, value)
    match fields with
    | [] =>
      let status := (← own).substituted.getD 0
      redirecting steps rs (return status)
    | ["exec"] => return if ← redirect steps rs then 0 else 2
    | name :: args => redirecting steps rs (invoke steps true assigned name args)

/-- Runs commands joined by pipes: each reads what the one before it wrote. -/
def piped : Nat → List Command → Act Nat
  | 0, _ => throw .lost
  | steps + 1, commands => do
    let feeding {α : Type} (input : Option Text.Bytes) (act : Act α) : Act α :=
      match input with
      | none => act
      | some bytes => withInput bytes act
    let input ← commands.dropLast.foldlM (fun input c => do
      let (_, bytes) ← feeding input <| capturing <|
        apart (fun p => { p with sinks := (1, .captured) :: p.sinks.filter (fun k => k.1 ≠ 1) })
          (command steps c)
      return some bytes) none
    match commands.getLast? with
    | some c => feeding input (apart id (command steps c))
    | none => return 0

def start : Nat → Command → Act Unit
  | 0, _ => throw .lost
  | steps + 1, c => fun s =>
    let job : Act Nat := apart (·.setTrap "INT" (some "")) (command steps c)
    let scene := { s with input := [], killAt := some (s.time + horizon), nextId := s.nextId + 1 }
    let (result, t) := (job.run scene : Id _)
    let status := match result with
      | .ok status => status
      | .error _ => 137
    let ended : Job := { id := t.nextId, ends := t.time, status := status }
    (.ok (), { t with
      time := s.time, killAt := s.killAt, input := s.input
      own := { s.own with jobs := s.own.jobs ++ [ended], status := 0 } })

def command : Nat → Command → Act Unit
  | 0, _ => throw .lost
  | steps + 1, c => do
    let final := (← own).final
    change fun p => { p with final := false }
    match c with
    | .simple line assigned words rs =>
      change fun p => { p with line := line }
      pass commandTime
      settle steps
      change fun p => { p with final := final }
      let status ← simple steps assigned words rs
      change fun p => { p with final := false, status := status }
      pass 0
      settle steps
      conclude (← own).status
    | .block body rs =>
      setStatus (← redirecting steps rs do
        body.forM (command steps)
        return (← own).status)
    | .apart body rs =>
      let status ← redirecting steps rs
        (apart id (do setStatus (← enclosed steps body)))
      pass 0
      settle steps
      conclude status
    | .choice branches otherwise rs =>
      setStatus (← redirecting steps rs do
        let rest ← branches.foldlM (fun (rest : Option Script) branch => do
          match rest with
          | none => return none
          | some otherwise =>
            if (← asTest (branch.1.forM (command steps))) = 0 then
              setStatus 0
              branch.2.forM (command steps)
              return none
            else return some otherwise) (some otherwise)
        match rest with
        | none => return (← own).status
        | some otherwise =>
          setStatus 0
          otherwise.forM (command steps)
          return (← own).status)
    | .loop test body rs =>
      setStatus (← redirecting steps rs do
        setStatus 0
        repeating (do
          let before := (← own).status
          let status ← asTest (test.forM (command steps))
          if status = 0 then round (body.forM (command steps))
          else
            setStatus before
            return false) maxRounds
        return (← own).status)
    | .each name words body rs =>
      setStatus (← redirecting steps rs do
        let values ← match words with
          | none => do
            pure (← own).args
          | some words => expand steps words
        setStatus 0
        eachWhile (fun value => do
          assign name value
          round (body.forM (command steps))) values
        return (← own).status)
    | .cases word arms rs =>
      setStatus (← redirecting steps rs do
        let cs := (Item.text (← items steps word)).toList
        setStatus 0
        eachWhile (fun arm => do
          let fits ← arm.1.anyM fun pattern => do
            let glyphs := Pattern.ofMarks (Item.marks (← items steps pattern))
            return Pattern.matchesAll glyphs cs
          if fits then
            arm.2.forM (command steps)
            return false
          else return true) arms
        return (← own).status)
    | .define name body =>
      change fun p => { p with
        functions := (name, body) :: p.functions.filter (fun f => f.1 ≠ name), status := 0 }
    | .pipe commands =>
      let status ← piped steps commands
      pass 0
      settle steps
      conclude status
    | .negate c =>
      let status ← asTest (command steps c)
      setStatus (if status = 0 then 1 else 0)
    | .andThen a b =>
      if (← asTest (command steps a)) = 0 then command steps b
    | .orElse a b =>
      if (← asTest (command steps a)) ≠ 0 then command steps b
    | .background c => start steps c

end

end RobotPipeline.Rehearsal.Shell
