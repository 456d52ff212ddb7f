/-
  RobotPipeline/Rehearsal/Builtin.lean
  ====================================
  **The commands of the shell that act on the shell itself.**

  They run in the process of the shell: they change its variables, its
  directory, its traps and its course. A complaint names the shell and the line.
-/
import RobotPipeline.Rehearsal.Field
import RobotPipeline.Rehearsal.Reader
import RobotPipeline.Rehearsal.Utility

namespace RobotPipeline.Rehearsal.Builtin

open Act

/-! ### Complaints -/

/-- Complains with the name of the shell and the line. -/
def fault (what : String) : Act Unit := do
  let p ← own
  complain (p.name ++ ": " ++ Text.decimal p.line ++ ": " ++ what)

def abort {α : Type} (what : String) : Act α := do
  fault what
  throw (.exited 2)

/-- The number in an argument. A shell exits at anything else. -/
def numberIn (name arg : String) : Act Nat :=
  match (Text.readNat ((1 <<< 31) - 1) arg.toList).toOption with
  | some n => return n
  | none => abort (name ++ ": Illegal number: " ++ arg)

/-! ### Variables -/

def assign (name value : String) : Act Unit :=
  change fun p => { p with vars := p.vars.set name value }

/-- Sets a variable from an argument `name=value`, and gives the name. -/
def assignArgument (arg : String) : Act String := do
  let cs := arg.toList
  let name := String.ofList (cs.takeWhile (· ≠ '='))
  if name.length < cs.length then
    assign name (String.ofList (cs.drop (name.length + 1)))
  return name

def exportAll (args : List String) : Act Nat := do
  for arg in args.filter (· ≠ "-p") do
    let name ← assignArgument arg
    change fun p => { p with exported := name :: p.exported }
  return 0

def unset (names : List String) : Act Nat := do
  change fun p => { p with vars := p.vars.filter (fun v => v.1 ∉ names) }
  return 0

def shift (args : List String) : Act Nat := do
  let n ← match args with
    | arg :: _ => numberIn "shift" arg
    | [] => pure 1
  let p ← own
  if p.args.length < n then abort "shift: can't shift that many"
  change fun p => { p with args := p.args.drop n }
  return 0

def setFlags (on : Bool) (letters : List Char) : Act Unit :=
  change fun p => { p with exitsOnFailure := if 'e' ∈ letters then on else p.exitsOnFailure }

/-- Sets options, and arguments behind them. -/
def set : List String → Act Nat
  | [] => return 0
  | "--" :: args => do
    change fun p => { p with args := args }
    return 0
  | arg :: rest => do
    match arg.toList with
    | '-' :: c :: letters =>
      setFlags true (c :: letters)
      set rest
    | '+' :: c :: letters =>
      setFlags false (c :: letters)
      set rest
    | _ =>
      change fun p => { p with args := arg :: rest }
      return 0

/-! ### Directories -/

def cd (args : List String) : Act Nat := do
  let p ← own
  let target := match args with
    | [] => (p.vars.get? "HOME").getD ""
    | arg :: _ => arg
  if target = "" then return 0
  let tree := (← get).files
  match tree.locate true target with
  | .ok (.present loc .directory) =>
    modify fun s => { s with files := { s.files with here := loc } }
    return 0
  | _ =>
    fault ("cd: can't cd to " ++ target)
    return 2

/-! ### Reading -/

def isBlankMark (m : Mark) : Bool := !m.2 && Item.isBlank m.1

/-- Shares out a line among a number of variables; the last one takes what is left. -/
def share : Nat → List Mark → List String
  | 0, _ => []
  | 1, cs =>
    let cs := (cs.dropWhile isBlankMark).reverse.dropWhile isBlankMark
    [String.ofList (cs.reverse.map (·.1))]
  | n + 1, cs =>
    let cs := cs.dropWhile isBlankMark
    let field := cs.takeWhile (fun m => !isBlankMark m)
    String.ofList (field.map (·.1)) :: share n (cs.drop field.length)

/-- The characters of a line with backslashes resolved; the flag tells that a backslash was left at
the end. -/
def resolved : List Char → List Mark × Bool
  | [] => ([], false)
  | ['\\'] => ([], true)
  | '\\' :: c :: rest =>
    let (cs, left) := resolved rest
    ((c, true) :: cs, left)
  | c :: rest =>
    let (cs, left) := resolved rest
    ((c, false) :: cs, left)

/-- Reads a line, and goes on with the next one after a backslash at the end. -/
def logicalLine (raw : Bool) : Nat → Act (List Mark × Bool)
  | 0 => return ([], false)
  | steps + 1 => do
    let (bytes, ended) ← readLine
    let cs := Text.decodeLossy bytes
    if raw then return (cs.map (·, false), ended)
    else
      let (marks, left) := resolved cs
      if left && ended then
        let (more, ended) ← logicalLine raw steps
        return (marks ++ more, ended)
      else return (marks, ended)

def read (args : List String) : Act Nat := do
  let (letters, names) := Utility.options args
  let names := if names.isEmpty then ["REPLY"] else names
  let (marks, ended) ← logicalLine ('r' ∈ letters) ((← get).input.length + 1)
  for (name, value) in names.zip (share names.length marks) do
    assign name value
  return if ended then 0 else 1

/-! ### Signals and jobs -/

def trap (args : List String) : Act Nat := do
  let setAll (command : Option String) (names : List String) : Act Nat := do
    match names.find? (fun n => (signal? n).isNone) with
    | some bad =>
      fault ("trap: " ++ bad ++ ": bad trap")
      return 1
    | none =>
      for (name, _) in names.filterMap signal? do
        change fun p => if name ∈ p.deaf then p else p.setTrap name command
      return 0
  match args with
  | [] => return 0
  | "--" :: command :: names => setAll (some command) names
  | "-" :: names => setAll none names
  | [name] => setAll none [name]
  | command :: names =>
    if command.toList.all Char.isDigit && command ≠ "" then setAll none args
    else setAll (some command) names

/-- Sends a signal to a process by its number; tells whether there is one. -/
def send (signal : String × Nat) (target : String) : Act Bool := do
  let p ← own
  let now := (← get).time
  if target = Text.decimal p.id || target = "0" then
    receive signal.1 signal.2
    return true
  match p.jobs.find? (fun j => Text.decimal j.id = target) with
  | some job =>
    if job.ends ≤ now then return false
    if signal.2 ≠ 0 then
      let ended : Job := { job with ends := now, status := 128 + signal.2 }
      change fun p => { p with jobs := p.jobs.map fun j => if j.id = job.id then ended else j }
    return true
  | none => return false

def kill (args : List String) : Act Nat := do
  let sendAll (signal : String × Nat) (targets : List String) : Act Nat :=
    Utility.forEach targets fun target => do
      if ← send signal target then return true
      fault "kill: No such process\n"
      return false
  match args with
  | arg :: targets =>
    match arg.toList with
    | '-' :: name =>
      match signal? (String.ofList name) with
      | some signal => sendAll signal targets
      | none => abort ("kill: Illegal option " ++ arg.take 2)
    | _ => sendAll ("TERM", 15) args
  | [] => return 2

def waitFor (job : Job) : Act Nat := do
  let now := (← get).time
  pass (job.ends - now)
  return if (← own).due.isSome then 130 else job.status

def wait (args : List String) : Act Nat := do
  let p ← own
  match args with
  | [] =>
    for job in p.jobs do
      let _ ← waitFor job
    return 0
  | ids =>
    ids.foldlM (fun _ id =>
      match p.jobs.find? (fun j => Text.decimal j.id = id) with
      | some job => waitFor job
      | none => return 127) 0

/-! ### The course of a script -/

/-- The number of loops that an argument says. -/
def levels (name : String) : List String → Act Nat
  | arg :: _ => numberIn name arg
  | [] => return 1

/-- Leaves some loops, at most those around. -/
def leaveLoops (name : String) (leave : Nat → Leave) (args : List String) : Act Nat := do
  let n ← levels name args
  let loops := (← own).loops
  if loops = 0 then return 0 else throw (leave (min n loops))

/-- The status that an argument says, or else the last one. -/
def statusIn (name : String) : List String → Act Nat
  | arg :: _ => do return (← numberIn name arg) % 256
  | [] => do return (← own).status

def print (bytes : List String → Text.Bytes) (args : List String) : Act Nat := do
  write 1 (bytes args)
  return 0

def all : List (String × Utility) :=
  [(":", fun _ => return 0), ("true", fun _ => return 0), ("false", fun _ => return 1),
    ("echo", print Format.echo), ("printf", Utility.printf), ("pwd", Utility.pwd),
    ("test", Utility.test "test" fun what => fault ("test: " ++ what)),
    ("[", Utility.test "[" fun what => fault ("[: " ++ what)),
    ("cd", cd), ("read", read), ("export", exportAll), ("unset", unset), ("shift", shift),
    ("set", set), ("trap", trap), ("kill", kill), ("wait", wait),
    ("exit", fun args => do throw (.exited (← statusIn "exit" args))),
    ("return", fun args => do throw (.returned (← statusIn "return" args))),
    ("break", leaveLoops "break" .broke), ("continue", leaveLoops "continue" .skipped)]

def find? (name : String) : Option Utility := (all.find? (fun b => b.1 = name)).map (·.2)

/-- The commands with which assignments in front of them stay. -/
def special : List String :=
  [":", "break", "continue", "exec", "exit", "export", "return", "set", "shift", "trap", "unset"]

end RobotPipeline.Rehearsal.Builtin
