/-
  RobotPipeline/Rehearsal/Process.lean
  ====================================
  **The processes of a rehearsal: what they share, what is their own, and how
  they end.**

  One process runs at a time, and whoever started it waits. Time passes only
  when a process says so. At one time an interrupt may reach all processes that
  run then; each of them meets it once, when time has passed so far: it ignores
  it, takes a note of the command that it has set for it, or dies. At a later
  time whatever is left is killed.
-/
import RobotPipeline.FileTree.Change
import RobotPipeline.Rehearsal.Syntax
import RobotPipeline.Relay
import RobotPipeline.Variable

namespace RobotPipeline.Rehearsal

open Text (Bytes)

/-! ### State -/

/-- Where what is written to a descriptor goes. -/
inductive Sink where
  | stream (s : Stream)
  /-- To the end of the file at an absolute path. -/
  | file (path : String)
  /-- To whoever reads the output of the command. -/
  | captured
  | nowhere

/-- A command in the background. -/
structure Job where
  id : Nat
  ends : Nat
  status : Nat

/-- What belongs to a process. -/
structure Process where
  id : Nat
  name : String
  args : List String := []
  vars : Variables
  exported : List String
  functions : List (String × Command) := []
  /-- The commands that are set for signals; an empty one ignores the signal. -/
  traps : List (String × String) := []
  /-- Signals that were ignored from the start and stay ignored. -/
  deaf : List String := []
  status : Nat := 0
  /-- The status of a command whose output the words of this one took in. -/
  substituted : Option Nat := none
  /-- It exits when a command fails. -/
  exitsOnFailure : Bool := false
  /-- What runs is a test, so it may fail. -/
  testing : Bool := false
  /-- What runs is the last command of the process. -/
  final : Bool := false
  /-- The number of loops around what runs. -/
  loops : Nat := 0
  line : Nat := 1
  sinks : List (Nat × Sink)
  /-- It has met the interrupt. -/
  met : Bool := false
  /-- The command of a signal that it has caught. -/
  due : Option String := none
  jobs : List Job := []

/-- What a rehearsal is about. Times are in microseconds from its start. -/
structure Scene where
  /-- The process that runs. -/
  own : Process
  files : FileTree
  /-- What can still be read. -/
  input : Bytes
  time : Nat := 0
  interruptAt : Option Nat
  killAt : Option Nat
  /-- What came out and when, the latest first. -/
  arrivals : List (Nat × Arrival) := []
  /-- What was captured, the latest first. -/
  captured : List Bytes := []
  nextId : Nat

/-- How a process or a part of its script is left before its end. -/
inductive Leave where
  | exited (code : Nat)
  | died (signal : Nat)
  /-- Out of loops. -/
  | broke (levels : Nat)
  /-- To the next round of a loop. -/
  | skipped (levels : Nat)
  /-- Out of a function. -/
  | returned (code : Nat)
  /-- All processes were killed. -/
  | killed
  /-- It goes on for longer than anyone follows it. -/
  | lost

/-- Something that a process does. -/
abbrev Act : Type → Type := ExceptT Leave (StateM Scene)

/-! ### Signals -/

/-- What a shell says when a signal has ended a program. -/
def deathNotice? (signal : Nat) : Option String :=
  match signal with
  | 1 => some "Hangup"
  | 3 => some "Quit"
  | 6 => some "Aborted"
  | 9 => some "Killed"
  | 10 => some "User defined signal 1"
  | 12 => some "User defined signal 2"
  | 14 => some "Alarm clock"
  | 15 => some "Terminated"
  | _ => none

def signals : List (String × Nat) :=
  [("EXIT", 0), ("HUP", 1), ("INT", 2), ("QUIT", 3), ("ABRT", 6), ("KILL", 9), ("USR1", 10),
    ("USR2", 12), ("PIPE", 13), ("ALRM", 14), ("TERM", 15)]

def signal? (s : String) : Option (String × Nat) :=
  signals.find? (fun g => g.1 = s || Text.decimal g.2 = s)

namespace Process

/-- The command that a process has set for a signal. -/
def trap? (p : Process) (signal : String) : Option String :=
  (p.traps.find? (fun t => t.1 = signal)).map (·.2)

def setTrap (p : Process) (signal : String) (command : Option String) : Process :=
  { p with traps := p.traps.filter (fun t => t.1 ≠ signal) ++ (command.map (signal, ·)).toList }

/-- Where what a process writes to a descriptor goes. -/
def sink? (p : Process) (descriptor : Nat) : Option Sink :=
  (p.sinks.find? (fun k => k.1 = descriptor)).map (·.2)

/-- A process as it starts out of another one: it ignores the same signals and catches none. -/
def child (p : Process) : Process :=
  { p with
    traps := p.traps.filter (fun t => t.2 = "")
    due := none
    jobs := []
    final := false
    loops := 0 }

def environment (p : Process) : Variables := p.vars.filter (fun v => v.1 ∈ p.exported)

end Process

namespace Act

def change (f : Process → Process) : Act Unit := modify fun s => { s with own := f s.own }

/-- The process that runs. -/
def own : Act Process := do return (← get).own

/-- What a signal does to the process that runs. -/
def receive (name : String) (number : Nat) : Act Unit := do
  match number, (← own).trap? name with
  | 0, _ => return
  | 9, _ => throw (.died 9)
  | _, some "" => return
  | _, some command => change fun p => { p with due := some command }
  | _, none => throw (.died number)

/-! ### Time -/

/-- Lets time pass, unless all processes are killed before. -/
def endure (micros : Nat) : Act Unit := do
  let s ← get
  match s.killAt with
  | some t =>
    if t ≤ s.time + micros then
      set { s with time := max s.time t }
      throw .killed
    else set { s with time := s.time + micros }
  | none => set { s with time := s.time + micros }

/-- Lets time pass. The interrupt ends it early unless it is ignored. -/
def pass (micros : Nat) : Act Unit := do
  let s ← get
  match s.interruptAt with
  | some t =>
    if !s.own.met && t ≤ s.time + micros then
      change fun p => { p with met := true }
      if s.own.trap? "INT" = some "" then endure micros
      else
        endure (t - s.time)
        receive "INT" 2
    else endure micros
  | none => endure micros

/-! ### Reading and writing -/

def write (descriptor : Nat) (bytes : Bytes) : Act Unit := do
  let s ← get
  if bytes.isEmpty then return
  match s.own.sink? descriptor with
  | some (.stream stream) =>
    set { s with arrivals := (s.time, .bytes stream bytes) :: s.arrivals }
  | some (.file path) =>
    let before := match s.files.read path with
      | .ok content => content.toBytes
      | .error _ => []
    match s.files.write path (.ofBytes (before ++ bytes)) with
    | .ok files => set { s with files := files }
    | .error _ => return
  | some .captured => set { s with captured := bytes :: s.captured }
  | _ => return

def print (text : String) : Act Unit := write 1 (Text.encodeText text)

def complain (line : String) : Act Unit := write 2 (Text.encodeText (line ++ "\n"))

/-- Reads a line, and tells whether it was ended by a newline. -/
def readLine : Act (Bytes × Bool) := do
  let s ← get
  let line := s.input.takeWhile (fun b => b ≠ Text.newline)
  set { s with input := s.input.drop (line.length + 1) }
  return (line, line.length < s.input.length)

def readAll : Act Bytes := modifyGet fun s => (s.input, { s with input := [] })

/-- Changes the files, or gives the refusal of the system. -/
def changeFiles (f : FileTree → Except IoError FileTree) : Act (Option IoError) := do
  let s ← get
  match f s.files with
  | .ok files =>
    set { s with files := files }
    return none
  | .error cause => return some cause

/-! ### Processes -/

/-- Runs something as a process of its own. Gives the status that it ends with, and the signal that
ended it. -/
def asChild (start : Process → Process) (act : Act Unit) : Act (Nat × Option Nat) := fun s =>
  let (result, t) := (act.run { s with own := start s.own.child } : Id _)
  let after := { t with own := s.own, files := { t.files with here := s.files.here } }
  match result with
  | .ok () => (.ok (t.own.status, none), after)
  | .error (.exited code) => (.ok (code, none), after)
  | .error (.returned code) => (.ok (code, none), after)
  | .error (.died signal) => (.ok (128 + signal, some signal), after)
  | .error (.broke _) => (.ok (0, none), after)
  | .error (.skipped _) => (.ok (0, none), after)
  | .error .killed => (.error .killed, after)
  | .error .lost => (.error .lost, after)

/-- Runs something as a process of its own, and gives the status that it ends with. -/
def apart (start : Process → Process) (act : Act Unit) : Act Nat := do
  return (← asChild start act).1

/-- The result of an act, and what it wrote where captured output goes. -/
def capturing {α : Type} (act : Act α) : Act (α × Bytes) := fun s =>
  let (result, t) := (act.run { s with captured := [] } : Id _)
  let after := { t with captured := s.captured }
  match result with
  | .ok a => (.ok (a, t.captured.reverse.flatten), after)
  | .error leave => (.error leave, after)

/-- Does something, and puts back what it changed: `f` mends the scene from the one before. -/
def restoring {α : Type} (f : Scene → Scene → Scene) (act : Act α) : Act α := fun s =>
  let (result, t) := (act.run s : Id _)
  (result, f s t)

/-- Runs something with other input, and goes on with the input from before. -/
def withInput {α : Type} (input : Bytes) (act : Act α) : Act α :=
  restoring (fun s t => { t with input := s.input }) do
    modify fun s => { s with input := input }
    act

/-- Repeats a step while it says so, at most `rounds` times. -/
def repeating (step : Act Bool) : Nat → Act Unit
  | 0 => throw .lost
  | rounds + 1 => fun s =>
    match (step.run s : Id _) with
    | (.ok true, t) => repeating step rounds t
    | (.ok false, t) => (.ok (), t)
    | (.error leave, t) => (.error leave, t)

end Act

end RobotPipeline.Rehearsal
