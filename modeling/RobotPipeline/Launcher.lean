/-
  RobotPipeline/Launcher.lean
  ===========================
  **Launching the commands of stages.**

  A command gets its own process and only the variables of its launch. What it
  prints goes line by line to the operator and to the log of the attempt. An
  interactive command talks to the operator itself; its log has a header only.

  A command that runs past its time limit, or that the operator cancels, is
  interrupted and, when its grace is over, killed. What processes do is up to
  the machine they run on.
-/
import RobotPipeline.Relay
import RobotPipeline.Text.Quoted
import RobotPipeline.World

namespace RobotPipeline

/-! ### Machines -/

/-- What a process is started with. -/
structure Start where
  program : String
  arguments : List String
  vars : Variables
  /-- What it can read. -/
  input : Text.Bytes
  files : FileTree
  timeLimit : Option Span
  /-- How long after its start the operator cancels it. -/
  cancelAfter : Option Span
  /-- How long it may go on after an interrupt. -/
  grace : Span

/-- How a process ends. -/
inductive Ending where
  | exited (code : Nat)
  /-- By a signal that nobody here sent. -/
  | signalled (number : Nat)
  | timedOut
  | cancelled
  /-- Nobody knows: the system lost track of it. -/
  | lost (cause : IoError)
deriving DecidableEq, Repr

/-- What a process did. -/
structure Course where
  arrivals : List Arrival
  ending : Ending
  elapsed : Span
  files : FileTree

/-- What runs processes. A start that is refused does nothing. -/
abbrev Machine : Type := Start → Except IoError Course

/-! ### The launcher -/

/-- How commands are launched. -/
structure Launcher where
  machine : Machine
  grace : Span
  /-- Nothing of what commands print is passed on to the operator. -/
  quiet : Bool := false
  /-- A file that stands in for the operator's answers. -/
  operatorInput : Option String := none

namespace Launcher

def logHeader (l : Launch) (now : Instant) : String :=
  "# stage: " ++ l.stage ++ "\n# argv: " ++ Text.quotedList l.arguments ++ "\n# started: "
    ++ now.offsetText ++ "\n" ++ (if l.interactive then "# output: terminal\n" else "")

def beginLog (tree : FileTree) (l : Launch) (now : Instant) : Except IoError FileTree :=
  match l.logPath with
  | none => .ok tree
  | some path => do
    let tree ← match Path.parent? path with
      | some above => tree.makeDirectories above
      | none => .ok tree
    tree.write path (.text (logHeader l now))

def logText (lines : List (Stream × String)) : String :=
  String.join (lines.map fun line => line.2 ++ "\n")

/-- The tree with lines added to a log that is still there. -/
def addToLog (tree : FileTree) (path : String) (lines : List (Stream × String)) : FileTree :=
  match tree.read path with
  | .error _ => tree
  | .ok (.text s) => (tree.write path (.text (s ++ logText lines))).toOption.getD tree
  | .ok (.bytes bs) =>
    (tree.write path (.ofBytes (bs ++ Text.encodeText (logText lines)))).toOption.getD tree

/-- What the operator sees of the lines on a stream. -/
def echoed (stage : String) (stream : Stream) (lines : List (Stream × String)) : String :=
  String.join ((lines.filter (fun line => line.1 = stream)).map fun line =>
    "[" ++ stage ++ "] " ++ line.2 ++ "\n")

/-- What an interactive command can read. A directory can be opened, but not read. -/
def operatorAnswers (r : Launcher) (tree : FileTree) (l : Launch) : Except IoError Text.Bytes :=
  match l.interactive, r.operatorInput with
  | true, some path =>
    match tree.read path with
    | .ok content => .ok content.toBytes
    | .error cause => if cause = .isADirectory then .ok [] else .error cause
  | _, _ => .ok []

/-- Whether a text can be handed to the system. -/
def isPassable (s : String) : Bool := s.toList.all (fun c => c.toNat ≠ 0)

def start (r : Launcher) (l : Launch) (s : Start) : Except LaunchError Course :=
  if (s.program :: s.arguments).all isPassable
      && s.vars.all (fun v => isPassable v.1 && isPassable v.2) then
    match r.machine s with
    | .ok course => .ok course
    | .error cause => .error (.notStarted l.stage s.program cause)
  else .error (.notStarted l.stage s.program .nulInArgument)

/-- The world after a process, with what it printed passed on. -/
def relay {σ : Type} (r : Launcher) (l : Launch) (course : Course) (w : World σ) : World σ :=
  let w := { w with
    files := course.files, cancelled := w.cancelled || course.ending = .cancelled }
  if l.interactive then
    let shown (stream : Stream) : String :=
      String.ofList (Text.decodeLossy (Relay.bytesOf stream course.arrivals))
    { w with output := w.output ++ shown .out, errors := w.errors ++ shown .err }
  else
    let lines := Relay.lines [] [] course.arrivals
    let w := match l.logPath with
      | some path => { w with files := addToLog w.files path lines }
      | none => w
    if r.quiet then w
    else
      { w with
        output := w.output ++ echoed l.stage .out lines
        errors := w.errors ++ echoed l.stage .err lines }

def outcomeOf (l : Launch) (course : Course) (started finished : Instant) (code : Nat) : Outcome :=
  { stage := l.stage
    exitCode := Int32.ofNat code
    timedOut := course.ending = .timedOut
    cancelled := course.ending = .cancelled
    duration := course.elapsed
    logPath := l.logPath
    startedAt := started
    finishedAt := finished }

/-- The exit code of a process; `none` if it was lost. -/
def exitCode? : Ending → Except IoError Nat
  | .exited code => .ok code
  | .signalled number => .ok (128 + number)
  | .timedOut => .ok Outcome.timeoutCode.toInt.toNat
  | .cancelled => .ok Outcome.cancelledCode.toInt.toNat
  | .lost cause => .error cause

/-- Changes the files, unless the system refuses. -/
def changeFiles {σ : Type} (change : FileTree → Except IoError FileTree) :
    Action σ LaunchError Unit := fun w =>
  match change w.files with
  | .ok files => (.ok (), { w with files := files })
  | .error cause => (.error (.io cause), w)

/-- Launches a command and waits for its process to end. The state is the time after the start at
which the operator will cancel. -/
def run (r : Launcher) : Executor (Option Span) := fun l => do
  match l.arguments with
  | [] => throw (.emptyCommand l.stage)
  | program :: arguments =>
    let now ← Action.now
    changeFiles fun tree => beginLog tree l now
    let w ← get
    match r.operatorAnswers w.files l with
    | .error cause => throw (.io cause)
    | .ok input =>
      let started ← Action.now
      let course ← Action.ofExcept (r.start l {
        program := program
        arguments := arguments
        vars := l.vars
        input := input
        files := w.files
        timeLimit := l.timeLimit
        cancelAfter := if w.wantsEnd then some Span.zero else w.tool
        grace := r.grace })
      modify (r.relay l course)
      match exitCode? course.ending with
      | .error cause => throw (.lost l.stage cause)
      | .ok code => return outcomeOf l course started (← Action.now) code

end Launcher

end RobotPipeline
