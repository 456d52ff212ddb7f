/-
  RobotPipeline/Rehearsal/Machine.lean
  ====================================
  **A machine on which stages can be rehearsed.**

  It runs the programs of `Image` on the files of the pipeline and keeps its
  own time, so that whole runs can be followed without a robot, without a
  system, and with the same result each time.
-/
import RobotPipeline.Launcher
import RobotPipeline.Rehearsal.Shell

namespace RobotPipeline.Rehearsal

/-- The microseconds of a span. -/
def micros (span : Span) : Nat := span.toNanos / 1000

/-- When the operator or the time limit interrupts a process. -/
def interruptTime (s : Start) : Option Nat :=
  match s.timeLimit, s.cancelAfter with
  | some a, some b => some (min (micros a) (micros b))
  | some a, none => some (micros a)
  | none, b => b.map micros

/-- How a process ends that was interrupted: the earlier of the two reasons counts. -/
def interruption (s : Start) : Ending :=
  match s.timeLimit, s.cancelAfter with
  | some a, some b => if micros a ≤ micros b then .timedOut else .cancelled
  | some _, none => .timedOut
  | none, _ => .cancelled

def maxDepth : Nat := 1000

/-- How long output is waited for when a process has ended: two seconds. -/
def drainTime : Nat := 2000000

def opening (s : Start) : Scene where
  own := {
    id := 4000
    name := s.program
    vars := s.vars.sorted
    exported := s.vars.sorted.map (·.1)
    sinks := [(1, .stream .out), (2, .stream .err)] }
  files := s.files
  input := s.input
  interruptAt := interruptTime s
  killAt := (interruptTime s).map (· + micros s.grace)
  nextId := 4000

/-- Whether the system runs an image: it refuses a text that does not say what interprets it, unless
the program was looked up. -/
def accept (s : Start) (image : Image) : Except IoError Unit :=
  match image with
  | .bare _ => if s.program.toList.any (· = '/') then .error .unknownFormat else .ok ()
  | .interpreted program _ => (Image.ofPath s.files program).map fun _ => ()
  | _ => .ok ()

/-- How a process ends that nobody interrupts. -/
def ownEnding : Except Leave Nat → Ending
  | .ok code => .exited code
  | .error (.exited code) => .exited code
  | .error (.returned code) => .exited code
  | .error (.died signal) => .signalled signal
  | .error .killed => .signalled 9
  | .error .lost => .lost (.other "the process does not come to an end")
  | .error _ => .exited 0

/-- Whether a process was interrupted that ended at a time; one that goes on for too long to be
followed would have been. -/
def wasInterrupted (s : Start) (left : Except Leave Nat) (time : Nat) : Bool :=
  (interruptTime s).any fun interrupt => interrupt ≤ time || left matches .error .lost

/-- What a process did, from how it was left and the scene at its end. -/
def course (s : Start) (left : Except Leave Nat) (t : Scene) : Course :=
  let last := if (interruptTime s).any (· ≤ t.time) then t.time else t.time + drainTime
  let arrivals := (t.arrivals.reverse.filter (fun a => a.1 ≤ last)).mergeSort
    fun a b => decide (a.1 ≤ b.1)
  { arrivals := arrivals.map (·.2)
    ending := if wasInterrupted s left t.time then interruption s else ownEnding left
    elapsed := (Span.ofNanos? (t.time * 1000)).getD Span.zero
    files := { t.files with here := s.files.here } }

def machine : Machine := fun s => do
  let searchPath := (s.vars.get? Variables.searchPath).getD Image.usualPath
  let (path, image) ← Image.find s.files searchPath s.program
  accept s image
  let act : Act Nat := do
    Act.pass Shell.startTime
    Shell.run maxDepth image path s.program s.arguments
  let (left, t) := (act.run (opening s) : Id _)
  return course s left t

end RobotPipeline.Rehearsal
