/-
  RobotPipeline/World.lean
  ========================
  **What an invocation acts on.**

  An invocation reads and writes files, looks at the clock, prints, launches
  commands and may be cancelled. Whoever launches the commands has a state of
  its own and may change the files, print and cancel. Nothing else happens, so
  an invocation is a function on worlds.

  The journal lists the checks, commits and launches of an invocation, the
  latest first. What a crash leaves behind is what was committed before it.
-/
import RobotPipeline.Failure
import RobotPipeline.Launch
import RobotPipeline.Ledger.Basic
import RobotPipeline.Snapshot

namespace RobotPipeline

/-- An entry of the journal. -/
inductive Event where
  /-- The checks of a stage were made, against the files as they were. -/
  | checked (stage : String) (env : Snapshot) (files : FileTree) (failed : List String)
  /-- A snapshot of the run was committed. -/
  | saved (run : Run)
  /-- A commit of the run was refused. -/
  | refused (run : Run) (cause : LedgerError)
  /-- A command was handed over. -/
  | launched (launch : Launch)
  /-- A command came back. -/
  | returned (stage : String) (result : Except LaunchError Outcome)
deriving Repr

/-- What an invocation acts on. -/
structure World (σ : Type) where
  files : FileTree
  /-- The readings of the clock. -/
  clock : Nat → Instant
  /-- The number of readings so far. -/
  readings : Nat := 0
  /-- What the system says to a commit, by its number; most often nothing. -/
  refusals : Nat → Option IoError := fun _ => none
  /-- The number of commits so far, refused ones included. -/
  commits : Nat := 0
  /-- The operator wants the invocation to end. -/
  cancelled : Bool := false
  /-- The moment at which the operator comes to want that, by the number of entries that the journal
  has then; most often never. -/
  interrupt : Option Nat := none
  /-- What was printed. -/
  output : String := ""
  /-- What was printed as an error. -/
  errors : String := ""
  journal : List Event := []
  /-- The state of whoever launches the commands. -/
  tool : σ

/-- Whether the operator wants the invocation to end by now. -/
def World.wantsEnd {σ : Type} (w : World σ) : Bool :=
  w.cancelled || w.interrupt.any (fun moment => moment ≤ w.journal.length)

/-- A step of an invocation: it changes the world and gives a result or an error. -/
abbrev Action (σ ε α : Type) : Type := ExceptT ε (StateM (World σ)) α

/-- Whoever launches commands. -/
abbrev Executor (σ : Type) : Type := Launch → Action σ LaunchError Outcome

namespace Action

variable {σ ε α : Type}

/-- The result of an action in a world, and the world after it. -/
def perform (act : Action σ ε α) (w : World σ) : Except ε α × World σ := (act.run w : Id _)

def now : Action σ ε Instant := fun w =>
  (.ok (w.clock w.readings), { w with readings := w.readings + 1 })

def printLine (line : String) : Action σ ε Unit :=
  fun w => (.ok (), { w with output := w.output ++ line ++ "\n" })

def record (e : Event) : Action σ ε Unit := fun w => (.ok (), { w with journal := e :: w.journal })

/-- The files after a commit of a run, or why it is refused. -/
def commit (ledger : Ledger) (run : Run) (w : World σ) : Except LedgerError FileTree :=
  match run.orderViolation? with
  | some violation => .error (.stageOrder violation)
  | none =>
    match w.refusals w.commits with
    | some cause => .error (.io cause)
    | none => ledger.save w.files run

/-- Commits a snapshot of a run. A commit that is refused changes no file. -/
def save (ledger : Ledger) (run : Run) : Action σ Failure Unit := fun w =>
  match commit ledger run w with
  | .ok files =>
    (.ok (), { w with
      commits := w.commits + 1, files := files, journal := .saved run :: w.journal })
  | .error cause =>
    (.error (.ledger cause), { w with
      commits := w.commits + 1, journal := .refused run cause :: w.journal })

/-- Hands a command over and waits for it to come back. The clock, the commits and the journal are
not within reach of whoever launches it, and a wish to end is not taken back. -/
def launch (executor : Executor σ) (l : Launch) :
    Action σ ε (Except LaunchError Outcome) := fun w =>
  let (result, after) := (executor l).perform w
  (.ok result, { after with
    clock := w.clock
    refusals := w.refusals
    commits := w.commits
    cancelled := w.cancelled || after.cancelled
    interrupt := w.interrupt
    journal := .returned l.stage result :: .launched l :: w.journal })

/-- Goes on with a result that does not depend on the world. -/
def ofExcept (result : Except ε α) : Action σ ε α := fun w => (result, w)

end Action

end RobotPipeline
