/-
  RobotPipeline/Run/Basic.lean
  ============================
  **A run: one attempt to take a dataset through the whole pipeline.**

  A run keeps one record per stage, in pipeline order. After every change its
  index points at the first stage that is not complete, and its end is set
  exactly while all stages are complete.

  A stage may be ahead (running or succeeded) only when all stages before it
  are complete.
-/
import RobotPipeline.Registry.Basic
import RobotPipeline.Run.Record

namespace RobotPipeline

/-- A run. -/
structure Run where
  runId : String
  dataset : String
  stages : List StageRecord
  /-- The place of the first stage that is not complete; the number of stages if there is none. -/
  currentIndex : Nat
  startedAt : Instant
  finishedAt : Option Instant := none
  /-- The parameters of the latest invocation. -/
  parameters : Option Parameters := none
deriving DecidableEq, Repr

/-- A stage is ahead although an earlier one, the first such, is not complete. -/
structure OrderViolation where
  stage : String
  status : Status
  blocking : String
  blockingStatus : Status
deriving DecidableEq, Repr

namespace Run

/-! ### Questions -/

def names (run : Run) : List String := run.stages.map (·.name)

/-- The place of a stage, from 0. -/
def position? (run : Run) (name : String) : Option Nat :=
  run.stages.findIdx? (fun r => r.name = name)

def record? (run : Run) (name : String) : Option StageRecord :=
  run.stages.find? (fun r => r.name = name)

def status? (run : Run) (name : String) : Option Status := (run.record? name).map (·.status)

/-- The place of the first stage that is not complete. -/
def firstIncomplete? (run : Run) : Option Nat := run.stages.findIdx? (fun r => !r.status.isComplete)

def isComplete (run : Run) : Bool := run.firstIncomplete?.isNone

/-- Looks for a stage that is ahead of `blocking`, or of the first incomplete record. -/
def orderViolationFrom? : Option StageRecord → List StageRecord → Option OrderViolation
  | _, [] => none
  | none, r :: rest => orderViolationFrom? (if r.status.isComplete then none else some r) rest
  | some b, r :: rest =>
    if r.status.isAhead then some ⟨r.name, r.status, b.name, b.status⟩
    else orderViolationFrom? (some b) rest

/-- The first stage that is ahead of an incomplete one, if there is such a stage. -/
def orderViolation? (run : Run) : Option OrderViolation := orderViolationFrom? none run.stages

/-! ### Changes -/

/-- Sets the index by the statuses. -/
def reindex (run : Run) : Run :=
  { run with currentIndex := run.firstIncomplete?.getD run.stages.length }

/-- Sets index and end by the statuses. An end that was set before stays. -/
def refresh (now : Instant) (run : Run) : Run :=
  { run.reindex with
    finishedAt := if run.isComplete then run.finishedAt.or (some now) else none }

/-- Changes the first record with a name. -/
def changeFirst (change : StageRecord → StageRecord) (name : String) :
    List StageRecord → List StageRecord
  | [] => []
  | r :: rest => if r.name = name then change r :: rest else r :: changeFirst change name rest

def change (run : Run) (name : String) (f : StageRecord → StageRecord) : Run :=
  { run with stages := changeFirst f name run.stages }

def new (now : Instant) (dataset : String) (names : List String) : Run where
  runId := dataset ++ "-" ++ now.stamp
  dataset := dataset
  stages := names.map fun name => { name := name }
  currentIndex := 0
  startedAt := now

/-- The first record of a stage: left out if the stage is optional and no one asked for it. -/
def recordFor (included : List String) (s : Stage) : StageRecord :=
  let r : StageRecord := { name := s.name }
  if s.optional && s.name ∉ included then r.leaveOut else r

def forRegistry (now : Instant) (registry : Registry) (p : Parameters) : Run :=
  refresh now {
    new now p.dataset registry.names with
    stages := registry.stages.map (recordFor p.included)
    parameters := some p }

/-- A stage is about to be launched. -/
def markRunning (now : Instant) (name : String) (run : Run) : Run :=
  refresh now (run.change name (StageRecord.launch now))

/-- The attempt of a stage has ended. -/
def applyOutcome (now : Instant) (name : String) (o : Outcome) (run : Run) : Run :=
  refresh now (run.change name (StageRecord.settle o))

/-- A stage has failed without an outcome; `ran` if its process was started. -/
def markFailed (now : Instant) (name note : String) (ran : Bool) (run : Run) : Run :=
  refresh now (run.change name (StageRecord.fail now note ran))

def setNote (name note : String) (run : Run) : Run :=
  run.change name fun r => { r with note := some note }

/-- The operator skips a stage. -/
def markSkipped (now : Instant) (name note : String) (run : Run) : Run :=
  refresh now (run.change name (StageRecord.skip now note))

/-- Resets a record unless its stage was left out. -/
def resetRequested (r : StageRecord) : StageRecord := if r.isNotRequested then r else r.reset

/-- Resets the stages from a place on, except those left out. -/
def resetFrom (now : Instant) (place : Nat) (run : Run) : Run :=
  refresh now
    { run with stages := run.stages.take place ++ (run.stages.drop place).map resetRequested }

/-- Whether a left-out stage is taken in: it is asked for, and no stage in `later` has succeeded. -/
def isTakenIn (requested : List String) (r : StageRecord) (later : List StageRecord) : Bool :=
  r.isNotRequested && r.name ∈ requested && later.all (fun s => s.status ≠ .succeeded)

/-- The records with the stages taken in that are asked for. -/
def takeIn (requested : List String) : List StageRecord → List StageRecord
  | [] => []
  | r :: later =>
    (if isTakenIn requested r later then r.reset else r) :: takeIn requested later

def takenIn (requested : List String) : List StageRecord → List String
  | [] => []
  | r :: later =>
    if isTakenIn requested r later then r.name :: takenIn requested later
    else takenIn requested later

/-- Takes in left-out stages that are now asked for. -/
def includeOptional (now : Instant) (requested : List String) (run : Run) : Run :=
  refresh now { run with stages := takeIn requested run.stages }

/-- The stages that were running when the program stopped. -/
def interruptedStages (run : Run) : List String :=
  (run.stages.filter (fun r => r.status = .running)).map (·.name)

/-- Makes failures of the stages that were running when the program stopped. A run with such a
stage has no end. -/
def recover (run : Run) : Run :=
  if run.interruptedStages.isEmpty then run
  else reindex { run with stages := run.stages.map StageRecord.recover, finishedAt := none }

/-! ### Written form -/

def fieldNames : List String :=
  ["run_id", "dataset", "stages", "current_index", "started_at", "finished_at", "parameters"]

def toDatum (run : Run) : Datum :=
  .fields [
    ("run_id", .text run.runId),
    ("dataset", .text run.dataset),
    ("stages", .list (run.stages.map StageRecord.toDatum)),
    ("current_index", .natural run.currentIndex),
    ("started_at", Outcome.instantDatum run.startedAt),
    ("finished_at", StageRecord.orNull Outcome.instantDatum run.finishedAt),
    ("parameters", StageRecord.orNull Parameters.toDatum run.parameters)]

def read? (d : Datum) : Option Run := do
  let p ← Source.record? fieldNames d
  some {
    runId := ← p.required "run_id" Source.text?
    dataset := ← p.required "dataset" Source.text?
    stages := ← p.required "stages" (Source.listOf? StageRecord.read?)
    currentIndex := (← p.required "current_index" Source.word64?).toNat
    startedAt := ← p.required "started_at" Outcome.readInstant?
    finishedAt := ← p.optionalOrDefault "finished_at" Outcome.readInstant?
    parameters := ← p.optionalOrDefault "parameters" Parameters.read? }

end Run

end RobotPipeline
