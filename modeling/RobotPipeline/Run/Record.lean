/-
  RobotPipeline/Run/Record.lean
  =============================
  **What a run knows about one of its stages.**
-/
import RobotPipeline.Outcome

namespace RobotPipeline

/-- The status of a stage within a run. -/
inductive Status where
  | pending
  | running
  | succeeded
  | failed
  | skipped
deriving DecidableEq, Repr

namespace Status

/-- Later stages may run. -/
def isComplete : Status → Bool
  | .succeeded => true
  | .skipped => true
  | _ => false

/-- A stage with this status has gone past all earlier stages. -/
def isAhead : Status → Bool
  | .succeeded => true
  | .running => true
  | _ => false

def text : Status → String
  | .pending => "pending"
  | .running => "running"
  | .succeeded => "succeeded"
  | .failed => "failed"
  | .skipped => "skipped"

def ofText? (s : String) : Option Status :=
  [pending, running, succeeded, failed, skipped].find? (fun status => status.text = s)

/-- Reads a status: its name, or a record with its name as the only label and no value. -/
def read? : Datum → Option Status
  | .text s => ofText? s
  | .record [(.named s, .null)] => ofText? s
  | _ => none

end Status

/-- The record of a stage. -/
structure StageRecord where
  name : String
  status : Status := .pending
  /-- The number of launches. -/
  attempts : UInt32 := 0
  lastOutcome : Option Outcome := none
  /-- A failed or interrupted attempt may have left something half done. -/
  unreliable : Bool := false
  startedAt : Option Instant := none
  finishedAt : Option Instant := none
  note : Option String := none
deriving DecidableEq, Repr

namespace StageRecord

/-- The note of an optional stage that no one asked for. -/
def notRequested : String := "not requested"

/-- The note of a stage that was running when the program stopped. -/
def interrupted : String := "interrupted"

/-- Whether a stage was left out because no one asked for it. -/
def isNotRequested (r : StageRecord) : Bool :=
  r.status = .skipped && r.note = some notRequested

/-! ### Changes -/

/-- The record of a stage that is to run again; its attempts stay on record. -/
def reset (r : StageRecord) : StageRecord :=
  { r with status := .pending, startedAt := none, finishedAt := none, note := none }

/-- The record of a stage that no one asked for. -/
def leaveOut (r : StageRecord) : StageRecord :=
  { r with status := .skipped, note := some notRequested }

/-- The record of a stage that is about to be launched. -/
def launch (now : Instant) (r : StageRecord) : StageRecord :=
  { r with
    status := .running
    attempts := r.attempts + 1
    startedAt := some now
    finishedAt := none
    note := none }

def settle (o : Outcome) (r : StageRecord) : StageRecord :=
  { r with
    status := if o.isSuccess then .succeeded else .failed
    unreliable := !o.isSuccess
    note := if o.isSuccess then none else some o.summary
    startedAt := r.startedAt.or (some o.startedAt)
    finishedAt := some o.finishedAt
    lastOutcome := some o }

/-- The record of a stage that failed without an outcome; `ran` if its process was started. -/
def fail (now : Instant) (note : String) (ran : Bool) (r : StageRecord) : StageRecord :=
  { r with
    status := .failed
    unreliable := r.unreliable || ran
    finishedAt := some now
    note := some note }

def skip (now : Instant) (note : String) (r : StageRecord) : StageRecord :=
  { r with status := .skipped, finishedAt := some now, note := some note }

/-- The record of a stage that was running when the program stopped; other records stay. -/
def recover (r : StageRecord) : StageRecord :=
  if r.status = .running then
    { r with status := .failed, unreliable := true, note := some interrupted }
  else r

/-! ### Written form -/

def fieldNames : List String :=
  ["name", "status", "attempts", "last_result", "artifacts_unreliable", "started_at",
    "finished_at", "note"]

/-- The written form of a value that may be missing. -/
def orNull {α : Type} (write : α → Datum) : Option α → Datum
  | some a => write a
  | none => .null

def toDatum (r : StageRecord) : Datum :=
  .fields [
    ("name", .text r.name),
    ("status", .text r.status.text),
    ("attempts", .natural r.attempts.toNat),
    ("last_result", orNull Outcome.toDatum r.lastOutcome),
    ("artifacts_unreliable", .flag r.unreliable),
    ("started_at", orNull Outcome.instantDatum r.startedAt),
    ("finished_at", orNull Outcome.instantDatum r.finishedAt),
    ("note", .textOrNull r.note)]

def read? (d : Datum) : Option StageRecord := do
  let p ← Source.record? fieldNames d
  some {
    name := ← p.required "name" Source.text?
    status := ← p.required "status" Status.read?
    attempts := ← p.orDefault "attempts" 0 Source.word32?
    lastOutcome := ← p.optionalOrDefault "last_result" Outcome.read?
    unreliable := ← p.orDefault "artifacts_unreliable" false Source.flag?
    startedAt := ← p.optionalOrDefault "started_at" Outcome.readInstant?
    finishedAt := ← p.optionalOrDefault "finished_at" Outcome.readInstant?
    note := ← p.optionalOrDefault "note" Source.text? }

end StageRecord

end RobotPipeline
