/-
  RobotPipeline/Outcome.lean
  ==========================
  **How one attempt of a stage ended.**

  An exit code of 0 is the only sign of success. An attempt that was stopped
  by its time limit or by the operator has a fixed code and a flag of its own.
-/
import RobotPipeline.Source
import RobotPipeline.Time.Instant

namespace RobotPipeline

/-- The end of one attempt. -/
structure Outcome where
  stage : String
  exitCode : Int32
  timedOut : Bool := false
  /-- Stopped by the operator. -/
  cancelled : Bool := false
  duration : Span
  /-- The file that holds the output. -/
  logPath : Option String := none
  startedAt : Instant
  finishedAt : Instant
deriving DecidableEq, Repr

namespace Outcome

/-- The exit code of an attempt that ran into its time limit. -/
def timeoutCode : Int32 := 124

/-- The exit code of an attempt that the operator stopped. -/
def cancelledCode : Int32 := 130

/-! ### Making outcomes -/

/-- The longest span that an instant can be moved by: `2 ^ 63 - 1` milliseconds. -/
def maxShift : Nat := 9223372036854775807000000

/-- When an attempt of a given length started that ends now. A span too long to be moved by counts
as none; `none` if the start lies outside the calendar. -/
def startOf (now : Instant) (duration : Span) : Option Instant :=
  if duration.toNanos ≤ maxShift then now.before? duration else some now

/-- An attempt that ended by itself just now. -/
def exited? (now : Instant) (stage : String) (code : Int32) (duration : Span) : Option Outcome :=
  (startOf now duration).map fun started =>
    { stage := stage, exitCode := code, duration := duration, startedAt := started,
      finishedAt := now }

/-- An attempt that was stopped just now by its time limit. -/
def timedOut? (now : Instant) (stage : String) (duration : Span) : Option Outcome :=
  (exited? now stage timeoutCode duration).map fun o => { o with timedOut := true }

/-- An attempt that was stopped just now by the operator. -/
def cancelled? (now : Instant) (stage : String) (duration : Span) : Option Outcome :=
  (exited? now stage cancelledCode duration).map fun o => { o with cancelled := true }

/-! ### Reading outcomes -/

def isSuccess (o : Outcome) : Bool := o.exitCode = 0 && !o.timedOut && !o.cancelled

def summary (o : Outcome) : String :=
  if o.cancelled then "cancelled"
  else if o.timedOut then "timed out after " ++ o.duration.text
  else "exit " ++ Text.decimalInt o.exitCode.toInt

/-! ### Written form -/

def spanDatum (d : Span) : Datum :=
  .fields [("secs", .natural d.seconds.toNat), ("nanos", .natural d.nanos)]

/-- Reads a span. It has these two fields and no others. -/
def readSpan? (d : Datum) : Option Span :=
  match d with
  | .record [(.named "secs", s), (.named "nanos", n)] => make s n
  | .record [(.named "nanos", n), (.named "secs", s)] => make s n
  | .list [s, n] => make s n
  | _ => none
where
  /-- The span of its two parts. -/
  make (s n : Datum) : Option Span := do
    Span.ofParts? (← Source.word64? s) (← Source.word32? n).toNat

def instantDatum (i : Instant) : Datum := .text i.text

def readInstant? (d : Datum) : Option Instant := (Source.text? d).bind Instant.read?

def fieldNames : List String :=
  ["stage", "exit_code", "timed_out", "cancelled", "duration", "log_path", "started_at",
    "finished_at"]

def toDatum (o : Outcome) : Datum :=
  .fields [
    ("stage", .text o.stage),
    ("exit_code", .integer o.exitCode.toInt),
    ("timed_out", .flag o.timedOut),
    ("cancelled", .flag o.cancelled),
    ("duration", spanDatum o.duration),
    ("log_path", .textOrNull o.logPath),
    ("started_at", instantDatum o.startedAt),
    ("finished_at", instantDatum o.finishedAt)]

def read? (d : Datum) : Option Outcome := do
  let p ← Source.record? fieldNames d
  some {
    stage := ← p.required "stage" Source.text?
    exitCode := ← p.required "exit_code" Source.signed32?
    timedOut := ← p.required "timed_out" Source.flag?
    cancelled := ← p.orDefault "cancelled" false Source.flag?
    duration := ← p.required "duration" readSpan?
    logPath := ← p.optionalOrDefault "log_path" Source.text?
    startedAt := ← p.required "started_at" readInstant?
    finishedAt := ← p.required "finished_at" readInstant? }

end Outcome

end RobotPipeline
