/-
  RobotPipeline/Stage/TimeLimit.lean
  ==================================
  **How long a stage may run.**

  A limit is fixed, or it follows from the parameters of the run plus a
  margin. Sums and products that need more than 64 bits end at the largest
  number of 64 bits.
-/
import RobotPipeline.Parameters
import RobotPipeline.Time.Span

namespace RobotPipeline

/-! ### Saturating arithmetic -/

/-- The largest number of 64 bits. -/
def topWord : UInt64 := 0xFFFFFFFFFFFFFFFF

/-- The sum, or the largest number. -/
def saturatingAdd (a b : UInt64) : UInt64 :=
  if a.toNat + b.toNat ≤ topWord.toNat then a + b else topWord

/-- The product, or the largest number. -/
def saturatingMul (a b : UInt64) : UInt64 :=
  if a.toNat * b.toNat ≤ topWord.toNat then a * b else topWord

/-! ### Limits -/

/-- The time limit of a stage. -/
inductive TimeLimit where
  | fixed (seconds : UInt64)
  /-- All episodes with their resets, and a margin. -/
  | recording (margin : UInt64)
  /-- The teleoperation check, and a margin. -/
  | teleoperation (margin : UInt64)
deriving DecidableEq, Repr

namespace TimeLimit

def seconds (p : Parameters) : TimeLimit → UInt64
  | .fixed s => s
  | .recording margin =>
    saturatingAdd
      (saturatingMul (saturatingAdd p.episodeSeconds p.resetSeconds) p.episodes.toUInt64) margin
  | .teleoperation margin => saturatingAdd p.teleopSeconds margin

def resolve (p : Parameters) (t : TimeLimit) : Span := Span.ofSeconds (t.seconds p)

/-! ### Written form -/

def tagName : String := "kind"

def toDatum : TimeLimit → Datum
  | .fixed s => .fields [(tagName, .text "fixed"), ("seconds", .natural s.toNat)]
  | .recording m => .fields [(tagName, .text "recording"), ("margin_seconds", .natural m.toNat)]
  | .teleoperation m =>
    .fields [(tagName, .text "teleoperation"), ("margin_seconds", .natural m.toNat)]

/-- Reads the only field of a limit. -/
def only? (name : String) (make : UInt64 → TimeLimit) (d : Datum) : Option TimeLimit := do
  let p ← Source.record? [name] d
  (p.required name Source.word64?).map make

def ofTag? (tag : String) (d : Datum) : Option TimeLimit :=
  if tag = "fixed" then only? "seconds" .fixed d
  else if tag = "recording" then only? "margin_seconds" .recording d
  else if tag = "teleoperation" then only? "margin_seconds" .teleoperation d
  else none

def read? {δ : Type} [Source δ] (d : δ) : Option TimeLimit :=
  match Source.tagged? tagName d with
  | some (tag, rest) => ofTag? tag rest
  | none => none

end TimeLimit

end RobotPipeline
