/-
  RobotPipeline/CommandLine/Listing.lean
  ======================================
  **Runs and pipelines as the operator reads them.**
-/
import RobotPipeline.Json.Writer
import RobotPipeline.Registry.Basic
import RobotPipeline.Run.Basic

namespace RobotPipeline.CommandLine

/-! ### Runs -/

/-- The mark of the stage that a run is at. -/
def marker (run : Run) (place : Nat) : String :=
  if place = run.currentIndex && !run.isComplete then ">" else " "

/-- How long the last attempt took. -/
def durationText (r : StageRecord) : String :=
  match r.lastOutcome with
  | some o => o.duration.text
  | none => "-"

/-- The line of a stage at a place, which is shown from 1. -/
def stageLine (run : Run) (place : Nat) (r : StageRecord) : String :=
  marker run place ++ " " ++ Text.padLeft ' ' 2 (Text.decimal (place + 1)) ++ ". "
    ++ Text.padRight ' ' 20 r.name ++ " " ++ r.status.text
    ++ " attempts=" ++ Text.padRight ' ' 2 (Text.decimal r.attempts.toNat)
    ++ " " ++ Text.padLeft ' ' 9 (durationText r)
    ++ (match r.note with
      | some note => "  " ++ note
      | none => "")
    ++ (if r.unreliable && r.status ≠ .succeeded then "  (partial output)" else "")

def logLine? (r : StageRecord) : Option String :=
  if r.status = .failed then
    (r.lastOutcome.bind (·.logPath)).map fun path => "       log: " ++ path
  else none

def stageLines (run : Run) : Nat → List StageRecord → List String
  | _, [] => []
  | place, r :: rest =>
    stageLine run place r :: (logLine? r).toList ++ stageLines run (place + 1) rest

def runLines (run : Run) : List String :=
  ["Run " ++ run.runId ++ " (dataset " ++ run.dataset ++ ")",
    "Started: " ++ run.startedAt.listingText]
  ++ (run.finishedAt.map fun t => "Finished: " ++ t.listingText).toList
  ++ "" :: stageLines run 0 run.stages

/-! ### Pipelines -/

def flagsText (s : Stage) : String :=
  let flags :=
    (if s.optional then ["optional"] else if s.skippable then ["skippable"] else [])
    ++ (if s.interactive then ["interactive"] else [])
  if flags.isEmpty then "" else " [" ++ ", ".intercalate flags ++ "]"

def declarationLines (s : Stage) : List String :=
  let labelled (label : String) (items : List String) : List String :=
    if items.isEmpty then [] else ["    " ++ label ++ ": " ++ ", ".intercalate items]
  [Text.padLeft ' ' 2 (Text.decimal s.ordinal.toNat) ++ ". " ++ s.name ++ flagsText s]
  ++ (if s.description = "" then [] else ["    " ++ s.description])
  ++ ["    command: " ++ s.command.text]
  ++ labelled "requires" (s.preconditions.map (·.text))
  ++ labelled "produces" (s.produces.map (·.name))

def pipelineLines (r : Registry) : List String := r.stages.flatMap declarationLines

def pipelineJson (r : Registry) : String :=
  Json.pretty (.fields [("stages", .list (r.stages.map Stage.toDatum))])

end RobotPipeline.CommandLine
