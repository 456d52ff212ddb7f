/-
  RobotPipeline/Stage/Declaration.lean
  ====================================
  **The declaration of a stage.**

  A stage is one external command with the checks that come before it, the
  artifacts it produces and its time limit. Its ordinal places it in the
  pipeline: lower runs first.
-/
import RobotPipeline.Stage.Command
import RobotPipeline.Stage.Artifact
import RobotPipeline.Stage.Precondition
import RobotPipeline.Stage.TimeLimit

namespace RobotPipeline

/-- A declared stage. -/
structure Stage where
  name : String
  ordinal : UInt32
  description : String := ""
  preconditions : List Precondition := []
  command : Command
  produces : List Artifact := []
  /-- The operator may mark it skipped. -/
  skippable : Bool := false
  /-- It runs only when a run asks for it. -/
  optional : Bool := false
  /-- It talks to the operator. -/
  interactive : Bool := false
  timeLimit : Option TimeLimit := none
deriving DecidableEq, Repr

namespace Stage

/-- The artifacts a stage depends on, in the order of its checks. -/
def dependencies (s : Stage) : List String := s.preconditions.filterMap Precondition.artifact?

/-- The names of all holes: of the command, of the path checks, of the artifact paths. -/
def holes (s : Stage) : List String :=
  s.command.holes
    ++ (s.preconditions.filterMap Precondition.pathTemplate?).flatMap Template.holes
    ++ (s.produces.filterMap (·.path)).flatMap Template.holes

/-! ### Written form -/

def fieldNames : List String :=
  ["name", "ordinal", "description", "preconditions", "command", "produces", "skippable",
    "optional", "interactive", "timeout"]

def toDatum (s : Stage) : Datum :=
  .fields [
    ("name", .text s.name),
    ("ordinal", .natural s.ordinal.toNat),
    ("description", .text s.description),
    ("preconditions", .list (s.preconditions.map Precondition.toDatum)),
    ("command", s.command.toDatum),
    ("produces", .list (s.produces.map Artifact.toDatum)),
    ("skippable", .flag s.skippable),
    ("optional", .flag s.optional),
    ("interactive", .flag s.interactive),
    ("timeout", match s.timeLimit with
      | some t => t.toDatum
      | none => .null)]

def read? {δ : Type} [Source δ] (d : δ) : Option Stage := do
  let p ← Source.record? fieldNames d
  some {
    name := ← p.required "name" Source.text?
    ordinal := ← p.required "ordinal" Source.word32?
    description := ← p.orDefault "description" "" Source.text?
    preconditions := ← p.orDefault "preconditions" [] (Source.listOf? Precondition.read?)
    command := ← p.required "command" Command.read?
    produces := ← p.orDefault "produces" [] (Source.listOf? Artifact.read?)
    skippable := ← p.orDefault "skippable" false Source.flag?
    optional := ← p.orDefault "optional" false Source.flag?
    interactive := ← p.orDefault "interactive" false Source.flag?
    timeLimit := ← p.optionalOrDefault "timeout" TimeLimit.read? }

end Stage

end RobotPipeline
