/-
  RobotPipeline/Stage/Artifact.lean
  =================================
  **What a stage leaves behind for later stages.**

  An artifact with a path lies on disk; one without is logical and exists once
  the stage that produces it has succeeded.
-/
import RobotPipeline.Source

namespace RobotPipeline

/-- A product of a stage. -/
structure Artifact where
  name : String
  /-- The template of its path. -/
  path : Option String
deriving DecidableEq, Repr

namespace Artifact

def fieldNames : List String := ["name", "path"]

def toDatum (a : Artifact) : Datum :=
  .fields [("name", .text a.name), ("path", .textOrNull a.path)]

def read? {δ : Type} [Source δ] (d : δ) : Option Artifact := do
  let p ← Source.record? fieldNames d
  some {
    name := ← p.required "name" Source.text?
    path := ← p.optionalOrDefault "path" Source.text? }

end Artifact

end RobotPipeline
