/-
  RobotPipeline/Registry/Workflow.lean
  ====================================
  **Workflow files: a pipeline declared in YAML.**

  A workflow file has one field `stages` with the declarations. It replaces
  the built-in pipeline.
-/
import RobotPipeline.FileTree.Change
import RobotPipeline.Registry.BuiltIn
import RobotPipeline.Yaml.View

namespace RobotPipeline.Registry

def declarations? (text : String) : Option (List Stage) := do
  let root ← Yaml.read? text
  let p ← Source.record? ["stages"] (Yaml.View.ofRoot root)
  p.required "stages" (Source.listOf? Stage.read?)

/-- What is said of a text that declares no stages. -/
def notDeclarations : String := "no stage declarations"

/-- The declarations of a workflow text, or what is wrong with it. -/
def parse (text : String) : Except RegistryError (List Stage) :=
  match declarations? text with
  | some stages => .ok stages
  | none => .error (.document notDeclarations)

def readDeclarations (tree : FileTree) (path : String) : Except RegistryError (List Stage) :=
  match tree.readText path with
  | .ok text => parse text
  | .error refusal => .error (.io refusal)

def ofFile (tree : FileTree) (path : String) : Except RegistryError Registry :=
  (readDeclarations tree path).bind ofStages

end RobotPipeline.Registry
