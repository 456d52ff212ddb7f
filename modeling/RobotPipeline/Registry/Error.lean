/-
  RobotPipeline/Registry/Error.lean
  =================================
  **Why a pipeline is refused.**
-/
import RobotPipeline.IoError

namespace RobotPipeline

/-- What is wrong with a pipeline, or with a question to it. -/
inductive RegistryError where
  | unknownStage (name : String)
  | duplicateStage (name : String)
  | duplicateOrdinal (ordinal : UInt32) (first second : String)
  | duplicateArtifact (artifact first second : String)
  /-- A stage depends on an artifact that only it or a later stage produces. -/
  | forwardReference (stage artifact producer : String)
  | unknownArtifact (stage artifact : String)
  | unknownHole (stage hole : String)
  | emptyCommand (stage : String)
  | empty
  | io (cause : IoError)
  /-- The workflow file is no document of stage declarations. -/
  | document (reason : String)
deriving DecidableEq, Repr

namespace RegistryError

def message : RegistryError → String
  | .unknownStage name => "Stage '" ++ name ++ "' not found in registry"
  | .duplicateStage name => "Stage '" ++ name ++ "' is declared more than once"
  | .duplicateOrdinal ordinal first second =>
    "Ordinal " ++ Text.decimal ordinal.toNat ++ " is used by both '" ++ first ++ "' and '"
      ++ second ++ "'"
  | .duplicateArtifact artifact first second =>
    "Artifact '" ++ artifact ++ "' is produced by both '" ++ first ++ "' and '" ++ second ++ "'"
  | .forwardReference stage artifact producer =>
    "Stage '" ++ stage ++ "' depends on artifact '" ++ artifact ++ "' produced by later stage '"
      ++ producer ++ "'"
  | .unknownArtifact stage artifact =>
    "Stage '" ++ stage ++ "' depends on artifact '" ++ artifact ++ "' which no stage produces"
  | .unknownHole stage hole =>
    "Stage '" ++ stage ++ "' references unknown parameter '\x7b" ++ hole ++ "\x7d'"
  | .emptyCommand stage => "Stage '" ++ stage ++ "' has an empty command"
  | .empty => "Registry must declare at least one stage"
  | .io cause => "IO error: " ++ cause.message
  | .document reason => "YAML parsing error: " ++ reason

/-- The texts of an error and of what caused it, outermost first. -/
def chain (e : RegistryError) : List String :=
  match e with
  | .io cause => [e.message, cause.message]
  | .document reason => [e.message, reason]
  | _ => [e.message]

/-- Whether the pipeline itself is at fault, and not the question asked of it. -/
def isConfigurationError : RegistryError → Bool
  | .unknownStage _ => false
  | _ => true

end RegistryError

end RobotPipeline
