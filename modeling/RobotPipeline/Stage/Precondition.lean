/-
  RobotPipeline/Stage/Precondition.lean
  =====================================
  **What has to hold right before a stage is launched.**
-/
import RobotPipeline.Source

namespace RobotPipeline

/-- A readiness check. -/
inductive Precondition where
  /-- A variable is set to something other than blanks. -/
  | variableSet (var : String)
  /-- A variable names a device that exists. -/
  | devicePresent (var : String)
  /-- A path template leads to a file or directory. -/
  | pathExists (path : String)
  /-- A path template leads to a directory with something in it. -/
  | directoryNotEmpty (path : String)
  /-- An artifact of an earlier stage is available and reliable. -/
  | artifact (name : String)
  /-- The devices of all cameras exist. -/
  | camerasPresent
  /-- A program can be found and executed. -/
  | commandAvailable (program : String)
deriving DecidableEq, Repr

namespace Precondition

def pathTemplate? : Precondition → Option String
  | .pathExists path => some path
  | .directoryNotEmpty path => some path
  | _ => none

def artifact? : Precondition → Option String
  | .artifact name => some name
  | _ => none

def text : Precondition → String
  | .variableSet var => "env:" ++ var
  | .devicePresent var => "device:" ++ var
  | .pathExists path => "path:" ++ path
  | .directoryNotEmpty path => "dir:" ++ path
  | .artifact name => "artifact:" ++ name
  | .camerasPresent => "cameras"
  | .commandAvailable program => "command:" ++ program

/-! ### Written form -/

def tagName : String := "check"

/-- The tag of a check, with its only field. -/
def toDatum : Precondition → Datum
  | .variableSet var => .fields [(tagName, .text "env_set"), ("var", .text var)]
  | .devicePresent var => .fields [(tagName, .text "device_present"), ("var", .text var)]
  | .pathExists path => .fields [(tagName, .text "path_exists"), ("path", .text path)]
  | .directoryNotEmpty path => .fields [(tagName, .text "dir_non_empty"), ("path", .text path)]
  | .artifact name => .fields [(tagName, .text "artifact"), ("name", .text name)]
  | .camerasPresent => .fields [(tagName, .text "cameras_present")]
  | .commandAvailable program =>
    .fields [(tagName, .text "command_available"), ("program", .text program)]

/-- Reads the only field of a check. -/
def only? (name : String) (make : String → Precondition) (d : Datum) : Option Precondition := do
  let p ← Source.record? [name] d
  (p.required name Source.text?).map make

def ofTag? (tag : String) (d : Datum) : Option Precondition :=
  if tag = "env_set" then only? "var" .variableSet d
  else if tag = "device_present" then only? "var" .devicePresent d
  else if tag = "path_exists" then only? "path" .pathExists d
  else if tag = "dir_non_empty" then only? "path" .directoryNotEmpty d
  else if tag = "artifact" then only? "name" .artifact d
  else if tag = "cameras_present" then (if d.isBare then some .camerasPresent else none)
  else if tag = "command_available" then only? "program" .commandAvailable d
  else none

def read? {δ : Type} [Source δ] (d : δ) : Option Precondition :=
  match Source.tagged? tagName d with
  | some (tag, rest) => ofTag? tag rest
  | none => none

end Precondition

end RobotPipeline
