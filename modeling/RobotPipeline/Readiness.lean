/-
  RobotPipeline/Readiness.lean
  ============================
  **Whether a stage is ready to be launched.**

  Every check is made anew, against the files as they are. Each says which
  names it contributes to the list of what failed; a stage is ready when the
  list is empty.

  What a failed or interrupted attempt left behind is never trusted: an
  artifact whose producer is marked unreliable is not available.
-/
import RobotPipeline.FileTree.Walk
import RobotPipeline.Run.Basic
import RobotPipeline.Snapshot

namespace RobotPipeline.Readiness

/-! ### Programs -/

def splitColons : List Char → List (List Char)
  | [] => [[]]
  | c :: rest =>
    if c = ':' then [] :: splitColons rest
    else
      match splitColons rest with
      | [] => [[c]]
      | part :: parts => (c :: part) :: parts

/-- The directories of a search path. -/
def searchDirs (path : String) : List String := (splitColons path.toList).map String.ofList

/-- Whether a program can be executed: by its path if there is a slash in its name, else in one of
the directories of the search path. -/
def isAvailable (tree : FileTree) (searchPath : Option String) (program : String) : Bool :=
  if '/' ∈ program.toList then tree.isExecutable program
  else
    match searchPath with
    | some path => (searchDirs path).any fun dir => tree.isExecutable (Path.join dir program)
    | none => false

/-! ### Artifacts -/

/-- Whether something usable is at a path: a directory has to have something in it. -/
def isUsable (tree : FileTree) (path : String) : Bool :=
  if tree.isDirectory path then tree.isNonEmptyDirectory path else tree.pathExists path

/-- Whether an artifact is available: its producer is not marked unreliable, and it lies on disk
or, without a path, its producer has succeeded. -/
def hasArtifact (registry : Registry) (env : Snapshot) (run : Run) (tree : FileTree)
    (name : String) : Bool :=
  match registry.producer? name with
  | none => false
  | some producer =>
    let record := run.record? producer.name
    if record.any (·.unreliable) then false
    else
      match (registry.artifact? name).bind (·.path) with
      | some template => isUsable tree (env.render template)
      | none => record.any (fun r => r.status = .succeeded)

/-! ### Checks -/

/-- A name, unless the check holds. -/
def nameUnless (holds : Bool) (name : String) : List String := if holds then [] else [name]

/-- The names that one check contributes to what failed. -/
def failures (registry : Registry) (env : Snapshot) (run : Run) (tree : FileTree) :
    Precondition → List String
  | .variableSet var => nameUnless (env.var? var).isSome ("env:" ++ var)
  | .devicePresent var => nameUnless ((env.var? var).any tree.pathExists) ("device:" ++ var)
  | .pathExists path =>
    let path := env.render path
    nameUnless (tree.pathExists path) ("path:" ++ path)
  | .directoryNotEmpty path =>
    let path := env.render path
    nameUnless (tree.isNonEmptyDirectory path) ("dir:" ++ path)
  | .artifact name => nameUnless (hasArtifact registry env run tree name) ("artifact:" ++ name)
  | .camerasPresent =>
    env.params.cameras.flatMap fun camera =>
      nameUnless (tree.pathExists camera.devicePath) ("camera:" ++ camera.name)
  | .commandAvailable program =>
    nameUnless (isAvailable tree (env.var? Variables.searchPath) program) ("command:" ++ program)

/-- The names of all checks of a stage that fail, in the order of the checks. -/
def check (registry : Registry) (env : Snapshot) (run : Run) (tree : FileTree) (s : Stage) :
    List String :=
  s.preconditions.flatMap (failures registry env run tree)

end RobotPipeline.Readiness
