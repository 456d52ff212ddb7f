/-
  RobotPipeline/Rehearsal/Image.lean
  ==================================
  **What a program is.**

  A program is named by a path, or by a name that is looked up in the
  directories of a search path. What a file is follows from where it stands —
  the usual programs are in `/bin` and `/usr/bin` — or from its first line.
-/
import RobotPipeline.Readiness
import RobotPipeline.Rehearsal.Utility

namespace RobotPipeline.Rehearsal

/-- What an executable file is. -/
inductive Image where
  | utility (run : Utility)
  | shell
  /-- The program that runs another one with other variables. -/
  | environment
  /-- A script that a program interprets, with the argument for it. -/
  | interpreted (program : String) (argument : Option String)
  /-- A text that does not say what interprets it. -/
  | bare (text : String)

namespace Image

def systemDirectories : List Location := [["bin"], ["usr", "bin"]]

def shells : List String := ["sh", "dash", "bash"]

def systemNames : List String := shells ++ ["env"] ++ Utility.all.map (·.1)

def ofLocation? (loc : Location) : Option Image :=
  match loc.getLast? with
  | none => none
  | some name =>
    if !systemDirectories.any (· = loc.dropLast) then none
    else if name ∈ shells then some .shell
    else if name = "env" then some .environment
    else (Utility.find? name).map .utility

def isSpace (c : Char) : Bool := c = ' ' || c = '\t'

/-- What the text of an executable file says that it is. -/
def ofText (text : String) : Image :=
  match text.toList with
  | '#' :: '!' :: rest =>
    let line := (rest.takeWhile (· ≠ '\n')).dropWhile isSpace
    let program := line.takeWhile (fun c => !isSpace c)
    let argument := (line.drop program.length).dropWhile isSpace
    let argument := (argument.reverse.dropWhile isSpace).reverse
    .interpreted (String.ofList program)
      (if argument.isEmpty then none else some (String.ofList argument))
  | _ => .bare text

/-- What the file at a path is, or why it cannot be executed. -/
def ofPath (tree : FileTree) (path : String) : Except IoError Image := do
  match ← tree.locate true path with
  | .absent .. => .error .notFound
  | .present loc (.file content mode) =>
    if mode &&& 0o111 = 0 then .error .permissionDenied
    else
      match ofLocation? loc, content with
      | some image, _ => .ok image
      | none, .text s => .ok (ofText s)
      | none, .bytes _ => .error .unknownFormat
  | .present _ _ => .error .permissionDenied

/-! ### Looking up -/

/-- The directories of a search path that is not set. -/
def usualPath : String := "/bin:/usr/bin"

/-- The first of some directories in which a program is; a refusal there is kept for the case that
none is found. -/
def search (tree : FileTree) (name : String) (refusal : IoError) :
    List String → Except IoError (String × Image)
  | [] => .error refusal
  | dir :: rest =>
    let path := Path.join dir name
    match ofPath tree path with
    | .ok image => .ok (path, image)
    | .error cause =>
      search tree name (if cause = .permissionDenied then cause else refusal) rest

/-- The program that a name stands for, with its path. -/
def find (tree : FileTree) (searchPath name : String) : Except IoError (String × Image) :=
  if name = "" then .error .notFound
  else if name.toList.any (· = '/') then (ofPath tree name).map (name, ·)
  else search tree name .notFound (Readiness.searchDirs searchPath)

end Image

end RobotPipeline.Rehearsal
