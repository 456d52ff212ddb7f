/-
  RobotPipeline/FileTree/Walk.lean
  ================================
  **Where a path leads.**

  A walk goes along the parts of a path from a directory. It passes empty
  parts and `.`, goes up at `..`, and follows symbolic links, at most forty of
  them. It ends at a node, or at a place where a node could be made because
  only the last name is missing.
-/
import RobotPipeline.FileTree.Basic
import RobotPipeline.IoError
import RobotPipeline.Path

namespace RobotPipeline.FileTree

/-- Where a walk ends. -/
inductive Spot where
  /-- At a node. -/
  | present (loc : Location) (node : Node)
  /-- At a free name of a directory; `slashed` if slashes follow the name. -/
  | absent (loc : Location) (slashed : Bool)
deriving DecidableEq, Repr

/-- The most symbolic links one walk may follow. -/
def maxLinks : Nat := 40

/-- The most bytes in one name. -/
def maxNameBytes : Nat := 255

/-- The most bytes in a path. -/
def maxPathBytes : Nat := 4095

/-- How far a walk gets without following a link. -/
inductive Reach where
  /-- It ends. -/
  | spot (spot : Spot)
  /-- At a link: it goes on from `loc` along `parts`. -/
  | link (loc : Location) (parts : List String)
deriving DecidableEq, Repr

/-- Walks along `parts` from the directory `loc` up to the first link that is to be followed. The
last part is followed when it is a link only if `follow` holds or slashes come after it. -/
def walkToLink (tree : FileTree) (follow : Bool) (loc : Location) :
    List String → Except IoError Reach
  | [] => .ok (.spot (.present loc .directory))
  | part :: rest =>
    if part = "" ∨ part = "." then walkToLink tree follow loc rest
    else if part = ".." then walkToLink tree follow loc.dropLast rest
    else if maxNameBytes < part.utf8ByteSize then .error .nameTooLong
    else
      match tree.get? (loc ++ [part]) with
      | none =>
        if rest.all (· = "") then .ok (.spot (.absent (loc ++ [part]) (!rest.isEmpty)))
        else .error .notFound
      | some .directory => walkToLink tree follow (loc ++ [part]) rest
      | some (.link target) =>
        if rest.isEmpty ∧ !follow then .ok (.spot (.present (loc ++ [part]) (.link target)))
        else
          .ok (.link (if Path.isAbsolute target then [] else loc) (Path.parts target ++ rest))
      | some node =>
        if rest.isEmpty then .ok (.spot (.present (loc ++ [part]) node)) else .error .notADirectory

/-- Walks along `parts` from the directory `loc` and follows at most `links` links. -/
def walk (tree : FileTree) (follow : Bool) (links : Nat) (loc : Location) (parts : List String) :
    Except IoError Spot :=
  match walkToLink tree follow loc parts with
  | .error cause => .error cause
  | .ok (.spot spot) => .ok spot
  | .ok (.link loc parts) =>
    match links with
    | 0 => .error .tooManyLinks
    | links + 1 => walk tree follow links loc parts

def locate (tree : FileTree) (follow : Bool) (path : String) : Except IoError Spot :=
  if path = "" then .error .notFound
  else if path.toList.any (fun c => c.toNat = 0) then .error .nulInName
  else if maxPathBytes < path.utf8ByteSize then .error .nameTooLong
  else walk tree follow maxLinks (if Path.isAbsolute path then [] else tree.here) (Path.parts path)

/-- The node a path leads to, through links. -/
def node? (tree : FileTree) (path : String) : Option Node :=
  match tree.locate true path with
  | .ok (.present _ node) => some node
  | _ => none

def pathExists (tree : FileTree) (path : String) : Bool := (tree.node? path).isSome

def isFile (tree : FileTree) (path : String) : Bool :=
  match tree.node? path with
  | some (.file ..) => true
  | _ => false

def isDirectory (tree : FileTree) (path : String) : Bool :=
  tree.node? path == some .directory

/-- Whether a path leads to a regular file that someone may execute. -/
def isExecutable (tree : FileTree) (path : String) : Bool :=
  match tree.node? path with
  | some (.file _ mode) => mode &&& 0o111 ≠ 0
  | _ => false

/-- The names in the directory that a path leads to, unless they cannot be listed. -/
def list? (tree : FileTree) (path : String) : Option (List String) :=
  match tree.locate true path with
  | .ok (.present loc .directory) =>
    if loc ∈ tree.unreadable then none else some (tree.children loc)
  | _ => none

/-- Whether a path leads to a directory that can be listed and has something in it. -/
def isNonEmptyDirectory (tree : FileTree) (path : String) : Bool :=
  match tree.list? path with
  | some names => !names.isEmpty
  | none => false

end RobotPipeline.FileTree
