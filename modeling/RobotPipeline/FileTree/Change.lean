/-
  RobotPipeline/FileTree/Change.lean
  ==================================
  **Reading and changing files by path.**

  Each operation either gives the changed tree or the refusal of the system;
  a refused operation changes nothing.
-/
import RobotPipeline.FileTree.Walk

namespace RobotPipeline.FileTree

/-! ### Reading -/

def read (tree : FileTree) (path : String) : Except IoError Content := do
  match ← tree.locate true path with
  | .present _ (.file content _) => .ok content
  | .present _ .directory => .error .isADirectory
  | .present _ _ => .ok (.text "")
  | .absent .. => .error .notFound

def readText (tree : FileTree) (path : String) : Except IoError String := do
  match ← tree.read path with
  | .text s => .ok s
  | .bytes _ => .error .notUtf8

/-! ### Writing -/

/-- The permission bits of a file made without saying which. -/
def plainMode : Nat := 0o644

/-- Writes a file: a file that exists keeps its permissions, a missing one is made. -/
def write (tree : FileTree) (path : String) (content : Content) : Except IoError FileTree := do
  match ← tree.locate true path with
  | .present loc (.file _ mode) => .ok (tree.set loc (.file content mode))
  | .present _ .directory => .error .isADirectory
  | .present _ _ => .ok tree
  | .absent loc slashed =>
    if slashed then .error .isADirectory else .ok (tree.set loc (.file content plainMode))

/-- The permission bits of a file that replaces another in one step. -/
def privateMode : Nat := 0o600

/-- Puts a new file at a path in one step, in place of a file or link that was there. -/
def replace (tree : FileTree) (path : String) (content : Content) : Except IoError FileTree := do
  match ← tree.locate false path with
  | .present _ .directory => .error .isADirectory
  | .present loc _ => .ok (tree.set loc (.file content privateMode))
  | .absent loc slashed =>
    if slashed then .error .notADirectory else .ok (tree.set loc (.file content privateMode))

def makeLink (tree : FileTree) (path target : String) : Except IoError FileTree := do
  match ← tree.locate false path with
  | .present .. => .error .alreadyExists
  | .absent loc _ => .ok (tree.set loc (.link target))

/-- Sets the permission bits of the file at a path. -/
def setMode (tree : FileTree) (path : String) (mode : Nat) : FileTree :=
  match tree.locate true path with
  | .ok (.present loc (.file content _)) => tree.set loc (.file content mode)
  | _ => tree

/-! ### Directories -/

def makeDirectory (tree : FileTree) (path : String) : Except IoError FileTree := do
  match ← tree.locate false path with
  | .present .. => .error .alreadyExists
  | .absent loc _ => .ok (tree.set loc .directory)

/-- Makes a directory and the missing ones above it, going up at most `steps` names. -/
def makeDirectoriesUp : Nat → FileTree → String → Except IoError FileTree
  | 0, tree, path => tree.makeDirectory path
  | steps + 1, tree, path =>
    if path = "" then .ok tree
    else
      match tree.makeDirectory path with
      | .ok made => .ok made
      | .error refusal =>
        if refusal = .notFound then
          match Path.parent? path with
          | none => .error refusal
          | some above => do
            let tree ← makeDirectoriesUp steps tree above
            match tree.makeDirectory path with
            | .ok made => .ok made
            | .error refusal => if tree.isDirectory path then .ok tree else .error refusal
        else if tree.isDirectory path then .ok tree
        else .error refusal

/-- Makes a directory and the missing ones above it. -/
def makeDirectories (tree : FileTree) (path : String) : Except IoError FileTree :=
  makeDirectoriesUp ((Path.names path).length + 1) tree path

/-! ### Moving and removing -/

/-- The tree with everything at or below a location taken away. -/
def eraseBelow (tree : FileTree) (loc : Location) : FileTree :=
  { tree with
    entries := tree.entries.filter (fun entry => !loc.isPrefixOf entry.1)
    unreadable := tree.unreadable.filter (fun dir => !loc.isPrefixOf dir) }

/-- Where a location is when everything at or below one location has moved to another. -/
def moved (source target loc : Location) : Location :=
  if source.isPrefixOf loc then target ++ loc.drop source.length else loc

/-- The tree with everything at or below one location moved to another. -/
def moveBelow (tree : FileTree) (source target : Location) : FileTree :=
  { tree with
    entries := tree.entries.map fun entry => (moved source target entry.1, entry.2)
    unreadable := tree.unreadable.map (moved source target) }

/-- Moves a node to another path, over a file that is there. -/
def rename (tree : FileTree) (source target : String) : Except IoError FileTree := do
  match ← tree.locate false source with
  | .absent .. => .error .notFound
  | .present from_ .directory =>
    match ← tree.locate false target with
    | .absent to_ _ => .ok (tree.moveBelow from_ to_)
    | .present to_ .directory =>
      if tree.children to_ ≠ [] then .error .notEmpty
      else .ok ((tree.erase to_).moveBelow from_ to_)
    | .present .. => .error .notADirectory
  | .present from_ node =>
    match ← tree.locate false target with
    | .present _ .directory => .error .isADirectory
    | .present to_ _ => .ok ((tree.erase from_).set to_ node)
    | .absent to_ slashed =>
      if slashed then .error .notADirectory else .ok ((tree.erase from_).set to_ node)

/-- Removes the node at a path and everything below it; `none` where there is nothing. -/
def remove? (tree : FileTree) (path : String) : Option FileTree :=
  match tree.locate false path with
  | .ok (.present loc _) => some (tree.eraseBelow loc)
  | _ => none

end RobotPipeline.FileTree
