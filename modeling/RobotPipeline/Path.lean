/-
  RobotPipeline/Path.lean
  =======================
  **Paths as the operator writes them.**

  A path is a text in which `/` separates names. Nothing is normalised when
  paths are put together, so a path in a message or a ledger reads as it was
  given.
-/

namespace RobotPipeline.Path

def isAbsolute (p : String) : Bool := p.toList.head? == some '/'

/-- Puts a path behind a directory. An absolute path stands for itself. -/
def join (dir p : String) : String :=
  if isAbsolute p then p
  else if dir.isEmpty then p
  else if dir.toList.getLast? == some '/' then dir ++ p
  else dir ++ "/" ++ p

def splitSlashes : List Char → List (List Char)
  | [] => [[]]
  | c :: rest =>
    if c = '/' then [] :: splitSlashes rest
    else
      match splitSlashes rest with
      | [] => [[c]]
      | part :: parts => (c :: part) :: parts

/-- The parts of a path between slashes, empty ones included. -/
def parts (p : String) : List String := (splitSlashes p.toList).map String.ofList

/-- The names of a path: its parts without the empty ones and, after the first, without `.`. -/
def names (p : String) : List String :=
  match (parts p).filter (fun part => part ≠ "") with
  | [] => []
  | first :: rest =>
    if first = "." && isAbsolute p then rest.filter (fun part => part ≠ ".")
    else first :: rest.filter (fun part => part ≠ ".")

/-- The path without its last name; `none` where there is no name to take off. -/
def parent? (p : String) : Option String :=
  match names p with
  | [] => none
  | ns =>
    let text := "/".intercalate ns.dropLast
    some (if isAbsolute p then "/" ++ text else text)

end RobotPipeline.Path
