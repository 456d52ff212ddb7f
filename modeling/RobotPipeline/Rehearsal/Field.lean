/-
  RobotPipeline/Rehearsal/Field.lean
  ==================================
  **The fields that an expanded word falls into, and the paths that match a
  field.**

  Only blanks that come out of an expansion outside of quotes divide fields,
  however often they are repeated.
-/
import RobotPipeline.FileTree.Walk
import RobotPipeline.Rehearsal.Pattern

namespace RobotPipeline.Rehearsal

/-- A piece of an expanded word. -/
inductive Item where
  | mark (m : Mark)
  /-- A character that may divide fields. -/
  | loose (c : Char)
  /-- Quotes with nothing in them: there is a field, though it may be empty. -/
  | present
  /-- The end of a field; `kept` if empty fields on both sides stay. -/
  | cut (kept : Bool)

namespace Item

def ofText (quoted : Bool) (s : String) : List Item :=
  if quoted then .present :: s.toList.map (fun c => .mark (c, true))
  else s.toList.map (fun c => .mark (c, false))

def ofValue (s : String) : List Item := s.toList.map .loose

/-- Some arguments, each a field of its own. -/
def ofArguments (quoted : Bool) (args : List String) : List Item :=
  ((args.map fun a => if quoted then ofText true a else ofValue a).intersperse
    [.cut quoted]).flatten

/-- The characters of a word that is not divided. -/
def marks (items : List Item) : List Mark := items.filterMap fun
  | .mark m => some m
  | .loose c => some (c, false)
  | .present => none
  | .cut _ => some (' ', true)

def text (items : List Item) : String := String.ofList ((marks items).map (·.1))

def isBlank (c : Char) : Bool := c = ' ' || c = '\t' || c = '\n'

/-- The fields of a word; `open_` is the field that has begun, reversed. -/
def fieldsFrom (open_ : Option (List Mark)) : List Item → List (List Mark)
  | [] => (open_.map List.reverse).toList
  | .mark m :: rest => fieldsFrom (some (m :: open_.getD [])) rest
  | .present :: rest => fieldsFrom (some (open_.getD [])) rest
  | .cut kept :: rest =>
    if kept then (open_.getD []).reverse :: fieldsFrom (some []) rest
    else (open_.map List.reverse).toList ++ fieldsFrom none rest
  | .loose c :: rest =>
    if isBlank c then (open_.map List.reverse).toList ++ fieldsFrom none rest
    else fieldsFrom (some ((c, false) :: open_.getD [])) rest

def fields (items : List Item) : List (List Mark) := fieldsFrom none items

end Item

namespace Pattern

def splitSlashes : List Mark → List (List Mark)
  | [] => [[]]
  | m :: rest =>
    if m.1 = '/' then [] :: splitSlashes rest
    else
      match splitSlashes rest with
      | [] => [[m]]
      | part :: parts => (m :: part) :: parts

def textOf (cs : List Mark) : String := String.ofList (cs.map (·.1))

/-- The names in a directory that a pattern matches. A leading dot has to be written out. -/
def matching (tree : FileTree) (dir : String) (pattern : List Mark) : List String :=
  let glyphs := ofMarks pattern
  let dotted := (pattern.head?.map (·.1)) = some '.'
  let names := (tree.list? (if dir = "" then "." else dir)).getD []
  let names := names.filter fun n =>
    (dotted || n.toList.head? ≠ some '.') && matchesAll glyphs n.toList
  names.mergeSort (fun a b => decide (a ≤ b))

/-- The paths behind `dir` that match the parts of a pattern. -/
def pathsFrom (tree : FileTree) (dir : String) : List (List Mark) → List String
  | [] => []
  | [part] =>
    if isPattern part then (matching tree dir part).map (dir ++ ·)
    else if tree.pathExists (dir ++ textOf part) then [dir ++ textOf part] else []
  | part :: rest =>
    if isPattern part then
      (matching tree dir part).flatMap fun n => pathsFrom tree (dir ++ n ++ "/") rest
    else pathsFrom tree (dir ++ textOf part ++ "/") rest

/-- What a field stands for: the paths that it matches, or itself. -/
def paths (tree : FileTree) (field : List Mark) : List String :=
  if isPattern field then
    match pathsFrom tree "" (splitSlashes field) with
    | [] => [textOf field]
    | found => found
  else [textOf field]

end Pattern

end RobotPipeline.Rehearsal
