/-
  RobotPipeline/Yaml/View.lean
  ============================
  **A YAML node as a form that declarations are read from.**

  A field that asks for a text takes the characters of any scalar, however it
  is written. Numbers and flags have to be plain. Inside a choice, which is
  told by its tag field, scalars are given their kind before they are read.

  An alias is read as the node it stands for. Since an alias may stand for a
  node around it, lists and records are read to a fixed depth.
-/
import RobotPipeline.Source
import RobotPipeline.Yaml.Node
import RobotPipeline.Yaml.Scheme

namespace RobotPipeline.Yaml

/-- A node of a document, and the number of lists and records that may still be entered. -/
structure View where
  root : Node
  node : Node
  depth : Nat

namespace View

def maxDepth : Nat := 128

def ofRoot (root : Node) : View := ⟨root, root, maxDepth⟩

/-- The node that a node stands for. -/
def target (root : Node) : Node → Node
  | .alias anchor => (root.anchored? anchor).getD .empty
  | node => node

/-- The node that is read here. -/
def resolved (v : View) : Node := target v.root v.node

def inside (v : View) (node : Node) : View := ⟨v.root, node, v.depth - 1⟩

/-! ### Tags -/

def flagTag : String := Reading.commonTag ++ "bool"
def integerTag : String := Reading.commonTag ++ "int"
def fractionTag : String := Reading.commonTag ++ "float"
def nullTag : String := Reading.commonTag ++ "null"

/-- Whether a tag is a document's own: it starts with `!`. -/
def isOwn (tag : Option String) : Bool := tag.any (fun t => t.toList.head? = some '!')

/-! ### Scalars -/

/-- Whether a scalar may be read as something else than a text: it is plain, or it is a literal
block with the tag for it. -/
def isBare (tag : String) (props : Properties) (style : Style) : Bool :=
  style = .plain || (style = .literal && props.tag = some tag)

def scalarDatum? (props : Properties) (text : String) (style : Style) : Option Datum :=
  match props.tag with
  | none => if style = .plain then plainDatum? text else some (.text text)
  | some tag =>
    if isOwn (some tag) then none
    else if tag = flagTag then (flag? text).map .flag
    else if tag = integerTag then (integer? text).bind fun n => n.map .integer
    else if tag = fractionTag then (if isFraction text then some (.fraction text) else none)
    else if tag = nullTag then (if isNull text then some .null else none)
    else some (.text text)

/-! ### Data -/

def keyOf : Datum → Key
  | .text s => .named s
  | .integer (.ofNat n) => .indexed n
  | _ => .other

/-- The datum of a node, with at most `depth` lists and records inside each other. -/
def datum? (root : Node) : (depth : Nat) → Node → Option Datum
  | depth, node =>
    match target root node, depth with
    | .scalar props text style, _ => scalarDatum? props text style
    | .list props items, depth + 1 =>
      if isOwn props.tag then none else (items.mapM (datum? root depth)).map .list
    | .record props entries, depth + 1 =>
      if isOwn props.tag then none
      else
        (entries.mapM fun (key, value) => do
          some (keyOf (← datum? root depth key), ← datum? root depth value)).map .record
    | _, _ => none

/-! ### The form -/

def text? (v : View) : Option String :=
  match v.resolved with
  | .scalar _ text _ => some text
  | _ => none

def isEmptyPlain : Node → Bool
  | .scalar _ text style => text = "" && style = .plain
  | _ => false

/-- The entries of a record, of which labels are read as texts. -/
def entries? (v : View) : Option (List (String × View)) :=
  match v.resolved with
  | .record _ entries =>
    if v.depth = 0 then none
    else entries.mapM fun (key, value) =>
      (v.inside key).text?.map fun name => (name, v.inside value)
  | node => if isEmptyPlain node then some [] else none

/-- The known fields of a record, none of them twice. -/
def parts? (names : List String) (v : View) : Option (List (String × View) × Bool) :=
  match v.entries? with
  | some entries =>
    let known := entries.filter (fun e => e.1 ∈ names)
    if (known.map (·.1)).Nodup then some (known, false) else none
  | none => none

def items? (v : View) : Option (List View) :=
  match v.resolved with
  | .list _ items => if v.depth = 0 then none else some (items.map v.inside)
  | node => if isEmptyPlain node then some [] else none

/-- Whether a value is absent: a plain null, or nothing. A plain scalar with the tag for nulls has
to be one. -/
def absent? (v : View) : Option Bool :=
  match v.resolved with
  | .scalar props text .plain =>
    match props.tag with
    | none => some (text = "" || isNull text)
    | some tag =>
      if tag = nullTag then (if isNull text then some true else none) else some false
  | _ => some false

/-- Splits off the tag field of a record; the other fields are data. -/
def splitTag? (v : View) (tag : String) :
    List (Node × Node) → Option (List String × List (Key × Datum))
  | [] => some ([], [])
  | (key, value) :: rest => do
    let key ← datum? v.root (v.depth - 1) key
    let (tags, fields) ← splitTag? v tag rest
    match key with
    | .text name =>
      if name = tag then some ((← (v.inside value).text?) :: tags, fields)
      else some (tags, (.named name, ← datum? v.root (v.depth - 1) value) :: fields)
    | key => some (tags, (keyOf key, ← datum? v.root (v.depth - 1) value) :: fields)

def tagged? (tag : String) (v : View) : Option (String × Datum) :=
  if v.depth = 0 then none
  else
    match v.resolved with
    | .record props entries =>
      if isOwn props.tag then none
      else
        match splitTag? v tag entries with
        | some ([name], fields) => some (name, .record fields)
        | _ => none
    | .list props (first :: rest) =>
      if isOwn props.tag then none
      else do
        let name ← (v.inside first).text?
        let items ← rest.mapM (datum? v.root (v.depth - 1))
        some (name, .list items)
    | _ => none

instance : Source View where
  text? := text?
  integer? := fun v =>
    match v.resolved with
    | .scalar props text style =>
      if isBare integerTag props style then (word64? text).map Int.ofNat else none
    | _ => none
  flag? := fun v =>
    match v.resolved with
    | .scalar props text style => if isBare flagTag props style then flag? text else none
    | _ => none
  items? := items?
  absent? := absent?
  parts? := parts?
  tagged? := tagged?

end View

end RobotPipeline.Yaml
