/-
  RobotPipeline/Yaml/Node.lean
  ============================
  **The nodes of a YAML text.**

  A text is one document with one root node. Nodes keep how they were written;
  what they mean is decided where they are read. An alias stands for a node
  that was named by an anchor before it, possibly one it is part of, so
  aliases stay in the tree as numbers.
-/
import RobotPipeline.Yaml.Token

namespace RobotPipeline.Yaml

/-- The name that makes a node available to aliases, as a number, and its tag. -/
structure Properties where
  anchor : Option Nat := none
  tag : Option String := none

inductive Node where
  | scalar (props : Properties) (text : String) (style : Style)
  | list (props : Properties) (items : List Node)
  | record (props : Properties) (entries : List (Node × Node))
  | alias (anchor : Nat)

namespace Node

def empty : Node := .scalar {} "" .plain

/-! ### Anchors -/

def isAnchored (anchor : Nat) : Node → Bool
  | .scalar props .. => props.anchor = some anchor
  | .list props _ => props.anchor = some anchor
  | .record props _ => props.anchor = some anchor
  | .alias _ => false

mutual

/-- The last node with an anchor, in the order in which nodes begin. -/
def anchored? (anchor : Nat) (node : Node) : Option Node :=
  let here := if node.isAnchored anchor then some node else none
  match node with
  | .list _ items => (anchoredAmong? anchor items).or here
  | .record _ entries => (anchoredWithin? anchor entries).or here
  | _ => here

def anchoredAmong? (anchor : Nat) : List Node → Option Node
  | [] => none
  | item :: rest => (anchoredAmong? anchor rest).or (anchored? anchor item)

def anchoredWithin? (anchor : Nat) : List (Node × Node) → Option Node
  | [] => none
  | (key, value) :: rest =>
    (anchoredWithin? anchor rest).or ((anchored? anchor value).or (anchored? anchor key))

end

end Node

/-! ### Reading tokens -/

/-- The tokens that are left, with the meaning of anchors and tag handles. -/
structure Reading where
  tokens : List Token
  /-- The anchors so far, each name with the number of its last use. -/
  anchors : List (String × Nat) := []
  handles : List (String × String) := []

namespace Reading

abbrev Reader := StateT Reading Option

def peek : Reader (Option Token) := do return (← get).tokens.head?

def drop : Reader Unit := modify fun r => { r with tokens := r.tokens.drop 1 }

def isNext (ts : List Token) : Reader Bool := do return (← peek).any (· ∈ ts)

/-- Goes over the next token if it is `t`; tells whether it was. -/
def take (t : Token) : Reader Bool := do
  if ← isNext [t] then
    drop
    return true
  else return false

/-- Goes over the next token, which must be `t`. -/
def expect (t : Token) : Reader Unit := do
  if !(← take t) then failure

def useAnchor (name : String) : Reader Nat := do
  let r ← get
  let number := r.anchors.length
  set { r with anchors := (name, number) :: r.anchors.filter (fun a => a.1 ≠ name) }
  return number

/-- The start of tags that the handle `!!` stands for. -/
def commonTag : String := "tag:yaml.org,2002:"

/-- The start of tags that a handle stands for. -/
def handleStart? (handles : List (String × String)) (handle : String) : Option String :=
  ((handles ++ [("!", "!"), ("!!", commonTag), ("", "")]).find? (fun h => h.1 = handle)).map (·.2)

/-- Reads a tag, if one comes next. -/
def tag : Reader (Option String) := do
  match ← peek with
  | some (.tag handle rest) =>
    drop
    match handleStart? (← get).handles handle with
    | some start => return some (start ++ rest)
    | none => failure
  | _ => return none

/-- Reads the name of an anchor, if one comes next. -/
def anchorName : Reader (Option String) := do
  match ← peek with
  | some (.anchor name) =>
    drop
    return some name
  | _ => return none

/-- Reads an anchor and a tag, in either order. -/
def properties : Reader Properties := do
  let before ← anchorName
  let tag ← tag
  let name ← match before with
    | some name => pure (some name)
    | none => if tag.isSome then anchorName else pure none
  match name with
  | some name => return ⟨some (← useAnchor name), tag⟩
  | none => return ⟨none, tag⟩

/-- The properties of a scalar that is written out: the tag `!` says nothing about it. -/
def ofScalar (props : Properties) : Properties :=
  if props.tag = some "!" then { props with tag := none } else props

mutual

/-- Reads a node. Block collections may begin only if `block` holds, and a list whose dashes stand
in the column of the mapping around it only if `level` holds. -/
def node : Nat → (block level : Bool) → Reader Node
  | 0, _, _ => failure
  | steps + 1, block, level => do
    match ← peek with
    | some (.alias name) =>
      drop
      match (← get).anchors.find? (fun a => a.1 = name) with
      | some a => return .alias a.2
      | none => failure
    | _ =>
      let props ← properties
      match ← peek with
      | some (.scalar text style) =>
        drop
        return .scalar (ofScalar props) text style
      | some .flowListStart =>
        drop
        return .list props (← flowItems steps true)
      | some .flowMapStart =>
        drop
        return .record props (← flowEntries steps true)
      | next =>
        if level ∧ next = some .dash then return .list props (← levelItems steps)
        else if block ∧ next = some .blockListStart then
          drop
          return .list props (← blockItems steps)
        else if block ∧ next = some .blockMapStart then
          drop
          return .record props (← blockEntries steps)
        else if props.anchor.isSome || props.tag.isSome then return .scalar props "" .plain
        else failure

/-- Reads a node unless one of the tokens before which none is written comes next. -/
def nodeOrEmpty : Nat → (absent : List Token) → (block level : Bool) → Reader Node
  | 0, _, _, _ => failure
  | steps + 1, absent, block, level => do
    if ← isNext absent then return .empty else node steps block level

def blockItems : Nat → Reader (List Node)
  | 0 => failure
  | steps + 1 => do
    if ← take .blockEnd then return []
    else
      expect .dash
      let item ← nodeOrEmpty steps [.dash, .blockEnd] true false
      return item :: (← blockItems steps)

/-- Reads the items of a block list that stands in the column of a mapping. -/
def levelItems : Nat → Reader (List Node)
  | 0 => failure
  | steps + 1 => do
    if ← take .dash then
      let item ← nodeOrEmpty steps [.dash, .key, .value, .blockEnd] true false
      return item :: (← levelItems steps)
    else return []

def blockEntries : Nat → Reader (List (Node × Node))
  | 0 => failure
  | steps + 1 => do
    if ← take .blockEnd then return []
    else
      expect .key
      let key ← nodeOrEmpty steps [.key, .value, .blockEnd] true true
      let value ←
        if ← take .value then nodeOrEmpty steps [.key, .value, .blockEnd] true true
        else pure .empty
      return (key, value) :: (← blockEntries steps)

/-- Reads the items of a flow list, separated by commas. An item may be a mapping of one entry. -/
def flowItems : Nat → (first : Bool) → Reader (List Node)
  | 0, _ => failure
  | steps + 1, first => do
    if ← take .flowListEnd then return []
    else
      if !first then expect .comma
      if ← take .key then
        let key ←
          if ← isNext [.value, .comma, .flowListEnd] then do
            drop
            pure Node.empty
          else node steps false false
        let value ←
          if ← take .value then nodeOrEmpty steps [.comma, .flowListEnd] false false
          else pure .empty
        return .record {} [(key, value)] :: (← flowItems steps false)
      else if ← take .flowListEnd then return []
      else
        let item ← node steps false false
        return item :: (← flowItems steps false)

/-- Reads the entries of a flow mapping, separated by commas. -/
def flowEntries : Nat → (first : Bool) → Reader (List (Node × Node))
  | 0, _ => failure
  | steps + 1, first => do
    if ← take .flowMapEnd then return []
    else
      if !first then expect .comma
      if ← take .key then
        let key ← nodeOrEmpty steps [.value, .comma, .flowMapEnd] false false
        let value ←
          if ← take .value then nodeOrEmpty steps [.comma, .flowMapEnd] false false
          else pure .empty
        return (key, value) :: (← flowEntries steps false)
      else if ← take .flowMapEnd then return []
      else
        let key ← node steps false false
        return (key, .empty) :: (← flowEntries steps false)

end

/-! ### Documents -/

/-- Takes the directives in front of a document: at most one version, which must be 1.1 or 1.2, and
each handle once. -/
def directives? (versioned : Bool) (handles : List (String × String)) :
    List Token → Option (List (String × String) × List Token)
  | .version major minor :: rest =>
    if versioned ∨ major ≠ 1 ∨ (minor ≠ 1 ∧ minor ≠ 2) then none
    else directives? true handles rest
  | .handle name start :: rest =>
    if handles.any (fun h => h.1 = name) then none
    else directives? versioned ((name, start) :: handles) rest
  | tokens => some (handles, tokens)

/-- Whether a document goes on with nothing that is part of it. -/
def isOver : List Token → Bool
  | [] => true
  | t :: _ =>
    match t with
    | .version .. => true
    | .handle .. => true
    | .documentStart => true
    | .documentEnd => true
    | _ => false

/-- Reads the root node of the only document. -/
def root? (tokens : List Token) : Option Node := do
  let steps := 2 * tokens.length + 2
  let (handles, rest) ← directives? false [] tokens
  let (node, after) ← match rest with
    | .documentStart :: rest =>
      if isOver rest then some (Node.empty, rest)
      else
        (node steps true false { tokens := rest, handles := handles }).map fun (n, r) =>
          (n, r.tokens)
    | rest =>
      if rest.length ≠ tokens.length then none
      else (node steps true false { tokens := rest }).map fun (n, r) => (n, r.tokens)
  if after.all (· = .documentEnd) then some node else none

end Reading

/-- The root node of a YAML text; `none` if it is not exactly one document. -/
def read? (text : String) : Option Node := do
  Reading.root? (← tokens? (← normal? text.toList))

end RobotPipeline.Yaml
