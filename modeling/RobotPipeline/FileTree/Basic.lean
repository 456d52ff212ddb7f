/-
  RobotPipeline/FileTree/Basic.lean
  =================================
  **A tree of files, as a finite map from locations to nodes.**

  A location is the list of names from the root down. The root is always a
  directory; every other node stands in the list of entries. A tree also knows
  the working directory, from which relative paths start, and the directories
  that it does not let list: one can go through such a directory, but not see
  what is in it.

  `get?` is the view of a tree: what `set` and `erase` do is said through it.
-/
import RobotPipeline.Text.Utf8

namespace RobotPipeline

abbrev Location := List String

/-- What a file holds: a text when its bytes are UTF-8, else the bytes themselves. -/
inductive Content where
  | text (s : String)
  | bytes (bs : Text.Bytes)
deriving DecidableEq, Repr

namespace Content

def ofBytes (bs : Text.Bytes) : Content :=
  match Text.decodeText? bs with
  | some s => .text s
  | none => .bytes bs

def toBytes : Content → Text.Bytes
  | .text s => Text.encodeText s
  | .bytes bs => bs

def text? : Content → Option String
  | .text s => some s
  | .bytes _ => none

end Content

/-- A node of a file tree. -/
inductive Node where
  /-- A regular file with its permission bits. -/
  | file (content : Content) (mode : Nat)
  | directory
  /-- A symbolic link. -/
  | link (target : String)
  /-- A device: it exists, reads as empty and swallows what is written. -/
  | device
deriving DecidableEq, Repr

/-- A file tree and the working directory. -/
structure FileTree where
  entries : List (Location × Node)
  here : Location
  /-- The directories whose names cannot be listed. -/
  unreadable : List Location := []
deriving DecidableEq, Repr

namespace FileTree

/-! ### The view -/

def get? (tree : FileTree) (loc : Location) : Option Node :=
  if loc = [] then some .directory
  else (tree.entries.find? (fun entry => entry.1 = loc)).map (·.2)

def erase (tree : FileTree) (loc : Location) : FileTree :=
  { tree with
    entries := tree.entries.filter (fun entry => entry.1 ≠ loc)
    unreadable := tree.unreadable.filter (· ≠ loc) }

/-- Puts a node at a location, in place of what was there. -/
def set (tree : FileTree) (loc : Location) (node : Node) : FileTree :=
  { tree.erase loc with entries := (loc, node) :: (tree.erase loc).entries }

/-- The names directly under a location, in the order of their entries. -/
def children (tree : FileTree) (loc : Location) : List String :=
  tree.entries.filterMap fun entry =>
    match entry.1.getLast? with
    | some name => if entry.1.dropLast = loc then some name else none
    | none => none

/-! ### Laws of the view -/

/-- The names under a location are those with a node. -/
theorem mem_children_iff {tree : FileTree} {loc : Location} {name : String} :
    name ∈ tree.children loc ↔ ∃ node, tree.get? (loc ++ [name]) = some node := by
  have below : ∀ path : Location,
      (match path.getLast? with
        | some last => if path.dropLast = loc then some last else none
        | none => none) = some name ↔ path = loc ++ [name] := by
    intro path
    rcases List.eq_nil_or_concat path with rfl | ⟨dir, last, rfl⟩
    · simp
    · simp [and_comm]
  have hne : loc ++ [name] ≠ [] := by simp
  simp only [children, List.mem_filterMap, below, get?, if_neg hne, ← Option.isSome_iff_exists,
    Option.isSome_map, List.find?_isSome, decide_eq_true_eq]

theorem get?_root (tree : FileTree) : tree.get? [] = some .directory := by simp [get?]

theorem get?_erase_self (tree : FileTree) {loc : Location} (h : loc ≠ []) :
    (tree.erase loc).get? loc = none := by
  simp [get?, erase, h, List.find?_eq_none]

/-- Erasing one location changes no other. -/
theorem get?_erase_other (tree : FileTree) {loc other : Location} (h : other ≠ loc) :
    (tree.erase loc).get? other = tree.get? other := by
  unfold get? erase
  by_cases hr : other = []
  · simp [hr]
  · have same : ∀ entry : Location × Node,
        decide (decide (entry.1 ≠ loc) = true ∧ decide (entry.1 = other) = true)
          = decide (entry.1 = other) := by
      intro entry
      by_cases ho : entry.1 = other
      · simp [ho, h]
      · simp [ho]
    simp only [if_neg hr, List.find?_filter, same]

theorem get?_set_self (tree : FileTree) {loc : Location} (node : Node) (h : loc ≠ []) :
    (tree.set loc node).get? loc = some node := by
  simp [get?, set, h]

/-- Putting a node at one location changes no other. -/
theorem get?_set_other (tree : FileTree) {loc other : Location} (node : Node) (h : other ≠ loc) :
    (tree.set loc node).get? other = tree.get? other := by
  rw [← get?_erase_other tree h]
  have h₁ : ¬ loc = other := fun e => h e.symm
  by_cases hr : other = []
  · simp [get?, hr]
  · simp [get?, set, hr, h₁]

end FileTree

end RobotPipeline
