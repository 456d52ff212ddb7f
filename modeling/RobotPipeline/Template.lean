/-
  RobotPipeline/Template.lean
  ===========================
  **Templates: text with named holes.**

  A hole is a name between braces; a name is a lower-case letter followed by
  lower-case letters, digits and underscores. Scanning goes from left to right
  and holes do not overlap; a brace that opens no hole is plain text.

  Rendering puts the value of a name in its hole, as it is: a value is never
  scanned again. A hole whose name has no value stays as it was written.
-/

namespace RobotPipeline

/-- Values by name. -/
abbrev Values := List (String × String)

def Values.get? (values : Values) (name : String) : Option String :=
  (values.find? (fun v => v.1 = name)).map (·.2)

namespace Template

def isNameStart (c : Char) : Bool := 'a' ≤ c && c ≤ 'z'

def isNamePart (c : Char) : Bool := ('a' ≤ c && c ≤ 'z') || ('0' ≤ c && c ≤ '9') || c = '_'

/-- A piece of a template. -/
inductive Piece where
  /-- A character that stands for itself. -/
  | plain (c : Char)
  /-- A hole with its name. -/
  | hole (name : List Char)
deriving DecidableEq, Repr

/-- Takes a name and the closing brace from the text after an opening brace. -/
def takeName? : List Char → Option (List Char × List Char)
  | [] => none
  | c :: rest =>
    if isNameStart c then
      match rest.dropWhile isNamePart with
      | '}' :: after => some (c :: rest.takeWhile isNamePart, after)
      | _ => none
    else none

theorem takeName?_length {cs name after : List Char} (h : takeName? cs = some (name, after)) :
    after.length < cs.length := by
  cases cs with
  | nil => simp [takeName?] at h
  | cons c rest =>
    simp only [takeName?] at h
    split at h
    · split at h
      · rename_i after' hd
        simp only [Option.some.injEq, Prod.mk.injEq] at h
        obtain ⟨_, rfl⟩ := h
        have hl : (rest.dropWhile isNamePart).length ≤ rest.length :=
          (List.dropWhile_suffix isNamePart).length_le
        rw [hd] at hl
        simp only [List.length_cons] at hl ⊢
        omega
      · exact absurd h (by simp)
    · exact absurd h (by simp)

def pieces : List Char → List Piece
  | [] => []
  | c :: rest =>
    if c = '{' then
      match h : takeName? rest with
      | some (name, after) =>
        have : after.length < (c :: rest).length := by
          have := takeName?_length h
          simp only [List.length_cons]
          omega
        .hole name :: pieces after
      | none => .plain c :: pieces rest
    else .plain c :: pieces rest
termination_by cs => cs.length
decreasing_by all_goals simp only [List.length_cons] at *; omega

def Piece.written : Piece → List Char
  | .plain c => [c]
  | .hole name => '{' :: (name ++ ['}'])

def Piece.rendered (values : Values) : Piece → List Char
  | .plain c => [c]
  | .hole name =>
    match values.get? (String.ofList name) with
    | some value => value.toList
    | none => (Piece.hole name).written

/-- The names of the holes of a template, in order. -/
def holes (template : String) : List String :=
  (pieces template.toList).filterMap fun
    | .plain _ => none
    | .hole name => some (String.ofList name)

def render (values : Values) (template : String) : String :=
  String.ofList ((pieces template.toList).flatMap (Piece.rendered values))

end Template

end RobotPipeline
