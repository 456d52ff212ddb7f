/-
  RobotPipeline/Camera.lean
  =========================
  **Cameras of the rig.**

  The operator names a camera as `name:source`, with an optional picture size
  `:WxH` and frame rate `@fps` behind it. The source is a device path or the
  bare index of a video device.
-/
import RobotPipeline.Source
import RobotPipeline.Text.Blank

namespace RobotPipeline

/-- A camera with its stream. -/
structure Camera where
  name : String
  source : String
  width : UInt32
  height : UInt32
  fps : UInt32
deriving DecidableEq, Repr

namespace Camera

/-- A camera with the usual stream of 640x480 at 30 frames. -/
def usual (name source : String) : Camera := ⟨name, source, 640, 480, 30⟩

/-- The camera of a rig whose operator names none. -/
def front : Camera := usual "front" "/dev/video6"

def devicePath (c : Camera) : String :=
  match Text.readWord32 c.source.toList with
  | .ok index => "/dev/video" ++ Text.decimal index.toNat
  | .error _ => c.source

/-! ### The operator's form -/

/-- A camera in the form the operator uses, with everything spelled out. -/
def text (c : Camera) : String :=
  c.name ++ ":" ++ c.source ++ ":" ++ Text.decimal c.width.toNat ++ "x"
    ++ Text.decimal c.height.toNat ++ "@" ++ Text.decimal c.fps.toNat

/-- Cuts a text at the first occurrence of a mark. -/
def cutAt (mark : Char) : List Char → List Char × Option (List Char)
  | [] => ([], none)
  | c :: rest =>
    if c = mark then ([], some rest)
    else
      let (before, after) := cutAt mark rest
      (c :: before, after)

/-- What is wrong with a camera the operator named. -/
inductive ParseError where
  | badName (spec : String)
  | noSource (spec : String)
  | badSize (size : String)
  /-- One of the numbers is none, or zero. -/
  | badNumber (what value : String)
deriving DecidableEq, Repr

def ParseError.message : ParseError → String
  | .badName spec => "Invalid camera name in '" ++ spec ++ "'"
  | .noSource spec => "Missing camera source in '" ++ spec ++ "' (expected name:source)"
  | .badSize size => "Invalid camera resolution '" ++ size ++ "' (expected WxH)"
  | .badNumber what value => "Invalid camera " ++ what ++ ": '" ++ value ++ "'"

def isNameChar (c : Char) : Bool := c.isAlphanum || c = '_'

/-- Reads a number above zero, blanks around it ignored. -/
def readPositive (what : String) (value : List Char) : Except ParseError UInt32 :=
  match Text.readWord32 (Text.trim value) with
  | .ok n => if n = 0 then .error (.badNumber what (String.ofList value)) else .ok n
  | .error _ => .error (.badNumber what (String.ofList value))

def readMode (c : Camera) (mode : List Char) : Except ParseError Camera := do
  let (size, fps) := cutAt '@' mode
  match cutAt 'x' size with
  | (_, none) => .error (.badSize (String.ofList size))
  | (w, some h) =>
    let width ← readPositive "width" w
    let height ← readPositive "height" h
    match fps with
    | none => .ok { c with width, height }
    | some fps =>
      let fps ← readPositive "fps" fps
      .ok { c with width, height, fps }

def parse (spec : String) : Except ParseError Camera :=
  let (name, rest) := cutAt ':' spec.toList
  let (source, mode) := cutAt ':' (rest.getD [])
  let name := Text.trim name
  let source := Text.trim source
  if name.isEmpty || !name.all isNameChar then .error (.badName spec)
  else if source.isEmpty then .error (.noSource spec)
  else
    let c := usual (String.ofList name) (String.ofList source)
    match mode with
    | none => .ok c
    | some mode => c.readMode mode

/-! ### The toolkit's form -/

/-- The entry of a camera in the mapping handed to the toolkit. -/
def toolkitEntry (c : Camera) : String :=
  c.name ++ ": \x7btype: opencv, index_or_path: " ++ c.source ++ ", width: "
    ++ Text.decimal c.width.toNat ++ ", height: " ++ Text.decimal c.height.toNat ++ ", fps: "
    ++ Text.decimal c.fps.toNat ++ "\x7d"

def toolkitMapping : List Camera → String
  | [] => "\x7b\x7d"
  | cs => "\x7b " ++ ", ".intercalate (cs.map toolkitEntry) ++ "\x7d"

/-! ### Written form -/

def fieldNames : List String := ["name", "source", "width", "height", "fps"]

def toDatum (c : Camera) : Datum :=
  .fields [("name", .text c.name), ("source", .text c.source), ("width", .natural c.width.toNat),
    ("height", .natural c.height.toNat), ("fps", .natural c.fps.toNat)]

def read? {δ : Type} [Source δ] (d : δ) : Option Camera := do
  let p ← Source.record? fieldNames d
  some {
    name := ← p.required "name" Source.text?
    source := ← p.required "source" Source.text?
    width := ← p.required "width" Source.word32?
    height := ← p.required "height" Source.word32?
    fps := ← p.required "fps" Source.word32? }

end Camera

end RobotPipeline
