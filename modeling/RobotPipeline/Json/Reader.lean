/-
  RobotPipeline/Json/Reader.lean
  ==============================
  **The datum of a JSON text.**

  The reader keeps the lists and records that are still open on a stack and
  takes one token at a time. It accepts exactly one value: no comma before a
  closing bracket, nothing after the value.
-/
import RobotPipeline.Json.Token

namespace RobotPipeline.Json

/-- A list or record that is still open and whose next part is being read. Parts are kept in
reverse. -/
inductive Frame where
  | list (items : List Datum)
  | record (fields : List (Key × Datum)) (key : Key)

/-- What may come next. -/
inductive Awaiting where
  /-- A value. -/
  | value
  /-- The first item of a list, or its end. -/
  | firstItem
  /-- A comma or the end of a list. -/
  | nextItem (items : List Datum)
  /-- The first label of a record, or its end. -/
  | firstKey
  /-- A label. -/
  | key (fields : List (Key × Datum))
  /-- The colon after a label. -/
  | colon (fields : List (Key × Datum)) (key : Key)
  /-- A comma or the end of a record. -/
  | nextField (fields : List (Key × Datum))
  /-- Nothing: the value is complete. -/
  | nothing (d : Datum)

/-- The state of the reader. -/
structure Reading where
  frames : List Frame
  awaiting : Awaiting

namespace Reading

/-- A value is complete: it becomes a part of the innermost open frame. -/
def complete (d : Datum) : List Frame → Reading
  | [] => ⟨[], .nothing d⟩
  | .list items :: frames => ⟨frames, .nextItem (d :: items)⟩
  | .record fields key :: frames => ⟨frames, .nextField ((key, d) :: fields)⟩

/-- Takes the first token of a value. -/
def startValue (frames : List Frame) : Token → Option Reading
  | .atom d => some (complete d frames)
  | .text (some s) => some (complete (.text s) frames)
  | .text none => some (complete .brokenText frames)
  | .openList => some ⟨frames, .firstItem⟩
  | .openRecord => some ⟨frames, .firstKey⟩
  | _ => none

def label : Option String → Key
  | some s => .named s
  | none => .other

def step : Reading → Token → Option Reading
  | ⟨frames, .value⟩, t => startValue frames t
  | ⟨frames, .firstItem⟩, .closeList => some (complete (.list []) frames)
  | ⟨frames, .firstItem⟩, t => startValue (.list [] :: frames) t
  | ⟨frames, .nextItem items⟩, .comma => some ⟨.list items :: frames, .value⟩
  | ⟨frames, .nextItem items⟩, .closeList => some (complete (.list items.reverse) frames)
  | ⟨frames, .firstKey⟩, .closeRecord => some (complete (.record []) frames)
  | ⟨frames, .firstKey⟩, .text s => some ⟨frames, .colon [] (label s)⟩
  | ⟨frames, .key fields⟩, .text s => some ⟨frames, .colon fields (label s)⟩
  | ⟨frames, .colon fields key⟩, .colon => some ⟨.record fields key :: frames, .value⟩
  | ⟨frames, .nextField fields⟩, .comma => some ⟨frames, .key fields⟩
  | ⟨frames, .nextField fields⟩, .closeRecord => some (complete (.record fields.reverse) frames)
  | _, _ => none

def run : Reading → List Token → Option Reading
  | r, [] => some r
  | r, t :: rest =>
    match r.step t with
    | none => none
    | some r => run r rest

def result? : Reading → Option Datum
  | ⟨[], .nothing d⟩ => some d
  | _ => none

end Reading

/-- The datum of a JSON text; `none` if the text is not JSON. -/
def read? (s : String) : Option Datum := do
  let ts ← tokens? s.toList
  let r ← Reading.run ⟨[], .value⟩ ts
  r.result?

end RobotPipeline.Json
