/-
  RobotPipeline/Source.lean
  =========================
  **Reading declarations and records from a document.**

  A stage declaration may stand in a JSON document or in a YAML document. What
  the two have in common is a `Source`: a form that can be asked for a text, a
  number, a flag, the items of a list, the parts of a record, or the tag of a
  choice. Declarations are read through this interface only.

  The parts of a record are looked up by name. Unknown fields are ignored and
  a field may not be given twice. A record may also be written as the list of
  its fields in order; then only fields that have a default may be left out at
  the end.
-/
import RobotPipeline.Datum
import RobotPipeline.Text.Numeral

namespace RobotPipeline

/-- A form that declarations are read from. -/
class Source (δ : Type) where
  text? : δ → Option String
  integer? : δ → Option Int
  flag? : δ → Option Bool
  items? : δ → Option (List δ)
  /-- Whether the form stands for the absence of a value; fails if it says so and holds a value. -/
  absent? : δ → Option Bool
  /-- The known fields of a record among given names, and whether they were written as a list. -/
  parts? : List String → δ → Option (List (String × δ) × Bool)
  /-- The value of the tag field, and the data beside it. -/
  tagged? : String → δ → Option (String × Datum)

/-- The known fields of a record. -/
structure Parts (δ : Type) where
  entries : List (String × δ)
  /-- Written as a list, without names. -/
  inOrder : Bool

namespace Source

variable {δ α : Type} [Source δ]

def word32? (d : δ) : Option UInt32 :=
  match integer? d with
  | some (.ofNat n) => if n ≤ Text.maxWord32 then some (UInt32.ofNat n) else none
  | _ => none

def word64? (d : δ) : Option UInt64 :=
  match integer? d with
  | some (.ofNat n) => if n ≤ Text.maxWord64 then some (UInt64.ofNat n) else none
  | _ => none

def signed32? (d : δ) : Option Int32 :=
  match integer? d with
  | some n => if -2147483648 ≤ n ∧ n ≤ 2147483647 then some (Int32.ofInt n) else none
  | none => none

/-- A list, each item read in the same way. -/
def listOf? (read : δ → Option α) (d : δ) : Option (List α) :=
  match items? d with
  | some items => items.mapM read
  | none => none

def orAbsent? (read : δ → Option α) (d : δ) : Option (Option α) :=
  match absent? d with
  | some true => some none
  | some false => (read d).map some
  | none => none

/-- The parts of a record with the given field names. -/
def record? (names : List String) (d : δ) : Option (Parts δ) :=
  (parts? names d).map fun (entries, inOrder) => ⟨entries, inOrder⟩

end Source

namespace Parts

variable {δ α : Type} [Source δ]

def get? (p : Parts δ) (name : String) : Option δ :=
  (p.entries.find? (fun e => e.1 = name)).map (·.2)

/-- A field that must be there. -/
def required (p : Parts δ) (name : String) (read : δ → Option α) : Option α :=
  match p.get? name with
  | some d => read d
  | none => none

/-- A field with a default. -/
def orDefault (p : Parts δ) (name : String) (default : α) (read : δ → Option α) : Option α :=
  match p.get? name with
  | some d => read d
  | none => some default

/-- A field that may be absent or null; in a list of fields it must be written. -/
def optional (p : Parts δ) (name : String) (read : δ → Option α) : Option (Option α) :=
  match p.get? name with
  | some d => Source.orAbsent? read d
  | none => if p.inOrder then none else some none

/-- A field that may be absent or null, in a list of fields too. -/
def optionalOrDefault (p : Parts δ) (name : String) (read : δ → Option α) : Option (Option α) :=
  p.orDefault name none (Source.orAbsent? read)

end Parts

/-! ### Data as a source -/

namespace Datum

/-- The name of the field that a key labels; a whole number labels the field at that place. -/
def keyName? (names : List String) : Key → Option (Option String)
  | .named name => some (if name ∈ names then some name else none)
  | .indexed place => some names[place]?
  | .other => none

/-- The known fields of a record, in the order written. Fails on a label that cannot be read. -/
def knownFields? (names : List String) : List (Key × Datum) → Option (List (String × Datum))
  | [] => some []
  | (key, d) :: rest =>
    match keyName? names key, knownFields? names rest with
    | some (some name), some known => some ((name, d) :: known)
    | some none, some known => some known
    | _, _ => none

/-- The parts of a record, by name or in order. -/
def recordParts? (names : List String) : Datum → Option (List (String × Datum) × Bool)
  | .record fs =>
    match knownFields? names fs with
    | some known => if (known.map (·.1)).Nodup then some (known, false) else none
    | none => none
  | .list items => if items.length ≤ names.length then some (names.zip items, true) else none
  | _ => none

/-- The tag of a choice: the value of the tag field, or the first item of a list. -/
def taggedParts? (tag : String) : Datum → Option (String × Datum)
  | .record fs =>
    match fs.filter (fun f => f.1 = .named tag) with
    | [(_, .text name)] => some (name, .record (fs.filter (fun f => f.1 ≠ .named tag)))
    | _ => none
  | .list (.text name :: rest) => some (name, .list rest)
  | _ => none

instance : Source Datum where
  text? := fun
    | .text s => some s
    | _ => none
  integer? := fun
    | .integer n => some n
    | _ => none
  flag? := fun
    | .flag b => some b
    | _ => none
  items? := fun
    | .list items => some items
    | _ => none
  absent? := fun
    | .null => some true
    | _ => some false
  parts? := recordParts?
  tagged? := taggedParts?

/-- Whether what stands beside the tag of a choice without fields is acceptable: any record, but
only an empty list. -/
def isBare : Datum → Bool
  | .record _ => true
  | .list [] => true
  | _ => false

end Datum

end RobotPipeline
