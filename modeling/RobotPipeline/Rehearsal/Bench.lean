/-
  RobotPipeline/Rehearsal/Bench.lean
  ==================================
  **The files of a rehearsal, kept in one document.**

  A bench is a file tree that stands for a whole machine. A fresh one has the
  usual directories, devices and programs, and nothing else. Its clock goes on
  by a second each time it is read.
-/
import RobotPipeline.Json.Reader
import RobotPipeline.Json.Writer
import RobotPipeline.Rehearsal.Image
import RobotPipeline.Source
import RobotPipeline.Time.Instant

namespace RobotPipeline.Rehearsal

open Source (listOf? text?)

/-- A machine between two rehearsals. -/
structure Bench where
  files : FileTree
  /-- How often its clock was read. -/
  readings : Nat := 0

namespace Bench

/-! ### A fresh bench -/

def usualDirectories : List Location :=
  [["tmp"], ["bin"], ["usr"], ["usr", "bin"], ["dev"], ["dev", "shm"], ["etc"], ["home"], ["root"],
    ["proc"], ["var"], ["var", "tmp"]]

def usualDevices : List Location :=
  ["null", "zero", "full", "tty", "random", "urandom"].map fun name => ["dev", name]

def usualPrograms : List Location :=
  Image.systemDirectories.flatMap fun dir => Image.systemNames.map fun name => dir ++ [name]

/-- The files of a bench with nothing but the usual, and an empty working directory. -/
def usualFiles (here : Location) : FileTree where
  here := here
  entries :=
    (usualDirectories ++ [here]).map (·, Node.directory)
      ++ usualDevices.map (·, Node.device)
      ++ usualPrograms.map (·, Node.file (.text "") 0o755)

/-- The time that the clock of a bench shows when it is read. -/
def clock (reading : Nat) : Instant :=
  let start : Instant := { date := { year := 2000, month := 1, day := 1 }, second := 0, nanos := 0 }
  start.after (reading * nanosPerSecond)

/-! ### Written form -/

def nodeToDatum : Node → Datum
  | .directory => .text "directory"
  | .device => .text "device"
  | .link target => .fields [("link", .text target)]
  | .file (.text s) mode => .fields [("text", .text s), ("mode", .natural mode)]
  | .file (.bytes bs) mode =>
    .fields [("bytes", .list (bs.map fun b => .natural b.toNat)), ("mode", .natural mode)]

def toDatum (b : Bench) : Datum :=
  .fields [("readings", .natural b.readings), ("here", .texts b.files.here),
    ("entries", .list (b.files.entries.map fun e => .list [.texts e.1, nodeToDatum e.2])),
    ("unreadable", .list (b.files.unreadable.map .texts))]

def natural? : Datum → Option Nat
  | .integer (.ofNat n) => some n
  | _ => none

def readLocation? (d : Datum) : Option Location := listOf? text? d

def readNode? : Datum → Option Node
  | .text "directory" => some .directory
  | .text "device" => some .device
  | d =>
    match d.field? "link", d.field? "text", d.field? "bytes" with
    | some target, _, _ => (text? target).map .link
    | _, some s, _ => do
      some (.file (.text (← text? s)) (← natural? (← d.field? "mode")))
    | _, _, some bs => do
      let bytes := (← listOf? natural? bs).map UInt8.ofNat
      some (.file (.bytes bytes) (← natural? (← d.field? "mode")))
    | _, _, _ => none

def readPlaced? : Datum → Option (Location × Node)
  | .list [loc, node] => do some (← readLocation? loc, ← readNode? node)
  | _ => none

def read? (d : Datum) : Option Bench := do
  let entries ← listOf? readPlaced? (← d.field? "entries")
  let here ← readLocation? (← d.field? "here")
  let unreadable ← listOf? readLocation? (← d.field? "unreadable")
  let readings ← natural? (← d.field? "readings")
  some {
    files := { entries := entries, here := here, unreadable := unreadable }
    readings := readings }

/-- The text of a bench in its file. -/
def encode (b : Bench) : String := Json.pretty (toDatum b) ++ "\n"

def decode? (text : String) : Option Bench := (Json.read? text).bind read?

end Bench

end RobotPipeline.Rehearsal
