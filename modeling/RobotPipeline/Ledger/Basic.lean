/-
  RobotPipeline/Ledger/Basic.lean
  ===============================
  **The ledger: runs that outlive the program.**

  There is one snapshot per dataset, a pretty JSON text that is replaced in one
  step. A stage that a snapshot shows as running was interrupted; loading makes
  a failure of it. A snapshot that makes no sense is never mended: it can only
  be moved to the archive, where nothing is overwritten.
-/
import RobotPipeline.FileTree.Change
import RobotPipeline.Json.Reader
import RobotPipeline.Json.Writer
import RobotPipeline.Ledger.Error
import RobotPipeline.Settings

namespace RobotPipeline

/-- The ledger in a directory. -/
structure Ledger where
  dir : String
deriving DecidableEq, Repr

namespace Ledger

def ofSettings (s : Settings) : Ledger := ⟨s.runsDir⟩

def snapshotPath (l : Ledger) (dataset : String) : String := Path.join l.dir (dataset ++ ".json")

def archiveDir (l : Ledger) : String := Path.join l.dir "archive"

def hasSnapshot (l : Ledger) (tree : FileTree) (dataset : String) : Bool :=
  tree.isFile (l.snapshotPath dataset)

/-! ### The text of a snapshot -/

/-- The text of the snapshot of a run. -/
def encode (run : Run) : String := Json.pretty run.toDatum ++ "\n"

/-- The run that a text records. -/
def decode? (text : String) : Option Run := (Json.read? text).bind Run.read?

/-- What is said of a text that records no run. -/
def notARun : String := "no record of a run"

/-- The run that a snapshot text of a dataset holds; it may not have gone out of order. -/
def interpret (dataset text : String) : Except Corruption Run :=
  match decode? text with
  | none => .error (.unreadable notARun)
  | some run =>
    if run.dataset ≠ dataset then .error (.otherDataset run.dataset)
    else
      match run.orderViolation? with
      | some violation => .error (.stageOrder violation)
      | none => .ok run.recover

/-! ### Loading and saving -/

def load (l : Ledger) (tree : FileTree) (dataset : String) : Except LedgerError Run :=
  match tree.readText (l.snapshotPath dataset) with
  | .error cause => .error (if cause = .notFound then .notFound dataset else .io cause)
  | .ok text =>
    match interpret dataset text with
    | .error what => .error (.corrupted (l.snapshotPath dataset) what)
    | .ok run => .ok run

def write (l : Ledger) (tree : FileTree) (run : Run) : Except IoError FileTree := do
  let tree ← tree.makeDirectories l.dir
  tree.replace (l.snapshotPath run.dataset) (.text (encode run))

/-- Saves a run, unless it has gone out of order. -/
def save (l : Ledger) (tree : FileTree) (run : Run) : Except LedgerError FileTree :=
  match run.orderViolation? with
  | some violation => .error (.stageOrder violation)
  | none =>
    match l.write tree run with
    | .ok tree => .ok tree
    | .error cause => .error (.io cause)

/-! ### The archive -/

def extension : List Char := ".json".toList

/-- A name, given in reverse, without all the extensions at its end. -/
def dropExtensions : Nat → List Char → List Char
  | 0, cs => cs
  | n + 1, cs =>
    if extension.reverse.isPrefixOf cs then dropExtensions n (cs.drop extension.length) else cs

def stem (name : String) : String :=
  String.ofList (dropExtensions name.length name.toList.reverse).reverse

/-- The name with a number in front of its extension. -/
def numbered (name : String) (n : Nat) : String := stem name ++ "." ++ Text.decimal n ++ ".json"

/-- The first numbered path from `n` on that leads nowhere, among the next `tries`. -/
def freeNumbered (tree : FileTree) (dir name : String) : (tries n : Nat) → Option String
  | 0, _ => none
  | tries + 1, n =>
    let path := Path.join dir (numbered name n)
    if tree.pathExists path then freeNumbered tree dir name tries (n + 1) else some path

/-- A path in a directory that leads nowhere: with the name itself, or with a number in it. There
are more numbers than entries in the tree. -/
def freePath (tree : FileTree) (dir name : String) : String :=
  let path := Path.join dir name
  if tree.pathExists path then (freeNumbered tree dir name (tree.entries.length + 1) 1).getD path
  else path

/-- The name under which the snapshot of a dataset goes to the archive. -/
def archiveName (l : Ledger) (tree : FileTree) (now : Instant) (dataset : String) :
    Except LedgerError String :=
  match l.load tree dataset with
  | .ok run => .ok (run.runId ++ ".json")
  | .error (.corrupted ..) => .ok (dataset ++ "-" ++ now.stamp ++ ".corrupted.json")
  | .error e => .error e

def moveToArchive (l : Ledger) (tree : FileTree) (path name : String) :
    Except IoError (String × FileTree) := do
  let tree ← tree.makeDirectories l.archiveDir
  let target := freePath tree l.archiveDir name
  let tree ← tree.rename path target
  return (target, tree)

/-- Moves the snapshot of a dataset to the archive; gives its new path, if there was one to move. -/
def archive (l : Ledger) (tree : FileTree) (now : Instant) (dataset : String) :
    Except LedgerError (Option String × FileTree) :=
  if !l.hasSnapshot tree dataset then .ok (none, tree)
  else
    match l.archiveName tree now dataset with
    | .error e => .error e
    | .ok name =>
      match l.moveToArchive tree (l.snapshotPath dataset) name with
      | .ok (target, tree) => .ok (some target, tree)
      | .error cause => .error (.io cause)

end Ledger

end RobotPipeline
