/-
  RobotPipeline/Rehearsal/Utility.lean
  ====================================
  **The programs of a rehearsal that are no scripts.**

  Each takes arguments, acts, and gives an exit code. They have the usual
  options of their names and no others.
-/
import RobotPipeline.Rehearsal.Format
import RobotPipeline.Rehearsal.Process
import RobotPipeline.Rehearsal.Test

namespace RobotPipeline.Rehearsal

/-- A program that is no script. -/
abbrev Utility : Type := List String → Act Nat

namespace Utility

/-! ### Arguments -/

/-- Why the system refuses, in the words of a program. -/
def reason : IoError → String
  | .system number => IoError.describeNumber number
  | .other text => text

/-- The letters of the options in front, and the arguments behind them. -/
def options : List String → List Char × List String
  | [] => ([], [])
  | "--" :: rest => ([], rest)
  | arg :: rest =>
    match arg.toList with
    | '-' :: c :: cs =>
      let (letters, args) := options rest
      ((c :: cs) ++ letters, args)
    | _ => ([], arg :: rest)

/-- Does something for each argument. The exit code is 1 if one of them failed. -/
def forEach (args : List String) (act : String → Act Bool) : Act Nat :=
  args.foldlM (fun code arg => do return if ← act arg then code else 1) 0

/-- Complains about an argument unless the files could be changed. -/
def changing (complaint : String) (f : FileTree → Except IoError FileTree) : Act Bool := do
  match ← Act.changeFiles f with
  | none => return true
  | some cause =>
    Act.complain (complaint ++ ": " ++ reason cause)
    return false

def files : Act FileTree := do return (← get).files

/-- The last name of a path. -/
def lastName (path : String) : String := ((Path.names path).getLast?).getD "/"

/-- The path of a file that is put to another path: into it if that is a directory. -/
def placeIn (tree : FileTree) (source target : String) : String :=
  if tree.isDirectory target then Path.join target (lastName source) else target

/-! ### Files -/

def cat : Utility := fun args => do
  let args := (options args).2
  forEach (if args.isEmpty then ["-"] else args) fun arg => do
    if arg = "-" then
      Act.write 1 (← Act.readAll)
      return true
    match (← files).read arg with
    | .ok content =>
      Act.write 1 content.toBytes
      return true
    | .error cause =>
      Act.complain ("cat: " ++ arg ++ ": " ++ reason cause)
      return false

def mkdir : Utility := fun args => do
  let (letters, args) := options args
  forEach args fun arg => changing ("mkdir: cannot create directory '" ++ arg ++ "'") fun tree =>
    if 'p' ∈ letters then tree.makeDirectories arg else tree.makeDirectory arg

def touch : Utility := fun args => do
  let (letters, args) := options args
  forEach args fun arg => changing ("touch: cannot touch '" ++ arg ++ "'") fun tree =>
    if tree.pathExists arg || 'c' ∈ letters then .ok tree else tree.write arg (.text "")

def rm : Utility := fun args => do
  let (letters, args) := options args
  let deep := 'r' ∈ letters || 'R' ∈ letters
  forEach args fun arg => do
    match (← files).locate false arg with
    | .ok (.present loc node) =>
      if node = .directory ∧ !deep then
        Act.complain ("rm: cannot remove '" ++ arg ++ "': Is a directory")
        return false
      changing "rm" fun tree => .ok (tree.eraseBelow loc)
    | .ok (.absent ..) =>
      if 'f' ∈ letters then return true
      Act.complain ("rm: cannot remove '" ++ arg ++ "': No such file or directory")
      return false
    | .error cause =>
      if 'f' ∈ letters then return true
      Act.complain ("rm: cannot remove '" ++ arg ++ "': " ++ reason cause)
      return false

def rmdir : Utility := fun args => do
  forEach (options args).2 fun arg =>
    changing ("rmdir: failed to remove '" ++ arg ++ "'") fun tree =>
      match tree.locate false arg with
      | .ok (.present loc .directory) =>
        if tree.children loc = [] then .ok (tree.erase loc) else .error .notEmpty
      | .ok (.present ..) => .error .notADirectory
      | .ok (.absent ..) => .error .notFound
      | .error cause => .error cause

def mv : Utility := fun args => do
  let args := (options args).2
  let target := (args.getLast?).getD ""
  forEach args.dropLast fun source => do
    if (← files).locate false source matches .ok (.present ..) then
      changing ("mv: cannot move '" ++ source ++ "' to '" ++ target ++ "'") fun tree =>
        tree.rename source (placeIn tree source target)
    else
      Act.complain ("mv: cannot stat '" ++ source ++ "': No such file or directory")
      return false

def cp : Utility := fun args => do
  let args := (options args).2
  let target := (args.getLast?).getD ""
  forEach args.dropLast fun source => do
    match (← files).locate true source with
    | .ok (.present _ (.file content mode)) =>
      let place := placeIn (← files) source target
      changing ("cp: cannot create regular file '" ++ place ++ "'") fun tree => do
        let fresh := !tree.pathExists place
        let tree ← tree.write place content
        .ok (if fresh then tree.setMode place mode else tree)
    | .ok (.present ..) =>
      Act.complain ("cp: -r not specified; omitting directory '" ++ source ++ "'")
      return false
    | _ =>
      Act.complain ("cp: cannot stat '" ++ source ++ "': No such file or directory")
      return false

def ln : Utility := fun args => do
  let (letters, args) := options args
  match args with
  | [source, target] =>
    let done ← changing ("ln: failed to create symbolic link '" ++ target ++ "'") fun tree =>
      let place := placeIn tree source target
      if 'f' ∈ letters then ((tree.remove? place).getD tree).makeLink place source
      else tree.makeLink place source
    return if done then 0 else 1
  | _ =>
    Act.complain "ln: missing file operand"
    return 1

/-- The permission bits of an octal number, or with the right to execute added. -/
def modeOf (before : Nat) (s : String) : Nat :=
  match (Text.readNatIn 8 4095 s.toList).toOption with
  | some mode => mode
  | none => if 'x' ∈ s.toList ∧ '+' ∈ s.toList then before ||| 73 else before

def chmod : Utility := fun args => do
  match args with
  | [] =>
    Act.complain "chmod: missing operand"
    return 1
  | mode :: paths =>
    forEach paths fun path => do
      match (← files).node? path with
      | none =>
        Act.complain ("chmod: cannot access '" ++ path ++ "': No such file or directory")
        return false
      | some (.file _ before) =>
        changing "chmod" fun tree => .ok (tree.setMode path (modeOf before mode))
      | some _ => return true

def ls : Utility := fun args => do
  let (letters, args) := options args
  let hidden := 'a' ∈ letters || 'A' ∈ letters
  let shown (names : List String) : List String :=
    ((if 'a' ∈ letters then [".", ".."] else [])
      ++ names.filter fun n => hidden || n.toList.head? ≠ some '.').mergeSort
        fun a b => decide (a ≤ b)
  let code ← forEach (if args.isEmpty then ["."] else args) fun arg => do
    let tree ← files
    match tree.list? arg with
    | some names =>
      if 1 < args.length then Act.print (arg ++ ":\n")
      Act.print (String.join ((shown names).map (· ++ "\n")))
      return true
    | none =>
      if tree.isDirectory arg then
        Act.complain ("ls: cannot open directory '" ++ arg ++ "': Permission denied")
        return false
      if tree.pathExists arg then
        Act.print (arg ++ "\n")
        return true
      Act.complain ("ls: cannot access '" ++ arg ++ "': No such file or directory")
      return false
  return if code = 0 then 0 else 2

/-! ### The rest -/

def seq : Utility := fun args => do
  let number (s : String) : Int := (Test.number? s).getD 0
  let (first, last) : Int × Int := match args with
    | [a] => (1, number a)
    | [a, b] => (number a, number b)
    | _ => (1, 0)
  Act.print (String.join ((List.range (last - first + 1).toNat).map fun (i : Nat) =>
    Text.decimalInt (first + i) ++ "\n"))
  return 0

/-- The microseconds that a text with an optional unit stands for. -/
def micros? (s : String) : Option Nat :=
  let cs := s.toList
  let whole := cs.takeWhile Char.isDigit
  let rest := cs.drop whole.length
  let (part, rest) := match rest with
    | '.' :: ds =>
      let part := ds.takeWhile Char.isDigit
      (part, ds.drop part.length)
    | rest => ([], rest)
  let unit? : Option Nat := match rest with
    | [] => some 1
    | ['s'] => some 1
    | ['m'] => some 60
    | ['h'] => some 3600
    | ['d'] => some 86400
    | _ => none
  match unit? with
  | none => none
  | some unit =>
    if whole.isEmpty ∧ part.isEmpty then none
    else some (unit * (1000000 * Format.decimalOf whole
      + Format.decimalOf ((part ++ List.replicate 6 '0').take 6)))

def sleep : Utility := fun args => do
  match args.find? (fun a => (micros? a).isNone) with
  | some bad =>
    Act.complain ("sleep: invalid time interval '" ++ bad
      ++ "'\nTry 'sleep --help' for more information.")
    return 1
  | none =>
    if args.isEmpty then
      Act.complain "sleep: missing operand\nTry 'sleep --help' for more information."
      return 1
    Act.pass ((args.filterMap micros?).foldl (· + ·) 0)
    return 0

/-- What `test` does; as `[` it needs a closing bracket. -/
def test (name : String) (complain : String → Act Unit) : Utility := fun args => do
  let asked := if name = "[" then args.dropLast else args
  if name = "[" ∧ args.getLast? ≠ some "]" then
    complain "missing ]"
    return 2
  match Test.run (← files) asked with
  | .ok true => return 0
  | .ok false => return 1
  | .error what =>
    complain what
    return 2

def printf : Utility := fun args => do
  match args with
  | format :: args =>
    Act.write 1 (Format.printf format args)
    return 0
  | [] => return 2

def printenv : Utility := fun args => do
  let vars := (← Act.own).environment
  match args with
  | [] =>
    Act.print (String.join (vars.map fun v => v.1 ++ "=" ++ v.2 ++ "\n"))
    return 0
  | names => forEach names fun name => do
    match vars.get? name with
    | some value =>
      Act.print (value ++ "\n")
      return true
    | none => return false

def workingDirectory (tree : FileTree) : String := "/" ++ "/".intercalate tree.here

def pwd : Utility := fun _ => do
  Act.print (workingDirectory (← files) ++ "\n")
  return 0

def all : List (String × Utility) :=
  [("true", fun _ => return 0), ("false", fun _ => return 1),
    ("echo", fun args => do
      Act.write 1 (Format.plainEcho args)
      return 0),
    ("printf", printf),
    ("test", test "test" fun what => Act.complain ("test: " ++ what)),
    ("[", test "[" fun what => Act.complain ("[: " ++ what)),
    ("cat", cat), ("mkdir", mkdir), ("touch", touch), ("rm", rm), ("rmdir", rmdir), ("mv", mv),
    ("cp", cp), ("ln", ln), ("chmod", chmod), ("ls", ls), ("seq", seq), ("sleep", sleep),
    ("printenv", printenv), ("pwd", pwd)]

def find? (name : String) : Option Utility := (all.find? (fun u => u.1 = name)).map (·.2)

end Utility

end RobotPipeline.Rehearsal
