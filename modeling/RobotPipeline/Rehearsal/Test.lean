/-
  RobotPipeline/Rehearsal/Test.lean
  =================================
  **What `test` tells about texts, numbers and files.**

  Arguments are read by their number, so that an operand may look like an
  operator; there are at most four of them.
-/
import RobotPipeline.FileTree.Change

namespace RobotPipeline.Rehearsal.Test

/-- The whole number that a text is, with blanks around it. -/
def number? (s : String) : Option Int :=
  let cs := (s.toList.dropWhile (· = ' ')).reverse.dropWhile (· = ' ') |>.reverse
  let magnitude (ds : List Char) : Option Int :=
    (Text.readNat ((1 <<< 63) - 1) ds).toOption.map Int.ofNat
  match cs with
  | '-' :: ds => if ds.head? = some '+' then none else (magnitude ds).map (- ·)
  | ds => magnitude ds

/-- What a test of one operand says; `none` if the operator is none. -/
def unary? (tree : FileTree) (op arg : String) : Option Bool :=
  match op with
  | "-n" => some (arg ≠ "")
  | "-z" => some (arg = "")
  | "-e" => some (tree.pathExists arg)
  | "-r" => some (tree.pathExists arg)
  | "-w" => some (tree.pathExists arg)
  | "-f" => some (tree.isFile arg)
  | "-d" => some (tree.isDirectory arg)
  | "-x" => some (tree.isExecutable arg || tree.isDirectory arg)
  | "-s" => some (match tree.read arg with
    | .ok content => content.toBytes ≠ []
    | .error _ => tree.isDirectory arg)
  | "-h" => some (isLink tree arg)
  | "-L" => some (isLink tree arg)
  | _ => none
where
  isLink (tree : FileTree) (path : String) : Bool :=
    match tree.locate false path with
    | .ok (.present _ (.link _)) => true
    | _ => false

def binaries : List String := ["=", "!=", "-eq", "-ne", "-lt", "-le", "-gt", "-ge"]

/-- What a test of two operands says, or what is wrong with it. -/
def binary (a op b : String) : Except String Bool :=
  let numbers (f : Int → Int → Bool) : Except String Bool :=
    match number? a, number? b with
    | some m, some n => .ok (f m n)
    | none, _ => .error ("Illegal number: " ++ a)
    | _, none => .error ("Illegal number: " ++ b)
  match op with
  | "=" => .ok (a = b)
  | "!=" => .ok (a ≠ b)
  | "-eq" => numbers (· == ·)
  | "-ne" => numbers (· != ·)
  | "-lt" => numbers fun m n => decide (m < n)
  | "-le" => numbers fun m n => decide (m ≤ n)
  | "-gt" => numbers fun m n => decide (n < m)
  | _ => numbers fun m n => decide (n ≤ m)

/-- What a test says, or what is wrong with it. -/
def run (tree : FileTree) (args : List String) : Except String Bool :=
  match args with
  | [] => .ok false
  | [a] => .ok (a ≠ "")
  | ["!", a] => .ok (a = "")
  | [op, a] =>
    match unary? tree op a with
    | some x => .ok x
    | none => .error (op ++ ": unexpected operator")
  | [a, op, b] =>
    if op ∈ binaries then binary a op b
    else if a = "!" then (run tree [op, b]).map (!·)
    else .error (op ++ ": unexpected operator")
  | ["!", a, op, b] => (run tree [a, op, b]).map (!·)
  | args => .error (args.headD "" ++ ": unexpected operator")
termination_by args.length

end RobotPipeline.Rehearsal.Test
