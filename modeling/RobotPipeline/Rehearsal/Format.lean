/-
  RobotPipeline/Rehearsal/Format.lean
  ===================================
  **What `echo` and `printf` print.**
-/
import RobotPipeline.Text.Numeral
import RobotPipeline.Text.Utf8

namespace RobotPipeline.Rehearsal.Format

open Text (Bytes encodeChar encodeText)

/-! ### Escapes -/

/-- The byte that a letter behind a backslash stands for. -/
def escaped? (c : Char) : Option UInt8 :=
  match c with
  | 'a' => some 7
  | 'b' => some 8
  | 't' => some 9
  | 'n' => some 10
  | 'v' => some 11
  | 'f' => some 12
  | 'r' => some 13
  | '\\' => some 92
  | _ => none

def isOctal (c : Char) : Bool := '0' ≤ c && c ≤ '7'

/-- The byte of up to three octal digits, and what follows them. -/
def octal (cs : List Char) : UInt8 × List Char :=
  let ds := (cs.take 3).takeWhile isOctal
  (UInt8.ofNat (ds.foldl (fun n c => 8 * n + (c.toNat - 48)) 0), cs.drop ds.length)

/-- The bytes of a text with escapes; the flag tells that `\c` ended all output. A byte in octal is
written behind `\0`; `steps` bounds the length. -/
def unescape : Nat → List Char → Bytes × Bool
  | 0, _ => ([], false)
  | _, [] => ([], false)
  | steps + 1, '\\' :: c :: rest =>
    match escaped? c with
    | some b =>
      let (bytes, done) := unescape steps rest
      (b :: bytes, done)
    | none =>
      if c = 'c' then ([], true)
      else if c = '0' then
        let (b, rest) := octal rest
        let (bytes, done) := unescape steps rest
        (b :: bytes, done)
      else
        let (bytes, done) := unescape steps rest
        (92 :: encodeChar c ++ bytes, done)
  | steps + 1, c :: rest =>
    let (bytes, done) := unescape steps rest
    (encodeChar c ++ bytes, done)

/-- What the shell's `echo` prints. -/
def echo (args : List String) : Bytes :=
  let (args, line) := match args with
    | "-n" :: rest => (rest, false)
    | args => (args, true)
  let cs := (" ".intercalate args).toList
  let (bytes, done) := unescape (cs.length + 1) cs
  bytes ++ (if line && !done then [10] else [])

/-- What the program `echo` prints. -/
def plainEcho (args : List String) : Bytes :=
  match args with
  | "-n" :: rest => encodeText (" ".intercalate rest)
  | args => encodeText (" ".intercalate args ++ "\n")

/-! ### Formats -/

/-- A conversion of a format. -/
structure Conversion where
  leftAligned : Bool
  zeros : Bool
  width : Nat
  kind : Char

/-- A piece of a format. -/
inductive Piece where
  | bytes (bs : Bytes)
  | conversion (c : Conversion)
  /-- The end of all output. -/
  | stop

def decimalOf (ds : List Char) : Nat := ds.foldl (fun n c => 10 * n + (c.toNat - 48)) 0

def conversion? (cs : List Char) : Option (Conversion × List Char) :=
  let flags := cs.takeWhile (fun c => c = '-' || c = '0')
  let cs := cs.drop flags.length
  let width := cs.takeWhile Char.isDigit
  match cs.drop width.length with
  | kind :: rest => some (⟨'-' ∈ flags, '0' ∈ flags, decimalOf width, kind⟩, rest)
  | [] => none

/-- The pieces of a format; `steps` bounds its length. -/
def pieces : Nat → List Char → List Piece
  | 0, _ => []
  | _, [] => []
  | steps + 1, '%' :: '%' :: rest => .bytes [37] :: pieces steps rest
  | steps + 1, '%' :: rest =>
    match conversion? rest with
    | some (c, rest) => .conversion c :: pieces steps rest
    | none => []
  | steps + 1, '\\' :: c :: rest =>
    match escaped? c with
    | some b => .bytes [b] :: pieces steps rest
    | none =>
      if c = 'c' then [.stop]
      else if isOctal c then
        let (b, rest) := octal (c :: rest)
        .bytes [b] :: pieces steps rest
      else .bytes (92 :: encodeChar c) :: pieces steps rest
  | steps + 1, c :: rest => .bytes (encodeChar c) :: pieces steps rest

/-- Bytes on at least as many columns as a conversion says. -/
def aligned (c : Conversion) (bs : Bytes) : Bytes :=
  let pad := List.replicate (c.width - bs.length) 32
  if c.leftAligned then bs ++ pad else pad ++ bs

/-- The whole number that an argument is, or 0. -/
def integerOf (arg : String) : Int :=
  let magnitude (ds : List Char) : Int := (((Text.readNat (1 <<< 63) ds).toOption).getD 0 : Nat)
  match arg.toList with
  | '-' :: ds => -magnitude ds
  | ds => magnitude ds

/-- A number with its sign, filled up with zeros to the width. -/
def signed (c : Conversion) (n : Int) : Bytes :=
  let sign : Bytes := if n < 0 then [45] else []
  let ds := encodeText (Text.decimal n.natAbs)
  if c.zeros && !c.leftAligned then
    sign ++ List.replicate (c.width - sign.length - ds.length) 48 ++ ds
  else aligned c (sign ++ ds)

/-- What a conversion makes of an argument; `none` if there is no such conversion. -/
def convert? (c : Conversion) (arg : String) : Option Bytes :=
  match c.kind with
  | 's' => some (aligned c (encodeText arg))
  | 'd' => some (signed c (integerOf arg))
  | _ => none

/-- Goes over a format once. Gives the bytes, the arguments that are left, whether an argument was
used, and whether output has ended. -/
def once : List Piece → List String → Bytes × List String × Bool × Bool
  | [], args => ([], args, false, false)
  | .bytes bs :: rest, args =>
    let (more, args, used, done) := once rest args
    (bs ++ more, args, used, done)
  | .stop :: _, args => ([], args, true, true)
  | .conversion c :: rest, args =>
    match convert? c (args.head?.getD "") with
    | none => ([], [], true, true)
    | some bs =>
      let (more, args, _, done) := once rest (args.drop 1)
      (bs ++ more, args, true, done)

/-- Goes over a format until all arguments are used. -/
def repeated (ps : List Piece) : Nat → List String → Bytes
  | 0, _ => []
  | steps + 1, args =>
    let (bs, left, used, done) := once ps args
    if left.isEmpty || !used || done then bs else bs ++ repeated ps steps left

/-- What `printf` prints. -/
def printf (format : String) (args : List String) : Bytes :=
  repeated (pieces (format.length + 1) format.toList) (args.length + 1) args

end RobotPipeline.Rehearsal.Format
