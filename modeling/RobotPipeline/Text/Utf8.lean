/-
  RobotPipeline/Text/Utf8.lean
  ============================
  **Bytes and the characters they encode.**

  A character is encoded by one to four bytes. Decoding takes a byte sequence
  apart into well-formed characters and *broken pieces*: a broken piece is the
  longest start of a character that the bytes offer before they go wrong, or a
  single byte that starts no character.

  `decode?` accepts only sequences without broken pieces; `decodeLossy` puts
  the replacement character U+FFFD where each of them stood.
-/

namespace RobotPipeline.Text

abbrev Bytes := List UInt8

/-! ### Encoding -/

def encodeChar (c : Char) : Bytes :=
  let n := c.toNat
  let tail (k : Nat) : UInt8 := UInt8.ofNat (0x80 + (n >>> (6 * k)) % 64)
  if n < 0x80 then [UInt8.ofNat n]
  else if n < 0x800 then [UInt8.ofNat (0xC0 + n / 64), tail 0]
  else if n < 0x10000 then [UInt8.ofNat (0xE0 + n / 4096), tail 1, tail 0]
  else [UInt8.ofNat (0xF0 + n / 262144), tail 2, tail 1, tail 0]

def encode (cs : List Char) : Bytes := cs.flatMap encodeChar

def encodeText (s : String) : Bytes := encode s.toList

/-! ### Decoding -/

/-- What a leading byte promises: how many bytes follow, the range of the first of them, and the
bits it contributes itself. -/
structure Lead where
  owed : Nat
  low : Nat
  high : Nat
  bits : Nat

/-- Reads a leading byte; `none` for a byte that starts no character. -/
def lead? (b : Nat) : Option Lead :=
  if b < 0x80 then some ⟨0, 0x80, 0xBF, b⟩
  else if 0xC2 ≤ b ∧ b ≤ 0xDF then some ⟨1, 0x80, 0xBF, b - 0xC0⟩
  else if b = 0xE0 then some ⟨2, 0xA0, 0xBF, 0⟩
  else if b = 0xED then some ⟨2, 0x80, 0x9F, 0xD⟩
  else if 0xE1 ≤ b ∧ b ≤ 0xEF then some ⟨2, 0x80, 0xBF, b - 0xE0⟩
  else if b = 0xF0 then some ⟨3, 0x90, 0xBF, 0⟩
  else if b = 0xF4 then some ⟨3, 0x80, 0x8F, 4⟩
  else if 0xF1 ≤ b ∧ b ≤ 0xF3 then some ⟨3, 0x80, 0xBF, b - 0xF0⟩
  else none

/-- Collects the bytes a leading byte owes. The answer is the character, or `none` for a broken
piece, with the bytes after it. -/
def collect : (owed low high bits : Nat) → Bytes → Option Char × Bytes
  | 0, _, _, bits, rest => (some (Char.ofNat bits), rest)
  | _ + 1, _, _, _, [] => (none, [])
  | owed + 1, low, high, bits, b :: rest =>
    if low ≤ b.toNat ∧ b.toNat ≤ high then
      collect owed 0x80 0xBF (bits * 64 + b.toNat % 64) rest
    else (none, b :: rest)

/-- Collecting never adds bytes. -/
theorem collect_length_le (owed low high bits : Nat) (bytes : Bytes) :
    (collect owed low high bits bytes).2.length ≤ bytes.length := by
  induction owed generalizing low high bits bytes with
  | zero => cases bytes <;> simp [collect]
  | succ owed ih =>
    cases bytes with
    | nil => simp [collect]
    | cons b rest =>
      unfold collect
      split
      · exact Nat.le_trans (ih ..) (Nat.le_succ _)
      · simp

/-- The first character or broken piece of the bytes `b :: rest`, and the bytes after it. -/
def firstPiece (b : UInt8) (rest : Bytes) : Option Char × Bytes :=
  match lead? b.toNat with
  | none => (none, rest)
  | some l => collect l.owed l.low l.high l.bits rest

theorem firstPiece_length_le (b : UInt8) (rest : Bytes) :
    (firstPiece b rest).2.length ≤ rest.length := by
  unfold firstPiece
  split
  · exact Nat.le_refl _
  · exact collect_length_le ..

/-- The characters and broken pieces of a byte sequence, in order. -/
def pieces : Bytes → List (Option Char)
  | [] => []
  | b :: rest =>
    have : (firstPiece b rest).2.length < (b :: rest).length :=
      Nat.lt_succ_of_le (firstPiece_length_le b rest)
    (firstPiece b rest).1 :: pieces (firstPiece b rest).2
termination_by bytes => bytes.length
decreasing_by all_goals simp only [List.length_cons] at *; omega

/-- Collects the values of a list in which none is missing. -/
def allSome {α : Type} : List (Option α) → Option (List α)
  | [] => some []
  | none :: _ => none
  | some a :: rest => (allSome rest).map (a :: ·)

/-- The characters of a well-formed byte sequence. -/
def decode? (bytes : Bytes) : Option (List Char) := allSome (pieces bytes)

/-- The characters of any byte sequence, with U+FFFD for each broken piece. -/
def decodeLossy (bytes : Bytes) : List Char :=
  (pieces bytes).map (·.getD '\uFFFD')

def decodeText? (bytes : Bytes) : Option String := (decode? bytes).map String.ofList

end RobotPipeline.Text
