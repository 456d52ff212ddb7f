/-
  RobotPipeline/Proofs/Text/Utf8.lean
  ===================================
  **Decoding finds the characters that bytes encode, and marks the rest.**

  A character is found at the front of bytes exactly where its encoding stands
  there (`firstPiece_eq_some_iff`): the ranges that a leading byte sets for the
  byte behind it rule out the longer forms of a character and the numbers that
  no character has. So decoding any bytes gives their characters, with U+FFFD
  where none is encoded (`decodes_iff`).
-/
import RobotPipeline.Text.Line

namespace RobotPipeline.Text

/-! ### Bytes and numbers -/

theorem eq_ofNat {b : UInt8} {n : Nat} (h : b.toNat = n) : b = UInt8.ofNat n := by
  rw [← h, UInt8.ofNat_toNat]

theorem toNat_ofNat {n : Nat} (h : n < 256) : (UInt8.ofNat n).toNat = n := by
  rw [UInt8.toNat_ofNat']
  omega

theorem toNat_charOfNat {n : Nat} (h : n < 0xD800 ∨ 0xDFFF < n ∧ n < 0x110000) :
    (Char.ofNat n).toNat = n := by
  rw [Char.ofNat, dif_pos h]
  rfl

theorem encodeChar_eq (c : Char) : encodeChar c =
    if c.toNat < 0x80 then [UInt8.ofNat c.toNat]
    else if c.toNat < 0x800 then
      [UInt8.ofNat (0xC0 + c.toNat / 64), UInt8.ofNat (0x80 + c.toNat % 64)]
    else if c.toNat < 0x10000 then
      [UInt8.ofNat (0xE0 + c.toNat / 4096), UInt8.ofNat (0x80 + c.toNat / 64 % 64),
        UInt8.ofNat (0x80 + c.toNat % 64)]
    else
      [UInt8.ofNat (0xF0 + c.toNat / 262144), UInt8.ofNat (0x80 + c.toNat / 4096 % 64),
        UInt8.ofNat (0x80 + c.toNat / 64 % 64), UInt8.ofNat (0x80 + c.toNat % 64)] := by
  simp [encodeChar, Nat.shiftRight_eq_div_pow]

/-! ### What is found is encoded -/

/-- What leading bytes promise: the bits that they hold, the bytes that follow, and the range of the
first of these. -/
theorem lead?_spec : ∀ b : Fin 256, ∀ l ∈ lead? b,
    (l.owed = 0 ∧ l.bits = b ∧ b.val < 0x80) ∨
    (l.owed = 1 ∧ b = 0xC0 + l.bits ∧ 2 ≤ l.bits ∧ l.bits < 32 ∧ 0x80 ≤ l.low ∧ l.high ≤ 0xBF) ∨
    (l.owed = 2 ∧ b = 0xE0 + l.bits ∧ l.bits < 16 ∧ 0x80 ≤ l.low ∧ l.high ≤ 0xBF ∧
      (l.bits = 0 → 0xA0 ≤ l.low) ∧ (l.bits = 13 → l.high ≤ 0x9F)) ∨
    (l.owed = 3 ∧ b = 0xF0 + l.bits ∧ l.bits < 5 ∧ 0x80 ≤ l.low ∧ l.high ≤ 0xBF ∧
      (l.bits = 0 → 0x90 ≤ l.low) ∧ (l.bits = 4 → l.high ≤ 0x8F)) := by
  decide +kernel

theorem of_collect_zero {low high bits : Nat} {bytes rest : Bytes} {c : Char}
    (h : collect 0 low high bits bytes = (some c, rest)) : c = Char.ofNat bits ∧ rest = bytes := by
  cases bytes <;> simp_all [collect]

theorem of_collect_succ {owed low high bits : Nat} {bytes rest : Bytes} {c : Char}
    (h : collect (owed + 1) low high bits bytes = (some c, rest)) :
    ∃ b more, bytes = b :: more ∧ low ≤ b.toNat ∧ b.toNat ≤ high ∧
      collect owed 0x80 0xBF (bits * 64 + b.toNat % 64) more = (some c, rest) := by
  cases bytes with
  | nil => simp [collect] at h
  | cons b more =>
    rw [collect] at h
    split at h
    · rename_i range
      exact ⟨b, more, rfl, range.1, range.2, h⟩
    · simp at h

theorem eq_encodeChar_of_firstPiece {b : UInt8} {bytes rest : Bytes} {c : Char}
    (h : firstPiece b bytes = (some c, rest)) : b :: bytes = encodeChar c ++ rest := by
  unfold firstPiece at h
  cases hlead : lead? b.toNat with
  | none => simp [hlead] at h
  | some l =>
    simp only [hlead] at h
    -- one case for each number of bytes
    rcases lead?_spec ⟨b.toNat, b.toNat_lt⟩ l hlead with
      ⟨howed, hbits, hb⟩ | ⟨howed, hb, hbits, hbits', hlow, hhigh⟩ |
      ⟨howed, hb, hbits, hlow, hhigh, hfirst, hlast⟩ |
      ⟨howed, hb, hbits, hlow, hhigh, hfirst, hlast⟩ <;>
      rw [howed] at h <;> simp only at hb
    · obtain ⟨rfl, rfl⟩ := of_collect_zero h
      have number : (Char.ofNat l.bits).toNat = b.toNat := by
        rw [toNat_charOfNat (by omega), hbits]
      rw [encodeChar_eq, number, if_pos hb, UInt8.ofNat_toNat]
      rfl
    · obtain ⟨x, more, rfl, hx, hx', h⟩ := of_collect_succ h
      obtain ⟨rfl, rfl⟩ := of_collect_zero h
      rw [encodeChar_eq, toNat_charOfNat (by omega), if_neg (by omega), if_pos (by omega),
        ← eq_ofNat (b := b) (by omega), ← eq_ofNat (b := x) (by omega)]
      rfl
    · obtain ⟨x, more, rfl, hx, hx', h⟩ := of_collect_succ h
      obtain ⟨y, more, rfl, hy, hy', h⟩ := of_collect_succ h
      obtain ⟨rfl, rfl⟩ := of_collect_zero h
      rw [encodeChar_eq, toNat_charOfNat (by omega), if_neg (by omega), if_neg (by omega),
        if_pos (by omega), ← eq_ofNat (b := b) (by omega), ← eq_ofNat (b := x) (by omega),
        ← eq_ofNat (b := y) (by omega)]
      rfl
    · obtain ⟨x, more, rfl, hx, hx', h⟩ := of_collect_succ h
      obtain ⟨y, more, rfl, hy, hy', h⟩ := of_collect_succ h
      obtain ⟨z, more, rfl, hz, hz', h⟩ := of_collect_succ h
      obtain ⟨rfl, rfl⟩ := of_collect_zero h
      rw [encodeChar_eq, toNat_charOfNat (by omega), if_neg (by omega), if_neg (by omega),
        if_neg (by omega), ← eq_ofNat (b := b) (by omega), ← eq_ofNat (b := x) (by omega),
        ← eq_ofNat (b := y) (by omega), ← eq_ofNat (b := z) (by omega)]
      rfl

/-! ### What is encoded is found -/

theorem lead?_two : ∀ (k : Fin 32), 2 ≤ k.val →
    ∃ l ∈ lead? (0xC0 + k.val), l.owed = 1 ∧ l.bits = k ∧ l.low ≤ 0x80 ∧ 0xBF ≤ l.high := by
  decide +kernel

theorem lead?_three : ∀ (k : Fin 16) (x : Fin 64),
    (k.val = 0 → 32 ≤ x.val) → (k.val = 13 → x.val < 32) →
    ∃ l ∈ lead? (0xE0 + k.val), l.owed = 2 ∧ l.bits = k ∧ l.low ≤ 0x80 + x.val ∧
      0x80 + x.val ≤ l.high := by
  decide +kernel

theorem lead?_four : ∀ (k : Fin 5) (x : Fin 64),
    (k.val = 0 → 16 ≤ x.val) → (k.val = 4 → x.val < 16) →
    ∃ l ∈ lead? (0xF0 + k.val), l.owed = 3 ∧ l.bits = k ∧ l.low ≤ 0x80 + x.val ∧
      0x80 + x.val ≤ l.high := by
  decide +kernel

theorem collect_cons {owed low high bits n : Nat} (hn : n < 64) (hlow : low ≤ 0x80 + n)
    (hhigh : 0x80 + n ≤ high) (rest : Bytes) :
    collect (owed + 1) low high bits (UInt8.ofNat (0x80 + n) :: rest) =
      collect owed 0x80 0xBF (bits * 64 + n) rest := by
  rw [collect, toNat_ofNat (by omega), if_pos ⟨hlow, hhigh⟩]
  congr 1
  omega

theorem firstPiece_encodeChar (c : Char) : ∃ b tail, encodeChar c = b :: tail ∧
    ∀ rest, firstPiece b (tail ++ rest) = (some c, rest) := by
  have valid : c.toNat < 0xD800 ∨ 0xDFFF < c.toNat ∧ c.toNat < 0x110000 := c.valid
  have collected : ∀ {n low high bits : Nat} {rest : Bytes}, c.toNat = n → bits = n →
      collect 0 low high bits rest = (some c, rest) := by
    intro n low high bits rest hn hbits
    rw [collect, hbits, ← hn, Char.ofNat_toNat]
  generalize hn : c.toNat = n at valid
  rw [encodeChar_eq, hn]
  by_cases one : n < 0x80
  · have lead : lead? n = some ⟨0, 0x80, 0xBF, n⟩ := by rw [lead?, if_pos one]
    rw [if_pos one]
    refine ⟨_, _, rfl, fun rest => ?_⟩
    rw [firstPiece, toNat_ofNat (by omega), lead]
    exact collected hn rfl
  by_cases two : n < 0x800
  · obtain ⟨l, hl, howed, hbits, hlow, hhigh⟩ :=
      lead?_two ⟨n / 64, by omega⟩ (by simp only; omega)
    simp only [Option.mem_def] at hl hbits
    rw [if_neg one, if_pos two]
    refine ⟨_, _, rfl, fun rest => ?_⟩
    simp only [firstPiece, toNat_ofNat (show 0xC0 + n / 64 < 256 by omega), hl, howed, hbits,
      List.cons_append, List.nil_append]
    rw [collect_cons (by omega) (by omega) (by omega)]
    exact collected hn (by omega)
  by_cases three : n < 0x10000
  · obtain ⟨l, hl, howed, hbits, hlow, hhigh⟩ :=
      lead?_three ⟨n / 4096, by omega⟩ ⟨n / 64 % 64, by omega⟩ (by simp only; omega)
        (by simp only; omega)
    simp only [Option.mem_def] at hl hbits hlow hhigh
    rw [if_neg one, if_neg two, if_pos three]
    refine ⟨_, _, rfl, fun rest => ?_⟩
    simp only [firstPiece, toNat_ofNat (show 0xE0 + n / 4096 < 256 by omega), hl, howed, hbits,
      List.cons_append, List.nil_append]
    rw [collect_cons (by omega) hlow hhigh, collect_cons (by omega) (by omega) (by omega)]
    exact collected hn (by omega)
  · obtain ⟨l, hl, howed, hbits, hlow, hhigh⟩ :=
      lead?_four ⟨n / 262144, by omega⟩ ⟨n / 4096 % 64, by omega⟩ (by simp only; omega)
        (by simp only; omega)
    simp only [Option.mem_def] at hl hbits hlow hhigh
    rw [if_neg one, if_neg two, if_neg three]
    refine ⟨_, _, rfl, fun rest => ?_⟩
    simp only [firstPiece, toNat_ofNat (show 0xF0 + n / 262144 < 256 by omega), hl, howed, hbits,
      List.cons_append, List.nil_append]
    rw [collect_cons (by omega) hlow hhigh, collect_cons (by omega) (by omega) (by omega),
      collect_cons (by omega) (by omega) (by omega)]
    exact collected hn (by omega)

theorem firstPiece_eq_some_iff {b : UInt8} {bytes rest : Bytes} {c : Char} :
    firstPiece b bytes = (some c, rest) ↔ b :: bytes = encodeChar c ++ rest := by
  refine ⟨eq_encodeChar_of_firstPiece, fun h => ?_⟩
  obtain ⟨b', tail, hchar, hpiece⟩ := firstPiece_encodeChar c
  rw [hchar, List.cons_append] at h
  obtain ⟨rfl, rfl⟩ := List.cons.inj h
  exact hpiece rest

/-! ### All of the bytes -/

/-- The characters of bytes, with U+FFFD for a piece at which no character is encoded. -/
inductive Decodes : Bytes → List Char → Prop where
  | nil : Decodes [] []
  | char (c : Char) {rest : Bytes} {cs : List Char} (more : Decodes rest cs) :
      Decodes (encodeChar c ++ rest) (c :: cs)
  | broken {b : UInt8} {rest : Bytes} {cs : List Char}
      (missing : ∀ c more, b :: rest ≠ encodeChar c ++ more)
      (more : Decodes (firstPiece b rest).2 cs) : Decodes (b :: rest) ('\uFFFD' :: cs)

theorem decodeLossy_nil : decodeLossy [] = [] := by simp [decodeLossy, pieces]

theorem decodeLossy_cons (b : UInt8) (rest : Bytes) : decodeLossy (b :: rest) =
    (firstPiece b rest).1.getD '\uFFFD' :: decodeLossy (firstPiece b rest).2 := by
  rw [decodeLossy, pieces, List.map_cons, decodeLossy]

theorem decodes_decodeLossy (bytes : Bytes) : Decodes bytes (decodeLossy bytes) := by
  induction bytes using pieces.induct with
  | case1 =>
    rw [decodeLossy_nil]
    exact .nil
  | case2 b rest _ ih =>
    rw [decodeLossy_cons]
    cases hpiece : (firstPiece b rest).1 with
    | some c =>
      have encoded := eq_encodeChar_of_firstPiece (Prod.ext hpiece rfl)
      have decoded := Decodes.char c ih
      rwa [← encoded] at decoded
    | none =>
      refine .broken (fun c more h => ?_) ih
      rw [firstPiece_eq_some_iff.mpr h] at hpiece
      cases hpiece

/-- Decoding gives the characters of any bytes. -/
theorem decodes_iff {bytes : Bytes} {cs : List Char} :
    Decodes bytes cs ↔ decodeLossy bytes = cs := by
  refine ⟨fun h => ?_, fun h => h ▸ decodes_decodeLossy bytes⟩
  induction h with
  | nil => exact decodeLossy_nil
  | @char c rest cs more ih =>
    obtain ⟨b, tail, hchar, hpiece⟩ := firstPiece_encodeChar c
    rw [hchar, List.cons_append, decodeLossy_cons, hpiece, ih, Option.getD_some]
  | @broken b rest cs missing more ih =>
    cases hpiece : (firstPiece b rest).1 with
    | none => rw [decodeLossy_cons, hpiece, ih, Option.getD_none]
    | some c => exact absurd (eq_encodeChar_of_firstPiece (Prod.ext hpiece rfl)) (missing c _)

theorem collect_suffix (owed low high bits : Nat) (bytes : Bytes) :
    (collect owed low high bits bytes).2 <:+ bytes := by
  induction owed generalizing low high bits bytes with
  | zero => cases bytes <;> exact List.suffix_refl _
  | succ owed ih =>
    cases bytes with
    | nil => exact List.suffix_refl _
    | cons b rest =>
      rw [collect]
      split
      · exact (ih ..).trans (List.suffix_cons b rest)
      · exact List.suffix_refl _

/-- A newline comes from the byte that is one. -/
theorem Decodes.newline_mem {bytes : Bytes} {cs : List Char} (h : Decodes bytes cs)
    (mem : '\n' ∈ cs) : newline ∈ bytes := by
  induction h with
  | nil => simp at mem
  | @char c rest cs more ih =>
    rcases List.mem_cons.mp mem with rfl | later
    · exact List.mem_append_left _ (by decide)
    · exact List.mem_append_right _ (ih later)
  | @broken b rest cs missing more ih =>
    have later : '\n' ∈ cs := by simpa using mem
    -- a broken piece ends within the bytes
    have suffix : (firstPiece b rest).2 <:+ rest := by
      unfold firstPiece
      split
      · exact List.suffix_refl _
      · exact collect_suffix ..
    exact List.mem_cons_of_mem b (suffix.subset (ih later))

end RobotPipeline.Text
