/-
  RobotPipeline/Proofs/Json/Scan.lean
  ===================================
  **The scanner finds the tokens that the writer has put down.**

  A text is scanned up to its closing quote and reads back as what was quoted.
  A bare word is scanned up to the next character that cannot be part of one,
  so what follows a word has to begin with such a character
  (`Json.Delimited`); in written data it always does.
-/
import Mathlib.Data.List.TakeWhile
import RobotPipeline.Json.Token
import RobotPipeline.Json.Writer
import RobotPipeline.Proofs.Text.Numeral

namespace RobotPipeline.Json

open Text (digits digitValue? valueOf)

/-! ### Texts -/

/-- The characters that are escaped by their number. -/
theorem hexValue?_hex4 {n : Nat} (h : n < 32) :
    ∃ a b c d, hex4 n = [a, b, c, d] ∧ hexValue? a b c d = some n := by
  have all : ∀ m : Fin 32, ∃ a b c d, hex4 m = [a, b, c, d] ∧ hexValue? a b c d = some m.val := by
    intro m
    refine ⟨(hex4 m)[0]!, (hex4 m)[1]!, (hex4 m)[2]!, (hex4 m)[3]!, ?_⟩
    revert m
    decide
  exact all ⟨n, h⟩

/-- A character is written as a short escape, by its number, or as itself. -/
theorem escapeChar_cases (c : Char) :
    (∃ e, e ≠ 'u' ∧ shortEscape? e = some c.toNat ∧ escapeChar c = ['\\', e]) ∨
      (c.toNat < 32 ∧ escapeChar c = '\\' :: 'u' :: hex4 c.toNat) ∨
      (c ≠ '"' ∧ c ≠ '\\' ∧ ¬ c.toNat < 32 ∧ escapeChar c = [c]) := by
  unfold escapeChar
  split
  · rename_i h
    subst h
    exact .inl ⟨'"', by decide, by decide, rfl⟩
  rename_i hquote
  split
  · rename_i h
    subst h
    exact .inl ⟨'\\', by decide, by decide, rfl⟩
  rename_i hback
  split
  · rename_i h
    exact .inl ⟨'b', by decide, by rw [h]; decide, rfl⟩
  split
  · rename_i h
    exact .inl ⟨'t', by decide, by rw [h]; decide, rfl⟩
  split
  · rename_i h
    exact .inl ⟨'n', by decide, by rw [h]; decide, rfl⟩
  split
  · rename_i h
    exact .inl ⟨'f', by decide, by rw [h]; decide, rfl⟩
  split
  · rename_i h
    exact .inl ⟨'r', by decide, by rw [h]; decide, rfl⟩
  split
  · rename_i h
    exact .inr (.inl ⟨h, rfl⟩)
  · rename_i h
    exact .inr (.inr ⟨hquote, hback, h, rfl⟩)

theorem codePoints?_escapeChar (c : Char) (done : List Nat) (rest : List Char) :
    codePoints? done (escapeChar c ++ rest) = codePoints? (c.toNat :: done) rest := by
  rcases escapeChar_cases c with ⟨e, he, hshort, h⟩ | ⟨hlt, h⟩ | ⟨-, hback, hge, h⟩
  · rw [h, List.cons_append, List.cons_append, List.nil_append, codePoints?.eq_3]
    · rw [hshort]
    · rintro a b c' d rest' rfl -
      exact he rfl
  · obtain ⟨a, b, c', d, hhex, hvalue⟩ := hexValue?_hex4 hlt
    rw [h, hhex]
    simp only [List.cons_append, List.nil_append, codePoints?, hvalue]
  · rw [h, List.cons_append, List.nil_append, codePoints?.eq_4]
    · rw [if_neg]
      rintro (hc | hc)
      · exact hback hc
      · exact hge hc
    · intros
      simp_all
    · intros
      simp_all

theorem codePoints?_escape (cs : List Char) (done : List Nat) :
    codePoints? done (cs.flatMap escapeChar) = some (done.reverse ++ cs.map Char.toNat) := by
  induction cs generalizing done with
  | nil => simp [codePoints?]
  | cons c cs ih => simp [codePoints?_escapeChar, ih]

/-- A character is no half of a surrogate pair. -/
theorem not_surrogate (c : Char) :
    isHighSurrogate c.toNat = false ∧ isLowSurrogate c.toNat = false := by
  have valid : c.toNat < 0xD800 ∨ (0xDFFF < c.toNat ∧ c.toNat < 0x110000) := c.valid
  constructor
  · simp only [isHighSurrogate, Bool.and_eq_false_iff, decide_eq_false_iff_not]
    omega
  · simp only [isLowSurrogate, Bool.and_eq_false_iff, decide_eq_false_iff_not]
    omega

theorem joinSurrogates?_chars (cs done : List Char) :
    joinSurrogates? done (cs.map Char.toNat) = some (done.reverse ++ cs) := by
  induction cs generalizing done with
  | nil => simp [joinSurrogates?]
  | cons c cs ih =>
    obtain ⟨high, low⟩ := not_surrogate c
    cases cs with
    | nil => simp [joinSurrogates?, high, low, Char.ofNat_toNat]
    | cons d cs =>
      rw [List.map_cons, List.map_cons, joinSurrogates?]
      simp only [high, low, Bool.false_eq_true, if_false, Char.ofNat_toNat]
      rw [← List.map_cons, ih]
      simp

/-- What stands between the quotes reads back as the text. -/
theorem textToken?_escape (s : String) :
    textToken? (s.toList.flatMap escapeChar) = some (.text (some s)) := by
  rw [textToken?, codePoints?_escape, List.reverse_nil, List.nil_append, Option.map_some,
    joinSurrogates?_chars]
  simp

/-! ### Scanning a text -/

/-- A character that neither ends a text nor starts an escape is taken as it is. -/
theorem scan_text_plain {c : Char} (hquote : c ≠ '"') (hback : c ≠ '\\') (done : List Token)
    (read rest : List Char) :
    scan done (.text read false) (c :: rest) = scan done (.text (c :: read) false) rest := by
  rw [scan, scanStep]
  simp [hquote, hback]

theorem scan_text_escaped (e : Char) (done : List Token) (read rest : List Char) :
    scan done (.text read false) ('\\' :: e :: rest) =
      scan done (.text (e :: '\\' :: read) false) rest := by
  simp [scan, scanStep]

theorem hex4_plain {n : Nat} (h : n < 32) : ∀ c ∈ hex4 n, c ≠ '"' ∧ c ≠ '\\' := by
  have all : ∀ m : Fin 32, (hex4 m).all (fun c => c ≠ '"' && c ≠ '\\') = true := by decide
  simpa using all ⟨n, h⟩

theorem scan_text_all {cs : List Char} (h : ∀ c ∈ cs, c ≠ '"' ∧ c ≠ '\\') (done : List Token)
    (read rest : List Char) :
    scan done (.text read false) (cs ++ rest) = scan done (.text (cs.reverse ++ read) false) rest := by
  induction cs generalizing read with
  | nil => rfl
  | cons c cs ih =>
    obtain ⟨hquote, hback⟩ := h c (by simp)
    rw [List.cons_append, scan_text_plain hquote hback, ih fun d hd => h d (by simp [hd])]
    simp

theorem scan_text_escapeChar (c : Char) (done : List Token) (read rest : List Char) :
    scan done (.text read false) (escapeChar c ++ rest) =
      scan done (.text ((escapeChar c).reverse ++ read) false) rest := by
  rcases escapeChar_cases c with ⟨e, -, -, h⟩ | ⟨hlt, h⟩ | ⟨hquote, hback, -, h⟩
  · rw [h]
    exact scan_text_escaped e done read rest
  · rw [h, List.cons_append, List.cons_append, scan_text_escaped, scan_text_all (hex4_plain hlt)]
    simp
  · rw [h]
    exact scan_text_plain hquote hback done read rest

theorem scan_text_escape (cs : List Char) (done : List Token) (read rest : List Char) :
    scan done (.text read false) (cs.flatMap escapeChar ++ rest) =
      scan done (.text ((cs.flatMap escapeChar).reverse ++ read) false) rest := by
  induction cs generalizing read with
  | nil => rfl
  | cons c cs ih =>
    rw [List.flatMap_cons, List.append_assoc, scan_text_escapeChar, ih]
    simp

theorem scan_quote (s : String) (done : List Token) (rest : List Char) :
    scan done .between (quote s ++ rest) = scan (.text (some s) :: done) .between rest := by
  have opening : scan done .between (quote s ++ rest) =
      scan done (.text [] false) (s.toList.flatMap escapeChar ++ ('"' :: rest)) := by
    simp [quote, scan, scanStep, scanFresh, isSpace]
  rw [opening, scan_text_escape, List.append_nil, scan, scanStep]
  simp [textToken?_escape]

/-! ### Scanning a word -/

def endsWord (c : Char) : Bool := isSpace c || c = '"' || (punctuation? c).isSome

/-- The characters begin with one that ends a word, or there are none. -/
def Delimited (rest : List Char) : Prop := ∀ c ∈ rest.head?, endsWord c = true

theorem delimited_cons {c : Char} (h : endsWord c = true) (rest : List Char) :
    Delimited (c :: rest) := by
  simpa [Delimited] using h

theorem scan_word_inside {cs : List Char} (h : ∀ c ∈ cs, endsWord c = false) (done : List Token)
    (read rest : List Char) :
    scan done (.word read) (cs ++ rest) = scan done (.word (cs.reverse ++ read)) rest := by
  induction cs generalizing read with
  | nil => rfl
  | cons c cs ih =>
    have hc := h c (by simp)
    rw [endsWord] at hc
    rw [List.cons_append, scan, scanStep]
    simp only [hc, Bool.false_eq_true, if_false]
    rw [ih fun d hd => h d (by simp [hd])]
    simp

/-- A word is one token, when something follows that ends it. -/
theorem endsWord_of_all {w : List Char} (h : w.all (fun c => !endsWord c) = true) :
    ∀ c ∈ w, endsWord c = false := by
  simpa using h

theorem scan_word {w : List Char} {t : Token} (hne : w ≠ []) (h : ∀ c ∈ w, endsWord c = false)
    (ht : wordToken? w = some t) (done : List Token) {rest : List Char} (hrest : Delimited rest) :
    scan done .between (w ++ rest) = scan (t :: done) .between rest := by
  obtain ⟨c, cs, rfl⟩ := List.exists_cons_of_ne_nil hne
  have hc := h c (by simp)
  simp only [endsWord, Bool.or_eq_false_iff, decide_eq_false_iff_not, Option.isSome_eq_false_iff,
    Option.isNone_iff_eq_none] at hc
  obtain ⟨⟨hspace, hquote⟩, hmark⟩ := hc
  have opening : scan done .between (c :: cs ++ rest) = scan done (.word [c]) (cs ++ rest) := by
    simp [scan, scanStep, scanFresh, hspace, hquote, hmark]
  have all : (cs.reverse ++ [c]).reverse = c :: cs := by simp
  rw [opening, scan_word_inside fun d hd => h d (by simp [hd])]
  cases rest with
  | nil => simp [scan, all, ht]
  | cons d rest =>
    have hd : endsWord d = true := hrest d rfl
    rw [endsWord] at hd
    simp only [scan, scanStep, hd, if_true, all, ht, Option.map_some]

/-! ### Numbers -/

theorem isDigit_of_mem_digits {n : Nat} {c : Char} (hc : c ∈ digits n) : isDigit c = true :=
  Text.isSome_digitValue?_of_mem_digits hc

theorem endsWord_of_isDigit {c : Char} (h : isDigit c = true) : endsWord c = false := by
  have none : ∀ d ∈ [' ', '\t', '\n', '\r', '"', '[', ']', '{', '}', ',', ':'],
      isDigit d = false := by
    simp only [← Bool.not_eq_true', ← List.all_eq_true]
    decide
  have ne : ∀ d ∈ [' ', '\t', '\n', '\r', '"', '[', ']', '{', '}', ',', ':'], c ≠ d := by
    rintro d hd rfl
    simp [none c hd] at h
  simp only [List.mem_cons, List.not_mem_nil, or_false, forall_eq_or_imp, forall_eq] at ne
  simp [endsWord, isSpace, punctuation?, ne]

theorem magnitude?_digits (negative : Bool) (lexeme : List Char) (n : Nat)
    (h : negative = true → 0 < n) :
    magnitude? negative lexeme (digits n) =
      some (.integer (if negative then -(n : Int) else n)) := by
  have whole : (digits n).takeWhile isDigit = digits n := by
    rw [List.takeWhile_eq_self_iff]
    exact fun c hc => isDigit_of_mem_digits hc
  have rest : (digits n).dropWhile isDigit = [] := by
    rw [List.dropWhile_eq_nil_iff]
    exact fun c hc => isDigit_of_mem_digits hc
  have leading : (digits n).head? = some '0' → (digits n).length = 1 := by
    intro hzero
    by_cases hn : 0 < n
    · exact absurd hzero (Text.head?_digits_ne_zero hn)
    · obtain rfl : n = 0 := by omega
      rfl
  have value : naturalValue (digits n) = n := Text.valueOf_digits n
  have nonempty : (digits n).isEmpty = false := by simpa using Text.digits_ne_nil n
  cases negative with
  | false =>
    simpa [magnitude?, whole, rest, value, nonempty, hasFraction?, afterExponent?] using leading
  | true =>
    have hn : n ≠ 0 := by
      have := h rfl
      omega
    simpa [magnitude?, whole, rest, value, nonempty, hasFraction?, afterExponent?, hn] using leading

theorem integerChars_ne_nil (n : Int) : integerChars n ≠ [] := by
  unfold integerChars
  split
  · simp
  · exact Text.digits_ne_nil _

theorem endsWord_of_mem_integerChars {n : Int} {c : Char} (hc : c ∈ integerChars n) :
    endsWord c = false := by
  unfold integerChars at hc
  split at hc
  · rcases List.mem_cons.mp hc with rfl | hc
    · decide
    · exact endsWord_of_isDigit (isDigit_of_mem_digits hc)
  · exact endsWord_of_isDigit (isDigit_of_mem_digits hc)

theorem number?_integerChars (n : Int) : number? (integerChars n) = some (.integer n) := by
  unfold integerChars
  split
  · rename_i hneg
    have hpos : 0 < n.natAbs := by omega
    rw [number?, magnitude?_digits true _ _ fun _ => hpos]
    simp only [if_true, Option.some.injEq, Datum.integer.injEq]
    omega
  · rename_i hneg
    have first : ∀ rest, digits n.natAbs ≠ '-' :: rest := by
      intro rest h
      have minus : isDigit '-' = true := isDigit_of_mem_digits (h ▸ List.mem_cons_self)
      exact absurd minus (by decide)
    rw [number?.eq_2 _ first, magnitude?_digits false _ _ (by simp)]
    simp only [Bool.false_eq_true, if_false, Option.some.injEq, Datum.integer.injEq]
    omega

theorem wordToken?_integerChars (n : Int) :
    wordToken? (integerChars n) = some (.atom (.integer n)) := by
  -- a number is none of the three words, as it would be read as one
  have notWord : ∀ w, number? w = none → integerChars n ≠ w := by
    rintro w hw rfl
    simp [number?_integerChars] at hw
  rw [wordToken?, if_neg (notWord _ (by decide +kernel)), if_neg (notWord _ (by decide +kernel)),
    if_neg (notWord _ (by decide +kernel)), number?_integerChars]
  rfl

end RobotPipeline.Json
