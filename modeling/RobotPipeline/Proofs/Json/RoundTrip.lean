/-
  RobotPipeline/Proofs/Json/RoundTrip.lean
  ========================================
  **A datum reads back from its JSON text, pretty or compact.**

  The way goes through the tokens of the datum. `scan_pretty` and
  `scan_compact` say that the scanner finds them in the text, `run_tokens` that
  the reader makes the datum of them; all three follow the shape of the datum.

  A number that is no integer and a text with half of a surrogate pair have no
  written form that reads back as the same datum, and neither has a label that
  is no name: `Json.Plain` leaves them out.
-/
import RobotPipeline.Json.Reader
import RobotPipeline.Proofs.Json.Scan

namespace RobotPipeline.Json

/-! ### Plain data -/

mutual

/-- Whether a datum is made of nulls, flags, integers, texts, lists and records with names. -/
def plain : Datum → Bool
  | .fraction _ => false
  | .brokenText => false
  | .list items => plainItems items
  | .record fields => plainFields fields
  | _ => true

def plainItems : List Datum → Bool
  | [] => true
  | d :: rest => plain d && plainItems rest

def plainFields : List (Key × Datum) → Bool
  | [] => true
  | (.named _, d) :: rest => plain d && plainFields rest
  | _ => false

end

/-! ### The tokens of a datum -/

def keyToken : Key → Token
  | .named name => .text (some name)
  | _ => .text none

mutual

def tokensOf : Datum → List Token
  | .text s => [.text (some s)]
  | .list [] => [.openList, .closeList]
  | .list items => .openList :: (tokensOfItems items ++ [.closeList])
  | .record [] => [.openRecord, .closeRecord]
  | .record fields => .openRecord :: (tokensOfFields fields ++ [.closeRecord])
  | d => [.atom d]

def tokensOfItems : List Datum → List Token
  | [] => []
  | [d] => tokensOf d
  | d :: rest => tokensOf d ++ .comma :: tokensOfItems rest

def tokensOfFields : List (Key × Datum) → List Token
  | [] => []
  | [(k, d)] => keyToken k :: .colon :: tokensOf d
  | (k, d) :: rest => keyToken k :: .colon :: (tokensOf d ++ .comma :: tokensOfFields rest)

end

/-! ### From characters to tokens -/

theorem scan_mark {c : Char} {t : Token} (hspace : isSpace c = false) (hquote : c ≠ '"')
    (h : punctuation? c = some t) (done : List Token) (rest : List Char) :
    scan done .between (c :: rest) = scan (t :: done) .between rest := by
  simp [scan, scanStep, scanFresh, hspace, hquote, h]

theorem scan_space {c : Char} (h : isSpace c = true) (done : List Token) (rest : List Char) :
    scan done .between (c :: rest) = scan done .between rest := by
  simp [scan, scanStep, scanFresh, h]

theorem scan_lineBreak (level : Nat) (done : List Token) (rest : List Char) :
    scan done .between (lineBreak level ++ rest) = scan done .between rest := by
  rw [lineBreak, List.cons_append, scan_space (by decide)]
  induction 2 * level with
  | zero => rfl
  | succ n ih => rw [List.replicate_succ, List.cons_append, scan_space (by decide), ih]

theorem delimited_lineBreak (level : Nat) (rest : List Char) :
    Delimited (lineBreak level ++ rest) :=
  delimited_cons (by decide) _

theorem scan_atom {d : Datum} (hd : plain d = true) (hlist : ∀ items, d ≠ .list items)
    (hrecord : ∀ fields, d ≠ .record fields) (done : List Token) {rest : List Char}
    (hrest : Delimited rest) :
    scan done .between (atomChars d ++ rest) =
      scan ((tokensOf d).reverse ++ done) .between rest := by
  cases d with
  | null => exact scan_word (by decide) (endsWord_of_all (by decide)) rfl done hrest
  | flag b =>
    cases b with
    | true => exact scan_word (by decide) (endsWord_of_all (by decide)) rfl done hrest
    | false => exact scan_word (by decide) (endsWord_of_all (by decide)) rfl done hrest
  | integer n =>
    exact scan_word (integerChars_ne_nil n) (fun c hc => endsWord_of_mem_integerChars hc)
      (wordToken?_integerChars n) done hrest
  | fraction lexeme => simp [plain] at hd
  | text s => exact scan_quote s done rest
  | brokenText => simp [plain] at hd
  | list items => exact absurd rfl (hlist items)
  | record fields => exact absurd rfl (hrecord fields)

mutual

theorem scan_pretty (level : Nat) (d : Datum) (hd : plain d = true) (done : List Token)
    {rest : List Char} (hrest : Delimited rest) :
    scan done .between (prettyChars level d ++ rest) =
      scan ((tokensOf d).reverse ++ done) .between rest := by
  match d with
  | .list [] =>
    rw [prettyChars, List.cons_append, scan_mark (by decide) (by decide) rfl, List.cons_append,
      scan_mark (by decide) (by decide) rfl]
    rfl
  | .list (item :: items) =>
    rw [plain] at hd
    have closing : Delimited (lineBreak level ++ (']' :: rest)) := delimited_lineBreak level _
    simp only [prettyChars, List.cons_append, List.append_assoc, List.nil_append]
    rw [scan_mark (by decide) (by decide) rfl,
      scan_prettyItems (level + 1) (item :: items) hd _ closing, scan_lineBreak,
      scan_mark (by decide) (by decide) rfl]
    simp [tokensOf]
  | .record [] =>
    rw [prettyChars, List.cons_append, scan_mark (by decide) (by decide) rfl, List.cons_append,
      scan_mark (by decide) (by decide) rfl]
    rfl
  | .record (field :: fields) =>
    rw [plain] at hd
    have closing : Delimited (lineBreak level ++ ('}' :: rest)) := delimited_lineBreak level _
    simp only [prettyChars, List.cons_append, List.append_assoc, List.nil_append]
    rw [scan_mark (by decide) (by decide) rfl,
      scan_prettyFields (level + 1) (field :: fields) hd _ closing, scan_lineBreak,
      scan_mark (by decide) (by decide) rfl]
    simp [tokensOf]
  | .null => exact scan_atom hd (by simp) (by simp) done hrest
  | .flag b => exact scan_atom hd (by simp) (by simp) done hrest
  | .integer n => exact scan_atom hd (by simp) (by simp) done hrest
  | .fraction lexeme => exact scan_atom hd (by simp) (by simp) done hrest
  | .text s => exact scan_atom hd (by simp) (by simp) done hrest
  | .brokenText => exact scan_atom hd (by simp) (by simp) done hrest

theorem scan_prettyItems (level : Nat) (items : List Datum) (h : plainItems items = true)
    (done : List Token) {rest : List Char} (hrest : Delimited rest) :
    scan done .between (prettyItems level items ++ rest) =
      scan ((tokensOfItems items).reverse ++ done) .between rest := by
  match items with
  | [] => rfl
  | [d] =>
    simp only [plainItems, Bool.and_true] at h
    simp only [prettyItems, List.append_assoc]
    rw [scan_lineBreak, scan_pretty level d h done hrest, tokensOfItems]
  | d :: e :: items =>
    rw [plainItems, Bool.and_eq_true] at h
    have comma : Delimited (',' :: (prettyItems level (e :: items) ++ rest)) :=
      delimited_cons (by decide) _
    simp only [prettyItems, List.append_assoc, List.cons_append]
    rw [scan_lineBreak, scan_pretty level d h.1 done comma, scan_mark (by decide) (by decide) rfl,
      scan_prettyItems level (e :: items) h.2 _ hrest]
    simp [tokensOfItems]

theorem scan_prettyFields (level : Nat) (fields : List (Key × Datum))
    (h : plainFields fields = true) (done : List Token) {rest : List Char}
    (hrest : Delimited rest) :
    scan done .between (prettyFields level fields ++ rest) =
      scan ((tokensOfFields fields).reverse ++ done) .between rest := by
  match fields with
  | [] => rfl
  | [(.named name, d)] =>
    simp only [plainFields, Bool.and_true] at h
    simp only [prettyFields, keyChars, List.append_assoc, List.cons_append]
    rw [scan_lineBreak, scan_quote, scan_mark (by decide) (by decide) rfl, scan_space (by decide),
      scan_pretty level d h _ hrest]
    simp [tokensOfFields, keyToken]
  | (.named name, d) :: field :: fields =>
    rw [plainFields, Bool.and_eq_true] at h
    have comma : Delimited (',' :: (prettyFields level (field :: fields) ++ rest)) :=
      delimited_cons (by decide) _
    simp only [prettyFields, keyChars, List.append_assoc, List.cons_append]
    rw [scan_lineBreak, scan_quote, scan_mark (by decide) (by decide) rfl, scan_space (by decide),
      scan_pretty level d h.1 _ comma, scan_mark (by decide) (by decide) rfl,
      scan_prettyFields level (field :: fields) h.2 _ hrest]
    simp [tokensOfFields, keyToken]
  | (.indexed place, d) :: fields => simp [plainFields] at h
  | (.other, d) :: fields => simp [plainFields] at h

end

mutual

theorem scan_compact (d : Datum) (hd : plain d = true) (done : List Token) {rest : List Char}
    (hrest : Delimited rest) :
    scan done .between (compactChars d ++ rest) =
      scan ((tokensOf d).reverse ++ done) .between rest := by
  match d with
  | .list [] =>
    rw [compactChars, List.cons_append, scan_mark (by decide) (by decide) rfl, compactItems,
      List.nil_append, List.cons_append, scan_mark (by decide) (by decide) rfl]
    rfl
  | .list (item :: items) =>
    rw [plain] at hd
    have closing : Delimited (']' :: rest) := delimited_cons (by decide) rest
    simp only [compactChars, List.cons_append, List.append_assoc, List.nil_append]
    rw [scan_mark (by decide) (by decide) rfl, scan_compactItems (item :: items) hd _ closing,
      scan_mark (by decide) (by decide) rfl]
    simp [tokensOf]
  | .record [] =>
    rw [compactChars, List.cons_append, scan_mark (by decide) (by decide) rfl, compactFields,
      List.nil_append, List.cons_append, scan_mark (by decide) (by decide) rfl]
    rfl
  | .record (field :: fields) =>
    rw [plain] at hd
    have closing : Delimited ('}' :: rest) := delimited_cons (by decide) rest
    simp only [compactChars, List.cons_append, List.append_assoc, List.nil_append]
    rw [scan_mark (by decide) (by decide) rfl, scan_compactFields (field :: fields) hd _ closing,
      scan_mark (by decide) (by decide) rfl]
    simp [tokensOf]
  | .null => exact scan_atom hd (by simp) (by simp) done hrest
  | .flag b => exact scan_atom hd (by simp) (by simp) done hrest
  | .integer n => exact scan_atom hd (by simp) (by simp) done hrest
  | .fraction lexeme => exact scan_atom hd (by simp) (by simp) done hrest
  | .text s => exact scan_atom hd (by simp) (by simp) done hrest
  | .brokenText => exact scan_atom hd (by simp) (by simp) done hrest

theorem scan_compactItems (items : List Datum) (h : plainItems items = true) (done : List Token)
    {rest : List Char} (hrest : Delimited rest) :
    scan done .between (compactItems items ++ rest) =
      scan ((tokensOfItems items).reverse ++ done) .between rest := by
  match items with
  | [] => rfl
  | [d] =>
    simp only [plainItems, Bool.and_true] at h
    rw [compactItems, scan_compact d h done hrest, tokensOfItems]
  | d :: e :: items =>
    rw [plainItems, Bool.and_eq_true] at h
    have comma : Delimited (',' :: (compactItems (e :: items) ++ rest)) :=
      delimited_cons (by decide) _
    simp only [compactItems, List.append_assoc, List.cons_append]
    rw [scan_compact d h.1 done comma, scan_mark (by decide) (by decide) rfl,
      scan_compactItems (e :: items) h.2 _ hrest]
    simp [tokensOfItems]

theorem scan_compactFields (fields : List (Key × Datum)) (h : plainFields fields = true)
    (done : List Token) {rest : List Char} (hrest : Delimited rest) :
    scan done .between (compactFields fields ++ rest) =
      scan ((tokensOfFields fields).reverse ++ done) .between rest := by
  match fields with
  | [] => rfl
  | [(.named name, d)] =>
    simp only [plainFields, Bool.and_true] at h
    simp only [compactFields, keyChars, List.append_assoc, List.cons_append]
    rw [scan_quote, scan_mark (by decide) (by decide) rfl, scan_compact d h _ hrest]
    simp [tokensOfFields, keyToken]
  | (.named name, d) :: field :: fields =>
    rw [plainFields, Bool.and_eq_true] at h
    have comma : Delimited (',' :: (compactFields (field :: fields) ++ rest)) :=
      delimited_cons (by decide) _
    simp only [compactFields, keyChars, List.append_assoc, List.cons_append]
    rw [scan_quote, scan_mark (by decide) (by decide) rfl, scan_compact d h.1 _ comma,
      scan_mark (by decide) (by decide) rfl, scan_compactFields (field :: fields) h.2 _ hrest]
    simp [tokensOfFields, keyToken]
  | (.indexed place, d) :: fields => simp [plainFields] at h
  | (.other, d) :: fields => simp [plainFields] at h

end

/-! ### From tokens to the datum -/

namespace Reading

theorem run_cons {r next : Reading} {t : Token} (h : r.step t = some next) (rest : List Token) :
    run r (t :: rest) = run next rest := by
  rw [run, h]

/-- The first token of a datum closes no list, so the first item of a list is read like any
other. -/
theorem run_firstItem (d : Datum) (frames : List Frame) (rest : List Token) :
    run ⟨frames, .firstItem⟩ (tokensOf d ++ rest) =
      run ⟨.list [] :: frames, .value⟩ (tokensOf d ++ rest) := by
  match d with
  | .list [] => rfl
  | .list (item :: items) => rfl
  | .record [] => rfl
  | .record (field :: fields) => rfl
  | .null => rfl
  | .flag b => rfl
  | .integer n => rfl
  | .fraction lexeme => rfl
  | .text s => rfl
  | .brokenText => rfl

theorem run_firstKey (field : Key × Datum) (fields : List (Key × Datum)) (frames : List Frame)
    (rest : List Token) :
    run ⟨frames, .firstKey⟩ (tokensOfFields (field :: fields) ++ rest) =
      run ⟨frames, .key []⟩ (tokensOfFields (field :: fields) ++ rest) := by
  obtain ⟨key, d⟩ := field
  cases key <;> cases fields <;> rfl

mutual

theorem run_tokens (d : Datum) (hd : plain d = true) (frames : List Frame) (rest : List Token) :
    run ⟨frames, .value⟩ (tokensOf d ++ rest) = run (complete d frames) rest := by
  match d with
  | .list [] => rfl
  | .list (item :: items) =>
    rw [plain] at hd
    have opening : run ⟨frames, .value⟩ (tokensOf (.list (item :: items)) ++ rest) =
        run ⟨.list [] :: frames, .value⟩ (tokensOfItems (item :: items) ++ .closeList :: rest) := by
      simp only [tokensOf, List.cons_append, List.append_assoc, List.nil_append]
      rw [run_cons rfl]
      cases items with
      | nil => exact run_firstItem item frames _
      | cons next items =>
        rw [tokensOfItems, List.append_assoc]
        exact run_firstItem item frames _
        simp
    rw [opening, run_items (item :: items) (by simp) hd]
    rfl
  | .record [] => rfl
  | .record (field :: fields) =>
    rw [plain] at hd
    simp only [tokensOf, List.cons_append, List.append_assoc, List.nil_append]
    rw [run_cons rfl, run_firstKey, run_fields (field :: fields) (by simp) hd]
    rfl
  | .null => rfl
  | .flag b => rfl
  | .integer n => rfl
  | .fraction lexeme => simp [plain] at hd
  | .text s => rfl
  | .brokenText => simp [plain] at hd

/-- The tokens of items are read behind the items so far. -/
theorem run_items (items : List Datum) (hne : items ≠ []) (h : plainItems items = true)
    (done : List Datum) (frames : List Frame) (rest : List Token) :
    run ⟨.list done :: frames, .value⟩ (tokensOfItems items ++ .closeList :: rest) =
      run (complete (.list (done.reverse ++ items)) frames) rest := by
  match items with
  | [] => exact absurd rfl hne
  | [d] =>
    rw [plainItems, Bool.and_eq_true] at h
    rw [tokensOfItems, run_tokens d h.1, complete, run_cons rfl]
    simp
  | d :: e :: items =>
    rw [plainItems, Bool.and_eq_true] at h
    simp only [tokensOfItems, List.append_assoc, List.cons_append]
    rw [run_tokens d h.1, complete, run_cons rfl, run_items (e :: items) (by simp) h.2]
    simp

theorem run_fields (fields : List (Key × Datum)) (hne : fields ≠ [])
    (h : plainFields fields = true) (done : List (Key × Datum)) (frames : List Frame)
    (rest : List Token) :
    run ⟨frames, .key done⟩ (tokensOfFields fields ++ .closeRecord :: rest) =
      run (complete (.record (done.reverse ++ fields)) frames) rest := by
  match fields with
  | [] => exact absurd rfl hne
  | [(.named name, d)] =>
    rw [plainFields, Bool.and_eq_true] at h
    simp only [tokensOfFields, keyToken, List.cons_append]
    rw [run_cons rfl, run_cons rfl, run_tokens d h.1, complete, run_cons rfl]
    simp [label]
  | (.named name, d) :: next :: fields =>
    rw [plainFields, Bool.and_eq_true] at h
    simp only [tokensOfFields, keyToken, List.append_assoc, List.cons_append]
    rw [run_cons rfl, run_cons rfl, run_tokens d h.1, complete, run_cons rfl,
      run_fields (next :: fields) (by simp) h.2]
    simp [label]
  | (.indexed place, d) :: fields => simp [plainFields] at h
  | (.other, d) :: fields => simp [plainFields] at h

end

end Reading

/-! ### From characters to the datum -/

theorem scan_spaces {after : List Char} (h : ∀ c ∈ after, isSpace c = true) (done : List Token) :
    scan done .between after = some done.reverse := by
  induction after with
  | nil => rfl
  | cons c rest ih =>
    rw [scan_space (h c List.mem_cons_self), ih fun d hd => h d (List.mem_cons_of_mem c hd)]

/-- A plain datum is read from characters in which its tokens are found, with nothing but white
space behind them. -/
theorem read?_of_scan {d : Datum} (hd : plain d = true) {cs : List Char}
    (found : ∀ rest, Delimited rest →
      scan [] .between (cs ++ rest) = scan (tokensOf d).reverse .between rest)
    {after : List Char} (blank : ∀ c ∈ after, isSpace c = true) :
    read? (String.ofList (cs ++ after)) = some d := by
  have ended : Delimited after := by
    intro c hc
    simp [endsWord, blank c (List.mem_of_mem_head? hc)]
  have tokens : tokens? (String.ofList (cs ++ after)).toList = some (tokensOf d) := by
    rw [String.toList_ofList, tokens?, found after ended, scan_spaces blank, List.reverse_reverse]
  have hrun := Reading.run_tokens d hd [] []
  rw [List.append_nil] at hrun
  simp only [read?, tokens, Option.bind_eq_bind, Option.bind_some, hrun]
  rfl

/-- A plain datum reads back from its pretty text on a line of its own. -/
theorem read?_pretty {d : Datum} (hd : plain d = true) : read? (pretty d ++ "\n") = some d := by
  have chars : pretty d ++ "\n" = String.ofList (prettyChars 0 d ++ ['\n']) := by
    rw [String.ofList_append]
    rfl
  rw [chars]
  refine read?_of_scan hd (fun rest hrest => ?_) (by simp [isSpace])
  rw [scan_pretty 0 d hd [] hrest, List.append_nil]

/-- A plain datum reads back from its compact text. -/
theorem read?_compact {d : Datum} (hd : plain d = true) : read? (compact d) = some d := by
  rw [compact, ← List.append_nil (compactChars d)]
  refine read?_of_scan hd (fun rest hrest => ?_) (by simp)
  rw [scan_compact d hd [] hrest, List.append_nil]

end RobotPipeline.Json
