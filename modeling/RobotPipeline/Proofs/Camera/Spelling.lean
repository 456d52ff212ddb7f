/-
  RobotPipeline/Proofs/Camera/Spelling.lean
  =========================================
  **What an operator may write for a camera, and which camera it is.**

  `Camera.Spells` is the grammar: a name and a source with a colon between
  them, and perhaps a stream behind a second colon. Reading accepts just the
  texts of the grammar and finds the camera that they spell (`parse_eq_ok_iff`).

  The marks of the grammar cannot stand in the parts to their left, so that the
  first mark of a kind is always the one that is meant. The same holds of a
  camera with everything spelled out, so its text is read as that camera again.
-/
import RobotPipeline.Camera
import RobotPipeline.Proofs.Text.Blank
import RobotPipeline.Proofs.Text.Numeral

namespace RobotPipeline.Camera

open Text (Bare Padded Numeral isBlank trim)

variable {spec : String} {c : Camera} {name source : String} {width height fps : UInt32}

/-! ### The grammar -/

/-- An ASCII letter or digit, or an underscore. -/
def IsNameChar (c : Char) : Prop :=
  ('A' ≤ c ∧ c ≤ 'Z') ∨ ('a' ≤ c ∧ c ≤ 'z') ∨ ('0' ≤ c ∧ c ≤ '9') ∨ c = '_'

instance : DecidablePred IsNameChar := fun _ => inferInstanceAs (Decidable (_ ∨ _))

/-- The name of a camera, with blanks around it. -/
structure SpellsName (text : List Char) (name : String) : Prop where
  nonempty : name.toList ≠ []
  chars : ∀ c ∈ name.toList, IsNameChar c
  padded : Padded name.toList text

/-- The source of a camera, with blanks around it. -/
structure SpellsSource (text : List Char) (source : String) : Prop where
  nonempty : source.toList ≠ []
  noColon : ':' ∉ source.toList
  bare : Bare source.toList
  padded : Padded source.toList text

/-- A number above zero, with blanks around it. -/
def SpellsCount (text : List Char) (n : UInt32) : Prop :=
  1 ≤ n.toNat ∧ ∃ numeral, Numeral n.toNat numeral ∧ Padded numeral text

/-- The stream of a camera: width and height, and perhaps the frame rate. -/
inductive SpellsStream : List Char → UInt32 → UInt32 → UInt32 → Prop where
  | size {w h : List Char} {width height : UInt32} (hw : SpellsCount w width)
      (hh : SpellsCount h height) : SpellsStream (w ++ 'x' :: h) width height 30
  | sizeAndRate {w h f : List Char} {width height fps : UInt32} (hw : SpellsCount w width)
      (hh : SpellsCount h height) (hf : SpellsCount f fps) :
      SpellsStream (w ++ 'x' :: (h ++ '@' :: f)) width height fps

/-- A camera: its name and source, and perhaps its stream. -/
inductive Spells : List Char → Camera → Prop where
  | short {n s : List Char} {name source : String} (hn : SpellsName n name)
      (hs : SpellsSource s source) : Spells (n ++ ':' :: s) ⟨name, source, 640, 480, 30⟩
  | full {n s mode : List Char} {name source : String} {width height fps : UInt32}
      (hn : SpellsName n name) (hs : SpellsSource s source)
      (hm : SpellsStream mode width height fps) :
      Spells (n ++ ':' :: (s ++ ':' :: mode)) ⟨name, source, width, height, fps⟩

/-! ### Marks -/

theorem cutAt_of_not_mem {mark : Char} {cs : List Char} (h : mark ∉ cs) :
    cutAt mark cs = (cs, none) := by
  induction cs with
  | nil => rfl
  | cons c rest ih =>
    simp only [List.mem_cons, not_or] at h
    rw [cutAt, if_neg (Ne.symm h.1), ih h.2]

theorem cutAt_append {mark : Char} {before : List Char} (h : mark ∉ before) (after : List Char) :
    cutAt mark (before ++ mark :: after) = (before, some after) := by
  induction before with
  | nil => rw [List.nil_append, cutAt, if_pos rfl]
  | cons c rest ih =>
    simp only [List.mem_cons, not_or] at h
    rw [List.cons_append, cutAt, if_neg (Ne.symm h.1), ih h.2]

/-- A text has no mark of a kind, or is cut at the first one. -/
theorem mem_or_cut (mark : Char) (cs : List Char) :
    mark ∉ cs ∨ ∃ before after, mark ∉ before ∧ cs = before ++ mark :: after := by
  by_cases h : mark ∈ cs
  · obtain ⟨before, after, hcs, hb⟩ := List.eq_append_cons_of_mem h
    exact .inr ⟨before, after, hb, hcs⟩
  · exact .inl h

/-- Where a mark cannot stand before the first one, a text is cut in one way. -/
theorem cut_unique {mark : Char} {before before' after after' : List Char} (h : mark ∉ before)
    (h' : mark ∉ before') (same : before ++ mark :: after = before' ++ mark :: after') :
    before = before' ∧ after = after' := by
  have cuts := congrArg (cutAt mark) same
  rw [cutAt_append h, cutAt_append h'] at cuts
  simpa using cuts

/-! ### Marks in the parts -/

theorem isNameChar_iff {c : Char} : isNameChar c = true ↔ IsNameChar c := by
  have upper : c.isUpper = true ↔ 'A' ≤ c ∧ c ≤ 'Z' := decide_eq_true_iff
  have lower : c.isLower = true ↔ 'a' ≤ c ∧ c ≤ 'z' :=
    Bool.and_eq_true_iff.trans (and_congr decide_eq_true_iff decide_eq_true_iff)
  have digit : c.isDigit = true ↔ '0' ≤ c ∧ c ≤ '9' :=
    Bool.and_eq_true_iff.trans (and_congr decide_eq_true_iff decide_eq_true_iff)
  have ranges : isNameChar c = (c.isUpper || c.isLower || c.isDigit || c = '_') := rfl
  simp only [ranges, IsNameChar, Bool.or_eq_true, upper, lower, digit, decide_eq_true_eq, or_assoc]

theorem isBlank_of_isNameChar {c : Char} (h : IsNameChar c) : isBlank c = false := by
  have range : (65 ≤ c.toNat ∧ c.toNat ≤ 90) ∨ (97 ≤ c.toNat ∧ c.toNat ≤ 122) ∨
      (48 ≤ c.toNat ∧ c.toNat ≤ 57) ∨ c = '_' := h
  rcases range with range | range | range | rfl
  case inr.inr.inr => decide
  all_goals
    simp only [isBlank, Bool.or_eq_false_iff, Bool.and_eq_false_iff, decide_eq_false_iff_not,
      beq_eq_false_iff_ne]
    omega

namespace SpellsName

variable {n : List Char}

theorem bare (h : SpellsName n name) : Bare name.toList :=
  Text.bare_of_forall fun c hc => isBlank_of_isNameChar (h.chars c hc)

theorem noColon (h : SpellsName n name) : ':' ∉ name.toList :=
  fun hc => absurd (h.chars ':' hc) (by decide)

theorem not_mem (h : SpellsName n name) : ':' ∉ n := h.padded.not_mem (by decide) h.noColon

end SpellsName

theorem SpellsSource.not_mem {s : List Char} (h : SpellsSource s source) : ':' ∉ s :=
  h.padded.not_mem (by decide) h.noColon

theorem bare_of_numeral {n : Nat} {numeral : List Char} (h : Numeral n numeral) : Bare numeral := by
  refine Text.bare_of_forall fun c hc => ?_
  rcases h.mem hc with rfl | hdigit
  · decide
  · exact Text.isBlank_of_digit hdigit

/-- A mark that no numeral has is in no count. -/
theorem SpellsCount.not_mem {text : List Char} {n : UInt32} (h : SpellsCount text n) {mark : Char}
    (blank : isBlank mark = false) (plus : mark ≠ '+') (digit : Text.digitValue? mark = none) :
    mark ∉ text := by
  obtain ⟨-, numeral, hnumeral, padded⟩ := h
  refine padded.not_mem blank fun hmark => ?_
  rcases hnumeral.mem hmark with rfl | hdigit
  · exact plus rfl
  · simp [digit] at hdigit

/-! ### Reading -/

theorem bind_eq_ok_iff {ε α β : Type} {x : Except ε α} {f : α → Except ε β} {b : β} :
    (x >>= f) = .ok b ↔ ∃ a, x = .ok a ∧ f a = .ok b := by
  cases x with
  | error e => simp [bind, Except.bind]
  | ok a => simp [bind, Except.bind]

theorem readPositive_eq_ok_iff {what : String} {text : List Char} {n : UInt32} :
    readPositive what text = .ok n ↔ SpellsCount text n := by
  have numeral_iff : Text.readWord32 (trim text) = .ok n ↔
      ∃ numeral, Numeral n.toNat numeral ∧ Padded numeral text := by
    rw [Text.readWord32_eq_ok_iff]
    constructor
    · intro h
      exact ⟨_, h, Text.padded_trim text⟩
    · rintro ⟨numeral, h, padded⟩
      rwa [Text.trim_eq_iff.mpr ⟨bare_of_numeral h, padded⟩]
  rw [SpellsCount, ← numeral_iff, readPositive]
  cases hread : Text.readWord32 (trim text) with
  | error e => simp
  | ok m =>
    by_cases zero : m = 0
    · simp only [zero, if_pos, reduceCtorEq, Except.ok.injEq, false_iff]
      rintro ⟨positive, rfl⟩
      exact absurd positive (by decide)
    · have positive : 1 ≤ m.toNat := by
        rw [Nat.one_le_iff_ne_zero]
        exact fun h => zero (UInt32.toNat_inj.mp h)
      simp only [if_neg zero, Except.ok.injEq]
      constructor
      · rintro rfl
        exact ⟨positive, rfl⟩
      · exact fun h => h.2

/-- A size without a rate. -/
theorem readMode_size {w h : List Char} (noX : 'x' ∉ w) (noRate : '@' ∉ w ++ 'x' :: h) :
    (usual name source).readMode (w ++ 'x' :: h) = .ok c ↔
      ∃ width height, SpellsCount w width ∧ SpellsCount h height ∧
        c = ⟨name, source, width, height, 30⟩ := by
  simp only [readMode, cutAt_of_not_mem noRate, cutAt_append noX, bind_eq_ok_iff,
    readPositive_eq_ok_iff, Except.ok.injEq, usual]
  constructor
  · rintro ⟨width, hw, height, hh, rfl⟩
    exact ⟨width, height, hw, hh, rfl⟩
  · rintro ⟨width, height, hw, hh, rfl⟩
    exact ⟨width, hw, height, hh, rfl⟩

/-- A size with a rate. -/
theorem readMode_sizeAndRate {w h f : List Char} (noX : 'x' ∉ w) (noRate : '@' ∉ w ++ 'x' :: h) :
    (usual name source).readMode (w ++ 'x' :: (h ++ '@' :: f)) = .ok c ↔
      ∃ width height fps, SpellsCount w width ∧ SpellsCount h height ∧ SpellsCount f fps ∧
        c = ⟨name, source, width, height, fps⟩ := by
  have cut : cutAt '@' (w ++ 'x' :: (h ++ '@' :: f)) = (w ++ 'x' :: h, some f) := by
    rw [← List.cons_append, ← List.append_assoc, cutAt_append noRate]
  simp only [readMode, cut, cutAt_append noX, bind_eq_ok_iff, readPositive_eq_ok_iff,
    Except.ok.injEq, usual]
  constructor
  · rintro ⟨width, hw, height, hh, fps, hf, rfl⟩
    exact ⟨width, height, fps, hw, hh, hf, rfl⟩
  · rintro ⟨width, height, fps, hw, hh, hf, rfl⟩
    exact ⟨width, hw, height, hh, fps, hf, rfl⟩

theorem readMode_eq_ok_iff {mode : List Char} :
    (usual name source).readMode mode = .ok c ↔
      ∃ width height fps, SpellsStream mode width height fps ∧
        c = ⟨name, source, width, height, fps⟩ := by
  constructor
  · intro h
    rcases mem_or_cut '@' mode with noRate | ⟨size, f, noRate, rfl⟩
    · rcases mem_or_cut 'x' mode with noX | ⟨w, h', noX, rfl⟩
      · simp [readMode, cutAt_of_not_mem noRate, cutAt_of_not_mem noX] at h
      · obtain ⟨width, height, hw, hh, rfl⟩ := (readMode_size noX noRate).mp h
        exact ⟨_, _, _, .size hw hh, rfl⟩
    · rcases mem_or_cut 'x' size with noX | ⟨w, h', noX, rfl⟩
      · simp [readMode, cutAt_append noRate, cutAt_of_not_mem noX] at h
      · rw [List.append_assoc, List.cons_append] at h ⊢
        obtain ⟨width, height, fps, hw, hh, hf, rfl⟩ := (readMode_sizeAndRate noX noRate).mp h
        exact ⟨_, _, _, .sizeAndRate hw hh hf, rfl⟩
  · rintro ⟨width, height, fps, stream, rfl⟩
    have noX {text : List Char} {n : UInt32} (h : SpellsCount text n) : 'x' ∉ text :=
      h.not_mem (by decide) (by decide) (by decide)
    have noAt {text : List Char} {n : UInt32} (h : SpellsCount text n) : '@' ∉ text :=
      h.not_mem (by decide) (by decide) (by decide)
    cases stream with
    | size hw hh =>
      exact (readMode_size (noX hw) (by simp [noAt hw, noAt hh])).mpr ⟨_, _, hw, hh, rfl⟩
    | sizeAndRate hw hh hf =>
      exact (readMode_sizeAndRate (noX hw) (by simp [noAt hw, noAt hh])).mpr
        ⟨_, _, _, hw, hh, hf, rfl⟩

theorem spellsName_iff {n : List Char} :
    SpellsName n name ↔ name = String.ofList (trim n) ∧ (trim n).isEmpty = false ∧
      (trim n).all isNameChar = true := by
  constructor
  · intro h
    have trimmed := Text.trim_eq_iff.mpr ⟨h.bare, h.padded⟩
    rw [trimmed]
    exact ⟨String.ofList_toList.symm, by simpa using h.nonempty,
      List.all_eq_true.mpr fun c hc => isNameChar_iff.mpr (h.chars c hc)⟩
  · rintro ⟨rfl, nonempty, chars⟩
    refine ⟨by simpa using nonempty, fun c hc => isNameChar_iff.mp ?_, ?_⟩
    · exact List.all_eq_true.mp chars c (by simpa using hc)
    · simpa using Text.padded_trim n

theorem spellsSource_iff {s : List Char} (noColon : ':' ∉ s) :
    SpellsSource s source ↔ source = String.ofList (trim s) ∧ (trim s).isEmpty = false := by
  constructor
  · intro h
    have trimmed := Text.trim_eq_iff.mpr ⟨h.bare, h.padded⟩
    rw [trimmed]
    exact ⟨String.ofList_toList.symm, by simpa using h.nonempty⟩
  · rintro ⟨rfl, nonempty⟩
    refine ⟨by simpa using nonempty, ?_, by simpa using Text.bare_trim s,
      by simpa using Text.padded_trim s⟩
    exact fun hc => noColon ((Text.padded_trim s).subset (by simpa using hc))

/-- What is read of a text whose first two parts are known. -/
theorem parse_of_cut {n s rest : List Char} {mode : Option (List Char)}
    (hspec : spec.toList = n ++ ':' :: rest) (hn : ':' ∉ n) (hs : ':' ∉ s)
    (hrest : cutAt ':' rest = (s, mode)) :
    parse spec = .ok c ↔ ∃ name source, SpellsName n name ∧ SpellsSource s source ∧
      (match mode with
        | none => .ok (usual name source)
        | some mode => (usual name source).readMode mode) = Except.ok c := by
  simp only [spellsName_iff, spellsSource_iff hs, parse, hspec, cutAt_append hn, hrest,
    Option.getD_some]
  by_cases goodName : ((trim n).isEmpty || !(trim n).all isNameChar) = true
  · rw [if_pos goodName]
    constructor
    · intro h
      cases h
    · rintro ⟨-, -, ⟨-, nonempty, chars⟩, -⟩
      simp [nonempty, chars] at goodName
  · rw [if_neg goodName]
    simp only [Bool.or_eq_true, Bool.not_eq_true', not_or, Bool.not_eq_true,
      Bool.not_eq_false] at goodName
    by_cases noSource : (trim s).isEmpty = true
    · rw [if_pos noSource]
      constructor
      · intro h
        cases h
      · rintro ⟨-, -, -, ⟨-, nonempty⟩, -⟩
        simp [nonempty] at noSource
    · rw [if_neg noSource]
      constructor
      · intro h
        exact ⟨_, _, ⟨rfl, goodName⟩, ⟨rfl, by simpa using noSource⟩, h⟩
      · rintro ⟨name, source, ⟨rfl, -⟩, ⟨rfl, -⟩, h⟩
        exact h

theorem parse_eq_ok_iff : parse spec = .ok c ↔ Spells spec.toList c := by
  constructor
  · intro h
    rcases mem_or_cut ':' spec.toList with noColon | ⟨n, rest, hn, hspec⟩
    · -- without a colon there is no source
      simp only [parse, cutAt_of_not_mem noColon, Option.getD_none, cutAt, Text.trim_nil] at h
      split at h <;> cases h
    · rw [hspec]
      rcases mem_or_cut ':' rest with hs | ⟨s, mode, hs, rfl⟩
      · obtain ⟨name, source, hname, hsource, hc⟩ :=
          (parse_of_cut hspec hn hs (cutAt_of_not_mem hs)).mp h
        obtain rfl : usual name source = c := by simpa using hc
        exact .short hname hsource
      · obtain ⟨name, source, hname, hsource, hc⟩ :=
          (parse_of_cut hspec hn hs (cutAt_append hs mode)).mp h
        obtain ⟨width, height, fps, stream, rfl⟩ := readMode_eq_ok_iff.mp hc
        exact .full hname hsource stream
  · intro h
    generalize hspec : spec.toList = text at h
    cases h with
    | short hname hsource =>
      have cut := cutAt_of_not_mem hsource.not_mem
      exact (parse_of_cut hspec hname.not_mem hsource.not_mem cut).mpr
        ⟨_, _, hname, hsource, rfl⟩
    | @full _ _ mode _ _ _ _ _ hname hsource stream =>
      have cut := cutAt_append hsource.not_mem mode
      exact (parse_of_cut hspec hname.not_mem hsource.not_mem cut).mpr
        ⟨_, _, hname, hsource, readMode_eq_ok_iff.mpr ⟨_, _, _, stream, rfl⟩⟩

/-! ### A camera with everything spelled out -/

/-- A camera that can be spelled. -/
structure Plain (c : Camera) : Prop where
  name : SpellsName c.name.toList c.name
  source : SpellsSource c.source.toList c.source
  width : 1 ≤ c.width.toNat
  height : 1 ≤ c.height.toNat
  fps : 1 ≤ c.fps.toNat

theorem Spells.plain {text : List Char} (h : Spells text c) : c.Plain := by
  have name {n : List Char} {name : String} (h : SpellsName n name) :
      SpellsName name.toList name := { h with padded := .refl _ }
  have source {s : List Char} {source : String} (h : SpellsSource s source) :
      SpellsSource source.toList source := { h with padded := .refl _ }
  cases h with
  | short hn hs => exact ⟨name hn, source hs, by simp, by simp, by simp⟩
  | full hn hs stream =>
    cases stream with
    | size hw hh => exact ⟨name hn, source hs, hw.1, hh.1, by simp⟩
    | sizeAndRate hw hh hf => exact ⟨name hn, source hs, hw.1, hh.1, hf.1⟩

theorem spellsCount_digits {n : UInt32} (positive : 1 ≤ n.toNat) :
    SpellsCount (Text.digits n.toNat) n :=
  ⟨positive, _, Text.numeral_digits n.toNat, .refl _⟩

theorem toList_text (c : Camera) :
    c.text.toList = c.name.toList ++ ':' :: (c.source.toList ++ ':' :: (Text.digits c.width.toNat ++
      'x' :: (Text.digits c.height.toNat ++ '@' :: Text.digits c.fps.toNat))) := by
  simp [text, Text.decimal]

theorem Plain.spells_text (h : c.Plain) : Spells c.text.toList c := by
  rw [toList_text]
  exact .full h.name h.source (.sizeAndRate (spellsCount_digits h.width)
    (spellsCount_digits h.height) (spellsCount_digits h.fps))

/-- What an operator writes is read as a camera exactly if it spells it, and the text of that camera
is read as the same camera. -/
theorem parse_spells (spec : String) (c : Camera) :
    (parse spec = .ok c ↔ Spells spec.toList c) ∧ (parse spec = .ok c → parse c.text = .ok c) := by
  refine ⟨parse_eq_ok_iff, fun h => ?_⟩
  exact parse_eq_ok_iff.mpr (parse_eq_ok_iff.mp h).plain.spells_text

/-! ### Samples -/

theorem parse_spells_padded :
    parse " wrist : /dev/v x : +0640 x 480 @15" = .ok ⟨"wrist", "/dev/v x", 640, 480, 15⟩ ∧
      Spells " wrist : /dev/v x : +0640 x 480 @15".toList ⟨"wrist", "/dev/v x", 640, 480, 15⟩ ∧
      parse "wrist:/dev/v x:640x480@15" = .ok ⟨"wrist", "/dev/v x", 640, 480, 15⟩ := by
  have read : parse " wrist : /dev/v x : +0640 x 480 @15" =
      .ok ⟨"wrist", "/dev/v x", 640, 480, 15⟩ := by decide
  obtain ⟨spells, again⟩ := parse_spells " wrist : /dev/v x : +0640 x 480 @15"
    ⟨"wrist", "/dev/v x", 640, 480, 15⟩
  exact ⟨read, spells.mp read, again read⟩

end RobotPipeline.Camera
