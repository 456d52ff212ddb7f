/-
  RobotPipeline/Proofs/Text/Line.lean
  ===================================
  **What the lines of a stream are.**

  A stream is segments without newlines, each closed by one; the last may be
  left open unless it is empty. There is only one way to see it so, and
  `segments` finds it. A line is what a segment decodes to without the carriage
  returns at its end, so there is no newline in it.
-/
import RobotPipeline.Proofs.Text.Blank
import RobotPipeline.Proofs.Text.Utf8

namespace RobotPipeline.Text

/-! ### Segments -/

/-- The segments that a stream is made of. -/
inductive Segments : Bytes → List Bytes → Prop where
  | nil : Segments [] []
  | opened {segment : Bytes} (nonempty : segment ≠ []) (whole : newline ∉ segment) :
      Segments segment [segment]
  | closed {segment rest : Bytes} {more : List Bytes} (whole : newline ∉ segment)
      (behind : Segments rest more) : Segments (segment ++ newline :: rest) (segment :: more)

theorem segmentsFrom_append {segment : Bytes} (whole : newline ∉ segment) (open_ rest : Bytes) :
    segmentsFrom open_ (segment ++ rest) = segmentsFrom (open_ ++ segment) rest := by
  induction segment generalizing open_ with
  | nil => simp
  | cons b segment ih =>
    obtain ⟨hb, whole⟩ : newline ≠ b ∧ newline ∉ segment := by simpa using whole
    rw [List.cons_append, segmentsFrom, if_neg (Ne.symm hb), ih whole, List.append_assoc,
      List.singleton_append]

theorem segments_segmentsFrom (open_ bytes : Bytes) (whole : newline ∉ open_) :
    Segments (open_ ++ bytes) (segmentsFrom open_ bytes) := by
  induction bytes generalizing open_ with
  | nil =>
    rw [List.append_nil, segmentsFrom]
    cases open_ with
    | nil => exact .nil
    | cons b open_ => exact .opened (List.cons_ne_nil b open_) whole
  | cons b rest ih =>
    rw [segmentsFrom]
    by_cases hb : b = newline
    · rw [if_pos hb, hb]
      exact .closed whole (ih [] List.not_mem_nil)
    · have whole' : newline ∉ open_ ++ [b] := by simp [whole, Ne.symm hb]
      have more := ih (open_ ++ [b]) whole'
      rw [if_neg hb]
      rwa [List.append_assoc, List.singleton_append] at more

/-- The segments of a stream are found. -/
theorem segments_iff {bytes : Bytes} {found : List Bytes} :
    Segments bytes found ↔ segments bytes = found := by
  refine ⟨fun h => ?_, fun h => h ▸ segments_segmentsFrom [] bytes List.not_mem_nil⟩
  unfold segments
  induction h with
  | nil => rfl
  | @opened segment nonempty whole =>
    have appended := segmentsFrom_append whole [] []
    rw [List.append_nil, List.nil_append, segmentsFrom] at appended
    rw [appended, if_neg (by simpa using nonempty)]
  | @closed segment rest more whole behind ih =>
    rw [segmentsFrom_append whole, List.nil_append, segmentsFrom, if_pos rfl, ih]

theorem Segments.whole {bytes : Bytes} {found : List Bytes} (h : Segments bytes found) :
    ∀ segment ∈ found, newline ∉ segment := by
  induction h with
  | nil => simp
  | opened nonempty whole => simpa using whole
  | closed whole behind ih => simpa [whole] using ih

/-! ### Lines -/

/-- A line is what a segment decodes to without the carriage returns at its end. -/
inductive LineOf (segment : Bytes) (line : String) : Prop where
  | mk (returns : Nat)
      (decodes : Decodes segment (line.toList ++ List.replicate returns '\r'))
      (last : ∀ c ∈ line.toList.getLast?, c ≠ '\r')

theorem withoutReturns_eq (cs : List Char) : withoutReturns cs = cs.rdropWhile (· = '\r') := rfl

theorem lineOf_lineOfSegment (segment : Bytes) : LineOf segment (lineOfSegment segment) := by
  let isReturn : Char → Bool := (· = '\r')
  have text : (lineOfSegment segment).toList = (decodeLossy segment).rdropWhile isReturn := by
    rw [lineOfSegment, withoutReturns_eq, String.toList_ofList]
  have returns : (decodeLossy segment).rtakeWhile isReturn =
      List.replicate ((decodeLossy segment).rtakeWhile isReturn).length '\r' :=
    List.eq_replicate_of_mem fun c hc => by simpa [isReturn] using List.mem_rtakeWhile_imp hc
  refine .mk ((decodeLossy segment).rtakeWhile isReturn).length ?_ ?_
  · rw [decodes_iff, text, ← returns, List.rdropWhile_append_rtakeWhile]
  · rw [text]
    intro c hc
    obtain ⟨hne, rfl⟩ := List.mem_getLast?_eq_getLast hc
    simpa [isReturn] using List.rdropWhile_last_not isReturn (decodeLossy segment) hne

/-- The line of a segment is found. -/
theorem lineOf_iff {segment : Bytes} {line : String} :
    LineOf segment line ↔ lineOfSegment segment = line := by
  refine ⟨?_, fun h => h ▸ lineOf_lineOfSegment segment⟩
  rintro ⟨returns, decodes, last⟩
  have dropped : (line.toList ++ List.replicate returns '\r').rdropWhile (· = '\r') =
      line.toList :=
    rdropWhile_append (by simpa using last) (fun c hc => by simpa using List.eq_of_mem_replicate hc)
  rw [lineOfSegment, decodes_iff.mp decodes, withoutReturns_eq, dropped, String.ofList_toList]

theorem LineOf.newline_not_mem {segment : Bytes} {line : String} (h : LineOf segment line)
    (whole : newline ∉ segment) : '\n' ∉ line.toList := by
  obtain ⟨returns, decodes, -⟩ := h
  exact fun mem => whole (decodes.newline_mem (List.mem_append_left _ mem))

/-- The lines of a stream are those of its segments. -/
def LinesOf (bytes : Bytes) (found : List String) : Prop :=
  ∃ segments, Segments bytes segments ∧ List.Forall₂ LineOf segments found

theorem forall₂_lineOf_iff {segments : List Bytes} {found : List String} :
    List.Forall₂ LineOf segments found ↔ segments.map lineOfSegment = found := by
  constructor
  · intro h
    induction h with
    | nil => rfl
    | cons first rest ih => rw [List.map_cons, lineOf_iff.mp first, ih]
  · rintro rfl
    induction segments with
    | nil => exact .nil
    | cons segment rest ih => exact .cons (lineOf_lineOfSegment segment) ih

theorem linesOf_iff {bytes : Bytes} {found : List String} :
    LinesOf bytes found ↔ lines bytes = found := by
  constructor
  · rintro ⟨cut, hcut, hfound⟩
    rw [lines, segments_iff.mp hcut, forall₂_lineOf_iff.mp hfound]
  · rintro rfl
    exact ⟨segments bytes, segments_iff.mpr rfl, forall₂_lineOf_iff.mpr rfl⟩

theorem LinesOf.newline_not_mem {bytes : Bytes} {found : List String} (h : LinesOf bytes found)
    {line : String} (mem : line ∈ found) : '\n' ∉ line.toList := by
  obtain ⟨cut, hcut, hfound⟩ := h
  obtain rfl := forall₂_lineOf_iff.mp hfound
  obtain ⟨segment, hsegment, rfl⟩ := List.mem_map.mp mem
  exact (lineOf_lineOfSegment segment).newline_not_mem (hcut.whole segment hsegment)

end RobotPipeline.Text
