/-
  RobotPipeline/Proofs/Registry/Rendered.lean
  ===========================================
  **Rendering is one pass over a template, and fills every hole of a stage.**

  `Template.Cut` says how a template is cut, from left to right: where a hole
  starts, the whole hole is cut off; elsewhere one character is. There is
  exactly one way to cut a template, and it is the one that the scan finds
  (`Template.cut_iff`). What a template renders to is then said piece by
  piece, so no value is ever looked at again.

  A registry knows the names of all holes of its stages, and a snapshot has a
  value for each of these names, whatever it was taken from. So in the
  arguments of a stage no hole is left.
-/
import RobotPipeline.Proofs.Registry.Wellformed
import RobotPipeline.Snapshot

namespace RobotPipeline

namespace Template

/-! ### Cutting a template -/

/-- The name of a hole: a lower-case letter, followed by lower-case letters, digits and
underscores. -/
inductive IsHoleName : List Char → Prop where
  | mk {first : Char} {rest : List Char} (start : 'a' ≤ first ∧ first ≤ 'z')
      (parts : ∀ c ∈ rest, ('a' ≤ c ∧ c ≤ 'z') ∨ ('0' ≤ c ∧ c ≤ '9') ∨ c = '_') :
      IsHoleName (first :: rest)

/-- A text starts with a hole. -/
def StartsHole (text : List Char) : Prop :=
  ∃ name rest, IsHoleName name ∧ text = '{' :: (name ++ '}' :: rest)

/-- A text is cut into pieces from left to right: a hole where one starts, a character elsewhere. -/
inductive Cut : List Char → List Piece → Prop where
  | nil : Cut [] []
  | hole {name rest : List Char} {ps : List Piece} (isName : IsHoleName name) (h : Cut rest ps) :
      Cut ('{' :: (name ++ '}' :: rest)) (.hole name :: ps)
  | plain {c : Char} {rest : List Char} {ps : List Piece} (noHole : ¬ StartsHole (c :: rest))
      (h : Cut rest ps) : Cut (c :: rest) (.plain c :: ps)

theorem isNamePart_iff {c : Char} :
    isNamePart c = true ↔ ('a' ≤ c ∧ c ≤ 'z') ∨ ('0' ≤ c ∧ c ≤ '9') ∨ c = '_' := by
  simp [isNamePart, or_assoc]

/-- Taking a name finds the one that the text starts with. -/
theorem takeName?_eq_some_iff {text name rest : List Char} :
    takeName? text = some (name, rest) ↔ IsHoleName name ∧ text = name ++ '}' :: rest := by
  constructor
  · intro h
    cases text with
    | nil => cases h
    | cons first text =>
      rw [takeName?] at h
      split at h
      · rename_i start
        split at h
        · rename_i after hdrop
          obtain ⟨rfl, rfl⟩ : first :: text.takeWhile isNamePart = name ∧ after = rest := by
            simpa using h
          constructor
          · refine .mk (by simpa [isNameStart] using start) fun c hc => isNamePart_iff.mp ?_
            exact List.all_eq_true.mp List.all_takeWhile c hc
          · rw [← hdrop, List.cons_append, List.takeWhile_append_dropWhile]
        · simp at h
      · simp at h
  · rintro ⟨isName, rfl⟩
    cases isName with
    | @mk first ns start parts =>
      have named : ∀ c ∈ ns, isNamePart c = true := fun c hc => isNamePart_iff.mpr (parts c hc)
      -- the closing brace is no part of a name, so the name ends right before it
      have taken : (ns ++ '}' :: rest).takeWhile isNamePart = ns := by
        rw [List.takeWhile_append_of_pos named, List.takeWhile_cons_of_neg (by decide),
          List.append_nil]
      have dropped : (ns ++ '}' :: rest).dropWhile isNamePart = '}' :: rest := by
        rw [List.dropWhile_append_of_pos named, List.dropWhile_cons_of_neg (by decide)]
      rw [List.cons_append, takeName?, if_pos (by simpa [isNameStart] using start), dropped, taken]
      rfl

theorem startsHole_cons_iff {c : Char} {rest : List Char} :
    StartsHole (c :: rest) ↔ c = '{' ∧ takeName? rest ≠ none := by
  rw [Option.ne_none_iff_exists', Prod.exists]
  simp only [takeName?_eq_some_iff, StartsHole, List.cons.injEq]
  constructor
  · rintro ⟨name, after, isName, rfl, rfl⟩
    exact ⟨rfl, name, after, isName, rfl⟩
  · rintro ⟨rfl, name, after, isName, rfl⟩
    exact ⟨name, after, isName, rfl, rfl⟩

theorem pieces_hole {name : List Char} (isName : IsHoleName name) (rest : List Char) :
    pieces ('{' :: (name ++ '}' :: rest)) = .hole name :: pieces rest := by
  have taken : takeName? (name ++ '}' :: rest) = some (name, rest) :=
    takeName?_eq_some_iff.mpr ⟨isName, rfl⟩
  rw [pieces, if_pos rfl]
  split
  · rename_i name' after' h
    rw [taken] at h
    obtain ⟨rfl, rfl⟩ : name = name' ∧ rest = after' := by simpa using h
    rfl
  · rename_i h
    rw [taken] at h
    cases h

theorem pieces_plain {c : Char} {rest : List Char} (noHole : ¬ StartsHole (c :: rest)) :
    pieces (c :: rest) = .plain c :: pieces rest := by
  rw [startsHole_cons_iff] at noHole
  rw [pieces]
  split
  · rename_i brace
    split
    · rename_i h
      exact absurd ⟨brace, by simp [h]⟩ noHole
    · rfl
  · rfl

/-- The scan cuts a text in the one way there is. -/
theorem cut_iff {text : List Char} {ps : List Piece} : Cut text ps ↔ ps = pieces text := by
  constructor
  · intro h
    induction h with
    | nil => rw [pieces]
    | hole isName _ ih => rw [pieces_hole isName, ih]
    | plain noHole _ ih => rw [pieces_plain noHole, ih]
  · rintro rfl
    induction text using pieces.induct with
    | case1 =>
      rw [pieces]
      exact .nil
    | case2 rest name after h _ ih =>
      obtain ⟨isName, rfl⟩ := takeName?_eq_some_iff.mp h
      rw [pieces_hole isName]
      exact .hole isName ih
    | case3 rest h ih =>
      have noHole : ¬ StartsHole ('{' :: rest) := by simp [startsHole_cons_iff, h]
      rw [pieces_plain noHole]
      exact .plain noHole ih
    | case4 c rest brace ih =>
      have noHole : ¬ StartsHole (c :: rest) := by simp [startsHole_cons_iff, brace]
      rw [pieces_plain noHole]
      exact .plain noHole ih

/-- Cutting loses nothing: the pieces, one after another, are the text. -/
theorem Cut.flatMap_written {text : List Char} {ps : List Piece} (h : Cut text ps) :
    ps.flatMap Piece.written = text := by
  induction h with
  | nil => rfl
  | hole _ _ ih => simp [Piece.written, ih]
  | plain _ _ ih => simp [Piece.written, ih]

/-! ### What a piece renders to -/

def Piece.name? : Piece → Option String
  | .plain _ => none
  | .hole name => some (String.ofList name)

/-- A character renders to itself; a hole renders to the value of its name, and to itself if there
is no such value. -/
inductive Renders (values : Values) : Piece → String → Prop where
  | plain (c : Char) : Renders values (.plain c) (String.singleton c)
  | mapped {name : List Char} {value : String}
      (h : values.get? (String.ofList name) = some value) : Renders values (.hole name) value
  | unmapped {name : List Char} (h : values.get? (String.ofList name) = none) :
      Renders values (.hole name) (String.ofList ('{' :: (name ++ ['}'])))

theorem holes_eq (template : String) :
    holes template = (pieces template.toList).filterMap Piece.name? := rfl

theorem renders_rendered (values : Values) (piece : Piece) :
    Renders values piece (String.ofList (piece.rendered values)) := by
  cases piece with
  | plain c => exact .plain c
  | hole name =>
    cases h : values.get? (String.ofList name) with
    | none =>
      rw [Piece.rendered, h]
      exact .unmapped h
    | some value =>
      rw [Piece.rendered, h]
      dsimp only
      rw [String.ofList_toList]
      exact .mapped h

theorem ofList_flatMap (f : Piece → List Char) (ps : List Piece) :
    String.ofList (ps.flatMap f) = String.join (ps.map fun piece => String.ofList (f piece)) := by
  induction ps with
  | nil => rfl
  | cons piece rest ih =>
    rw [List.flatMap_cons, String.ofList_append, ih, List.map_cons, String.join_cons]

/-- A template renders to the texts of its pieces, one after another. -/
theorem exists_render_eq (values : Values) (template : String) :
    ∃ texts, List.Forall₂ (Renders values) (pieces template.toList) texts ∧
      render values template = String.join texts := by
  refine ⟨_, ?_, ofList_flatMap (Piece.rendered values) (pieces template.toList)⟩
  rw [List.forall₂_map_right_iff, List.forall₂_same]
  exact fun piece _ => renders_rendered values piece

/-- In what a template renders to, a text stands in every hole of a name. -/
def Fills (values : Values) (hole filling template rendered : String) : Prop :=
  ∃ texts, List.Forall₂ (Renders values) (pieces template.toList) texts ∧
    rendered = String.join texts ∧
    ∀ i : Nat, (pieces template.toList)[i]? = some (.hole hole.toList) → texts[i]? = some filling

theorem renders_hole_iff {values : Values} {hole filling : String}
    (h : values.get? hole = some filling) {text : String} :
    Renders values (.hole hole.toList) text ↔ text = filling := by
  rw [← String.ofList_toList (s := hole)] at h
  constructor
  · intro renders
    cases renders with
    | mapped hvalue => exact Option.some.inj (hvalue.symm.trans h)
    | unmapped hnone => cases hnone.symm.trans h
  · rintro rfl
    exact .mapped h

theorem fills_render {values : Values} {hole filling : String}
    (h : values.get? hole = some filling) (template : String) :
    Fills values hole filling template (render values template) := by
  obtain ⟨texts, renders, joined⟩ := exists_render_eq values template
  refine ⟨texts, renders, joined, fun i hi => ?_⟩
  obtain ⟨hpieces, hpiece⟩ := List.getElem?_eq_some_iff.mp hi
  have htexts : i < texts.length := renders.length_eq ▸ hpieces
  have filled := renders.get hpieces htexts
  rw [List.get_eq_getElem, hpiece, renders_hole_iff h] at filled
  exact List.getElem?_eq_some_iff.mpr ⟨htexts, filled⟩

end Template

/-! ### The holes of a stage -/

theorem Values.exists_get? {values : Values} {name : String} (h : name ∈ values.map (·.1)) :
    ∃ value, values.get? name = some value := by
  obtain ⟨v, hv, rfl⟩ := List.mem_map.mp h
  rw [← Option.isSome_iff_exists, Values.get?, Option.isSome_map, List.find?_isSome]
  exact ⟨v, hv, by simp⟩

/-- A snapshot has the values of just the names that a hole may have. -/
theorem Snapshot.map_fst_values (p : Parameters) (settings : Settings) (vars : Variables) :
    (Snapshot.take p settings vars).values.map (·.1) = holeNames := rfl

/-- Every template of a stage in a registry is filled by every snapshot. -/
theorem Snapshot.exists_value (registry : Registry) {s : Stage} (hs : s ∈ registry.stages)
    {template : String} (ht : s.IsTemplate template) {hole : String}
    (hh : hole ∈ Template.holes template) (p : Parameters) (settings : Settings)
    (vars : Variables) :
    ∃ value, (Snapshot.take p settings vars).values.get? hole = some value := by
  apply Values.exists_get?
  rw [Snapshot.map_fst_values]
  exact registry.wellformed.holes s hs template ht hole hh

theorem Stage.isTemplate_of_mem_parts {s : Stage} {part : String} (h : part ∈ s.command.parts) :
    s.IsTemplate part := by
  rcases List.mem_cons.mp h with rfl | h
  · exact .inl rfl
  · exact .inr (.inl h)

namespace Template

/-- There is one way to cut a template into plain characters and holes; the names of its holes, and
what it renders to, follow from that piece by piece. The command of a stage in a registry renders to
the program and one argument for each argument template, each by its own template alone, and every
hole has a value. -/
theorem render_cuts_and_fills :
    (∀ (template : String) (values : Values), ∃ ps, (∀ qs, Cut template.toList qs ↔ qs = ps) ∧
      ps.flatMap Piece.written = template.toList ∧ holes template = ps.filterMap Piece.name? ∧
      ∃ texts, List.Forall₂ (Renders values) ps texts ∧
        render values template = String.join texts) ∧
    ∀ (registry : Registry), ∀ s ∈ registry.stages,
      ∀ (p : Parameters) (settings : Settings) (vars : Variables),
        ((Snapshot.take p settings vars).arguments s).length = 1 + s.command.args.length ∧
        (∀ i : Nat, ((Snapshot.take p settings vars).arguments s)[i]? =
          (s.command.program :: s.command.args)[i]?.map
            (render (Snapshot.take p settings vars).values)) ∧
        ∀ part ∈ s.command.program :: s.command.args, ∀ hole ∈ holes part,
          ∃ value, (Snapshot.take p settings vars).values.get? hole = some value := by
  constructor
  · intro template values
    exact ⟨pieces template.toList, fun qs => cut_iff, (cut_iff.mpr rfl).flatMap_written,
      holes_eq template, exists_render_eq values template⟩
  · intro registry s hs p settings vars
    refine ⟨?_, ?_, ?_⟩
    · rw [Snapshot.arguments, Command.render, List.length_map, Command.parts, List.length_cons,
        Nat.add_comm]
    · intro i
      exact List.getElem?_map
    · intro part hpart hole hh
      exact Snapshot.exists_value registry hs (Stage.isTemplate_of_mem_parts hpart) hh p settings
        vars

/-- The scan goes on right after a brace that opens no hole. -/
example : holes "\x7ba\x7bb\x7d\x7d" = ["b"] := by decide +kernel

/-! ### A sample -/

namespace Sample

/-- The task is itself written like a hole. -/
def snapshot : Snapshot :=
  Snapshot.take { Parameters.usual "cubes" with task := "{steps}" }
    { stateDir := "/state"
      defaultTimeLimit := none
      killGrace := Span.zero
      calibrationDir := "/calibration"
      workflowFile := none } []

end Sample

theorem render_cuts_and_fills_gather :
    (Sample.snapshot.arguments Registry.Sample.gather).length = 2 ∧
      ∃ value, Sample.snapshot.values.get? "task" = some value := by
  obtain ⟨len, -, filled⟩ := render_cuts_and_fills.2 Registry.Sample.registry
    Registry.Sample.gather (by simp [Registry.Sample.registry]) _ _ _
  exact ⟨len, filled "--task={task}" (by decide) "task" (by decide +kernel)⟩

/-- A value is not scanned again. -/
example : Sample.snapshot.arguments Registry.Sample.gather = ["gather-scans", "--task={steps}"] := by
  decide +kernel

end Template

end RobotPipeline
