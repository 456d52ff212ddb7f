/-
  RobotPipeline/Proofs/Camera/Mapping.lean
  ========================================
  **The mapping handed to the toolkit stands for one list of cameras only.**

  Sources are put into the mapping as they are, so a source may look like the
  rest of an entry, or like several entries. What it cannot have is a colon:
  the colons of the mapping are those of its entries, six to each, and between
  them every part is found again.
-/
import RobotPipeline.Proofs.Camera.Spelling

namespace RobotPipeline.Camera

open Text (digits digitValue?)

variable {c d : Camera} {cs ds : List Camera}

/-- Neither name nor source has a colon in it. -/
structure ColonFree (c : Camera) : Prop where
  name : ':' ∉ c.name.toList
  source : ':' ∉ c.source.toList

theorem colonFree_of_parse {spec : String} (h : parse spec = .ok c) : c.ColonFree := by
  have plain := (parse_eq_ok_iff.mp h).plain
  exact ⟨plain.name.noColon, plain.source.noColon⟩

/-! ### One entry -/

theorem toList_toolkitEntry (c : Camera) :
    c.toolkitEntry.toList = c.name.toList ++ ':' :: (" \x7btype: opencv, index_or_path: ".toList ++
      (c.source.toList ++ ", width".toList) ++ ':' :: ' ' :: (digits c.width.toNat ++
        ',' :: (" height: ".toList ++ (digits c.height.toNat ++
          ',' :: (" fps: ".toList ++ (digits c.fps.toNat ++ ['\x7d'])))))) := by
  simp [toolkitEntry, Text.decimal]

/-- Where a number ends is seen by the mark behind it. -/
theorem digits_append_inj {mark : Char} (h : digitValue? mark = none) {n m : UInt32}
    {rest rest' : List Char}
    (same : digits n.toNat ++ mark :: rest = digits m.toNat ++ mark :: rest') :
    n = m ∧ rest = rest' := by
  obtain ⟨hdigits, hrest⟩ := cut_unique (Text.not_mem_digits h _) (Text.not_mem_digits h _) same
  exact ⟨UInt32.toNat_inj.mp (Text.digits_inj hdigits), hrest⟩

/-- An entry in front of a text is found again, with what follows it. -/
theorem toolkitEntry_append_inj (hc : c.ColonFree) (hd : d.ColonFree) {rest rest' : List Char}
    (same : c.toolkitEntry.toList ++ rest = d.toolkitEntry.toList ++ rest') :
    c = d ∧ rest = rest' := by
  simp only [toList_toolkitEntry, List.append_assoc, List.cons_append, List.nil_append] at same
  obtain ⟨hname, same⟩ := cut_unique hc.name hd.name same
  -- behind the source the text is the same up to the next colon, which cannot be in the source
  have same := List.append_cancel_left same
  rw [← List.append_assoc, ← List.append_assoc d.source.toList] at same
  have noColon {s : List Char} (h : ':' ∉ s) : ':' ∉ s ++ ", width".toList := by
    rw [List.mem_append, not_or]
    exact ⟨h, by decide⟩
  obtain ⟨hsource, same⟩ := cut_unique (noColon hc.source) (noColon hd.source) same
  obtain ⟨hwidth, same⟩ := digits_append_inj (by decide) (List.cons.inj same).2
  obtain ⟨hheight, same⟩ := digits_append_inj (by decide) (List.append_cancel_left same)
  obtain ⟨hfps, same⟩ := digits_append_inj (by decide) (List.append_cancel_left same)
  refine ⟨?_, same⟩
  cases c
  cases d
  simp only [mk.injEq]
  exact ⟨String.toList_injective hname, String.toList_injective (List.append_cancel_right hsource),
    hwidth, hheight, hfps⟩

/-! ### The whole mapping -/

/-- What stands behind the opening brace, or behind an entry: the next entries, with a mark in front
of the first one, and the closing brace. -/
def entries (mark : List Char) : List Camera → List Char
  | [] => ['\x7d']
  | c :: cs => mark ++ ' ' :: (c.toolkitEntry.toList ++ entries [','] cs)

theorem toList_toolkitMapping (cs : List Camera) :
    (toolkitMapping cs).toList = '\x7b' :: entries [] cs := by
  have joined (c : Camera) (cs : List Camera) :
      (", ".intercalate ((c :: cs).map toolkitEntry)).toList ++ ['\x7d'] =
        c.toolkitEntry.toList ++ entries [','] cs := by
    rw [String.toList_intercalate]
    induction cs generalizing c with
    | nil => simp [entries]
    | cons d ds ih =>
      have := ih d
      simp only [List.map_cons, List.intercalate_cons_cons, List.append_assoc] at this ⊢
      rw [this]
      rfl
  cases cs with
  | nil => rfl
  | cons c cs =>
    rw [entries, ← joined]
    simp [toolkitMapping]

theorem entries_inj {mark : List Char} (hcs : ∀ c ∈ cs, c.ColonFree) (hds : ∀ d ∈ ds, d.ColonFree)
    (same : entries mark cs = entries mark ds) : cs = ds := by
  induction cs generalizing mark ds with
  | nil =>
    cases ds with
    | nil => rfl
    | cons d ds => simpa [entries] using congrArg (' ' ∈ ·) same
  | cons c cs ih =>
    cases ds with
    | nil => simpa [entries] using congrArg (' ' ∈ ·) same
    | cons d ds =>
      rw [List.forall_mem_cons] at hcs hds
      have behind := (List.cons.inj (List.append_cancel_left same)).2
      obtain ⟨rfl, others⟩ := toolkitEntry_append_inj hcs.1 hds.1 behind
      rw [ih hcs.2 hds.2 others]

/-- Cameras that were read from what an operator wrote are the same, in the same order, if they make
the same mapping. -/
theorem eq_of_toolkitMapping (hcs : ∀ c ∈ cs, ∃ spec, parse spec = .ok c)
    (hds : ∀ d ∈ ds, ∃ spec, parse spec = .ok d) (same : toolkitMapping cs = toolkitMapping ds) :
    cs = ds := by
  have colonFree {cs : List Camera} (h : ∀ c ∈ cs, ∃ spec, parse spec = .ok c) :
      ∀ c ∈ cs, c.ColonFree := by
    intro c hc
    obtain ⟨spec, hspec⟩ := h c hc
    exact colonFree_of_parse hspec
  have same := congrArg String.toList same
  rw [toList_toolkitMapping, toList_toolkitMapping] at same
  exact entries_inj (colonFree hcs) (colonFree hds) (List.cons.inj same).2

/-! ### Samples -/

/-- Two cameras, the first with a source that looks like the rest of its entry and the start of the
next one, however they were written. -/
theorem eq_of_toolkitMapping_lookAlike :
    ["top:2, width\x7d, wrist", "wrist:1"].map parse =
        [.ok ⟨"top", "2, width\x7d, wrist", 640, 480, 30⟩, .ok ⟨"wrist", "1", 640, 480, 30⟩] ∧
      [" top : 2, width\x7d, wrist :+640x0480", "wrist: 1:640x480@30"].map parse =
        [.ok (usual "top" "2, width\x7d, wrist"), .ok (usual "wrist" "1")] ∧
      [⟨"top", "2, width\x7d, wrist", 640, 480, 30⟩, ⟨"wrist", "1", 640, 480, 30⟩] =
        [usual "top" "2, width\x7d, wrist", usual "wrist" "1"] := by
  have top : parse "top:2, width\x7d, wrist" =
      .ok ⟨"top", "2, width\x7d, wrist", 640, 480, 30⟩ := by decide
  have wrist : parse "wrist:1" = .ok ⟨"wrist", "1", 640, 480, 30⟩ := by decide
  have top' : parse " top : 2, width\x7d, wrist :+640x0480" =
      .ok (usual "top" "2, width\x7d, wrist") := by decide
  have wrist' : parse "wrist: 1:640x480@30" = .ok (usual "wrist" "1") := by decide
  refine ⟨by simp only [List.map, top, wrist], by simp only [List.map, top', wrist'], ?_⟩
  refine eq_of_toolkitMapping ?_ ?_ rfl
  · exact List.forall_mem_cons.mpr ⟨⟨_, top⟩, List.forall_mem_singleton.mpr ⟨_, wrist⟩⟩
  · exact List.forall_mem_cons.mpr ⟨⟨_, top'⟩, List.forall_mem_singleton.mpr ⟨_, wrist'⟩⟩

/-- With a colon in its source, one camera makes the mapping of two. -/
example :
    toolkitMapping [usual "a" ("0, width: 640, height: 480, fps: 30\x7d, b: " ++
        "\x7btype: opencv, index_or_path: 1")] =
      toolkitMapping [usual "a" "0", usual "b" "1"] := by
  decide

end RobotPipeline.Camera
