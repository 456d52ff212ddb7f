/-
  RobotPipeline/Proofs/Text/Blank.lean
  ====================================
  **Trimming takes off the blanks around a text, and nothing else.**

  A text is something bare, which neither starts nor ends with a blank, with
  blanks on either side of it. There is only one way to see it so, and trimming
  finds it (`trim_eq_iff`).
-/
import Mathlib.Data.List.DropRight
import RobotPipeline.Text.Blank

namespace RobotPipeline.Text

variable {cs inner before after : List Char}

/-- A text that neither starts nor ends with a blank. -/
structure Bare (cs : List Char) : Prop where
  first : ∀ c ∈ cs.head?, isBlank c = false
  last : ∀ c ∈ cs.getLast?, isBlank c = false

/-- A text with blanks on either side of it. -/
inductive Padded (inner : List Char) : List Char → Prop where
  | mk {before after : List Char} (left : ∀ c ∈ before, isBlank c = true)
      (right : ∀ c ∈ after, isBlank c = true) : Padded inner (before ++ inner ++ after)

theorem bare_of_forall (h : ∀ c ∈ cs, isBlank c = false) : Bare cs where
  first := fun c hc => h c (List.mem_of_mem_head? hc)
  last := fun c hc => h c (List.mem_of_mem_getLast? hc)

theorem Padded.refl (cs : List Char) : Padded cs cs := by
  have padded : Padded cs ([] ++ cs ++ []) := .mk (by simp) (by simp)
  simpa using padded

theorem Padded.subset (h : Padded inner cs) : inner ⊆ cs := by
  cases h with
  | mk left right => exact fun c hc => List.mem_append_left _ (List.mem_append_right _ hc)

/-- What is not blank is in a padded text only if it is in what is padded. -/
theorem Padded.not_mem (h : Padded inner cs) {c : Char} (hc : isBlank c = false)
    (out : c ∉ inner) : c ∉ cs := by
  cases h with
  | mk left right =>
    simp only [List.mem_append, not_or]
    refine ⟨⟨fun hl => ?_, out⟩, fun hr => ?_⟩
    · simp [left c hl] at hc
    · simp [right c hr] at hc

/-! ### One side -/

theorem trimRight_eq (cs : List Char) : trimRight cs = cs.rdropWhile isBlank := rfl

theorem first_trimLeft (cs : List Char) : ∀ c ∈ (trimLeft cs).head?, isBlank c = false := by
  intro c hc
  have first := List.head?_dropWhile_not isBlank cs
  rw [← trimLeft, Option.mem_def.mp hc] at first
  exact first

theorem trimLeft_append (left : ∀ c ∈ before, isBlank c = true)
    (first : ∀ c ∈ cs.head?, isBlank c = false) : trimLeft (before ++ cs) = cs := by
  rw [trimLeft, List.dropWhile_append_of_pos left]
  cases cs with
  | nil => rfl
  | cons c rest => exact List.dropWhile_cons_of_neg (by simp [first c rfl])

/-- What is to be dropped at the end is dropped up to the last thing that is not. -/
theorem rdropWhile_append {α : Type} {p : α → Bool} {as after : List α}
    (last : ∀ a ∈ as.getLast?, p a = false) (right : ∀ a ∈ after, p a = true) :
    (as ++ after).rdropWhile p = as := by
  have behind : ∀ a ∈ after.reverse, p a = true := fun a ha => right a (List.mem_reverse.mp ha)
  rw [List.rdropWhile, List.reverse_append, List.dropWhile_append_of_pos behind]
  cases hrev : as.reverse with
  | nil => simpa using hrev.symm
  | cons a rest =>
    have kept : p a = false := last a (by rw [← List.head?_reverse, hrev]; rfl)
    rw [List.dropWhile_cons_of_neg (by simp [kept]), ← hrev, List.reverse_reverse]

theorem trimRight_append (last : ∀ c ∈ cs.getLast?, isBlank c = false)
    (right : ∀ c ∈ after, isBlank c = true) : trimRight (cs ++ after) = cs := by
  rw [trimRight_eq, rdropWhile_append last right]

/-! ### Both sides -/

theorem padded_trim (cs : List Char) : Padded (trim cs) cs := by
  have split : cs = cs.takeWhile isBlank ++ trim cs ++ (trimLeft cs).rtakeWhile isBlank := by
    rw [trim, trimRight_eq, List.append_assoc, List.rdropWhile_append_rtakeWhile, trimLeft,
      List.takeWhile_append_dropWhile]
  have padded : Padded (trim cs)
      (cs.takeWhile isBlank ++ trim cs ++ (trimLeft cs).rtakeWhile isBlank) :=
    .mk (fun c hc => List.mem_takeWhile_imp hc) (fun c hc => List.mem_rtakeWhile_imp hc)
  rwa [← split] at padded

theorem bare_trim (cs : List Char) : Bare (trim cs) where
  first := by
    intro c hc
    -- what is left on the left is cut off on the right only
    obtain ⟨after, hafter⟩ : trim cs <+: trimLeft cs := List.rdropWhile_prefix isBlank _
    apply first_trimLeft cs c
    rw [← hafter, List.head?_append, Option.mem_def.mp hc]
    rfl
  last := by
    have first := first_trimLeft (trimLeft cs).reverse
    rwa [← List.getLast?_reverse] at first

/-- Trimming finds the only bare text that a text pads. -/
theorem trim_eq_iff : trim cs = inner ↔ Bare inner ∧ Padded inner cs := by
  constructor
  · rintro rfl
    exact ⟨bare_trim cs, padded_trim cs⟩
  · rintro ⟨bare, padded⟩
    cases padded with
    | @mk before after left right =>
      cases inner with
      | nil =>
        apply trim_eq_nil_of_all
        simpa [or_imp, forall_and] using And.intro left right
      | cons c rest =>
        rw [trim, List.append_assoc, trimLeft_append left (by simpa using bare.first c rfl),
          trimRight_append bare.last right]

theorem Bare.trim_eq (h : Bare cs) : trim cs = cs := trim_eq_iff.mpr ⟨h, .refl cs⟩

/-- A list that trims to nothing has blanks only. -/
theorem all_of_trim_eq_nil (h : trim cs = []) : cs.all isBlank = true := by
  have padded := padded_trim cs
  rw [h] at padded
  cases padded with
  | mk left right => simpa [or_imp, forall_and] using And.intro left right

theorem trimText_ne_empty {s : String} (h : isBlankText s = false) : trimText s ≠ "" := by
  intro empty
  have hnil : trim s.toList = [] := by simpa [trimText] using congrArg String.toList empty
  simp [isBlankText, all_of_trim_eq_nil hnil] at h

theorem trimText_of_bare {s : String} (h : Bare s.toList) : trimText s = s := by
  rw [trimText, h.trim_eq, String.ofList_toList]

end RobotPipeline.Text
