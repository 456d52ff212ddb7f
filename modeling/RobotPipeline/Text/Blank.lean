/-
  RobotPipeline/Text/Blank.lean
  =============================
  **White space, and text without it at its ends.**

  A character is blank when it has the Unicode property `White_Space`. Values
  that an operator types or exports (ports, account names, numbers, camera
  specs) are read without the blanks around them, and a value of blanks only
  counts as not given.

  `trim` is stated over lists of characters; `trimText` is the same on strings.
-/

namespace RobotPipeline.Text

/-! ### The property -/

/-- The 25 characters with the property `White_Space`. -/
def isBlank (c : Char) : Bool :=
  let n := c.toNat
  (0x09 ≤ n && n ≤ 0x0D) || n == 0x20 || n == 0x85 || n == 0xA0 || n == 0x1680
    || (0x2000 ≤ n && n ≤ 0x200A) || n == 0x2028 || n == 0x2029 || n == 0x202F
    || n == 0x205F || n == 0x3000

/-! ### Trimming -/

def trimLeft (cs : List Char) : List Char := cs.dropWhile isBlank

def trimRight (cs : List Char) : List Char := (cs.reverse.dropWhile isBlank).reverse

def trim (cs : List Char) : List Char := trimRight (trimLeft cs)

/-- `trim` on strings. -/
def trimText (s : String) : String := String.ofList (trim s.toList)

def isBlankText (s : String) : Bool := s.toList.all isBlank

@[simp] theorem trim_nil : trim [] = [] := rfl

/-- A list of blanks only trims to nothing. -/
theorem trim_eq_nil_of_all {cs : List Char} (h : cs.all isBlank = true) : trim cs = [] := by
  have empty : ∀ {ds : List Char}, ds.all isBlank = true → ds.dropWhile isBlank = [] := by
    intro ds hd
    induction ds with
    | nil => rfl
    | cons d ds ih =>
      simp only [List.all_cons, Bool.and_eq_true] at hd
      simp [hd.1, ih hd.2]
  simp [trim, trimLeft, trimRight, empty h]

end RobotPipeline.Text
