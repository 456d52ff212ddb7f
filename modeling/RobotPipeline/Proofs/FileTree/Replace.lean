/-
  RobotPipeline/Proofs/FileTree/Replace.lean
  ==========================================
  **A path to a file that was replaced leads to what it was replaced with.**

  The walk to the file passes directories and links only, and none of them is
  the place where the new file stands. That would fail for a link that is
  replaced: the path may have led through it.
-/
import RobotPipeline.FileTree.Change

namespace RobotPipeline.FileTree

/-- At a location there is no directory and no link, so that no walk goes on from there. -/
def IsBlind (tree : FileTree) (loc : Location) : Prop :=
  tree.get? loc ≠ some .directory ∧ ∀ target, tree.get? loc ≠ some (.link target)

/-- Where a walk ends, if it ends, is a place to put a file at. -/
def Reach.LeadsTo (loc : Location) : Reach → Prop
  | .link _ _ => True
  | .spot (.present there node) => there = loc ∧ node ≠ .directory
  | .spot (.absent there slashed) => there = loc ∧ slashed = false

/-- How far the same walk gets when a file was put where it ended. -/
def Reach.landing (loc : Location) (file : Node) : Reach → Reach
  | .link next parts => .link next parts
  | .spot _ => .spot (.present loc file)

/-- A walk ends before the first link that it follows, or goes on behind it. -/
theorem walk_cases {tree : FileTree} {follow : Bool} {links : Nat} {dir : Location}
    {parts : List String} {spot : Spot} (h : tree.walk follow links dir parts = .ok spot) :
    tree.walkToLink follow dir parts = .ok (.spot spot) ∨
      ∃ n next more, links = n + 1 ∧ tree.walkToLink follow dir parts = .ok (.link next more) ∧
        tree.walk follow n next more = .ok spot := by
  unfold walk at h
  cases hreach : tree.walkToLink follow dir parts with
  | error cause => simp [hreach] at h
  | ok reach =>
    cases reach with
    | spot there =>
      obtain rfl : there = spot := by simpa [hreach] using h
      exact .inl rfl
    | link next more =>
      cases links with
      | zero => simp [hreach] at h
      | succ n => exact .inr ⟨n, next, more, rfl, rfl, by simpa [hreach] using h⟩

section Set

variable {tree : FileTree} {loc : Location} {content : Content} {mode : Nat}

theorem walkToLink_set (blind : tree.IsBlind loc) {asked follow : Bool}
    (more : asked = true → follow = true) (dir : Location) (parts : List String) {reach : Reach}
    (h : tree.walkToLink asked dir parts = .ok reach) (leads : reach.LeadsTo loc) :
    (tree.set loc (.file content mode)).walkToLink follow dir parts =
      .ok (reach.landing loc (.file content mode)) := by
  induction parts generalizing dir with
  | nil =>
    cases h
    exact absurd rfl leads.2
  | cons part rest ih =>
    unfold walkToLink at h ⊢
    split at h
    · rename_i hdot
      rw [if_pos hdot]
      exact ih dir h
    · rename_i hdot
      rw [if_neg hdot]
      split at h
      · rename_i hup
        rw [if_pos hup]
        exact ih dir.dropLast h
      · rename_i hup
        rw [if_neg hup]
        split at h
        · cases h
        · rename_i hlong
          rw [if_neg hlong]
          by_cases hplace : dir ++ [part] = loc
          · -- the walk has come to the place, and does not go on
            have hne : loc ≠ [] := by
              rw [← hplace]
              simp
            rw [hplace] at h ⊢
            rw [get?_set_self tree _ hne]
            obtain ⟨last, spot, rfl⟩ : rest.isEmpty = true ∧ ∃ spot, reach = .spot spot := by
              cases hget : tree.get? loc with
              | none =>
                simp only [hget] at h
                split at h
                · cases h
                  exact ⟨by simpa using leads.2, _, rfl⟩
                · cases h
              | some node =>
                cases node with
                | directory => exact absurd hget blind.1
                | link target => exact absurd hget (blind.2 target)
                | file _ _ =>
                  simp only [hget] at h
                  split at h
                  · cases h
                    exact ⟨‹_›, _, rfl⟩
                  · cases h
                | device =>
                  simp only [hget] at h
                  split at h
                  · cases h
                    exact ⟨‹_›, _, rfl⟩
                  · cases h
            simp only [last, if_true]
            rfl
          · rw [get?_set_other tree _ hplace]
            cases hget : tree.get? (dir ++ [part]) with
            | none =>
              rw [hget] at h
              dsimp only at h
              split at h
              · cases h
                exact absurd leads.1 hplace
              · cases h
            | some node =>
              rw [hget] at h
              cases node with
              | directory => exact ih _ h
              | link target =>
                dsimp only at h ⊢
                split at h
                · cases h
                  exact absurd leads.1 hplace
                · rename_i hmore
                  cases h
                  have onward : ¬ (rest.isEmpty = true ∧ (!follow) = true) := by
                    rintro ⟨hlast, hnot⟩
                    refine hmore ⟨hlast, ?_⟩
                    cases asked with
                    | false => rfl
                    | true => simp [more rfl] at hnot
                  rw [if_neg onward]
                  rfl
              | file c m =>
                dsimp only at h
                split at h
                · cases h
                  exact absurd leads.1 hplace
                · cases h
              | device =>
                dsimp only at h
                split at h
                · cases h
                  exact absurd leads.1 hplace
                · cases h

theorem walk_set (blind : tree.IsBlind loc) {asked follow : Bool}
    (more : asked = true → follow = true) (links : Nat) (dir : Location) (parts : List String)
    {spot : Spot} (h : tree.walk asked links dir parts = .ok spot)
    (leads : (Reach.spot spot).LeadsTo loc) :
    (tree.set loc (.file content mode)).walk follow links dir parts =
      .ok (.present loc (.file content mode)) := by
  rcases walk_cases h with hspot | ⟨n, next, left, rfl, hlink, hrest⟩
  · unfold walk
    simp only [walkToLink_set blind more dir parts hspot leads, Reach.landing]
  · unfold walk
    simp only [walkToLink_set blind more dir parts hlink trivial, Reach.landing]
    exact walk_set blind more n next left hrest leads

end Set

/-! ### What a walk sees where it ends -/

def Spot.IsSeen (tree : FileTree) : Spot → Prop
  | .present loc node => node = .directory ∨ tree.get? loc = some node
  | .absent loc _ => tree.get? loc = none

theorem walkToLink_sees {tree : FileTree} {follow : Bool} (dir : Location) (parts : List String)
    {spot : Spot} (h : tree.walkToLink follow dir parts = .ok (.spot spot)) : spot.IsSeen tree := by
  induction parts generalizing dir with
  | nil =>
    cases h
    exact .inl rfl
  | cons part rest ih =>
    unfold walkToLink at h
    split at h
    · exact ih dir h
    · split at h
      · exact ih dir.dropLast h
      · split at h
        · cases h
        · split at h
          · rename_i hget
            split at h
            · cases h
              exact hget
            · cases h
          · exact ih _ h
          · rename_i hget
            split at h
            · cases h
              exact .inr hget
            · cases h
          · rename_i hget
            split at h
            · cases h
              exact .inr hget
            · cases h

theorem walk_sees {tree : FileTree} {follow : Bool} (links : Nat) (dir : Location)
    (parts : List String) {spot : Spot} (h : tree.walk follow links dir parts = .ok spot) :
    spot.IsSeen tree := by
  rcases walk_cases h with hspot | ⟨n, next, more, rfl, -, hrest⟩
  · exact walkToLink_sees dir parts hspot
  · exact walk_sees n next more hrest

/-! ### Paths -/

def IsPath (path : String) : Prop :=
  path ≠ "" ∧ path.toList.any (fun c => c.toNat = 0) = false ∧ path.utf8ByteSize ≤ maxPathBytes

theorem locate_eq_ok_iff {tree : FileTree} {follow : Bool} {path : String} {spot : Spot} :
    tree.locate follow path = .ok spot ↔
      IsPath path ∧ tree.walk follow maxLinks (if Path.isAbsolute path then [] else tree.here)
        (Path.parts path) = .ok spot := by
  unfold locate IsPath
  by_cases hempty : path = ""
  · simp [hempty]
  · cases hnul : path.toList.any (fun c => c.toNat = 0) with
    | true => simp [hempty]
    | false =>
      by_cases hlong : maxPathBytes < path.utf8ByteSize
      · simp [hempty, hlong, Nat.not_le.mpr hlong]
      · simp [hempty, hlong, Nat.not_lt.mp hlong]

/-- Where a path leads to when a file was put at the end of it. -/
theorem locate_set {tree : FileTree} {path : String} {content : Content} {mode : Nat} {spot : Spot}
    {loc : Location} {asked follow : Bool} (hspot : tree.locate asked path = .ok spot)
    (leads : (Reach.spot spot).LeadsTo loc) (blind : tree.IsBlind loc)
    (more : asked = true → follow = true) :
    (tree.set loc (.file content mode)).locate follow path =
      .ok (.present loc (.file content mode)) := by
  obtain ⟨hpath, hwalk⟩ := locate_eq_ok_iff.mp hspot
  exact locate_eq_ok_iff.mpr ⟨hpath, walk_set blind more maxLinks _ _ hwalk leads⟩

/-- A file that is put in place of another, or where none was, stands where the path leads to; no
walk went on from there. -/
theorem exists_replaced {tree tree' : FileTree} {path : String} {content : Content}
    (h : tree.replace path content = .ok tree')
    (noLink : ∀ loc target, tree.locate false path ≠ .ok (.present loc (.link target))) :
    ∃ loc, tree.IsBlind loc ∧ tree' = tree.set loc (.file content privateMode) ∧
      ∀ follow, tree'.locate follow path = .ok (.present loc (.file content privateMode)) := by
  unfold replace at h
  cases hspot : tree.locate false path with
  | error cause => simp [hspot, bind, Except.bind] at h
  | ok spot =>
    have hseen := walk_sees maxLinks _ _ (locate_eq_ok_iff.mp hspot).2
    simp only [hspot, bind, Except.bind] at h
    cases spot with
    | absent loc slashed =>
      cases slashed with
      | true => cases h
      | false =>
        cases h
        have hnone : tree.get? loc = none := hseen
        have blind : tree.IsBlind loc := ⟨by simp [hnone], by simp [hnone]⟩
        exact ⟨loc, blind, rfl, fun _ => locate_set hspot ⟨rfl, rfl⟩ blind (by simp)⟩
    | present loc node =>
      cases node with
      | directory => cases h
      | link target => exact absurd hspot (noLink loc target)
      | file old mode =>
        cases h
        have hget : tree.get? loc = some (.file old mode) := by simpa [Spot.IsSeen] using hseen
        have blind : tree.IsBlind loc := ⟨by simp [hget], by simp [hget]⟩
        exact ⟨loc, blind, rfl, fun _ => locate_set hspot ⟨rfl, by simp⟩ blind (by simp)⟩
      | device =>
        cases h
        have hget : tree.get? loc = some .device := by simpa [Spot.IsSeen] using hseen
        have blind : tree.IsBlind loc := ⟨by simp [hget], by simp [hget]⟩
        exact ⟨loc, blind, rfl, fun _ => locate_set hspot ⟨rfl, by simp⟩ blind (by simp)⟩

end RobotPipeline.FileTree
