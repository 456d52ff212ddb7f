/-
  RobotPipeline/Proofs/FileTree/Made.lean
  =======================================
  **A directory that was made is there, and stays when files are put.**

  A path leads to a directory just if there is a way into it, all through
  directories and links. So whatever leaves these where they are leaves the
  path a directory, and making it again changes nothing.
-/
import RobotPipeline.Proofs.FileTree.Enter

namespace RobotPipeline.FileTree

variable {tree tree' : FileTree} {path : String} {loc there : Location}

theorem enters_of_blank {parts : List String} (h : parts.all (fun part => part = "") = true)
    (links : Nat) (loc : Location) : Enters tree links loc parts links loc := by
  induction parts with
  | nil => exact .here
  | cons part rest ih =>
    obtain ⟨rfl, hrest⟩ : part = "" ∧ rest.all (fun part => part = "") = true := by simpa using h
    exact .stay (.inl rfl) (ih hrest)

/-- A walk has ended at a directory, or at a free name where there is one in another tree. -/
def Spot.OpensTo (tree' : FileTree) (there : Location) : Spot → Prop
  | .present loc node => loc = there ∧ node = .directory
  | .absent loc _ => loc = there ∧ tree'.get? there = some .directory

/-- A walk does not get past a file or a device. -/
theorem not_opensTo_of_stuck {part : String} {rest : List String} {node : Node} {follow : Bool}
    {links : Nat} {spot : Spot} (hlook : IsLookedUp part)
    (hget : tree.get? (loc ++ [part]) = some node)
    (stuck : node ≠ .directory ∧ ∀ target, node ≠ .link target)
    (h : tree.walk follow links loc (part :: rest) = .ok spot) : ¬ spot.OpensTo tree' there := by
  have hspot : spot = .present (loc ++ [part]) node := by
    rw [walk, walkToLink_lookedUp hlook, hget] at h
    cases node with
    | directory => exact absurd rfl stuck.1
    | link target => exact absurd rfl (stuck.2 target)
    | _ =>
      by_cases hlast : rest.isEmpty = true
      · simpa [hlast, eq_comm] using h
      · simp [hlast] at h
  rw [hspot]
  exact fun ends => stuck.1 ends.2

/-- A walk that has ended so is a way into the directory. -/
theorem exists_enters_of_walk (larger : tree.Extends tree') {follow : Bool} (links : Nat)
    (loc : Location) (parts : List String) {spot : Spot}
    (h : tree.walk follow links loc parts = .ok spot) (ends : spot.OpensTo tree' there) :
    ∃ left, Enters tree' links loc parts left there := by
  -- a link puts its own parts before the rest, so the outer induction is on the links that are left
  induction links using Nat.strongRecOn generalizing loc parts with
  | ind links behind =>
    induction parts generalizing loc with
    | nil =>
      rw [walk, walkToLink] at h
      cases h
      obtain ⟨rfl, -⟩ := ends
      exact ⟨links, .here⟩
    | cons part rest ih =>
      by_cases hstay : part = "" ∨ part = "."
      · rw [walk_stay hstay] at h
        obtain ⟨left, next⟩ := ih loc h
        exact ⟨left, .stay hstay next⟩
      by_cases hup : part = ".."
      · subst hup
        rw [walk_up] at h
        obtain ⟨left, next⟩ := ih loc.dropLast h
        exact ⟨left, .up next⟩
      by_cases hlen : maxNameBytes < part.utf8ByteSize
      · rw [walk, walkToLink, if_neg hstay, if_neg hup, if_pos hlen] at h
        cases h
      have hlook : IsLookedUp part := by
        rw [not_or] at hstay
        exact ⟨hstay.1, hstay.2, hup, Nat.not_lt.mp hlen⟩
      rcases hget : tree.get? (loc ++ [part]) with _ | _ | _ | target | _
      · rw [walk, walkToLink_lookedUp hlook, hget] at h
        by_cases hblank : rest.all (fun part => part = "") = true
        · simp only [hblank, if_true] at h
          cases h
          obtain ⟨rfl, hput⟩ := ends
          exact ⟨links, .down hlook hput (enters_of_blank hblank links _)⟩
        · simp only [hblank, Bool.false_eq_true, if_false] at h
          cases h
      · exact absurd ends (not_opensTo_of_stuck hlook hget (by simp) h)
      · rw [walk_down hlook hget] at h
        obtain ⟨left, next⟩ := ih _ h
        exact ⟨left, .down hlook (larger.directory _ hget) next⟩
      · rw [walk, walkToLink_lookedUp hlook, hget] at h
        by_cases hlast : rest.isEmpty = true ∧ (!follow) = true
        · simp only [hlast, and_self, if_true] at h
          cases h
          cases ends.2
        · simp only [hlast, if_false] at h
          cases links with
          | zero => cases h
          | succ links =>
            obtain ⟨left, next⟩ := behind links (Nat.lt_succ_self links) _ _ h
            exact ⟨left, .follow hlook (larger.link _ _ hget) next⟩
      · exact absurd ends (not_opensTo_of_stuck hlook hget (by simp) h)

/-! ### Directories by their paths -/

theorem isDirectory_iff :
    tree.isDirectory path = true ↔
      IsPath path ∧ ∃ left loc, Enters tree maxLinks
        (if Path.isAbsolute path then [] else tree.here) (Path.parts path) left loc := by
  constructor
  · intro h
    obtain ⟨loc, hlocate⟩ : ∃ loc, tree.locate true path = .ok (.present loc .directory) := by
      unfold isDirectory node? at h
      split at h
      · rename_i loc node hlocate
        obtain rfl : node = .directory := by simpa using h
        exact ⟨loc, hlocate⟩
      · cases h
    obtain ⟨hpath, hwalk⟩ := locate_eq_ok_iff.mp hlocate
    obtain ⟨left, enters⟩ := exists_enters_of_walk (.refl tree) maxLinks _ _ hwalk ⟨rfl, rfl⟩
    exact ⟨hpath, left, loc, enters⟩
  · rintro ⟨hpath, left, loc, enters⟩
    have hlocate : tree.locate true path = .ok (.present loc .directory) :=
      locate_eq_ok_iff.mpr ⟨hpath, enters.walk_eq⟩
    simp [isDirectory, node?, hlocate]

theorem isDirectory_set (h : tree.isDirectory path = true) (blind : tree.IsBlind there)
    (node : Node) : (tree.set there node).isDirectory path = true := by
  obtain ⟨hpath, left, loc, enters⟩ := isDirectory_iff.mp h
  exact isDirectory_iff.mpr ⟨hpath, left, loc, enters.mono (extends_set blind node)⟩

theorem isDirectory_of_makeDirectory (h : tree.makeDirectory path = .ok tree') :
    tree'.isDirectory path = true := by
  unfold makeDirectory at h
  cases hspot : tree.locate false path with
  | error cause => simp [hspot, bind, Except.bind] at h
  | ok spot =>
    simp only [hspot, bind, Except.bind] at h
    cases spot with
    | present _ _ => cases h
    | absent loc slashed =>
      cases h
      obtain ⟨hpath, hwalk⟩ := locate_eq_ok_iff.mp hspot
      have hnone : tree.get? loc = none := walk_sees maxLinks _ _ hwalk
      have hne : loc ≠ [] := by
        rintro rfl
        simp [get?_root] at hnone
      obtain ⟨left, enters⟩ := exists_enters_of_walk
        (extends_set (isBlind_of_absent hnone) .directory) maxLinks _ _ hwalk
        ⟨rfl, tree.get?_set_self _ hne⟩
      exact isDirectory_iff.mpr ⟨hpath, left, loc, enters⟩

theorem isDirectory_of_makeDirectories (h : tree.makeDirectories path = .ok tree') :
    path = "" ∨ tree'.isDirectory path = true := by
  unfold makeDirectories makeDirectoriesUp at h
  by_cases hempty : path = ""
  · exact .inl hempty
  right
  rw [if_neg hempty] at h
  cases hmake : tree.makeDirectory path with
  | ok made =>
    rw [hmake] at h
    cases h
    exact isDirectory_of_makeDirectory hmake
  | error refusal =>
    simp only [hmake] at h
    split at h
    · split at h
      · cases h
      · rename_i above _
        -- the directories above are made first
        cases hup : makeDirectoriesUp (Path.names path).length tree above with
        | error cause => simp [hup, bind, Except.bind] at h
        | ok middle =>
          simp only [hup, bind, Except.bind] at h
          cases hmiddle : middle.makeDirectory path with
          | ok made =>
            simp only [hmiddle] at h
            cases h
            exact isDirectory_of_makeDirectory hmiddle
          | error _ =>
            simp only [hmiddle] at h
            split at h
            · cases h
              assumption
            · cases h
    · split at h
      · cases h
        assumption
      · cases h

/-- A directory that is there already is not made again. -/
theorem makeDirectories_of_isDirectory (h : path = "" ∨ tree.isDirectory path = true) :
    tree.makeDirectories path = .ok tree := by
  unfold makeDirectories makeDirectoriesUp
  rcases h with rfl | h
  · simp
  · obtain ⟨hpath, left, loc, enters⟩ := isDirectory_iff.mp h
    obtain ⟨there, node, hwalk⟩ := enters.exists_present
    have hthere : tree.locate false path = .ok (.present there node) :=
      locate_eq_ok_iff.mpr ⟨hpath, hwalk⟩
    simp [hpath.1, makeDirectory, hthere, h, bind, Except.bind, IoError.alreadyExists,
      IoError.notFound]

end RobotPipeline.FileTree
