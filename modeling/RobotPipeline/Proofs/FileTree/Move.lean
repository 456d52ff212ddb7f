/-
  RobotPipeline/Proofs/FileTree/Move.lean
  =======================================
  **Making directories and moving files.**

  A directory that a path leads into is there already, so making it changes
  nothing; one in such a directory is made by putting one node. A file that is
  moved is taken from its place and put at another, and nothing else changes.
-/
import RobotPipeline.Proofs.FileTree.Made

namespace RobotPipeline

namespace Path

/-- The parts of a directory are those above the names in it, and nothing after its last slash. -/
theorem parts_eq_above {dir : String} (h : dir ≠ "") :
    parts dir = above dir ∨ parts dir = above dir ++ [""] := by
  unfold above
  rw [if_neg h]
  by_cases hlast : dir.toList.getLast? = some '/'
  · right
    obtain ⟨cs, hcs⟩ := List.getLast?_eq_some_iff.mp hlast
    rw [if_pos hlast]
    simp [parts, hcs, splitSlashes_append_slash, splitSlashes]
  · left
    rw [if_neg hlast]

end Path

namespace FileTree

variable {tree : FileTree} {dir name : String} {loc : Location}

theorem isPath_of_join (hdir : dir ≠ "") (hname : Path.IsName name)
    (h : IsPath (Path.join dir name)) : IsPath dir := by
  obtain ⟨-, hnul, hlen⟩ := h
  have habs := Path.isAbsolute_of_isName hname
  have hne : dir.isEmpty = false := by simpa [String.isEmpty_iff] using hdir
  refine ⟨hdir, ?_, ?_⟩
  · obtain ⟨slash, -, -, hlist⟩ := Path.toList_join hname dir
    rw [hlist] at hnul
    simp only [List.any_append, Bool.or_eq_false_iff] at hnul
    exact hnul.1.1
  · unfold Path.join at hlen
    rw [habs] at hlen
    simp only [hne, Bool.false_eq_true, if_false] at hlen
    split at hlen
    · rw [String.utf8ByteSize_append] at hlen
      omega
    · rw [String.utf8ByteSize_append, String.utf8ByteSize_append] at hlen
      omega

theorem IsAt.isDirectory_self (h : tree.IsAt dir loc) (hpath : IsPath dir) :
    tree.isDirectory dir = true := by
  obtain ⟨left, enters⟩ := h
  refine isDirectory_iff.mpr ⟨hpath, left, loc, ?_⟩
  rcases Path.parts_eq_above hpath.1 with hparts | hparts
  · rw [hparts]
    exact enters
  · rw [hparts]
    exact enters.trans (.stay (.inl rfl) .here)

theorem IsAt.makeDirectories_self (h : tree.IsAt dir loc) (hpath : dir = "" ∨ IsPath dir) :
    tree.makeDirectories dir = .ok tree := by
  apply makeDirectories_of_isDirectory
  rcases hpath with rfl | hpath
  · exact .inl rfl
  · exact .inr (h.isDirectory_self hpath)

/-- A path that is no path is refused before anything is looked up. -/
theorem locate_of_not_isPath {path : String} (hne : path ≠ "") (h : ¬ IsPath path) :
    ∃ cause, cause ≠ .notFound ∧
      ∀ (tree : FileTree) (follow : Bool), tree.locate follow path = .error cause := by
  unfold IsPath at h
  cases hnul : path.toList.any (fun c => c.toNat = 0) with
  | true =>
    refine ⟨.nulInName, by decide, ?_⟩
    intro tree follow
    rw [locate, if_neg hne, if_pos hnul]
  | false =>
    have hlong : maxPathBytes < path.utf8ByteSize := by simpa [hne, hnul] using h
    refine ⟨.nameTooLong, by decide, ?_⟩
    intro tree follow
    rw [locate, if_neg hne, if_neg (by simp [hnul]), if_pos hlong]

/-- Making a directory in a directory puts at most one node, where nothing was. -/
theorem IsAt.makeDirectories_join {made : FileTree} (h : tree.IsAt dir loc)
    (hname : Path.IsName name) (hlen : name.utf8ByteSize ≤ maxNameBytes)
    (hmade : tree.makeDirectories (Path.join dir name) = .ok made) :
    made = tree ∨
      made = tree.set (loc ++ [name]) .directory ∧ tree.get? (loc ++ [name]) = none := by
  have hne := Path.join_ne_empty hname dir
  unfold makeDirectories makeDirectoriesUp at hmade
  rw [if_neg hne] at hmade
  by_cases hpath : IsPath (Path.join dir name)
  · have hlocate := h.locate_join hname hlen hpath
    unfold spotAt at hlocate
    cases hget : tree.get? (loc ++ [name]) with
    | none =>
      rw [hget] at hlocate
      right
      simpa [makeDirectory, hlocate, bind, Except.bind, eq_comm] using hmade
    | some node =>
      rw [hget] at hlocate
      left
      have hmake : tree.makeDirectory (Path.join dir name) = .error .alreadyExists := by
        simp [makeDirectory, hlocate, bind, Except.bind]
      simp only [hmake] at hmade
      rw [if_neg (by decide)] at hmade
      split at hmade
      · simpa [eq_comm] using hmade
      · simp at hmade
  · obtain ⟨cause, hcause, hlocate⟩ := locate_of_not_isPath hne hpath
    simp [makeDirectory, hlocate, bind, Except.bind, isDirectory, node?, hcause] at hmade

/-- Where a directory in a directory is found, it stands itself or a link to it does. -/
theorem IsAt.get?_of_isDirectory_join (h : tree.IsAt dir loc) (hname : Path.IsName name)
    (hlen : name.utf8ByteSize ≤ maxNameBytes)
    (hdirectory : tree.isDirectory (Path.join dir name) = true) :
    tree.get? (loc ++ [name]) = some .directory ∨
      ∃ target, tree.get? (loc ++ [name]) = some (.link target) := by
  by_cases hlink : ∃ target, tree.get? (loc ++ [name]) = some (.link target)
  · exact .inr hlink
  · left
    have hfollow := h.locate_join_follow hname hlen (isDirectory_iff.mp hdirectory).1
      fun target hget => hlink ⟨target, hget⟩
    unfold isDirectory node? at hdirectory
    rw [hfollow, spotAt] at hdirectory
    cases hget : tree.get? (loc ++ [name]) with
    | none => simp [hget] at hdirectory
    | some node => simpa [hget] using hdirectory

/-- A path to a directory in a directory leads into it. -/
theorem exists_isAt_of_isDirectory (hname : Path.IsName name)
    (hdirectory : tree.isDirectory (Path.join dir name) = true) :
    ∃ place, tree.IsAt (Path.join dir name) place := by
  obtain ⟨-, left, place, enters⟩ := isDirectory_iff.mp hdirectory
  refine ⟨place, left, ?_⟩
  rwa [Path.above_join hname, ← Path.parts_join hname]

/-- A directory in a directory that can be made is there then: it was, or one node was put. -/
theorem IsAt.of_makeDirectories_join {made : FileTree} (h : tree.IsAt dir loc)
    (hname : Path.IsName name) (hlen : name.utf8ByteSize ≤ maxNameBytes)
    (noLink : ∀ target, tree.get? (loc ++ [name]) ≠ some (.link target))
    (hmade : tree.makeDirectories (Path.join dir name) = .ok made) :
    made = tree ∧ tree.get? (loc ++ [name]) = some .directory ∨
      made = tree.set (loc ++ [name]) .directory ∧ tree.get? (loc ++ [name]) = none := by
  rcases h.makeDirectories_join hname hlen hmade with rfl | put
  · have hdirectory := (isDirectory_of_makeDirectories hmade).resolve_left
      (Path.join_ne_empty hname dir)
    rcases h.get?_of_isDirectory_join hname hlen hdirectory with hget | ⟨target, hget⟩
    · exact .inl ⟨rfl, hget⟩
    · exact absurd hget (noLink target)
  · exact .inr put

/-- A file can be put at a name in a directory unless a directory is there. -/
theorem isBlind_of_leadsTo {place : Location}
    (leads : (Reach.spot (tree.spotAt loc)).LeadsTo place)
    (noLink : ∀ target, tree.get? loc ≠ some (.link target)) :
    loc = place ∧ tree.IsBlind loc := by
  unfold spotAt at leads
  cases hget : tree.get? loc with
  | none =>
    rw [hget] at leads
    exact ⟨leads.1, isBlind_of_absent hget⟩
  | some node =>
    rw [hget] at leads
    refine ⟨leads.1, ?_, noLink⟩
    rw [hget]
    exact fun h => leads.2 (Option.some.inj h)

/-- A file is moved by taking it from its place and putting it where the target leads. -/
theorem rename_eq_ok_iff {source target : String} {content : Content} {mode : Nat}
    {tree' : FileTree} (hs : tree.locate false source = .ok (.present loc (.file content mode))) :
    tree.rename source target = .ok tree' ↔
      ∃ spot there, tree.locate false target = .ok spot ∧ (Reach.spot spot).LeadsTo there ∧
        tree' = (tree.erase loc).set there (.file content mode) := by
  unfold rename
  cases ht : tree.locate false target with
  | error cause => simp [hs, bind, Except.bind]
  | ok spot =>
    cases spot with
    | absent there slashed =>
      cases slashed <;> simp [hs, bind, Except.bind, Reach.LeadsTo, eq_comm]
    | present there node =>
      cases node <;> simp [hs, bind, Except.bind, Reach.LeadsTo, eq_comm]

theorem IsBlind.erase {place : Location} (h : tree.IsBlind place) (source : Location) :
    (tree.erase source).IsBlind place := by
  by_cases hplace : place = source
  · subst hplace
    have hne : place ≠ [] := by
      rintro rfl
      exact h.1 tree.get?_root
    constructor <;> simp [tree.get?_erase_self hne]
  · unfold IsBlind
    rw [tree.get?_erase_other hplace]
    exact h

theorem IsAt.move {source target : Location} (h : tree.IsAt dir loc) (hs : tree.IsBlind source)
    (ht : tree.IsBlind target) (node : Node) :
    ((tree.erase source).set target node).IsAt dir loc :=
  (h.erase hs).set (ht.erase source) node

end FileTree

end RobotPipeline
