/-
  RobotPipeline/Proofs/FileTree/Linked.lean
  =========================================
  **What becomes of a path when the link at its end is replaced.**

  A file that is put in the place of a link stands at the end of the path, if
  the path still leads to a file (`exists_locate_of_isFile`): the way in is
  made of directories and links that were there before.

  It does lead there when something other than a directory could be reached
  through the link (`isFile_of_replace`). A way in that passes the link has to
  come into a directory behind it; but wherever a walk starts along the target
  of the link, it comes to the same node (`Enters.eq_directory`).
-/
import RobotPipeline.Proofs.FileTree.Made
import RobotPipeline.Proofs.FileTree.Shape

namespace RobotPipeline

/-! ### The last part of a path -/

namespace Path

/-- The parts of a path that ends in a name. -/
structure EndsIn (path : String) (before : List String) (name : String) : Prop where
  parts_eq : parts path = before ++ [name]
  ne_empty : name ≠ ""
  ne_dot : name ≠ "."
  ne_up : name ≠ ".."

theorem splitSlashes_append_of_not_mem {cs : List Char} (h : '/' ∉ cs) (ds : List Char) :
    ∃ before last, splitSlashes (ds ++ cs) = before ++ [last ++ cs] := by
  induction ds with
  | nil => exact ⟨[], [], splitSlashes_of_not_mem h⟩
  | cons d rest ih =>
    obtain ⟨before, last, hrest⟩ := ih
    rw [List.cons_append, splitSlashes]
    split
    · exact ⟨[] :: before, last, by rw [hrest, List.cons_append]⟩
    · rw [hrest]
      cases before with
      | nil => exact ⟨[], d :: last, rfl⟩
      | cons part before => exact ⟨(d :: part) :: before, last, rfl⟩

/-- With an extension at its end, a path ends in a name. -/
theorem exists_endsIn_json (s : String) : ∃ before name, EndsIn (s ++ ".json") before name := by
  obtain ⟨before, last, hsplit⟩ :=
    splitSlashes_append_of_not_mem (show '/' ∉ ".json".toList by decide) s.toList
  have long : ∀ short : String, short.length < 5 →
      String.ofList (last ++ ".json".toList) ≠ short := by
    rintro short hshort rfl
    have extension : ".json".length = 5 := rfl
    simp only [String.ofList_append, String.ofList_toList, String.length_append, extension]
      at hshort
    omega
  refine ⟨before.map String.ofList, String.ofList (last ++ ".json".toList), ?_,
    long _ (by decide), long _ (by decide), long _ (by decide)⟩
  rw [parts, String.toList_append, hsplit, List.map_append, List.map_singleton]

end Path

namespace FileTree

variable {tree tree' earlier : FileTree} {path name : String} {before : List String}
  {loc place there : Location} {content : Content} {mode : Nat}

/-! ### Ways in -/

theorem Within.extends (h : tree.Within tree') : tree.Extends tree' :=
  ⟨fun loc => h.get_eq loc .directory, fun loc target => h.get_eq loc (.link target)⟩

/-- A way along two lists of parts comes into a directory in between. -/
theorem Enters.of_append {links left : Nat} {dir : Location} {parts more : List String}
    (h : Enters tree links loc (parts ++ more) left dir) :
    ∃ middle between, Enters tree links loc parts middle between ∧
      Enters tree middle between more left dir := by
  generalize hall : parts ++ more = all at h
  induction h generalizing parts with
  | @here links loc =>
    obtain ⟨rfl, rfl⟩ := List.append_eq_nil_iff.mp hall
    exact ⟨links, loc, .here, .here⟩
  | @stay links left loc dir part rest h next ih =>
    rcases List.append_eq_cons_iff.mp hall with ⟨rfl, rfl⟩ | ⟨parts, rfl, rfl⟩
    · exact ⟨links, loc, .here, .stay h next⟩
    · obtain ⟨middle, between, first, second⟩ := ih rfl
      exact ⟨middle, between, .stay h first, second⟩
  | @up links left loc dir rest next ih =>
    rcases List.append_eq_cons_iff.mp hall with ⟨rfl, rfl⟩ | ⟨parts, rfl, rfl⟩
    · exact ⟨links, loc, .here, .up next⟩
    · obtain ⟨middle, between, first, second⟩ := ih rfl
      exact ⟨middle, between, .up first, second⟩
  | @down links left loc dir part rest h hget next ih =>
    rcases List.append_eq_cons_iff.mp hall with ⟨rfl, rfl⟩ | ⟨parts, rfl, rfl⟩
    · exact ⟨links, loc, .here, .down h hget next⟩
    · obtain ⟨middle, between, first, second⟩ := ih rfl
      exact ⟨middle, between, .down h hget first, second⟩
  | @follow links left loc dir part target rest h hget next ih =>
    rcases List.append_eq_cons_iff.mp hall with ⟨rfl, rfl⟩ | ⟨parts, rfl, rfl⟩
    · exact ⟨links + 1, loc, .here, .follow h hget next⟩
    · obtain ⟨middle, between, first, second⟩ := ih (List.append_assoc ..)
      exact ⟨middle, between, .follow h hget first, second⟩

/-- A walk comes to no node where there is none. -/
theorem walk_ne_present_of_absent {part : String} {rest : List String} {follow : Bool} {links : Nat}
    {node : Node} (h : IsLookedUp part) (hget : tree.get? (loc ++ [part]) = none) :
    tree.walk follow links loc (part :: rest) ≠ .ok (.present there node) := by
  rw [walk, walkToLink_lookedUp h, hget]
  cases rest.all (fun part => part = "") <;> simp

/-- Where a way comes into a directory, a walk that comes to a node comes to a directory, however
many links it may follow; also a walk in a tree with less in it. -/
theorem Enters.eq_directory {links left most : Nat} {dir : Location} {parts : List String}
    {node : Node} (h : Enters tree links loc parts left dir) (within : earlier.Within tree)
    (hwalk : earlier.walk true most loc parts = .ok (.present there node)) : node = .directory := by
  induction h generalizing most with
  | here =>
    rw [walk, walkToLink] at hwalk
    cases hwalk
    rfl
  | stay h _ ih =>
    rw [walk_stay h] at hwalk
    exact ih hwalk
  | up _ ih =>
    rw [walk_up] at hwalk
    exact ih hwalk
  | @down links left loc dir part rest h hget _ ih =>
    cases hearlier : earlier.get? (loc ++ [part]) with
    | none => exact absurd hwalk (walk_ne_present_of_absent h hearlier)
    | some met =>
      obtain rfl := Option.some.inj (hget.symm.trans (within.get_eq _ _ hearlier))
      rw [walk_down h hearlier] at hwalk
      exact ih hwalk
  | @follow links left loc dir part target rest h hget _ ih =>
    cases hearlier : earlier.get? (loc ++ [part]) with
    | none => exact absurd hwalk (walk_ne_present_of_absent h hearlier)
    | some met =>
      obtain rfl := Option.some.inj (hget.symm.trans (within.get_eq _ _ hearlier))
      rw [walk, walkToLink_lookedUp h, hearlier] at hwalk
      cases most with
      | zero => simp at hwalk
      | succ most => exact ih (by simpa using hwalk)

/-- A link that leads into no directory is on no way in, so another node may take its place. -/
theorem Enters.set_link {links left : Nat} {dir : Location} {parts : List String} {target : String}
    (h : Enters tree links loc parts left dir) (hget : tree.get? place = some (.link target))
    (dead : ∀ links left dir, ¬ Enters tree links
      (if Path.isAbsolute target then [] else place.dropLast) (Path.parts target) left dir)
    (node : Node) : Enters (tree.set place node) links loc parts left dir := by
  induction h with
  | here => exact .here
  | stay h _ ih => exact .stay h ih
  | up _ ih => exact .up ih
  | @down links left loc dir part rest h hdirectory _ ih =>
    have hne : loc ++ [part] ≠ place := by
      rintro rfl
      cases hdirectory.symm.trans hget
    exact .down h ((tree.get?_set_other node hne).trans hdirectory) ih
  | @follow links left loc dir part other rest h hlink next ih =>
    have hne : loc ++ [part] ≠ place := by
      rintro rfl
      obtain rfl : other = target := by simpa using hlink.symm.trans hget
      obtain ⟨middle, between, first, -⟩ := next.of_append
      rw [List.dropLast_concat] at dead
      exact dead links middle between first
    exact .follow h ((tree.get?_set_other node hne).trans hlink) ih

/-! ### The end of a path -/

/-- A path that ends in a name leads into a directory, and to what is there under the name. -/
theorem exists_enters_of_locate {follow : Bool} {spot : Spot} (ends : Path.EndsIn path before name)
    (h : tree.locate follow path = .ok spot) :
    IsPath path ∧ IsLookedUp name ∧ ∃ left dir,
      Enters tree maxLinks (if Path.isAbsolute path then [] else tree.here) before left dir ∧
      tree.walk follow left dir [name] = .ok spot := by
  obtain ⟨hpath, hwalk⟩ := locate_eq_ok_iff.mp h
  rw [ends.parts_eq] at hwalk
  obtain ⟨left, dir, enters⟩ := exists_enters ends.ne_empty follow maxLinks _ _ hwalk
  rw [enters.walk_append (by simp)] at hwalk
  refine ⟨hpath, ⟨ends.ne_empty, ends.ne_dot, ends.ne_up, Nat.not_lt.mp fun hlong => ?_⟩, left, dir,
    enters, hwalk⟩
  have hstay : ¬ (name = "" ∨ name = ".") := by simp [ends.ne_empty, ends.ne_dot]
  rw [walk, walkToLink, if_neg hstay, if_neg ends.ne_up, if_pos hlong] at hwalk
  cases hwalk

/-- Along a way in, a path leads to the file under its name. -/
theorem locate_of_enters {left : Nat} {dir : Location} (ends : Path.EndsIn path before name)
    (hpath : IsPath path) (hlook : IsLookedUp name)
    (enters : Enters tree maxLinks (if Path.isAbsolute path then [] else tree.here) before left dir)
    (hget : tree.get? (dir ++ [name]) = some (.file content mode)) (follow : Bool) :
    tree.locate follow path = .ok (.present (dir ++ [name]) (.file content mode)) := by
  rw [locate_eq_ok_iff, ends.parts_eq, enters.walk_append (by simp), walk,
    walkToLink_lookedUp hlook, hget]
  exact ⟨hpath, rfl⟩

theorem exists_spot_of_isFile (h : tree.isFile path = true) :
    ∃ spot, tree.locate true path = .ok spot := by
  unfold isFile node? at h
  cases hlocate : tree.locate true path with
  | error cause => simp [hlocate] at h
  | ok spot => exact ⟨spot, rfl⟩

/-- Where a file is put at the end of a path, it takes the place of no directory. -/
theorem exists_set_of_replace (ends : Path.EndsIn path before name)
    (h : tree.replace path content = .ok tree') :
    IsPath path ∧ IsLookedUp name ∧ ∃ left dir,
      Enters tree maxLinks (if Path.isAbsolute path then [] else tree.here) before left dir ∧
      tree.get? (dir ++ [name]) ≠ some .directory ∧
      tree' = tree.set (dir ++ [name]) (.file content privateMode) := by
  unfold replace at h
  cases hspot : tree.locate false path with
  | error cause => simp [hspot, bind, Except.bind] at h
  | ok spot =>
    obtain ⟨hpath, hlook, left, dir, enters, hwalk⟩ := exists_enters_of_locate ends hspot
    obtain rfl := Except.ok.inj ((walk_name hlook left dir).symm.trans hwalk)
    refine ⟨hpath, hlook, left, dir, enters, ?_⟩
    rw [hspot, spotAt] at h
    cases hget : tree.get? (dir ++ [name]) with
    | none => exact ⟨by simp, by simpa [hget, bind, Except.bind, eq_comm] using h⟩
    | some node => cases node <;> simp_all [bind, Except.bind]

/-- The file that was put at the end of a path stands there, if the path leads to a file. -/
theorem exists_locate_of_isFile (ends : Path.EndsIn path before name)
    (h : tree.replace path content = .ok tree') (leads : tree'.isFile path = true) :
    ∃ place, ∀ follow, tree'.locate follow path = .ok (.present place (.file content privateMode)) := by
  obtain ⟨hpath, hlook, left, dir, enters, hne, rfl⟩ := exists_set_of_replace ends h
  obtain ⟨spot, hspot⟩ := exists_spot_of_isFile leads
  obtain ⟨-, -, left', dir', enters', -⟩ := exists_enters_of_locate ends hspot
  -- the way in is the one from before, as it does not lead through the new file
  have hget := tree.get?_set_self (.file content privateMode) (show dir ++ [name] ≠ [] by simp)
  have back : Extends _ tree := (isBlind_of_file hget).extends
    fun other hne => (tree.get?_set_other _ hne).symm
  obtain rfl : dir = dir' := by
    simpa using enters.walk_eq.symm.trans (enters'.mono back).walk_eq
  exact ⟨dir ++ [name], locate_of_enters ends hpath hlook enters' hget⟩

/-- A path that led to something other than a directory leads to the file that was put at its end,
also when it led there through a link that the file was put in place of. -/
theorem isFile_of_replace {node : Node} (ends : Path.EndsIn path before name)
    (within : earlier.Within tree) (hearlier : earlier.locate true path = .ok (.present there node))
    (hnode : node ≠ .directory) (h : tree.replace path content = .ok tree') :
    tree'.isFile path = true := by
  obtain ⟨hpath, hlook, left, dir, enters, hne, rfl⟩ := exists_set_of_replace ends h
  obtain ⟨left', enters'⟩ : ∃ left', Enters (tree.set (dir ++ [name]) (.file content privateMode))
      maxLinks (if Path.isAbsolute path then [] else tree.here) before left' dir := by
    refine ⟨left, ?_⟩
    by_cases hlink : ∃ target, tree.get? (dir ++ [name]) = some (.link target)
    · obtain ⟨target, hget⟩ := hlink
      refine enters.set_link hget ?_ _
      intro links after into inside
      rw [List.dropLast_concat] at inside
      -- the walk from before came to the link as well, and followed it
      obtain ⟨-, -, most, dir', enters', hwalk⟩ := exists_enters_of_locate ends hearlier
      rw [← within.here_eq] at enters'
      obtain rfl : dir = dir' := by
        simpa using enters.walk_eq.symm.trans (enters'.mono within.extends).walk_eq
      cases hmet : earlier.get? (dir ++ [name]) with
      | none => exact walk_ne_present_of_absent hlook hmet hwalk
      | some met =>
        obtain rfl := Option.some.inj (hget.symm.trans (within.get_eq _ _ hmet))
        rw [walk, walkToLink_lookedUp hlook, hmet] at hwalk
        cases most with
        | zero => simp at hwalk
        | succ most => exact hnode (inside.eq_directory within (by simpa using hwalk))
    · exact enters.mono (extends_set ⟨hne, fun target hget => hlink ⟨target, hget⟩⟩ _)
  have hget := tree.get?_set_self (.file content privateMode) (show dir ++ [name] ≠ [] by simp)
  simp [isFile, node?, locate_of_enters ends hpath hlook enters' hget]

end FileTree

end RobotPipeline
