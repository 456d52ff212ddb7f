/-
  RobotPipeline/Proofs/FileTree/Enter.lean
  ========================================
  **The way into a directory, and the names in it.**

  A path that is put together from a directory and a name leads through the
  directory: `Enters` is that part of the walk, with the links that are still
  left when it has come there. What the name then leads to is one look at the
  tree (`locate_join`), and a change of the tree that keeps its directories
  and links keeps the way in (`Enters.mono`).
-/
import RobotPipeline.Proofs.FileTree.Replace

namespace RobotPipeline

/-! ### The parts of a path in a directory -/

namespace Path

/-- The name of a node in a directory; no slash is in it. -/
def IsName (name : String) : Prop := '/' ∉ name.toList ∧ name ≠ "" ∧ name ≠ "." ∧ name ≠ ".."

/-- The parts of the paths in a directory, before the name. -/
def above (dir : String) : List String :=
  if dir = "" then []
  else if dir.toList.getLast? = some '/' then (parts dir).dropLast
  else parts dir

theorem splitSlashes_ne_nil (cs : List Char) : splitSlashes cs ≠ [] := by
  cases cs with
  | nil => simp [splitSlashes]
  | cons c rest =>
    unfold splitSlashes
    split
    · simp
    · split <;> simp

theorem splitSlashes_of_not_mem {cs : List Char} (h : '/' ∉ cs) : splitSlashes cs = [cs] := by
  induction cs with
  | nil => rfl
  | cons c rest ih =>
    have hc : c ≠ '/' := by
      rintro rfl
      simp at h
    have hrest : '/' ∉ rest := fun hmem => h (List.mem_cons_of_mem c hmem)
    simp [splitSlashes, hc, ih hrest]

theorem splitSlashes_append_slash (cs ds : List Char) :
    splitSlashes (cs ++ '/' :: ds) = splitSlashes cs ++ splitSlashes ds := by
  induction cs with
  | nil => simp [splitSlashes]
  | cons c rest ih =>
    by_cases hc : c = '/'
    · simp [splitSlashes, hc, ih]
    · simp only [List.cons_append, splitSlashes, if_neg hc, ih]
      cases hrest : splitSlashes rest with
      | nil => exact absurd hrest (splitSlashes_ne_nil rest)
      | cons part parts => rfl

theorem isAbsolute_of_isName {name : String} (h : IsName name) : isAbsolute name = false := by
  unfold isAbsolute
  cases hcs : name.toList with
  | nil => rfl
  | cons c rest =>
    have hc : c ≠ '/' := by
      rintro rfl
      exact h.1 (by simp [hcs])
    simpa using hc

/-- The path of a name in a directory leads through the directory to the name. -/
theorem parts_join {name : String} (h : IsName name) (dir : String) :
    parts (join dir name) = above dir ++ [name] := by
  have hname : parts name = [name] := by
    simp [parts, splitSlashes_of_not_mem h.1]
  unfold join above
  rw [isAbsolute_of_isName h]
  by_cases hdir : dir = ""
  · simp [hdir, hname]
  · have hne : dir.isEmpty = false := by simpa [String.isEmpty_iff] using hdir
    simp only [hne, if_neg hdir, Bool.false_eq_true, if_false, beq_iff_eq]
    by_cases hlast : dir.toList.getLast? = some '/'
    · -- the directory ends in a slash: its last part is empty
      obtain ⟨cs, hcs⟩ := List.getLast?_eq_some_iff.mp hlast
      rw [if_pos hlast, if_pos hlast]
      simp [parts, hcs, splitSlashes_append_slash, splitSlashes_of_not_mem h.1, splitSlashes]
    · rw [if_neg hlast, if_neg hlast]
      simp [parts, splitSlashes_append_slash, splitSlashes_of_not_mem h.1]

theorem toList_join {name : String} (h : IsName name) (dir : String) :
    ∃ slash : List Char, (∀ c ∈ slash, c = '/') ∧ (dir = "" → slash = []) ∧
      (join dir name).toList = dir.toList ++ slash ++ name.toList := by
  unfold join
  rw [isAbsolute_of_isName h]
  by_cases hdir : dir = ""
  · exact ⟨[], by simp [hdir]⟩
  · have hne : dir.isEmpty = false := by simpa [String.isEmpty_iff] using hdir
    simp only [hne, Bool.false_eq_true, if_false]
    split
    · exact ⟨[], by simp⟩
    · exact ⟨['/'], by simp [hdir]⟩

theorem join_ne_empty {name : String} (h : IsName name) (dir : String) : join dir name ≠ "" := by
  obtain ⟨slash, -, -, hlist⟩ := toList_join h dir
  intro hempty
  rw [hempty] at hlist
  have hname : name.toList = [] := by simp_all
  exact h.2.1 (by simpa using hname)

theorem isAbsolute_join {name : String} (h : IsName name) (dir : String) :
    isAbsolute (join dir name) = isAbsolute dir := by
  obtain ⟨slash, -, hslash, hlist⟩ := toList_join h dir
  by_cases hdir : dir = ""
  · have hsame : (join dir name).toList = name.toList := by
      rw [hlist, hslash hdir, hdir]
      rfl
    have habs : isAbsolute (join dir name) = isAbsolute name := by simp [isAbsolute, hsame]
    rw [habs, isAbsolute_of_isName h, hdir]
    rfl
  · have hhead : dir.toList ≠ [] := by simpa using hdir
    obtain ⟨c, rest, hcs⟩ := List.exists_cons_of_ne_nil hhead
    simp [isAbsolute, hlist, hcs]

theorem getLast?_toList_join {name : String} (h : IsName name) (dir : String) :
    (join dir name).toList.getLast? ≠ some '/' := by
  obtain ⟨slash, -, -, hlist⟩ := toList_join h dir
  have hname : name.toList ≠ [] := by simpa using h.2.1
  rw [hlist, List.getLast?_append, List.getLast?_eq_some_getLast hname]
  intro hslash
  have hend : name.toList.getLast hname = '/' := by simpa using hslash
  exact h.1 (hend ▸ List.getLast_mem hname)

/-- A directory in a directory does not end in a slash. -/
theorem above_join {name : String} (h : IsName name) (dir : String) :
    above (join dir name) = above dir ++ [name] := by
  rw [← parts_join h dir, above, if_neg (join_ne_empty h dir), if_neg (getLast?_toList_join h dir)]

/-- A name is put behind a directory in a directory with a slash between them. -/
theorem join_join {sub name : String} (hsub : IsName sub) (hname : IsName name) (dir : String) :
    join (join dir sub) name = join dir sub ++ "/" ++ name := by
  have hempty : (join dir sub).isEmpty = false := by
    simpa [String.isEmpty_iff] using join_ne_empty hsub dir
  have hlast : ((join dir sub).toList.getLast? == some '/') = false := by
    simpa using getLast?_toList_join hsub dir
  rw [join, isAbsolute_of_isName hname, hempty, hlast]
  rfl

end Path

namespace FileTree

/-! ### Directories and links that stay -/

/-- All directories and links of one tree are in another. -/
structure Extends (tree tree' : FileTree) : Prop where
  directory : ∀ loc, tree.get? loc = some .directory → tree'.get? loc = some .directory
  link : ∀ loc target, tree.get? loc = some (.link target) → tree'.get? loc = some (.link target)

theorem Extends.refl (tree : FileTree) : tree.Extends tree := ⟨fun _ h => h, fun _ _ h => h⟩

/-- A change at a place where neither was leaves them all. -/
theorem IsBlind.extends {tree tree' : FileTree} {there : Location} (blind : tree.IsBlind there)
    (other : ∀ loc, loc ≠ there → tree'.get? loc = tree.get? loc) : tree.Extends tree' := by
  constructor
  · intro loc hget
    have hne : loc ≠ there := by
      rintro rfl
      exact blind.1 hget
    rw [other loc hne, hget]
  · intro loc target hget
    have hne : loc ≠ there := by
      rintro rfl
      exact blind.2 target hget
    rw [other loc hne, hget]

theorem extends_set {tree : FileTree} {there : Location} (blind : tree.IsBlind there)
    (node : Node) : tree.Extends (tree.set there node) :=
  blind.extends fun _ hne => get?_set_other tree node hne

theorem extends_erase {tree : FileTree} {there : Location} (blind : tree.IsBlind there) :
    tree.Extends (tree.erase there) :=
  blind.extends fun _ hne => get?_erase_other tree hne

/-! ### The way in -/

/-- A name that a walk looks up. -/
def IsLookedUp (part : String) : Prop :=
  part ≠ "" ∧ part ≠ "." ∧ part ≠ ".." ∧ part.utf8ByteSize ≤ maxNameBytes

/-- Walking along parts from a directory, with some links left to follow, comes into a directory,
with links left. -/
inductive Enters (tree : FileTree) : Nat → Location → List String → Nat → Location → Prop where
  | here {links : Nat} {loc : Location} : Enters tree links loc [] links loc
  | stay {links left : Nat} {loc dir : Location} {part : String} {rest : List String}
      (h : part = "" ∨ part = ".") (next : Enters tree links loc rest left dir) :
      Enters tree links loc (part :: rest) left dir
  | up {links left : Nat} {loc dir : Location} {rest : List String}
      (next : Enters tree links loc.dropLast rest left dir) :
      Enters tree links loc (".." :: rest) left dir
  | down {links left : Nat} {loc dir : Location} {part : String} {rest : List String}
      (h : IsLookedUp part) (hget : tree.get? (loc ++ [part]) = some .directory)
      (next : Enters tree links (loc ++ [part]) rest left dir) :
      Enters tree links loc (part :: rest) left dir
  | follow {links left : Nat} {loc dir : Location} {part target : String} {rest : List String}
      (h : IsLookedUp part) (hget : tree.get? (loc ++ [part]) = some (.link target))
      (next : Enters tree links (if Path.isAbsolute target then [] else loc)
        (Path.parts target ++ rest) left dir) :
      Enters tree (links + 1) loc (part :: rest) left dir

section Walk

variable {tree : FileTree} {loc : Location} {part : String} {rest : List String}

theorem walk_stay (h : part = "" ∨ part = ".") (follow : Bool) (links : Nat) :
    tree.walk follow links loc (part :: rest) = tree.walk follow links loc rest := by
  rw [walk, walk, walkToLink, if_pos h]

theorem walk_up (follow : Bool) (links : Nat) :
    tree.walk follow links loc (".." :: rest) = tree.walk follow links loc.dropLast rest := by
  rw [walk, walk, walkToLink, if_neg (by decide), if_pos rfl]

theorem walkToLink_lookedUp (h : IsLookedUp part) (follow : Bool) :
    tree.walkToLink follow loc (part :: rest) =
      match tree.get? (loc ++ [part]) with
      | none =>
        if rest.all (· = "") then .ok (.spot (.absent (loc ++ [part]) (!rest.isEmpty)))
        else .error .notFound
      | some .directory => tree.walkToLink follow (loc ++ [part]) rest
      | some (.link target) =>
        if rest.isEmpty ∧ !follow then .ok (.spot (.present (loc ++ [part]) (.link target)))
        else
          .ok (.link (if Path.isAbsolute target then [] else loc) (Path.parts target ++ rest))
      | some node =>
        if rest.isEmpty then .ok (.spot (.present (loc ++ [part]) node)) else .error .notADirectory := by
  obtain ⟨hempty, hdot, hup, hlen⟩ := h
  have hstay : ¬ (part = "" ∨ part = ".") := by simp [hempty, hdot]
  rw [walkToLink]
  exact (if_neg hstay).trans ((if_neg hup).trans (if_neg (Nat.not_lt.mpr hlen)))

theorem walk_down (h : IsLookedUp part) (hget : tree.get? (loc ++ [part]) = some .directory)
    (follow : Bool) (links : Nat) :
    tree.walk follow links loc (part :: rest) = tree.walk follow links (loc ++ [part]) rest := by
  rw [walk, walk, walkToLink_lookedUp h, hget]

theorem walk_follow {target : String} (h : IsLookedUp part)
    (hget : tree.get? (loc ++ [part]) = some (.link target)) (hrest : rest ≠ []) (follow : Bool)
    (links : Nat) :
    tree.walk follow (links + 1) loc (part :: rest) =
      tree.walk follow links (if Path.isAbsolute target then [] else loc)
        (Path.parts target ++ rest) := by
  rw [walk, walkToLink_lookedUp h, hget]
  simp [hrest]

/-- After the way in, a walk goes on from the directory. -/
theorem Enters.walk_append {links left : Nat} {dir : Location} {parts more : List String}
    (h : Enters tree links loc parts left dir) (hmore : more ≠ []) (follow : Bool) :
    tree.walk follow links loc (parts ++ more) = tree.walk follow left dir more := by
  induction h with
  | here => rfl
  | stay h next ih => rw [List.cons_append, walk_stay h, ih]
  | up next ih => rw [List.cons_append, walk_up, ih]
  | down h hget next ih => rw [List.cons_append, walk_down h hget, ih]
  | follow h hget next ih =>
    rw [List.cons_append, walk_follow h hget (by simp [hmore]), ← List.append_assoc, ih]

/-- A walk that is not at its last name gets past its first part in one of four ways. -/
theorem of_walk_cons {follow : Bool} {links : Nat} {spot : Spot}
    (h : tree.walk follow links loc (part :: rest) = .ok spot)
    (hmore : rest.all (fun part => part = "") = false) :
    (part = "" ∨ part = ".") ∨ part = ".." ∨
      IsLookedUp part ∧ (tree.get? (loc ++ [part]) = some .directory ∨
        ∃ target left, tree.get? (loc ++ [part]) = some (.link target) ∧ links = left + 1) := by
  by_cases hstay : part = "" ∨ part = "."
  · exact .inl hstay
  by_cases hup : part = ".."
  · exact .inr (.inl hup)
  by_cases hlen : maxNameBytes < part.utf8ByteSize
  · rw [walk, walkToLink, if_neg hstay, if_neg hup, if_pos hlen] at h
    cases h
  · have hlook : IsLookedUp part := by
      rw [not_or] at hstay
      exact ⟨hstay.1, hstay.2, hup, Nat.not_lt.mp hlen⟩
    have hrest : rest ≠ [] := by
      rintro rfl
      simp at hmore
    refine .inr (.inr ⟨hlook, ?_⟩)
    rw [walk, walkToLink_lookedUp hlook] at h
    cases hget : tree.get? (loc ++ [part]) with
    | none => simp [hget, hmore] at h
    | some node =>
      cases node with
      | directory => exact .inl rfl
      | link target =>
        -- the last link may not be followed any more
        cases links with
        | zero => simp [hget, hrest] at h
        | succ left => exact .inr ⟨target, left, rfl, rfl⟩
      | file content mode => simp [hget, hrest] at h
      | device => simp [hget, hrest] at h

/-- A walk to a name that ends has come into a directory first. -/
theorem exists_enters {name : String} (hname : name ≠ "") (follow : Bool) (links : Nat)
    (loc : Location) (parts : List String) {spot : Spot}
    (h : tree.walk follow links loc (parts ++ [name]) = .ok spot) :
    ∃ left dir, Enters tree links loc parts left dir := by
  -- a link puts its own parts before the rest, so the outer induction is on the links that are left
  induction links using Nat.strongRecOn generalizing loc parts with
  | ind links behind =>
    induction parts generalizing loc with
    | nil => exact ⟨links, loc, .here⟩
    | cons part rest ih =>
      rw [List.cons_append] at h
      rcases of_walk_cons h (by simp [hname]) with
        hstay | rfl | ⟨hlook, hget | ⟨target, links, hget, rfl⟩⟩
      · rw [walk_stay hstay] at h
        obtain ⟨left, dir, next⟩ := ih loc h
        exact ⟨left, dir, .stay hstay next⟩
      · rw [walk_up] at h
        obtain ⟨left, dir, next⟩ := ih loc.dropLast h
        exact ⟨left, dir, .up next⟩
      · rw [walk_down hlook hget] at h
        obtain ⟨left, dir, next⟩ := ih _ h
        exact ⟨left, dir, .down hlook hget next⟩
      · rw [walk_follow hlook hget (by simp), ← List.append_assoc] at h
        obtain ⟨left, dir, next⟩ := behind links (Nat.lt_succ_self links) _ _ h
        exact ⟨left, dir, .follow hlook hget next⟩

/-- What a name in a directory leads to, links not followed. -/
def spotAt (tree : FileTree) (loc : Location) : Spot :=
  match tree.get? loc with
  | none => .absent loc false
  | some node => .present loc node

theorem walk_name {name : String} (h : IsLookedUp name) (links : Nat) (dir : Location) :
    tree.walk false links dir [name] = .ok (tree.spotAt (dir ++ [name])) := by
  rw [walk, walkToLink_lookedUp h, spotAt]
  cases tree.get? (dir ++ [name]) with
  | none => rfl
  | some node => cases node <;> rfl

theorem walk_name_follow {name : String} (h : IsLookedUp name) (links : Nat) (dir : Location)
    (noLink : ∀ target, tree.get? (dir ++ [name]) ≠ some (.link target)) :
    tree.walk true links dir [name] = .ok (tree.spotAt (dir ++ [name])) := by
  rw [walk, walkToLink_lookedUp h, spotAt]
  cases hget : tree.get? (dir ++ [name]) with
  | none => rfl
  | some node =>
    cases node with
    | link target => exact absurd hget (noLink target)
    | _ => rfl

/-- The way into a directory stays when directories and links do. -/
theorem Enters.mono {tree' : FileTree} {links left : Nat} {dir : Location} {parts : List String}
    (h : Enters tree links loc parts left dir) (larger : tree.Extends tree') :
    Enters tree' links loc parts left dir := by
  induction h with
  | here => exact .here
  | stay h _ ih => exact .stay h ih
  | up _ ih => exact .up ih
  | down h hget _ ih => exact .down h (larger.directory _ hget) ih
  | follow h hget _ ih => exact .follow h (larger.link _ _ hget) ih

theorem Enters.trans {links middle left : Nat} {dir last : Location} {parts more : List String}
    (h : Enters tree links loc parts middle dir) (next : Enters tree middle dir more left last) :
    Enters tree links loc (parts ++ more) left last := by
  induction h with
  | here => exact next
  | stay h _ ih => exact .stay h (ih next)
  | up _ ih => exact .up (ih next)
  | down h hget _ ih => exact .down h hget (ih next)
  | follow h hget _ ih =>
    rw [List.cons_append]
    refine .follow h hget ?_
    rw [← List.append_assoc]
    exact ih next

/-- The way into a directory leads to the directory itself, through links. -/
theorem Enters.walk_eq {links left : Nat} {dir : Location} {parts : List String}
    (h : Enters tree links loc parts left dir) :
    tree.walk true links loc parts = .ok (.present dir .directory) := by
  induction h with
  | here => rw [walk, walkToLink]
  | stay h next ih => rw [walk_stay h, ih]
  | up next ih => rw [walk_up, ih]
  | down h hget next ih => rw [walk_down h hget, ih]
  | follow h hget next ih =>
    rw [walk, walkToLink_lookedUp h, hget]
    simpa using ih

/-- There is something at the end of a way into a directory: it, or a link. -/
theorem Enters.exists_present {links left : Nat} {dir : Location} {parts : List String}
    (h : Enters tree links loc parts left dir) :
    ∃ there node, tree.walk false links loc parts = .ok (.present there node) := by
  induction h with
  | @here links loc => exact ⟨loc, .directory, by rw [walk, walkToLink]⟩
  | stay h next ih => rwa [walk_stay h]
  | up next ih => rwa [walk_up]
  | down h hget next ih => rwa [walk_down h hget]
  | @follow links left loc dir part target rest h hget next ih =>
    by_cases hrest : rest = []
    · subst hrest
      rw [walk, walkToLink_lookedUp h, hget]
      exact ⟨loc ++ [part], .link target, by simp⟩
    · rwa [walk_follow h hget hrest]

end Walk

/-! ### Directories given by their paths -/

/-- What stands in the directory of a path is found below a location. -/
def IsAt (tree : FileTree) (dir : String) (loc : Location) : Prop :=
  ∃ left, Enters tree maxLinks (if Path.isAbsolute dir then [] else tree.here) (Path.above dir)
    left loc

variable {tree : FileTree} {dir name : String} {loc : Location}

theorem isLookedUp_of_isName (h : Path.IsName name) (hlen : name.utf8ByteSize ≤ maxNameBytes) :
    IsLookedUp name :=
  ⟨h.2.1, h.2.2.1, h.2.2.2, hlen⟩

theorem walk_long (h : Path.IsName name) (hlong : maxNameBytes < name.utf8ByteSize) (follow : Bool)
    (links : Nat) (loc : Location) : tree.walk follow links loc [name] = .error .nameTooLong := by
  have hdot : ¬ (name = "" ∨ name = ".") := by simp [h.2.1, h.2.2.1]
  rw [walk, walkToLink, if_neg hdot, if_neg h.2.2.2, if_pos hlong]

/-- What a path in a directory leads to is what the name in the directory does. -/
theorem IsAt.locate_eq (h : tree.IsAt dir loc) (hname : Path.IsName name)
    (hpath : IsPath (Path.join dir name)) (follow : Bool) :
    ∃ left, tree.locate follow (Path.join dir name) = tree.walk follow left loc [name] := by
  obtain ⟨left, enters⟩ := h
  obtain ⟨hempty, hnul, hlen⟩ := hpath
  refine ⟨left, ?_⟩
  rw [locate, if_neg hempty, if_neg (by simp [hnul]), if_neg (Nat.not_lt.mpr hlen),
    Path.parts_join hname, Path.isAbsolute_join hname, enters.walk_append (by simp)]

theorem IsAt.locate_join (h : tree.IsAt dir loc) (hname : Path.IsName name)
    (hlen : name.utf8ByteSize ≤ maxNameBytes) (hpath : IsPath (Path.join dir name)) :
    tree.locate false (Path.join dir name) = .ok (tree.spotAt (loc ++ [name])) := by
  obtain ⟨left, hlocate⟩ := h.locate_eq hname hpath false
  rw [hlocate, walk_name (isLookedUp_of_isName hname hlen)]

theorem IsAt.locate_join_follow (h : tree.IsAt dir loc) (hname : Path.IsName name)
    (hlen : name.utf8ByteSize ≤ maxNameBytes) (hpath : IsPath (Path.join dir name))
    (noLink : ∀ target, tree.get? (loc ++ [name]) ≠ some (.link target)) :
    tree.locate true (Path.join dir name) = .ok (tree.spotAt (loc ++ [name])) := by
  obtain ⟨left, hlocate⟩ := h.locate_eq hname hpath true
  rw [hlocate, walk_name_follow (isLookedUp_of_isName hname hlen) left loc noLink]

theorem IsAt.unique {loc' : Location} (h : tree.IsAt dir loc) (h' : tree.IsAt dir loc') :
    loc = loc' := by
  obtain ⟨_, enters⟩ := h
  obtain ⟨_, enters'⟩ := h'
  simpa using enters.walk_eq.symm.trans enters'.walk_eq

/-- A path to a name that leads somewhere leads into a directory. -/
theorem exists_isAt {follow : Bool} {spot : Spot} (hname : Path.IsName name)
    (h : tree.locate follow (Path.join dir name) = .ok spot) :
    ∃ loc, tree.IsAt dir loc ∧ name.utf8ByteSize ≤ maxNameBytes ∧
      IsPath (Path.join dir name) := by
  obtain ⟨hpath, hwalk⟩ := locate_eq_ok_iff.mp h
  rw [Path.parts_join hname, Path.isAbsolute_join hname] at hwalk
  obtain ⟨left, loc, enters⟩ := exists_enters hname.2.1 follow maxLinks _ _ hwalk
  refine ⟨loc, ⟨left, enters⟩, ?_, hpath⟩
  refine Nat.not_lt.mp fun hlong => ?_
  rw [enters.walk_append (by simp), walk_long hname hlong] at hwalk
  cases hwalk

theorem IsAt.join (h : tree.IsAt dir loc) (hname : Path.IsName name)
    (hlen : name.utf8ByteSize ≤ maxNameBytes)
    (hget : tree.get? (loc ++ [name]) = some .directory) :
    tree.IsAt (Path.join dir name) (loc ++ [name]) := by
  obtain ⟨left, enters⟩ := h
  refine ⟨left, ?_⟩
  rw [Path.isAbsolute_join hname, Path.above_join hname]
  exact enters.trans (.down (isLookedUp_of_isName hname hlen) hget .here)

/-! ### Changes that leave the way in -/

theorem isBlind_of_absent (h : tree.get? loc = none) : tree.IsBlind loc := by
  constructor <;> simp [h]

theorem isBlind_of_file {content : Content} {mode : Nat}
    (h : tree.get? loc = some (.file content mode)) : tree.IsBlind loc := by
  constructor <;> simp [h]

theorem IsAt.mono {tree' : FileTree} (h : tree.IsAt dir loc) (larger : tree.Extends tree')
    (same : tree'.here = tree.here) : tree'.IsAt dir loc := by
  obtain ⟨left, enters⟩ := h
  refine ⟨left, ?_⟩
  rw [same]
  exact enters.mono larger

theorem IsAt.set {there : Location} (h : tree.IsAt dir loc) (blind : tree.IsBlind there)
    (node : Node) : (tree.set there node).IsAt dir loc :=
  h.mono (extends_set blind node) rfl

theorem IsAt.erase {there : Location} (h : tree.IsAt dir loc) (blind : tree.IsBlind there) :
    (tree.erase there).IsAt dir loc :=
  h.mono (extends_erase blind) rfl

/-- Two trees with the same way into a directory and the same node at a name in it lead to the same
from there. -/
theorem IsAt.locate_congr {tree' : FileTree} (h : tree.IsAt dir loc) (h' : tree'.IsAt dir loc)
    (hname : Path.IsName name) (hget : tree'.get? (loc ++ [name]) = tree.get? (loc ++ [name])) :
    tree'.locate false (Path.join dir name) = tree.locate false (Path.join dir name) := by
  by_cases hpath : IsPath (Path.join dir name)
  · by_cases hlen : name.utf8ByteSize ≤ maxNameBytes
    · rw [h.locate_join hname hlen hpath, h'.locate_join hname hlen hpath, spotAt, spotAt, hget]
    · obtain ⟨left, hlocate⟩ := h.locate_eq hname hpath false
      obtain ⟨left', hlocate'⟩ := h'.locate_eq hname hpath false
      have hlong := Nat.not_le.mp hlen
      rw [hlocate, hlocate', walk_long hname hlong, walk_long hname hlong]
  · -- the path is refused before any walk
    have hempty := Path.join_ne_empty hname dir
    unfold IsPath at hpath
    rw [locate, locate, if_neg hempty, if_neg hempty]
    cases hnul : (Path.join dir name).toList.any (fun c => c.toNat = 0) with
    | true => rfl
    | false =>
      have hlong : maxPathBytes < (Path.join dir name).utf8ByteSize := by
        simpa [hempty, hnul] using hpath
      simp [hlong]

end FileTree

end RobotPipeline
