/-
  RobotPipeline/Proofs/Ledger/Moved.lean
  ======================================
  **What the move of a snapshot does to all files.**

  The archive of a ledger may be a directory that is still to be made, one that
  is there, or a symbolic link to one. In each case there is one location that
  it leads to, and that is never the location of the ledger itself: a link
  which makes the two the same would stand in the archive
  (`Ledger.exists_prepared`).

  A name for the snapshot is searched among infinitely many, and the search
  ends at the first one that is free (`Ledger.exists_first_free`). The move
  then takes one file from its place and puts it where nothing was
  (`Ledger.Relocation`), and every other location keeps what it has.
-/
import RobotPipeline.Proofs.Ledger.RoundTrip

namespace RobotPipeline

/-- Where a name in a directory exists, the directory does. -/
theorem FileTree.exists_isAt_of_pathExists {tree : FileTree} {dir name : String}
    (hname : Path.IsName name) (h : tree.pathExists (Path.join dir name) = true) :
    ∃ loc, tree.IsAt dir loc := by
  unfold pathExists node? at h
  cases hspot : tree.locate true (Path.join dir name) with
  | error cause => simp [hspot] at h
  | ok spot =>
    obtain ⟨loc, isAt, -⟩ := exists_isAt hname hspot
    exact ⟨loc, isAt⟩

namespace Ledger

variable {l : Ledger} {tree tree' made : FileTree} {dataset name path : String}
  {loc arch : Location} {content : Content} {mode : Nat} {now : Instant}

/-! ### The search for a name -/

/-- The names that are tried for a snapshot, in this order. -/
def candidate (name : String) : Nat → String
  | 0 => name
  | n + 1 => numbered name (n + 1)

theorem candidate_succ (name : String) (n : Nat) : candidate name (n + 1) = numbered name (n + 1) :=
  rfl

theorem isTried_candidate (name : String) (n : Nat) : IsTried name n (candidate name n) := by
  cases n with
  | zero => exact .bare
  | succ n => exact .numbered (Nat.le_refl _)

theorem isName_candidate {s : String} (h : Path.IsSafe s) (n : Nat) :
    Path.IsName (candidate (s ++ ".json") n) :=
  isName_of_isTried h (isTried_candidate _ n)

/-- The search ends, after no more tries than there are entries and two, at the first name that is
free. -/
theorem exists_first_free (tree : FileTree) (dir : String) {s : String} (h : Path.IsSafe s) :
    ∃ n ≤ tree.entries.length + 1,
      freePath tree dir (s ++ ".json") = Path.join dir (candidate (s ++ ".json") n) ∧
      tree.pathExists (Path.join dir (candidate (s ++ ".json") n)) = false ∧
      ∀ k < n, tree.pathExists (Path.join dir (candidate (s ++ ".json") k)) = true := by
  unfold freePath
  dsimp only
  split
  · rename_i taken
    have hnames : ∀ n, Path.IsName (numbered (s ++ ".json") n) :=
      fun n => isName_of_isTried h (.numbered (Nat.le_refl n))
    obtain ⟨loc, isAt⟩ := FileTree.exists_isAt_of_pathExists (Path.isName_json h) taken
    cases hfree : freeNumbered tree dir (s ++ ".json") (tree.entries.length + 1) 1 with
    | none => exact absurd hfree (freeNumbered_ne_none isAt hnames)
    | some path =>
      obtain ⟨m, hle, hm, hpath, habsent, earlier⟩ := freeNumbered_eq_some hfree
      obtain ⟨n, rfl⟩ := Nat.exists_eq_add_of_le' hle
      rw [hpath, ← candidate_succ] at habsent
      refine ⟨n + 1, by omega, ?_, habsent, ?_⟩
      · rw [Option.getD_some, hpath, candidate_succ]
      · intro k hk
        cases k with
        | zero => exact taken
        | succ k =>
          rw [candidate_succ]
          exact earlier (k + 1) (by omega) hk
  · rename_i free
    exact ⟨0, Nat.zero_le _, rfl, by simpa [candidate] using free, by simp⟩

/-! ### The archive, wherever it is -/

/-- In the archive of a ledger at a location there is no symbolic link. A missing archive is made in
the ledger, so no link may be below that place either. -/
def ArchiveClear (l : Ledger) (tree : FileTree) (loc : Location) : Prop :=
  ∀ place, tree.IsAt l.archiveDir place ∨ place = loc ++ ["archive"] →
    ∀ name target, tree.get? (place ++ [name]) ≠ some (.link target)

/-- In the archive there is no symbolic link, once there is a directory for the ledger. -/
def ArchiveUnlinked (l : Ledger) (tree : FileTree) : Prop :=
  ∀ made loc, tree.makeDirectories l.dir = .ok made → made.IsAt l.dir loc →
    l.ArchiveClear made loc

/-- The archive is there, in a tree that is otherwise the same. -/
structure Prepared (l : Ledger) (tree made : FileTree) (loc arch : Location) : Prop where
  archive : made.IsAt l.archiveDir arch
  within : tree.Within made
  new : ∀ other, made.get? other = tree.get? other ∨
    other = loc ++ ["archive"] ∧ tree.get? other = none ∧ made.get? other = some .directory
  found : tree.IsAt l.archiveDir arch ∨ arch = loc ++ ["archive"]
  ne_ledger : arch ≠ loc

/-- The directory of a ledger and the archive in it are two. -/
theorem ArchiveClear.ne_ledger (clear : l.ArchiveClear tree loc) (isAt : tree.IsAt l.dir loc)
    (archive : tree.IsAt l.archiveDir arch) (hpath : FileTree.IsPath l.archiveDir) :
    arch ≠ loc := by
  have hdirectory := archive.isDirectory_self hpath
  rcases isAt.get?_of_isDirectory_join Path.isName_archive (by decide) hdirectory with
    hget | ⟨target, hget⟩
  · have inside : tree.IsAt l.archiveDir (loc ++ ["archive"]) :=
      isAt.join Path.isName_archive (by decide) hget
    rw [archive.unique inside]
    simp
  · -- a link that leads back to the ledger would itself stand in the archive
    rintro rfl
    exact clear _ (.inl archive) "archive" target hget

theorem exists_prepared (clear : l.ArchiveClear tree loc) (isAt : tree.IsAt l.dir loc)
    (hmade : tree.makeDirectories l.archiveDir = .ok made) :
    ∃ arch, l.Prepared tree made loc arch := by
  have hdirectory := (FileTree.isDirectory_of_makeDirectories hmade).resolve_left
    (Path.join_ne_empty Path.isName_archive l.dir)
  obtain ⟨arch, archive⟩ := FileTree.exists_isAt_of_isDirectory Path.isName_archive hdirectory
  refine ⟨arch, ?_⟩
  rcases isAt.makeDirectories_join Path.isName_archive (by decide) hmade with
    rfl | ⟨rfl, hnone⟩
  · exact ⟨archive, .refl _, fun _ => .inl rfl, .inl archive,
      clear.ne_ledger isAt archive (FileTree.isDirectory_iff.mp hdirectory).1⟩
  · have within := FileTree.within_set_of_absent hnone .directory
    have put := tree.get?_set_self .directory (show loc ++ ["archive"] ≠ [] by simp)
    obtain rfl : arch = loc ++ ["archive"] :=
      archive.unique ((isAt.mono within.extends rfl).join Path.isName_archive (by decide) put)
    refine ⟨archive, within, ?_, .inr rfl, by simp⟩
    intro other
    by_cases hother : other = loc ++ ["archive"]
    · subst hother
      exact .inr ⟨rfl, hnone, put⟩
    · exact .inl (tree.get?_set_other .directory hother)

namespace Prepared

theorem ne_link (h : l.Prepared tree made loc arch) (clear : l.ArchiveClear tree loc)
    (name target : String) : made.get? (arch ++ [name]) ≠ some (.link target) := by
  intro hget
  rcases h.new (arch ++ [name]) with same | ⟨-, -, directory⟩
  · exact clear arch h.found name target (same ▸ hget)
  · rw [directory] at hget
    cases hget

theorem holds (h : l.Prepared tree made loc arch)
    (holds : l.Holds tree dataset loc content mode) : l.Holds made dataset loc content mode :=
  ⟨holds.isAt.mono h.within.extends h.within.here_eq, h.within.get_eq _ _ holds.get_eq,
    holds.length_le, holds.isPath⟩

end Prepared

/-! ### The move -/

/-- A snapshot has gone to a free name in the archive. -/
structure Relocation (l : Ledger) (tree tree' : FileTree) (dataset name : String)
    (content : Content) (mode : Nat) (made : FileTree) (loc arch : Location) : Prop where
  holds : l.Holds tree dataset loc content mode
  prepared : l.Prepared tree made loc arch
  isName : Path.IsName name
  length_le : name.utf8ByteSize ≤ FileTree.maxNameBytes
  isPath : FileTree.IsPath (Path.join l.archiveDir name)
  unseen : made.pathExists (Path.join l.archiveDir name) = false
  free : made.get? (arch ++ [name]) = none
  result : tree' = (made.erase (loc ++ [dataset ++ ".json"])).set (arch ++ [name])
    (.file content mode)

theorem of_archive_eq_ok (h : l.archive tree now dataset = .ok (some path, tree')) :
    l.hasSnapshot tree dataset = true ∧ ∃ name made,
      l.archiveName tree now dataset = .ok name ∧
      tree.makeDirectories l.archiveDir = .ok made ∧ path = freePath made l.archiveDir name ∧
      made.rename (l.snapshotPath dataset) path = .ok tree' := by
  unfold archive moveToArchive at h
  cases present : l.hasSnapshot tree dataset with
  | false => simp [present] at h
  | true =>
    refine ⟨rfl, ?_⟩
    cases hname : l.archiveName tree now dataset with
    | error e => simp [present, hname] at h
    | ok name =>
      cases hmade : tree.makeDirectories l.archiveDir with
      | error cause => simp [present, hname, hmade, bind, Except.bind] at h
      | ok made =>
        cases hmoved : made.rename (l.snapshotPath dataset) (freePath made l.archiveDir name) with
        | error cause => simp [present, hname, hmade, hmoved, bind, Except.bind] at h
        | ok after =>
          obtain ⟨rfl, rfl⟩ : freePath made l.archiveDir name = path ∧ after = tree' := by
            simpa [present, hname, hmade, hmoved, bind, Except.bind, pure, Except.pure] using h
          exact ⟨name, made, rfl, rfl, rfl, hmoved⟩

/-- A snapshot that is found stands in its place as a file, unless it is a link. -/
theorem exists_holds_of_hasSnapshot (safe : Path.IsSafe dataset)
    (noLink : ∀ there target, l.slot tree dataset ≠ .ok (.present there (.link target)))
    (h : l.hasSnapshot tree dataset = true) :
    ∃ loc content mode, l.Holds tree dataset loc content mode := by
  have hname := Path.isName_json safe
  obtain ⟨spot, hspot⟩ := FileTree.exists_spot_of_isFile h
  obtain ⟨loc, isAt, hlen, hpath⟩ := FileTree.exists_isAt hname hspot
  have hself := isAt.locate_join hname hlen hpath
  have unlinked : ∀ target, tree.get? (loc ++ [dataset ++ ".json"]) ≠ some (.link target) := by
    intro target hget
    rw [FileTree.spotAt, hget] at hself
    exact noLink _ target hself
  have hfollow := isAt.locate_join_follow hname hlen hpath unlinked
  unfold hasSnapshot FileTree.isFile FileTree.node? snapshotPath at h
  rw [hfollow, FileTree.spotAt] at h
  rcases hget : tree.get? (loc ++ [dataset ++ ".json"]) with _ | ⟨content, mode⟩ | _ | _ | _
  · simp [hget] at h
  · exact ⟨loc, content, mode, isAt, hget, hlen, hpath⟩
  · simp [hget] at h
  · simp [hget] at h
  · simp [hget] at h

theorem exists_relocation (safe : Path.IsSafe dataset)
    (plain : ∀ run, l.load tree dataset = .ok run → Path.IsSafe run.runId)
    (unlinked : l.Unlinked tree dataset) (archiveUnlinked : l.ArchiveUnlinked tree)
    (h : l.archive tree now dataset = .ok (some path, tree')) :
    ∃ name content mode made loc arch, path = Path.join l.archiveDir name ∧
      l.Relocation tree tree' dataset name content mode made loc arch := by
  obtain ⟨present, name, made, hname, hmade, rfl, hmoved⟩ := of_archive_eq_ok h
  obtain ⟨loc, content, mode, holds⟩ :=
    exists_holds_of_hasSnapshot safe (unlinked.slot_ne_link safe) present
  have clear := archiveUnlinked tree loc (makeDirectories_self holds.isAt safe holds.isPath)
    holds.isAt
  obtain ⟨arch, prepared⟩ := exists_prepared clear holds.isAt hmade
  obtain ⟨s, hs, rfl⟩ := exists_safe_of_archiveName safe plain hname
  obtain ⟨n, -, hfree, unseen, -⟩ := exists_first_free made l.archiveDir hs
  have isName := isName_candidate hs n
  rw [hfree] at hmoved ⊢
  obtain ⟨spot, there, hspot, leads, result⟩ :=
    (FileTree.rename_eq_ok_iff ((prepared.holds holds).locate_eq safe false)).mp hmoved
  obtain ⟨-, -, hlen, hpath⟩ := FileTree.exists_isAt isName hspot
  have noLink := prepared.ne_link clear (candidate (s ++ ".json") n)
  have free := get?_of_pathExists_eq_false prepared.archive isName hlen hpath noLink unseen
  have hself := prepared.archive.locate_join isName hlen hpath
  rw [hself] at hspot
  obtain rfl := Except.ok.inj hspot
  obtain ⟨rfl, -⟩ := FileTree.isBlind_of_leadsTo leads noLink
  exact ⟨_, content, mode, made, loc, arch, rfl, holds, prepared, isName, hlen, hpath, unseen, free,
    result⟩

end Ledger

end RobotPipeline
