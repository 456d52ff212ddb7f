/-
  RobotPipeline/Proofs/Ledger/Slot.lean
  =====================================
  **Whose snapshot the ledger changes.**

  Every dataset has a slot in the directory of a ledger. A snapshot that is
  replaced, and one that goes to the archive under an identifier without a
  slash, leave the slots of all other datasets: each change puts or takes one
  node, and no way in leads through that node.
-/
import RobotPipeline.Proofs.FileTree.Linked
import RobotPipeline.Proofs.Ledger.Archive

namespace RobotPipeline

namespace Ledger

variable {l : Ledger} {tree tree' made : FileTree} {dataset other : String} {loc : Location}
  {content : Content} {mode : Nat} {run : Run}

/-- What stands in the place of the snapshot of a dataset; a link there is not followed. -/
def slot (l : Ledger) (tree : FileTree) (dataset : String) : Except IoError FileTree.Spot :=
  tree.locate false (l.snapshotPath dataset)

/-- The snapshot of a dataset is a regular file. -/
def HasFile (l : Ledger) (tree : FileTree) (dataset : String) : Prop :=
  ∃ there content mode, l.slot tree dataset = .ok (.present there (.file content mode))

theorem hasFile_iff (safe : Path.IsSafe dataset) :
    l.HasFile tree dataset ↔ ∃ loc content mode, l.Holds tree dataset loc content mode := by
  constructor
  · rintro ⟨there, content, mode, h⟩
    obtain ⟨loc, holds, -⟩ := exists_holds safe h
    exact ⟨loc, content, mode, holds⟩
  · rintro ⟨loc, content, mode, holds⟩
    exact ⟨_, content, mode, holds.locate_eq safe false⟩

/-- A device has no text, so it records no run. -/
theorem interpret_empty (dataset : String) (run : Run) : interpret dataset "" ≠ .ok run := by
  have none : decode? "" = none := by decide +kernel
  simp [interpret, none]

theorem LinkFree.slot_ne_link (linkFree : l.LinkFree tree) (safe : Path.IsSafe dataset)
    (there : Location) (target : String) :
    l.slot tree dataset ≠ .ok (.present there (.link target)) := by
  intro hlink
  have hname := Path.isName_json safe
  obtain ⟨loc, isAt, hlen, hpath⟩ := FileTree.exists_isAt hname hlink
  have hspot := Except.ok.inj ((isAt.locate_join hname hlen hpath).symm.trans hlink)
  unfold FileTree.spotAt at hspot
  cases hget : tree.get? (loc ++ [dataset ++ ".json"]) with
  | none => simp [hget] at hspot
  | some node =>
    obtain ⟨-, rfl⟩ : loc ++ [dataset ++ ".json"] = there ∧ node = .link target := by
      simpa [hget] using hspot
    exact linkFree loc isAt _ target hget

/-- The path of a snapshot that loads leads to something other than a directory. -/
theorem exists_locate_of_load (h : l.load tree dataset = .ok run) :
    ∃ there node, tree.locate true (l.snapshotPath dataset) = .ok (.present there node) ∧
      node ≠ .directory ∧ node ≠ .device := by
  obtain ⟨text, hread, hrun⟩ := load_eq_ok_iff.mp h
  unfold FileTree.readText FileTree.read at hread
  cases hlocate : tree.locate true (l.snapshotPath dataset) with
  | error cause => simp [hlocate, bind, Except.bind] at hread
  | ok spot =>
    cases spot with
    | absent there slashed => simp [hlocate, bind, Except.bind] at hread
    | present there node =>
      refine ⟨there, node, rfl, ?_, ?_⟩
      · rintro rfl
        simp [hlocate, bind, Except.bind] at hread
      · rintro rfl
        obtain rfl : "" = text := by simpa [hlocate, bind, Except.bind] using hread
        exact interpret_empty dataset run hrun

/-- A snapshot that loads is a regular file or a link, in the directory of the ledger. -/
theorem exists_isAt_of_load (safe : Path.IsSafe dataset) (h : l.load tree dataset = .ok run) :
    ∃ loc, tree.IsAt l.dir loc ∧ (dataset ++ ".json").utf8ByteSize ≤ FileTree.maxNameBytes ∧
      FileTree.IsPath (l.snapshotPath dataset) ∧
      ((∃ content mode, tree.get? (loc ++ [dataset ++ ".json"]) = some (.file content mode)) ∨
        ∃ target, tree.get? (loc ++ [dataset ++ ".json"]) = some (.link target)) := by
  have hname := Path.isName_json safe
  obtain ⟨there, node, hlocate, hdirectory, hdevice⟩ := exists_locate_of_load h
  obtain ⟨loc, isAt, hlen, hpath⟩ := FileTree.exists_isAt hname hlocate
  refine ⟨loc, isAt, hlen, hpath, ?_⟩
  have hfollow := isAt.locate_join_follow hname hlen hpath
  unfold FileTree.spotAt at hfollow
  cases hget : tree.get? (loc ++ [dataset ++ ".json"]) with
  | none =>
    rw [hget] at hfollow
    cases (hfollow (by simp)).symm.trans hlocate
  | some met =>
    rw [hget] at hfollow
    cases met with
    | file content mode => exact .inl ⟨content, mode, rfl⟩
    | link target => exact .inr ⟨target, rfl⟩
    | directory =>
      cases (hfollow (by simp)).symm.trans hlocate
      exact absurd rfl hdirectory
    | device =>
      cases (hfollow (by simp)).symm.trans hlocate
      exact absurd rfl hdevice

/-- A snapshot that loads is a regular file, unless it is a link. -/
theorem hasFile_of_load (safe : Path.IsSafe dataset)
    (noLink : ∀ there target, l.slot tree dataset ≠ .ok (.present there (.link target)))
    (h : l.load tree dataset = .ok run) : l.HasFile tree dataset := by
  obtain ⟨loc, isAt, hlen, hpath, ⟨content, mode, hget⟩ | ⟨target, hget⟩⟩ :=
    exists_isAt_of_load safe h
  · exact (hasFile_iff safe).mpr ⟨loc, content, mode, isAt, hget, hlen, hpath⟩
  · have hself := isAt.locate_join (Path.isName_json safe) hlen hpath
    rw [FileTree.spotAt, hget] at hself
    exact absurd hself (noLink _ target)

/-! ### Commits -/

/-- The directory of a snapshot that has a place is there already. -/
theorem makeDirectories_self (isAt : tree.IsAt l.dir loc) (safe : Path.IsSafe dataset)
    (hpath : FileTree.IsPath (l.snapshotPath dataset)) : tree.makeDirectories l.dir = .ok tree := by
  apply isAt.makeDirectories_self
  by_cases h : l.dir = ""
  · exact .inl h
  · exact .inr (FileTree.isPath_of_join h (Path.isName_json safe) hpath)

/-- Where a snapshot is a regular file, a commit puts another in its place. -/
theorem Holds.write_eq (holds : l.Holds tree dataset loc content mode) (safe : Path.IsSafe dataset)
    (hrun : run.dataset = dataset) :
    l.write tree run = .ok (tree.set (loc ++ [dataset ++ ".json"])
      (.file (.text (encode run)) FileTree.privateMode)) := by
  unfold write
  rw [makeDirectories_self holds.isAt safe holds.isPath, hrun]
  simp [FileTree.replace, holds.locate_eq safe false, bind, Except.bind]

theorem Holds.set (holds : l.Holds tree dataset loc content mode) (content' : Content)
    (mode' : Nat) :
    l.Holds (tree.set (loc ++ [dataset ++ ".json"]) (.file content' mode')) dataset loc content'
      mode' :=
  ⟨holds.isAt.set holds.blind _, tree.get?_set_self _ (by simp), holds.length_le, holds.isPath⟩

theorem exists_endsIn_snapshotPath (l : Ledger) (dataset : String) :
    ∃ before name, Path.EndsIn (l.snapshotPath dataset) before name := by
  obtain ⟨s, hs⟩ : ∃ s, l.snapshotPath dataset = s ++ ".json" := by
    unfold snapshotPath Path.join
    split
    · exact ⟨dataset, rfl⟩
    split
    · exact ⟨dataset, rfl⟩
    split
    · exact ⟨l.dir ++ dataset, String.append_assoc.symm⟩
    · exact ⟨l.dir ++ "/" ++ dataset, String.append_assoc.symm⟩
  rw [hs]
  exact Path.exists_endsIn_json s

theorem write_eq_ok_iff :
    l.write tree run = .ok tree' ↔ ∃ made, tree.makeDirectories l.dir = .ok made ∧
      made.replace (l.snapshotPath run.dataset) (.text (encode run)) = .ok tree' := by
  unfold write
  cases tree.makeDirectories l.dir with
  | error cause => simp [bind, Except.bind]
  | ok made => simp [bind, Except.bind]

/-- A snapshot that was written stands at the end of its path, if the path still leads to a file. It
may not: a link that is replaced may be one that the path led through. -/
theorem exists_locate_of_write (h : l.write tree run = .ok tree')
    (leads : l.hasSnapshot tree' run.dataset = true) :
    ∃ there, ∀ follow, tree'.locate follow (l.snapshotPath run.dataset) =
      .ok (.present there (.file (.text (encode run)) FileTree.privateMode)) := by
  obtain ⟨made, -, hreplace⟩ := write_eq_ok_iff.mp h
  obtain ⟨before, name, ends⟩ := l.exists_endsIn_snapshotPath run.dataset
  exact FileTree.exists_locate_of_isFile ends hreplace leads

/-- It stands in its slot then. -/
theorem exists_holds_of_write (safe : Path.IsSafe run.dataset) (h : l.write tree run = .ok tree')
    (leads : l.hasSnapshot tree' run.dataset = true) :
    ∃ loc, l.Holds tree' run.dataset loc (.text (encode run)) FileTree.privateMode := by
  obtain ⟨there, hlocate⟩ := exists_locate_of_write h leads
  obtain ⟨loc, holds, -⟩ := exists_holds safe (hlocate false)
  exact ⟨loc, holds⟩

/-- What is put in one slot is in no other. -/
theorem Holds.slot_set (holds : l.Holds tree dataset loc content mode)
    (safe : Path.IsSafe other) (hne : other ≠ dataset) (node : Node) :
    l.slot (tree.set (loc ++ [dataset ++ ".json"]) node) other = l.slot tree other := by
  apply holds.isAt.locate_congr (holds.isAt.set holds.blind node) (Path.isName_json safe)
  exact tree.get?_set_other node (by simpa using hne)

/-! ### The archive -/

/-- A file that goes to the archive leaves the slots of the other datasets. -/
theorem Holds.slot_moved {name : String} (holds : l.Holds tree dataset loc content mode)
    (archive : HasArchive tree made loc) (safe : Path.IsSafe dataset)
    (safe' : Path.IsSafe other) (hne : other ≠ dataset) (hname : Path.IsName name)
    (noLink : ∀ target, tree.get? (loc ++ ["archive"] ++ [name]) ≠ some (.link target))
    (hmoved : made.rename (l.snapshotPath dataset) (Path.join l.archiveDir name) = .ok tree') :
    l.slot tree' other = l.slot tree other := by
  have holds' := archive.holds holds
  obtain ⟨spot, place, hspot, leads, rfl⟩ :=
    (FileTree.rename_eq_ok_iff (holds'.locate_eq safe false)).mp hmoved
  have isAt := archive.isAt_archive holds.isAt
  obtain ⟨-, -, hlen, hpath⟩ := FileTree.exists_isAt hname hspot
  obtain rfl := Except.ok.inj ((isAt.locate_join hname hlen hpath).symm.trans hspot)
  have hget : made.get? (loc ++ ["archive"] ++ [name]) =
      tree.get? (loc ++ ["archive"] ++ [name]) := archive.get_other (by simp)
  -- what the file may be moved over is on the way to nothing
  obtain ⟨rfl, blind⟩ := FileTree.isBlind_of_leadsTo leads (by rwa [hget])
  apply holds.isAt.locate_congr (holds'.isAt.move holds'.blind blind _) (Path.isName_json safe')
  rw [FileTree.get?_set_other _ _ (by simp), FileTree.get?_erase_other _ (by simpa using hne),
    archive.get_other (by simpa using json_ne_archive other)]

theorem slot_archive {now : Instant} {path : Option String} (safe : Path.IsSafe dataset)
    (safe' : Path.IsSafe other) (hne : other ≠ dataset) (linkFree : l.LinkFree tree)
    (hload : l.load tree dataset = .ok run) (plain : Path.IsSafe run.runId)
    (harchive : l.archive tree now dataset = .ok (path, tree')) :
    l.slot tree' other = l.slot tree other := by
  obtain ⟨loc, content, mode, holds⟩ :=
    (hasFile_iff safe).mp (hasFile_of_load safe (linkFree.slot_ne_link safe) hload)
  have archives := l.archives_archive tree now dataset
  rw [harchive] at archives
  cases archives with
  | nothing _ => rfl
  | @moved name target last made after _ hname tried hmade hmoved =>
    obtain rfl : run.runId ++ ".json" = name := by simpa [archiveName, hload] using hname
    have archive := hasArchive holds.isAt (linkFree loc holds.isAt ["archive"]) hmade
    refine holds.slot_moved archive safe safe' hne (isName_of_isTried plain tried) ?_ hmoved
    rw [List.append_assoc]
    exact linkFree loc holds.isAt _

end Ledger

end RobotPipeline
