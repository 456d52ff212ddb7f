/-
  RobotPipeline/Proofs/Ledger/Preserved.lean
  ==========================================
  **What was archived stays.**

  Archiving takes one file, the snapshot, to a place where nothing was. A save
  puts one file in the ledger, and no file of the archive is in the ledger. So
  neither changes what has been archived before, however many of them follow
  one another (`Ledger.History`), and all archived snapshots have paths of
  their own.

  Two kinds of symbolic links would break this. One in the archive may lead
  nowhere, and its name then seems free. One in the place of the snapshot is
  moved itself, and from its new place it may lead elsewhere.
-/
import RobotPipeline.Proofs.Ledger.Moved

namespace RobotPipeline

namespace Ledger

variable {l : Ledger} {tree tree' made start : FileTree} {dataset name path : String}
  {loc arch : Location} {content : Content} {mode : Nat} {now : Instant} {run : Run}

/-! ### Files in the archive -/

/-- A file stands in the archive under a name. -/
structure InArchive (l : Ledger) (tree : FileTree) (arch : Location) (name : String)
    (content : Content) (mode : Nat) : Prop where
  isAt : tree.IsAt l.archiveDir arch
  get_eq : tree.get? (arch ++ [name]) = some (.file content mode)
  isName : Path.IsName name
  length_le : name.utf8ByteSize ≤ FileTree.maxNameBytes
  isPath : FileTree.IsPath (Path.join l.archiveDir name)

namespace InArchive

theorem locate_eq (h : l.InArchive tree arch name content mode) (follow : Bool) :
    tree.locate follow (Path.join l.archiveDir name) =
      .ok (.present (arch ++ [name]) (.file content mode)) := by
  have hspot : tree.spotAt (arch ++ [name]) = .present (arch ++ [name]) (.file content mode) := by
    rw [FileTree.spotAt, h.get_eq]
  rw [← hspot]
  cases follow with
  | false => exact h.isAt.locate_join h.isName h.length_le h.isPath
  | true => exact h.isAt.locate_join_follow h.isName h.length_le h.isPath (by simp [h.get_eq])

theorem read_eq (h : l.InArchive tree arch name content mode) :
    tree.read (Path.join l.archiveDir name) = .ok content := by
  simp [FileTree.read, h.locate_eq true, bind, Except.bind]

theorem pathExists (h : l.InArchive tree arch name content mode) :
    tree.pathExists (Path.join l.archiveDir name) = true := by
  simp [FileTree.pathExists, FileTree.node?, h.locate_eq true]

/-- It stays when directories and links do, and the file itself. -/
theorem mono (h : l.InArchive tree arch name content mode) (larger : tree.Extends tree')
    (here_eq : tree'.here = tree.here)
    (hget : tree'.get? (arch ++ [name]) = some (.file content mode)) :
    l.InArchive tree' arch name content mode :=
  ⟨h.isAt.mono larger here_eq, hget, h.isName, h.length_le, h.isPath⟩

theorem isPath_archiveDir (h : l.InArchive tree arch name content mode) :
    FileTree.IsPath l.archiveDir :=
  FileTree.isPath_of_join (Path.join_ne_empty Path.isName_archive l.dir) h.isName h.isPath

/-- Where something is in the archive, the ledger is a directory. -/
theorem exists_ledger (h : l.InArchive tree arch name content mode) :
    ∃ loc, tree.IsAt l.dir loc ∧ tree.makeDirectories l.dir = .ok tree := by
  have hdirectory := h.isAt.isDirectory_self h.isPath_archiveDir
  obtain ⟨hpath, left, place, enters⟩ := FileTree.isDirectory_iff.mp hdirectory
  have hspot := FileTree.locate_eq_ok_iff.mpr ⟨hpath, enters.walk_eq⟩
  obtain ⟨loc, isAt, -⟩ := FileTree.exists_isAt Path.isName_archive hspot
  refine ⟨loc, isAt, isAt.makeDirectories_self ?_⟩
  by_cases hdir : l.dir = ""
  · exact .inl hdir
  · exact .inr (FileTree.isPath_of_join hdir Path.isName_archive hpath)

end InArchive

/-! ### After a move -/

namespace Relocation

variable (r : l.Relocation tree tree' dataset name content mode made loc arch)
include r

theorem holds_made : l.Holds made dataset loc content mode := r.prepared.holds r.holds

theorem source_ne_target : loc ++ [dataset ++ ".json"] ≠ arch ++ [name] := by
  intro h
  exact r.prepared.ne_ledger (List.append_inj_left' h rfl).symm

theorem get?_other {place : Location} (source : place ≠ loc ++ [dataset ++ ".json"])
    (target : place ≠ arch ++ [name]) : tree'.get? place = made.get? place := by
  rw [r.result, FileTree.get?_set_other _ _ target, FileTree.get?_erase_other _ source]

theorem get?_target : tree'.get? (arch ++ [name]) = some (.file content mode) := by
  rw [r.result, FileTree.get?_set_self _ _ (by simp)]

theorem get?_source : tree'.get? (loc ++ [dataset ++ ".json"]) = none := by
  rw [r.result, FileTree.get?_set_other _ _ r.source_ne_target,
    FileTree.get?_erase_self _ (by simp)]

theorem isAt {dir : String} {place : Location} (h : tree.IsAt dir place) :
    tree'.IsAt dir place := by
  rw [r.result]
  exact (h.mono r.prepared.within.extends r.prepared.within.here_eq).move r.holds_made.blind
    (FileTree.isBlind_of_absent r.free) _

theorem inArchive : l.InArchive tree' arch name content mode := by
  refine ⟨?_, r.get?_target, r.isName, r.length_le, r.isPath⟩
  rw [r.result]
  exact r.prepared.archive.move r.holds_made.blind (FileTree.isBlind_of_absent r.free) _

/-- Nothing led to the new path before. -/
theorem pathExists_eq_false : tree.pathExists (Path.join l.archiveDir name) = false := by
  have unseen := r.unseen
  unfold FileTree.pathExists FileTree.node? at unseen ⊢
  cases hspot : tree.locate true (Path.join l.archiveDir name) with
  | error cause => rfl
  | ok spot =>
    cases spot with
    | absent place slashed => rfl
    | present place node =>
      rw [FileTree.locate_within r.prepared.within hspot] at unseen
      cases unseen

theorem free_before : tree.get? (arch ++ [name]) = none := by
  cases hget : tree.get? (arch ++ [name]) with
  | none => rfl
  | some node =>
    have hmade := r.prepared.within.get_eq _ _ hget
    rw [r.free] at hmade
    cases hmade

theorem locate_source (safe : Path.IsSafe dataset) :
    tree'.locate false (l.snapshotPath dataset) =
      .ok (.absent (loc ++ [dataset ++ ".json"]) false) := by
  have hspot := (r.isAt r.holds.isAt).locate_join (Path.isName_json safe) r.holds.length_le
    r.holds.isPath
  rwa [FileTree.spotAt, r.get?_source] at hspot

/-- What stood in the archive stands there still. -/
theorem inArchive_of_inArchive {arch' : Location} {name' : String} {content' : Content}
    {mode' : Nat} (h : l.InArchive tree arch' name' content' mode') :
    l.InArchive tree' arch' name' content' mode' := by
  obtain rfl : arch' = arch := (r.isAt h.isAt).unique r.inArchive.isAt
  refine ⟨r.isAt h.isAt, ?_, h.isName, h.length_le, h.isPath⟩
  have hget := r.prepared.within.get_eq _ _ h.get_eq
  rw [r.get?_other _ _, hget]
  · intro heq
    exact r.prepared.ne_ledger (List.append_inj_left' heq rfl)
  · intro heq
    rw [heq, r.free] at hget
    cases hget

end Relocation

/-- A snapshot was archived at a path: its file is there now, where nothing was, and is gone from
its place; all else is as before, except that the archive may have been made. -/
structure Archived (l : Ledger) (tree tree' : FileTree) (dataset path : String)
    (content : Content) (mode : Nat) (source target : Location) : Prop where
  inArchive : ∃ name, Path.IsName name ∧ path = Path.join l.archiveDir name
  new : tree.pathExists path = false ∧ tree.get? target = none
  before : tree.locate false (l.snapshotPath dataset) =
    .ok (.present source (.file content mode)) ∧ tree.read (l.snapshotPath dataset) = .ok content
  now : tree'.locate false path = .ok (.present target (.file content mode)) ∧
    tree'.read path = .ok content
  gone : tree'.locate false (l.snapshotPath dataset) = .ok (.absent source false)
  others : ∀ place, place ≠ source → place ≠ target → tree'.get? place = tree.get? place ∨
    tree.get? place = none ∧ tree'.get? place = some .directory

theorem Relocation.archived (r : l.Relocation tree tree' dataset name content mode made loc arch)
    (safe : Path.IsSafe dataset) :
    l.Archived tree tree' dataset (Path.join l.archiveDir name) content mode
      (loc ++ [dataset ++ ".json"]) (arch ++ [name]) where
  inArchive := ⟨name, r.isName, rfl⟩
  new := ⟨r.pathExists_eq_false, r.free_before⟩
  before := ⟨r.holds.locate_eq safe false, r.holds.read_eq safe⟩
  now := ⟨r.inArchive.locate_eq false, r.inArchive.read_eq⟩
  gone := r.locate_source safe
  others := by
    intro place source target
    rw [r.get?_other source target]
    rcases r.prepared.new place with same | ⟨-, absent, directory⟩
    · exact .inl same
    · exact .inr ⟨absent, directory⟩

/-! ### After a save -/

/-- A save puts one file in the ledger. -/
theorem Unlinked.exists_set (unlinked : l.Unlinked tree run.dataset)
    (safe : Path.IsSafe run.dataset) (h : l.write tree run = .ok tree') :
    ∃ made loc, tree.makeDirectories l.dir = .ok made ∧ made.IsAt l.dir loc ∧
      FileTree.IsPath (l.snapshotPath run.dataset) ∧
      made.IsBlind (loc ++ [run.dataset ++ ".json"]) ∧
      tree' = made.set (loc ++ [run.dataset ++ ".json"])
        (.file (.text (encode run)) FileTree.privateMode) := by
  have hname := Path.isName_json safe
  unfold write at h
  cases hmade : tree.makeDirectories l.dir with
  | error cause => simp [hmade, bind, Except.bind] at h
  | ok made =>
    simp only [hmade, bind, Except.bind] at h
    obtain ⟨there, blind, rfl, hlocate⟩ := FileTree.exists_replaced h (unlinked made hmade)
    obtain ⟨spot, hspot⟩ : ∃ spot, made.locate false (l.snapshotPath run.dataset) = .ok spot := by
      cases hspot : made.locate false (l.snapshotPath run.dataset) with
      | error cause => simp [FileTree.replace, hspot, bind, Except.bind] at h
      | ok spot => exact ⟨spot, rfl⟩
    obtain ⟨loc, isAt, hlen, hpath⟩ := FileTree.exists_isAt hname hspot
    have hself := (isAt.set blind (.file (.text (encode run)) FileTree.privateMode)).locate_join
      hname hlen hpath
    obtain rfl : loc ++ [run.dataset ++ ".json"] = there := by
      have hsame := Except.ok.inj (hself.symm.trans (hlocate false))
      unfold FileTree.spotAt at hsame
      split at hsame
      · cases hsame
      · exact (FileTree.Spot.present.inj hsame).1
    exact ⟨made, loc, rfl, isAt, hpath, blind, rfl⟩

/-! ### Links -/

/-- A change of the files of a ledger leaves its directory, and adds no link. -/
structure AddsNoLink (l : Ledger) (tree tree' : FileTree) (loc : Location) : Prop where
  isAt : tree.IsAt l.dir loc
  isAt_after : tree'.IsAt l.dir loc
  there : tree'.makeDirectories l.dir = .ok tree'
  link : ∀ place target, tree'.get? place = some (.link target) →
    tree.get? place = some (.link target)
  archive : ∀ place, tree'.IsAt l.archiveDir place →
    tree.IsAt l.archiveDir place ∨ place = loc ++ ["archive"]

theorem AddsNoLink.unlinked (h : l.AddsNoLink made tree' loc) (safe : Path.IsSafe dataset)
    (hmade : tree.makeDirectories l.dir = .ok made) (unlinked : l.Unlinked tree dataset) :
    l.Unlinked tree' dataset := by
  intro made' hmade' there target hlink
  obtain rfl := Except.ok.inj (h.there.symm.trans hmade')
  have hname := Path.isName_json safe
  obtain ⟨place, isAt, hlen, hpath⟩ := FileTree.exists_isAt hname hlink
  obtain rfl := isAt.unique h.isAt_after
  have hsame := Except.ok.inj ((isAt.locate_join hname hlen hpath).symm.trans hlink)
  have hself := h.isAt.locate_join hname hlen hpath
  unfold FileTree.spotAt at hsame hself
  cases hget : tree'.get? (place ++ [dataset ++ ".json"]) with
  | none => simp [hget] at hsame
  | some node =>
    obtain ⟨-, rfl⟩ : place ++ [dataset ++ ".json"] = there ∧ node = .link target := by
      simpa [hget] using hsame
    rw [h.link _ target hget] at hself
    exact unlinked made hmade _ target hself

theorem AddsNoLink.archiveUnlinked (h : l.AddsNoLink made tree' loc)
    (hmade : tree.makeDirectories l.dir = .ok made) (unlinked : l.ArchiveUnlinked tree) :
    l.ArchiveUnlinked tree' := by
  intro made' loc' hmade' isAt place hplace name target hget
  obtain rfl := Except.ok.inj (h.there.symm.trans hmade')
  obtain rfl := isAt.unique h.isAt_after
  have found : made.IsAt l.archiveDir place ∨ place = loc' ++ ["archive"] := by
    rcases hplace with archive | new
    · exact h.archive place archive
    · exact .inr new
  exact unlinked made loc' hmade h.isAt place found name target (h.link _ target hget)

theorem Relocation.addsNoLink
    (r : l.Relocation tree tree' dataset name content mode made loc arch)
    (safe : Path.IsSafe dataset) : l.AddsNoLink tree tree' loc where
  isAt := r.holds.isAt
  isAt_after := r.isAt r.holds.isAt
  there := makeDirectories_self (r.isAt r.holds.isAt) safe r.holds.isPath
  link := by
    intro place target hget
    by_cases source : place = loc ++ [dataset ++ ".json"]
    · rw [source, r.get?_source] at hget
      cases hget
    by_cases put : place = arch ++ [name]
    · rw [put, r.get?_target] at hget
      cases hget
    rw [r.get?_other source put] at hget
    rcases r.prepared.new place with same | ⟨-, -, directory⟩
    · rw [← same, hget]
    · rw [directory] at hget
      cases hget
  archive := by
    intro place h
    obtain rfl := h.unique r.inArchive.isAt
    exact r.prepared.found

/-- A file that is put where no way leads through adds no link. -/
theorem addsNoLink_set {there : Location} (isAt : made.IsAt l.dir loc)
    (safe : Path.IsSafe dataset) (hpath : FileTree.IsPath (l.snapshotPath dataset))
    (blind : made.IsBlind there) (hthere : there ≠ []) :
    l.AddsNoLink made (made.set there (.file content mode)) loc where
  isAt := isAt
  isAt_after := isAt.set blind _
  there := makeDirectories_self (isAt.set blind _) safe hpath
  link := by
    intro place target hget
    by_cases hplace : place = there
    · rw [hplace, made.get?_set_self _ hthere] at hget
      cases hget
    · rwa [made.get?_set_other _ hplace] at hget
  archive := by
    intro place h
    have put := made.get?_set_self (.file content mode) hthere
    have back : FileTree.Extends _ made := (FileTree.isBlind_of_file put).extends
      fun other hne => (made.get?_set_other _ hne).symm
    exact .inl (h.mono back rfl)

/-! ### Histories -/

/-- The files after some saves and archivings, and what was archived: the path of each snapshot and
what it held, the last one first. What is refused changes nothing, and is left out. -/
inductive History (l : Ledger) (start : FileTree) : FileTree → List (String × Content) → Prop where
  | start : History l start start []
  | saved {tree tree' : FileTree} {archived : List (String × Content)} {run : Run}
      (h : History l start tree archived) (safe : Path.IsSafe run.dataset)
      (hsave : l.save tree run = .ok tree') : History l start tree' archived
  | archived {tree tree' : FileTree} {archived : List (String × Content)} {now : Instant}
      {dataset path : String} {content : Content} (h : History l start tree archived)
      (safe : Path.IsSafe dataset)
      (plain : ∀ run, l.load tree dataset = .ok run → Path.IsSafe run.runId)
      (held : tree.read (l.snapshotPath dataset) = .ok content)
      (harchive : l.archive tree now dataset = .ok (some path, tree')) :
      History l start tree' ((path, content) :: archived)

/-- Something is in the archive at a path. -/
def Keeps (l : Ledger) (tree : FileTree) (entry : String × Content) : Prop :=
  ∃ arch name mode, entry.1 = Path.join l.archiveDir name ∧
    l.InArchive tree arch name entry.2 mode

/-- What holds after every history: no link is in the way, and all that was archived is there. -/
structure Secure (l : Ledger) (tree : FileTree) (archived : List (String × Content)) : Prop where
  unlinked : ∀ dataset, Path.IsSafe dataset → l.Unlinked tree dataset
  archiveUnlinked : l.ArchiveUnlinked tree
  keeps : ∀ entry ∈ archived, l.Keeps tree entry
  nodup : (archived.map (·.1)).Nodup

namespace Secure

variable {past : List (String × Content)}

theorem saved (h : l.Secure tree past) (safe : Path.IsSafe run.dataset)
    (hsave : l.save tree run = .ok tree') : l.Secure tree' past := by
  obtain ⟨-, hwrite⟩ := save_eq_ok_iff.mp hsave
  obtain ⟨made, loc, hmade, isAt, hpath, blind, rfl⟩ :=
    (h.unlinked _ safe).exists_set safe hwrite
  have step : l.AddsNoLink made (made.set (loc ++ [run.dataset ++ ".json"])
      (.file (.text (encode run)) FileTree.privateMode)) loc :=
    addsNoLink_set isAt safe hpath blind (by simp)
  refine ⟨fun dataset hs => step.unlinked hs hmade (h.unlinked dataset hs),
    step.archiveUnlinked hmade h.archiveUnlinked, ?_, h.nodup⟩
  intro entry hentry
  obtain ⟨arch, name, mode, hname, kept⟩ := h.keeps entry hentry
  -- the ledger is there, so the save has made no directory
  obtain ⟨_, -, self⟩ := kept.exists_ledger
  obtain rfl := Except.ok.inj (self.symm.trans hmade)
  have apart : arch ≠ loc :=
    (h.archiveUnlinked tree loc hmade isAt).ne_ledger isAt kept.isAt kept.isPath_archiveDir
  refine ⟨arch, name, mode, hname, kept.mono (FileTree.extends_set blind _) rfl ?_⟩
  have elsewhere : arch ++ [name] ≠ loc ++ [run.dataset ++ ".json"] :=
    fun heq => apart (List.append_inj_left' heq rfl)
  rw [tree.get?_set_other _ elsewhere, kept.get_eq]

theorem archived (h : l.Secure tree past) (safe : Path.IsSafe dataset)
    (plain : ∀ run, l.load tree dataset = .ok run → Path.IsSafe run.runId)
    (held : tree.read (l.snapshotPath dataset) = .ok content)
    (harchive : l.archive tree now dataset = .ok (some path, tree')) :
    l.Secure tree' ((path, content) :: past) := by
  obtain ⟨name, content', mode, made, loc, arch, rfl, r⟩ :=
    exists_relocation safe plain (h.unlinked dataset safe) h.archiveUnlinked harchive
  obtain rfl := Except.ok.inj ((r.holds.read_eq safe).symm.trans held)
  have self := makeDirectories_self r.holds.isAt safe r.holds.isPath
  have step := r.addsNoLink safe
  refine ⟨fun dataset hs => step.unlinked hs self (h.unlinked dataset hs),
    step.archiveUnlinked self h.archiveUnlinked, ?_, ?_⟩
  · intro entry hentry
    rcases List.mem_cons.mp hentry with rfl | hentry
    · exact ⟨arch, name, mode, rfl, r.inArchive⟩
    · obtain ⟨arch', name', mode', hname, kept⟩ := h.keeps entry hentry
      exact ⟨arch', name', mode', hname, r.inArchive_of_inArchive kept⟩
  · -- what is in the archive exists, and the new path did not
    rw [List.map_cons, List.nodup_cons]
    refine ⟨?_, h.nodup⟩
    intro hmem
    obtain ⟨entry, hentry, heq⟩ := List.mem_map.mp hmem
    obtain ⟨arch', name', mode', hname, kept⟩ := h.keeps entry hentry
    have present := kept.pathExists
    rw [← hname, heq, r.pathExists_eq_false] at present
    cases present

end Secure

theorem History.secure {past : List (String × Content)} (h : l.History start tree past)
    (unlinked : ∀ dataset, Path.IsSafe dataset → l.Unlinked start dataset)
    (archiveUnlinked : l.ArchiveUnlinked start) : l.Secure tree past := by
  induction h with
  | start => exact ⟨unlinked, archiveUnlinked, by simp, by simp⟩
  | saved _ safe hsave ih => exact ih.saved safe hsave
  | archived _ safe plain held harchive ih => exact ih.archived safe plain held harchive

/-- The search for a name in the archive ends at the first free one. A snapshot that is archived is
then at a path where nothing was, with what it held, and no other file has changed. After any saves
and archivings each snapshot that was archived is in the archive, with what it held, at a path of
its own. -/
theorem archive_loses_nothing (l : Ledger) :
    (∀ (tree : FileTree) (dir s : String), Path.IsSafe s → ∃ n ≤ tree.entries.length + 1,
      freePath tree dir (s ++ ".json") = Path.join dir (candidate (s ++ ".json") n) ∧
      tree.pathExists (Path.join dir (candidate (s ++ ".json") n)) = false ∧
      ∀ k < n, tree.pathExists (Path.join dir (candidate (s ++ ".json") k)) = true) ∧
    (∀ (tree tree' : FileTree) (now : Instant) (dataset path : String), Path.IsSafe dataset →
      (∀ run, l.load tree dataset = .ok run → Path.IsSafe run.runId) →
      l.Unlinked tree dataset → l.ArchiveUnlinked tree →
      l.archive tree now dataset = .ok (some path, tree') →
        ∃ content mode source target,
          l.Archived tree tree' dataset path content mode source target) ∧
    ∀ (start tree : FileTree) (archived : List (String × Content)),
      (∀ dataset, Path.IsSafe dataset → l.Unlinked start dataset) → l.ArchiveUnlinked start →
      l.History start tree archived →
        (archived.map (·.1)).Nodup ∧ ∀ path content, (path, content) ∈ archived →
          (∃ name, Path.IsName name ∧ path = Path.join l.archiveDir name) ∧
            tree.read path = .ok content := by
  refine ⟨?_, ?_, ?_⟩
  · intro tree dir s safe
    exact exists_first_free tree dir safe
  · intro tree tree' now dataset path safe plain unlinked archiveUnlinked harchive
    obtain ⟨name, content, mode, made, loc, arch, rfl, r⟩ :=
      exists_relocation safe plain unlinked archiveUnlinked harchive
    exact ⟨content, mode, _, _, r.archived safe⟩
  · intro start tree archived unlinked archiveUnlinked history
    have secure := history.secure unlinked archiveUnlinked
    refine ⟨secure.nodup, ?_⟩
    intro path content hmem
    obtain ⟨arch, name, mode, rfl, kept⟩ := secure.keeps _ hmem
    exact ⟨⟨name, kept.isName, rfl⟩, kept.read_eq⟩

/-! ### Samples -/

theorem unlinked_of_entries (self : tree.makeDirectories l.dir = .ok tree)
    (h : ∀ entry ∈ tree.entries, ∀ target, entry.2 ≠ .link target) :
    (∀ dataset, Path.IsSafe dataset → l.Unlinked tree dataset) ∧ l.ArchiveUnlinked tree := by
  constructor
  · intro dataset _ made hmade loc target hlink
    obtain rfl := Except.ok.inj (self.symm.trans hmade)
    have seen := FileTree.walk_sees FileTree.maxLinks _ _ (FileTree.locate_eq_ok_iff.mp hlink).2
    rcases seen with hnode | hget
    · cases hnode
    · exact get?_ne_link h loc target hget
  · intro made loc hmade _ place _ name target
    obtain rfl := Except.ok.inj (self.symm.trans hmade)
    exact get?_ne_link h (place ++ [name]) target

/-- A text that records no run is archived, and read from the archive. -/
theorem archive_loses_nothing_disk : ∃ tree path,
    Sample.ledger.History (Sample.disk (.text "nothing")) tree [(path, .text "nothing")] ∧
      tree.read path = .ok (.text "nothing") ∧ ∃ content mode source target,
        Sample.ledger.Archived (Sample.disk (.text "nothing")) tree "demo" path content mode source
          target := by
  have self : (Sample.disk (.text "nothing")).makeDirectories Sample.ledger.dir =
      .ok (Sample.disk (.text "nothing")) := by decide +kernel
  obtain ⟨unlinked, archiveUnlinked⟩ := unlinked_of_entries self (by simp [Sample.disk])
  have unread : (Sample.ledger.load (Sample.disk (.text "nothing")) "demo").isOk = false := by
    decide +kernel
  have plain : ∀ run, Sample.ledger.load (Sample.disk (.text "nothing")) "demo" = .ok run →
      Path.IsSafe run.runId := by
    intro run hrun
    rw [hrun] at unread
    cases unread
  have out : (Sample.ledger.archive (Sample.disk (.text "nothing")) Sample.morning "demo").map
      (·.1) = .ok (some ("runs/archive/" ++ Sample.corrupted)) := by decide +kernel
  cases harchive : Sample.ledger.archive (Sample.disk (.text "nothing")) Sample.morning "demo" with
  | error e => simp [harchive, Except.map] at out
  | ok result =>
    obtain ⟨path?, tree⟩ := result
    obtain rfl : path? = some ("runs/archive/" ++ Sample.corrupted) := by
      simpa [harchive, Except.map] using out
    have history : Sample.ledger.History (Sample.disk (.text "nothing")) tree
        [("runs/archive/" ++ Sample.corrupted, .text "nothing")] :=
      .archived .start (by decide) plain (by decide +kernel) harchive
    obtain ⟨-, step, run⟩ := archive_loses_nothing Sample.ledger
    have moved := step _ tree Sample.morning "demo" _ (by decide) plain
      (unlinked "demo" (by decide)) archiveUnlinked harchive
    have kept := (run _ tree _ unlinked archiveUnlinked history).2 _ _ (List.mem_singleton.mpr rfl)
    exact ⟨tree, _, history, kept.2, moved⟩

namespace Sample

/-- The snapshot of a run without stages. -/
def bare : String :=
  "\x7b\"run_id\":\"demo-1\",\"dataset\":\"demo\",\"stages\":[],\"current_index\":0," ++
    "\"started_at\":\"2001-01-01T00:00:00Z\"\x7d"

/-- A disk with a link in the place of the snapshot, and what it leads to beside it. -/
def aliased : FileTree where
  entries := [(["runs"], .directory), (["runs", "real.json"], .file (.text bare) 0o644),
    (["runs", "demo.json"], .link "real.json")]
  here := []

end Sample

theorem archiveUnlinked_aliased : Sample.ledger.ArchiveUnlinked Sample.aliased := by
  have self : Sample.aliased.makeDirectories Sample.ledger.dir = .ok Sample.aliased := by
    decide +kernel
  have runs : Sample.aliased.walk true FileTree.maxLinks [] (Path.above Sample.ledger.dir) =
      .ok (.present ["runs"] .directory) := by decide +kernel
  have archive : Sample.aliased.walk true FileTree.maxLinks []
      (Path.above Sample.ledger.archiveDir) = .ok (.absent ["runs", "archive"] false) := by
    decide +kernel
  intro made loc hmade isAt place hplace name target
  obtain rfl := Except.ok.inj (self.symm.trans hmade)
  obtain ⟨_, enters⟩ := isAt
  obtain rfl : ["runs"] = loc := by simpa using runs.symm.trans enters.walk_eq
  rcases hplace with ⟨_, enters'⟩ | rfl
  · cases archive.symm.trans enters'.walk_eq
  · simp [FileTree.get?, Sample.aliased]

/-- The snapshot is a link, and from the archive it leads nowhere. -/
theorem archive_loses_linked :
    Path.IsSafe "demo" ∧ Sample.ledger.ArchiveUnlinked Sample.aliased ∧
      (Sample.ledger.load Sample.aliased "demo").map (·.runId) = .ok "demo-1" ∧
      Sample.aliased.read (Sample.ledger.snapshotPath "demo") = .ok (.text Sample.bare) ∧
      ∃ tree, Sample.ledger.archive Sample.aliased Sample.morning "demo" =
          .ok (some "runs/archive/demo-1.json", tree) ∧
        tree.read "runs/archive/demo-1.json" = .error .notFound := by
  have out : (Sample.ledger.archive Sample.aliased Sample.morning "demo").map
      (fun result => (result.1, result.2.read "runs/archive/demo-1.json")) =
        .ok (some "runs/archive/demo-1.json", .error .notFound) := by decide +kernel
  refine ⟨by decide, archiveUnlinked_aliased, by decide +kernel, by decide +kernel, ?_⟩
  cases harchive : Sample.ledger.archive Sample.aliased Sample.morning "demo" with
  | error e => simp [harchive, Except.map] at out
  | ok result =>
    obtain ⟨path, tree⟩ := result
    obtain ⟨rfl, hread⟩ : path = some "runs/archive/demo-1.json" ∧
        tree.read "runs/archive/demo-1.json" = .error .notFound := by
      simpa [harchive, Except.map] using out
    exact ⟨tree, rfl, hread⟩

end Ledger

end RobotPipeline
