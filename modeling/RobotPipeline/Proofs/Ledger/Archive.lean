/-
  RobotPipeline/Proofs/Ledger/Archive.lean
  ========================================
  **What the archive does with a snapshot.**

  A snapshot whose bytes are a text goes to the archive, whatever the text:
  under the identifier of its run when it loads, else under the dataset and the
  time. It is then gone from its place, so the next run starts afresh. There
  are more numbered names than entries in a tree, so one of them is free.

  Two kinds of snapshots are not archived. Bytes that are no text cannot be
  read, and the archive gives up on them before it moves anything. And an
  identifier is taken as it is recorded, so one with a slash in it leads out of
  the archive.
-/
import Mathlib.Data.List.Nodup
import Mathlib.Data.List.Perm.Subperm
import RobotPipeline.Proofs.FileTree.Move
import RobotPipeline.Proofs.Ledger.Load
import RobotPipeline.Proofs.Time.Instant

namespace RobotPipeline

/-! ### Texts that can be part of a name -/

namespace Path

/-- No character of a text ends a name. -/
def IsSafe (s : String) : Prop := ∀ c ∈ s.toList, c ≠ '/' ∧ c.toNat ≠ 0

instance (s : String) : Decidable (IsSafe s) :=
  decidable_of_iff (s.toList.all (fun c => c ≠ '/' && c.toNat ≠ 0) = true) (by simp [IsSafe])

theorem IsSafe.append {s t : String} (hs : IsSafe s) (ht : IsSafe t) : IsSafe (s ++ t) := by
  intro c hc
  rw [String.toList_append, List.mem_append] at hc
  exact hc.elim (hs c) (ht c)

theorem isSafe_of_digits {s : String}
    (h : ∀ c ∈ s.toList, (Text.digitValue? c).isSome = true) : IsSafe s := by
  intro c hc
  have range := Text.digit_range (h c hc)
  constructor
  · rintro rfl
    simp at range
  · omega

theorem isSafe_decimal (n : Nat) : IsSafe (Text.decimal n) := by
  apply isSafe_of_digits
  intro c hc
  exact Text.isSome_digitValue?_of_mem_digits (by simpa [Text.decimal] using hc)

theorem isSafe_zeroPadded (width n : Nat) : IsSafe (Text.zeroPadded width n) := by
  apply isSafe_of_digits
  intro c hc
  rw [Text.toList_zeroPadded] at hc
  exact Text.isSome_digitValue?_of_mem_paddedDigits hc

theorem isSafe_stamp (i : Instant) : IsSafe i.stamp := by
  have hyear : IsSafe (Instant.yearText i.date.year) := by
    unfold Instant.yearText
    split
    · exact isSafe_zeroPadded 4 _
    · split
      · exact IsSafe.append (by decide) (isSafe_zeroPadded 4 _)
      · exact IsSafe.append (by decide) (isSafe_zeroPadded 4 _)
  have hempty : IsSafe "" := by decide
  have hdate : IsSafe (Instant.dateText "" i.date) :=
    (((hyear.append hempty).append (isSafe_zeroPadded 2 _)).append hempty).append
      (isSafe_zeroPadded 2 _)
  have hclock : IsSafe (Instant.clockText "" i) :=
    ((((isSafe_zeroPadded 2 _).append hempty).append (isSafe_zeroPadded 2 _)).append hempty).append
      (isSafe_zeroPadded 2 _)
  exact (hdate.append (by decide)).append hclock

theorem isSafe_of_isDatasetName {dataset : String}
    (h : Parameters.isDatasetName dataset = true) : IsSafe dataset := by
  intro c hc
  have hchar : Parameters.isDatasetChar c = true := by
    unfold Parameters.isDatasetName at h
    cases hcs : dataset.toList with
    | nil => simp [hcs] at hc
    | cons first rest =>
      rw [hcs] at h hc
      simp only [Bool.and_eq_true, List.all_eq_true] at h
      rcases List.mem_cons.mp hc with rfl | hc
      · simp [Parameters.isDatasetChar, h.1]
      · exact h.2 c hc
  constructor
  · rintro rfl
    revert hchar
    decide
  · intro hnul
    have hc : c = Char.ofNat 0 := by rw [← hnul, Char.ofNat_toNat]
    rw [hc] at hchar
    revert hchar
    decide

theorem isName_json {s : String} (h : IsSafe s) : IsName (s ++ ".json") := by
  have hlist : (s ++ ".json").toList = s.toList ++ ".json".toList := String.toList_append
  have hlen : 5 ≤ (s ++ ".json").toList.length := by
    rw [hlist, List.length_append]
    exact Nat.le_add_left 5 _
  have hshort : ∀ t : String, t.toList.length < 5 → s ++ ".json" ≠ t := by
    rintro t ht rfl
    omega
  refine ⟨?_, hshort "" (by decide), hshort "." (by decide), hshort ".." (by decide)⟩
  intro hslash
  exact (h.append (by decide : IsSafe ".json") '/' hslash).1 rfl

theorem isName_archive : IsName "archive" := by
  refine ⟨?_, ?_, ?_, ?_⟩ <;> decide

end Path

namespace Ledger

/-! ### A free name -/

/-- The names that may be tried for a snapshot: the name itself, and with the numbers up to a
last one. -/
inductive IsTried (name : String) (last : Nat) : String → Prop where
  | bare : IsTried name last name
  | numbered {n : Nat} (h : n ≤ last) : IsTried name last (numbered name n)

theorem IsTried.mono {name m : String} {last last' : Nat} (h : IsTried name last m)
    (hle : last ≤ last') : IsTried name last' m := by
  cases h with
  | bare => exact .bare
  | numbered hn => exact .numbered (hn.trans hle)

theorem isSafe_stem {name : String} (h : Path.IsSafe name) : Path.IsSafe (stem name) := by
  have hdrop : ∀ (n : Nat) (cs : List Char) (c : Char), c ∈ dropExtensions n cs → c ∈ cs := by
    intro n
    induction n with
    | zero => exact fun _ _ hc => hc
    | succ n ih =>
      intro cs c hc
      unfold dropExtensions at hc
      split at hc
      · exact List.mem_of_mem_drop (ih _ c hc)
      · exact hc
  intro c hc
  apply h
  have hmem : c ∈ dropExtensions name.length name.toList.reverse := by simpa [stem] using hc
  simpa using hdrop _ _ c hmem

theorem isSafe_of_isTried {name m : String} {last : Nat} (h : Path.IsSafe name)
    (tried : IsTried name last m) : Path.IsSafe m := by
  cases tried with
  | bare => exact h
  | numbered hn =>
    exact (((isSafe_stem h).append (by decide)).append (Path.isSafe_decimal _)).append (by decide)

theorem isName_of_isTried {s m : String} {last : Nat} (h : Path.IsSafe s)
    (tried : IsTried (s ++ ".json") last m) : Path.IsName m := by
  cases tried with
  | bare => exact Path.isName_json h
  | numbered hn =>
    have hname : Path.IsSafe (s ++ ".json") := h.append (by decide)
    exact Path.isName_json
      (((isSafe_stem hname).append (by decide)).append (Path.isSafe_decimal _))

theorem numbered_injective (name : String) : Function.Injective (numbered name) := by
  intro m n h
  have hdigits : Text.digits m = Text.digits n := by
    simpa [numbered, Text.decimal, String.ext_iff] using congrArg String.toList h
  rw [← Text.valueOf_digits m, hdigits, Text.valueOf_digits]

variable {tree : FileTree} {dir name : String}

/-- The number that is found is the first one whose path leads nowhere. -/
theorem freeNumbered_eq_some {tries n : Nat} {path : String}
    (h : freeNumbered tree dir name tries n = some path) :
    ∃ m, n ≤ m ∧ m < n + tries ∧ path = Path.join dir (numbered name m) ∧
      tree.pathExists path = false ∧
        ∀ k, n ≤ k → k < m → tree.pathExists (Path.join dir (numbered name k)) = true := by
  induction tries generalizing n with
  | zero => cases h
  | succ tries ih =>
    unfold freeNumbered at h
    dsimp only at h
    split at h
    · rename_i taken
      obtain ⟨m, hle, hm, hpath, habsent, earlier⟩ := ih h
      refine ⟨m, by omega, by omega, hpath, habsent, ?_⟩
      intro k hk hlt
      rcases Nat.lt_or_eq_of_le hk with hk | rfl
      · exact earlier k hk hlt
      · exact taken
    · rename_i hfree
      have hpath := (Option.some.inj h).symm
      refine ⟨n, Nat.le_refl n, by omega, hpath, ?_, ?_⟩
      · rw [hpath]
        simpa using hfree
      · intro k hk hlt
        omega

theorem freeNumbered_eq_none {tries n : Nat} (h : freeNumbered tree dir name tries n = none) :
    ∀ m, n ≤ m → m < n + tries →
      tree.pathExists (Path.join dir (numbered name m)) = true := by
  induction tries generalizing n with
  | zero =>
    intro m hle hlt
    omega
  | succ tries ih =>
    unfold freeNumbered at h
    dsimp only at h
    split at h
    · rename_i hexists
      intro m hle hlt
      by_cases hm : m = n
      · rw [hm]
        exact hexists
      · exact ih h m (by omega) (by omega)
    · cases h

/-- What exists in a directory is an entry of the tree. -/
theorem mem_entries_of_pathExists {loc : Location} (hdir : tree.IsAt dir loc)
    (hname : Path.IsName name) (h : tree.pathExists (Path.join dir name) = true) :
    loc ++ [name] ∈ tree.entries.map (·.1) := by
  cases hlocate : tree.locate true (Path.join dir name) with
  | error cause => simp [FileTree.pathExists, FileTree.node?, hlocate] at h
  | ok spot =>
    obtain ⟨-, -, hlen, hpath⟩ := FileTree.exists_isAt hname hlocate
    obtain ⟨left, hwalk⟩ := hdir.locate_eq hname hpath true
    cases hget : tree.get? (loc ++ [name]) with
    | none =>
      have noLink : ∀ target, tree.get? (loc ++ [name]) ≠ some (.link target) := by simp [hget]
      rw [hdir.locate_join_follow hname hlen hpath noLink, FileTree.spotAt, hget] at hlocate
      obtain rfl := Except.ok.inj hlocate
      rw [FileTree.pathExists, FileTree.node?, hdir.locate_join_follow hname hlen hpath noLink,
        FileTree.spotAt, hget] at h
      cases h
    | some node =>
      unfold FileTree.get? at hget
      rw [if_neg (by simp)] at hget
      obtain ⟨entry, hentry, -⟩ := Option.map_eq_some_iff.mp hget
      have hkey : entry.1 = loc ++ [name] := by simpa using List.find?_some hentry
      rw [← hkey]
      exact List.mem_map_of_mem (List.mem_of_find?_eq_some hentry)

/-- One of as many numbers as there are entries, and one more, is free. -/
theorem freeNumbered_ne_none {loc : Location} (hdir : tree.IsAt dir loc)
    (hnames : ∀ n, Path.IsName (numbered name n)) :
    freeNumbered tree dir name (tree.entries.length + 1) 1 ≠ none := by
  intro hnone
  have taken := freeNumbered_eq_none hnone
  -- if all were taken, more places would have an entry than there are entries
  let places := (List.range (tree.entries.length + 1)).map fun i => loc ++ [numbered name (i + 1)]
  have nodup : places.Nodup := by
    apply List.Nodup.map _ List.nodup_range
    intro i j hij
    have hnumbered := numbered_injective name (by simpa using hij)
    omega
  have subset : places ⊆ tree.entries.map (·.1) := by
    intro place hplace
    obtain ⟨i, hi, rfl⟩ := List.mem_map.mp hplace
    have hlt := List.mem_range.mp hi
    exact mem_entries_of_pathExists hdir (hnames (i + 1)) (taken (i + 1) (by omega) (by omega))
  have hle := (nodup.subperm subset).length_le
  rw [List.length_map, List.length_range, List.length_map] at hle
  omega

/-- What the archive gives a snapshot is one of the names that may be tried. -/
theorem exists_freePath (tree : FileTree) (dir name : String) :
    ∃ m, IsTried name (tree.entries.length + 1) m ∧ freePath tree dir name = Path.join dir m := by
  unfold freePath
  dsimp only
  split
  · cases hfree : freeNumbered tree dir name (tree.entries.length + 1) 1 with
    | none => exact ⟨name, .bare, rfl⟩
    | some path =>
      obtain ⟨m, -, hm, hpath, -, -⟩ := freeNumbered_eq_some hfree
      refine ⟨numbered name m, .numbered (by omega), ?_⟩
      rw [Option.getD_some, hpath]
  · exact ⟨name, .bare, rfl⟩

/-- Nothing has the name that the archive gives a snapshot. -/
theorem pathExists_freePath {loc : Location} (hdir : tree.IsAt dir loc)
    (hnames : ∀ n, Path.IsName (numbered name n)) :
    tree.pathExists (freePath tree dir name) = false := by
  unfold freePath
  dsimp only
  split
  · cases hfree : freeNumbered tree dir name (tree.entries.length + 1) 1 with
    | none => exact absurd hfree (freeNumbered_ne_none hdir hnames)
    | some path =>
      obtain ⟨m, -, -, -, habsent, -⟩ := freeNumbered_eq_some hfree
      exact habsent
  · rename_i habsent
    simpa using habsent

/-! ### The directory of a ledger -/

variable {l : Ledger} {dataset : String} {loc there : Location} {content : Content} {mode : Nat}
  {made : FileTree}

/-- The place of a snapshot that is a regular file. -/
structure Holds (l : Ledger) (tree : FileTree) (dataset : String) (loc : Location)
    (content : Content) (mode : Nat) : Prop where
  isAt : tree.IsAt l.dir loc
  get_eq : tree.get? (loc ++ [dataset ++ ".json"]) = some (.file content mode)
  length_le : (dataset ++ ".json").utf8ByteSize ≤ FileTree.maxNameBytes
  isPath : FileTree.IsPath (l.snapshotPath dataset)

theorem exists_holds (safe : Path.IsSafe dataset)
    (h : tree.locate false (l.snapshotPath dataset) = .ok (.present there (.file content mode))) :
    ∃ loc, l.Holds tree dataset loc content mode ∧ there = loc ++ [dataset ++ ".json"] := by
  have hname := Path.isName_json safe
  obtain ⟨loc, isAt, hlen, hpath⟩ := FileTree.exists_isAt hname h
  have hspot := isAt.locate_join hname hlen hpath
  have hsame := hspot.symm.trans h
  rw [FileTree.spotAt] at hsame
  cases hget : tree.get? (loc ++ [dataset ++ ".json"]) with
  | none => simp [hget] at hsame
  | some node =>
    rw [hget] at hsame
    obtain ⟨rfl, rfl⟩ : loc ++ [dataset ++ ".json"] = there ∧ node = .file content mode := by
      simpa using hsame
    exact ⟨loc, ⟨isAt, hget, hlen, hpath⟩, rfl⟩

namespace Holds

theorem blind (h : l.Holds tree dataset loc content mode) :
    tree.IsBlind (loc ++ [dataset ++ ".json"]) :=
  FileTree.isBlind_of_file h.get_eq

theorem locate_eq (h : l.Holds tree dataset loc content mode) (safe : Path.IsSafe dataset)
    (follow : Bool) : tree.locate follow (l.snapshotPath dataset) =
      .ok (.present (loc ++ [dataset ++ ".json"]) (.file content mode)) := by
  have hname := Path.isName_json safe
  have hspot : tree.spotAt (loc ++ [dataset ++ ".json"]) =
      .present (loc ++ [dataset ++ ".json"]) (.file content mode) := by
    rw [FileTree.spotAt, h.get_eq]
  rw [← hspot]
  cases follow with
  | false => exact h.isAt.locate_join hname h.length_le h.isPath
  | true => exact h.isAt.locate_join_follow hname h.length_le h.isPath (by simp [h.get_eq])

theorem hasSnapshot (h : l.Holds tree dataset loc content mode) (safe : Path.IsSafe dataset) :
    l.hasSnapshot tree dataset = true := by
  simp [Ledger.hasSnapshot, FileTree.isFile, FileTree.node?, h.locate_eq safe true]

theorem read_eq (h : l.Holds tree dataset loc content mode) (safe : Path.IsSafe dataset) :
    tree.read (l.snapshotPath dataset) = .ok content := by
  simp [FileTree.read, h.locate_eq safe true, bind, Except.bind]

end Holds

/-! ### The archive directory -/

/-- The archive directory is there in a tree that is otherwise the same. -/
structure HasArchive (tree made : FileTree) (loc : Location) : Prop where
  isAt : ∀ {dir : String} {place : Location}, tree.IsAt dir place → made.IsAt dir place
  get_archive : made.get? (loc ++ ["archive"]) = some .directory
  get_other : ∀ {other : Location}, other ≠ loc ++ ["archive"] →
    made.get? other = tree.get? other
  length_le : made.entries.length ≤ tree.entries.length + 1

theorem hasArchive (isAt : tree.IsAt l.dir loc)
    (noLink : ∀ target, tree.get? (loc ++ ["archive"]) ≠ some (.link target))
    (hmade : tree.makeDirectories l.archiveDir = .ok made) : HasArchive tree made loc := by
  rcases isAt.of_makeDirectories_join Path.isName_archive (by decide) noLink hmade with
    ⟨rfl, hget⟩ | ⟨rfl, hget⟩
  · exact ⟨id, hget, fun _ => rfl, Nat.le_succ _⟩
  · constructor
    · intro dir place h
      exact h.set (FileTree.isBlind_of_absent hget) .directory
    · exact tree.get?_set_self .directory (by simp)
    · intro other hne
      exact tree.get?_set_other .directory hne
    · exact Nat.succ_le_succ (List.length_filter_le _ _)

theorem json_ne_archive (s : String) : s ++ ".json" ≠ "archive" := by
  intro h
  have hlast := congrArg (fun t : String => t.toList.getLast?) h
  simp at hlast

theorem HasArchive.holds (h : HasArchive tree made loc)
    (holds : l.Holds tree dataset loc content mode) : l.Holds made dataset loc content mode := by
  refine ⟨h.isAt holds.isAt, ?_, holds.length_le, holds.isPath⟩
  rw [h.get_other (by simpa using json_ne_archive dataset), holds.get_eq]

theorem HasArchive.isAt_archive (h : HasArchive tree made loc) (isAt : tree.IsAt l.dir loc) :
    made.IsAt l.archiveDir (loc ++ ["archive"]) :=
  (h.isAt isAt).join Path.isName_archive (by decide) h.get_archive

/-! ### Archiving -/

/-- What archiving the snapshot of a dataset may come to: what it gives, and the files after it. -/
inductive Archives (l : Ledger) (tree : FileTree) (now : Instant) (dataset : String) :
    Except LedgerError (Option String × FileTree) → Prop where
  | nothing (absent : l.hasSnapshot tree dataset = false) :
      Archives l tree now dataset (.ok (none, tree))
  | unnamed {e : LedgerError} (present : l.hasSnapshot tree dataset = true)
      (h : l.archiveName tree now dataset = .error e) : Archives l tree now dataset (.error e)
  | unmoved {name : String} {cause : IoError} (present : l.hasSnapshot tree dataset = true)
      (h : l.archiveName tree now dataset = .ok name) :
      Archives l tree now dataset (.error (.io cause))
  | moved {name target : String} {last : Nat} {made after : FileTree}
      (present : l.hasSnapshot tree dataset = true)
      (h : l.archiveName tree now dataset = .ok name) (tried : IsTried name last target)
      (hmade : tree.makeDirectories l.archiveDir = .ok made)
      (hmoved : made.rename (l.snapshotPath dataset) (Path.join l.archiveDir target) = .ok after) :
      Archives l tree now dataset (.ok (some (Path.join l.archiveDir target), after))

theorem archives_archive (l : Ledger) (tree : FileTree) (now : Instant) (dataset : String) :
    l.Archives tree now dataset (l.archive tree now dataset) := by
  unfold archive
  cases hpresent : l.hasSnapshot tree dataset with
  | false => exact .nothing hpresent
  | true =>
    simp only [Bool.not_true, Bool.false_eq_true, if_false]
    cases hname : l.archiveName tree now dataset with
    | error e => exact .unnamed hpresent hname
    | ok name =>
      unfold moveToArchive
      cases hmade : tree.makeDirectories l.archiveDir with
      | error cause => exact .unmoved hpresent hname
      | ok made =>
        obtain ⟨target, tried, htarget⟩ := exists_freePath made l.archiveDir name
        simp only [htarget, bind, Except.bind]
        cases hmoved : made.rename (l.snapshotPath dataset) (Path.join l.archiveDir target) with
        | error cause => exact .unmoved hpresent hname
        | ok after => exact .moved hpresent hname tried hmade hmoved

/-- No symbolic link stands in the directory of a ledger, however deep. -/
def LinkFree (l : Ledger) (tree : FileTree) : Prop :=
  ∀ loc, tree.IsAt l.dir loc → ∀ below target, tree.get? (loc ++ below) ≠ some (.link target)

/-- Every name that may be tried for a snapshot is short enough for the archive. -/
def Fits (l : Ledger) (tree : FileTree) (name : String) : Prop :=
  ∀ m, IsTried name (tree.entries.length + 2) m →
    m.utf8ByteSize ≤ FileTree.maxNameBytes ∧
      (Path.join l.archiveDir m).utf8ByteSize ≤ FileTree.maxPathBytes

/-- Whatever a snapshot is archived as, what stands before the extension can be part of a name. Only
an identifier on record has to be plain: the dataset and the time are so by themselves. -/
theorem exists_safe_of_archiveName {now : Instant} {name : String} (safe : Path.IsSafe dataset)
    (plain : ∀ run, l.load tree dataset = .ok run → Path.IsSafe run.runId)
    (h : l.archiveName tree now dataset = .ok name) :
    ∃ s, Path.IsSafe s ∧ name = s ++ ".json" := by
  unfold archiveName at h
  split at h
  · rename_i run hrun
    cases h
    exact ⟨run.runId, plain run hrun, rfl⟩
  · cases h
    have extended : ".corrupted.json" = ".corrupted" ++ ".json" := rfl
    refine ⟨dataset ++ "-" ++ now.stamp ++ ".corrupted", ?_, ?_⟩
    · exact ((safe.append (by decide)).append (Path.isSafe_stamp now)).append (by decide)
    · rw [extended, ← String.append_assoc]
  · cases h

/-- A snapshot that is a text gets a name in the archive, whatever the text says. -/
theorem exists_archiveName (now : Instant) {text : String} (safe : Path.IsSafe dataset)
    (reads : tree.readText (l.snapshotPath dataset) = .ok text)
    (plain : ∀ run, l.load tree dataset = .ok run → Path.IsSafe run.runId) :
    ∃ s, Path.IsSafe s ∧ l.archiveName tree now dataset = .ok (s ++ ".json") := by
  obtain ⟨name, hname⟩ : ∃ name, l.archiveName tree now dataset = .ok name := by
    unfold archiveName load
    rw [reads]
    cases hi : interpret dataset text with
    | ok run => simp [hi]
    | error what => simp [hi]
  obtain ⟨s, hs, rfl⟩ := exists_safe_of_archiveName safe plain hname
  exact ⟨s, hs, hname⟩

theorem isPath_archive {name : String} (isPath : FileTree.IsPath (l.snapshotPath dataset))
    (safe : Path.IsSafe name) (hname : Path.IsName name) (hdataset : Path.IsSafe dataset)
    (hlen : (Path.join l.archiveDir name).utf8ByteSize ≤ FileTree.maxPathBytes) :
    FileTree.IsPath (Path.join l.archiveDir name) := by
  refine ⟨Path.join_ne_empty hname _, ?_, hlen⟩
  obtain ⟨slash₁, hslash₁, -, hdir⟩ := Path.toList_join Path.isName_archive l.dir
  obtain ⟨slash₂, hslash₂, -, hlist⟩ := Path.toList_join hname l.archiveDir
  obtain ⟨slash₃, -, -, hsnapshot⟩ := Path.toList_join (Path.isName_json hdataset) l.dir
  have hnul := isPath.2.1
  rw [snapshotPath, hsnapshot] at hnul
  simp only [List.any_append, Bool.or_eq_false_iff] at hnul
  have clean : ∀ slash : List Char, (∀ c ∈ slash, c = '/') →
      slash.any (fun c => c.toNat = 0) = false := by
    intro slash hslash
    rw [List.any_eq_false]
    intro c hc
    rw [hslash c hc]
    decide
  have hsafe : name.toList.any (fun c => c.toNat = 0) = false := by
    rw [List.any_eq_false]
    intro c hc
    simpa using (safe c hc).2
  rw [hlist, archiveDir, hdir]
  simp only [List.any_append, Bool.or_eq_false_iff]
  exact ⟨⟨⟨⟨hnul.1.1, clean slash₁ hslash₁⟩, by decide⟩, clean slash₂ hslash₂⟩, hsafe⟩

/-- Where nothing exists and no link is, nothing is. -/
theorem get?_of_pathExists_eq_false {dir name : String} {place : Location}
    (isAt : made.IsAt dir place) (hname : Path.IsName name)
    (hlen : name.utf8ByteSize ≤ FileTree.maxNameBytes)
    (hpath : FileTree.IsPath (Path.join dir name))
    (noLink : ∀ target, made.get? (place ++ [name]) ≠ some (.link target))
    (h : made.pathExists (Path.join dir name) = false) : made.get? (place ++ [name]) = none := by
  cases hget : made.get? (place ++ [name]) with
  | none => rfl
  | some node =>
    have hspot := isAt.locate_join_follow hname hlen hpath noLink
    rw [FileTree.spotAt, hget] at hspot
    simp [FileTree.pathExists, FileTree.node?, hspot] at h

theorem read_moved {name : String} {source place : Location} (isAt : made.IsAt dir place)
    (hs : made.IsBlind source) (hfree : made.get? (place ++ [name]) = none)
    (hname : Path.IsName name) (hlen : name.utf8ByteSize ≤ FileTree.maxNameBytes)
    (hpath : FileTree.IsPath (Path.join dir name)) :
    ((made.erase source).set (place ++ [name]) (.file content mode)).read (Path.join dir name) =
      .ok content := by
  have blind := FileTree.isBlind_of_absent hfree
  have hget := (made.erase source).get?_set_self (.file content mode)
    (List.append_ne_nil_of_right_ne_nil place (List.cons_ne_nil name []))
  have hspot := (isAt.move hs blind (.file content mode)).locate_join_follow hname hlen hpath
    (by simp [hget])
  rw [FileTree.spotAt, hget] at hspot
  simp [FileTree.read, hspot, bind, Except.bind]

theorem locate_moved {target : Location} (holds : l.Holds made dataset loc content mode)
    (safe : Path.IsSafe dataset) (ht : made.IsBlind target)
    (hne : loc ++ [dataset ++ ".json"] ≠ target) (node : Node) :
    ((made.erase (loc ++ [dataset ++ ".json"])).set target node).locate true
      (l.snapshotPath dataset) = .ok (.absent (loc ++ [dataset ++ ".json"]) false) := by
  have hget : ((made.erase (loc ++ [dataset ++ ".json"])).set target node).get?
      (loc ++ [dataset ++ ".json"]) = none := by
    rw [FileTree.get?_set_other _ node hne, FileTree.get?_erase_self _ (by simp)]
  have hspot := (holds.isAt.move holds.blind ht node).locate_join_follow (Path.isName_json safe)
    holds.length_le holds.isPath (by simp [hget])
  rw [FileTree.spotAt, hget] at hspot
  exact hspot

/-- What moving a snapshot to the archive comes to. -/
theorem exists_moveToArchive {s : String} (holds : l.Holds tree dataset loc content mode)
    (safe : Path.IsSafe dataset) (hs : Path.IsSafe s)
    (linkFree : ∀ below target, tree.get? (loc ++ below) ≠ some (.link target))
    (hmade : tree.makeDirectories l.archiveDir = .ok made) (fits : l.Fits tree (s ++ ".json")) :
    ∃ name tree',
      l.moveToArchive tree (l.snapshotPath dataset) (s ++ ".json") =
        .ok (Path.join l.archiveDir name, tree') ∧
      '/' ∉ name.toList ∧ tree'.read (Path.join l.archiveDir name) = .ok content ∧
      tree'.locate true (l.snapshotPath dataset) =
        .ok (.absent (loc ++ [dataset ++ ".json"]) false) := by
  have noLink : ∀ target, tree.get? (loc ++ ["archive"]) ≠ some (.link target) :=
    linkFree ["archive"]
  have archive := hasArchive holds.isAt noLink hmade
  have isAt := archive.isAt_archive holds.isAt
  have holds' := archive.holds holds
  have hnames : ∀ n, Path.IsName (numbered (s ++ ".json") n) :=
    fun n => isName_of_isTried hs (.numbered (Nat.le_refl n))
  have habsent := pathExists_freePath isAt hnames
  obtain ⟨name, tried, htarget⟩ := exists_freePath made l.archiveDir (s ++ ".json")
  rw [htarget] at habsent
  have hname := isName_of_isTried hs tried
  have hsafe := isSafe_of_isTried (hs.append (by decide)) tried
  obtain ⟨hlen, hfits⟩ := fits name (tried.mono (Nat.succ_le_succ archive.length_le))
  have hpath := isPath_archive holds.isPath hsafe hname safe hfits
  have noLink' : ∀ target, made.get? (loc ++ ["archive"] ++ [name]) ≠ some (.link target) := by
    intro target
    rw [archive.get_other (by simp), List.append_assoc]
    exact linkFree _ target
  have hfree := get?_of_pathExists_eq_false isAt hname hlen hpath noLink' habsent
  have hspot := isAt.locate_join hname hlen hpath
  rw [FileTree.spotAt, hfree] at hspot
  have hmoved := (FileTree.rename_eq_ok_iff (holds'.locate_eq safe false)).mpr
    ⟨_, _, hspot, ⟨rfl, rfl⟩, rfl⟩
  refine ⟨name, (made.erase (loc ++ [dataset ++ ".json"])).set (loc ++ ["archive"] ++ [name])
    (.file content mode), ?_, hname.1, ?_, ?_⟩
  · simp only [moveToArchive, hmade, htarget, hmoved, bind, Except.bind, pure, Except.pure]
  · exact read_moved isAt holds'.blind hfree hname hlen hpath
  · exact locate_moved holds' safe (FileTree.isBlind_of_absent hfree) (by simp) _

/-- A snapshot that can be read as a text is archived: what it held is then read in the archive,
nothing is left in its place, and the next run starts afresh. One that cannot be read is not. -/
theorem archive_of_snapshot {now : Instant} (valid : Parameters.isDatasetName dataset = true)
    (snapshot :
      tree.locate false (l.snapshotPath dataset) = .ok (.present there (.file content mode)))
    (linkFree : l.LinkFree tree) (writable : ∃ made, tree.makeDirectories l.archiveDir = .ok made)
    (plain : ∀ run, l.load tree dataset = .ok run → Path.IsSafe run.runId)
    (fits : ∀ name, l.archiveName tree now dataset = .ok name → l.Fits tree name) :
    (∀ bs, content = .bytes bs → l.archive tree now dataset = .error (.io .notUtf8)) ∧
    ∀ text, content = .text text → ∃ name tree',
      l.archive tree now dataset = .ok (some (Path.join l.archiveDir name), tree') ∧
        '/' ∉ name.toList ∧ tree'.read (Path.join l.archiveDir name) = .ok content ∧
        tree'.pathExists (l.snapshotPath dataset) = false ∧
        l.load tree' dataset = .error (.notFound dataset) := by
  have safe := Path.isSafe_of_isDatasetName valid
  obtain ⟨loc, holds, rfl⟩ := exists_holds safe snapshot
  have present := holds.hasSnapshot safe
  have read := holds.read_eq safe
  constructor
  · rintro bs rfl
    have unread : tree.readText (l.snapshotPath dataset) = .error .notUtf8 := by
      simp [FileTree.readText, read, bind, Except.bind]
    have refused : (IoError.notUtf8 = IoError.notFound) = False := by decide
    simp [archive, present, archiveName, load, unread, refused]
  · rintro text rfl
    have reads : tree.readText (l.snapshotPath dataset) = .ok text := by
      simp [FileTree.readText, read, bind, Except.bind]
    obtain ⟨s, hs, hname⟩ := exists_archiveName now safe reads plain
    obtain ⟨made, hmade⟩ := writable
    obtain ⟨name, tree', hmove, hslash, hread, hgone⟩ :=
      exists_moveToArchive holds safe hs (linkFree loc holds.isAt) hmade (fits _ hname)
    have left : tree'.readText (l.snapshotPath dataset) = .error .notFound := by
      simp [FileTree.readText, FileTree.read, hgone, bind, Except.bind]
    refine ⟨name, tree', ?_, hslash, hread, ?_, ?_⟩
    · simp [archive, present, hname, hmove]
    · simp [FileTree.pathExists, FileTree.node?, hgone]
    · simp [load, left]

/-! ### Samples -/

theorem get?_ne_link (h : ∀ entry ∈ tree.entries, ∀ target, entry.2 ≠ .link target)
    (loc : Location) (target : String) : tree.get? loc ≠ some (.link target) := by
  intro hget
  unfold FileTree.get? at hget
  split at hget
  · cases hget
  · obtain ⟨entry, hentry, hnode⟩ := Option.map_eq_some_iff.mp hget
    exact h entry (List.mem_of_find?_eq_some hentry) target hnode

theorem linkFree_of_entries (h : ∀ entry ∈ tree.entries, ∀ target, entry.2 ≠ .link target) :
    l.LinkFree tree :=
  fun loc _ below target => get?_ne_link h (loc ++ below) target

namespace Sample

def ledger : Ledger := ⟨"runs"⟩

/-- A disk with one snapshot and nothing else. -/
def disk (content : Content) : FileTree where
  entries := [(["runs"], .directory), (["runs", "demo.json"], .file content 0o644)]
  here := []

def morning : Instant where
  date := { year := 2025, month := 2, day := 28 }
  second := 32400
  nanos := 0

def corrupted : String := "demo-20250228T090000.corrupted.json"

/-- The snapshot of a run whose identifier has a slash in it. -/
def slashed : String :=
  "\x7b\"run_id\":\"../other\",\"dataset\":\"demo\",\"stages\":[],\"current_index\":0," ++
    "\"started_at\":\"2001-01-01T00:00:00Z\"\x7d"

end Sample

/-- A text that records no run is archived. -/
theorem archive_of_sample : ∃ name tree',
    Sample.ledger.archive (Sample.disk (.text "nothing")) Sample.morning "demo" =
      .ok (some (Path.join "runs/archive" name), tree') ∧
    tree'.read (Path.join "runs/archive" name) = .ok (.text "nothing") := by
  have snapshot : (Sample.disk (.text "nothing")).locate false
      (Sample.ledger.snapshotPath "demo") =
        .ok (.present ["runs", "demo.json"] (.file (.text "nothing") 0o644)) := by decide +kernel
  have named : Sample.ledger.archiveName (Sample.disk (.text "nothing")) Sample.morning "demo" =
      .ok Sample.corrupted := by decide +kernel
  have unread : (Sample.ledger.load (Sample.disk (.text "nothing")) "demo").isOk = false := by
    decide +kernel
  have short : ∀ n ≤ 4,
      (numbered Sample.corrupted n).utf8ByteSize ≤ FileTree.maxNameBytes ∧
        (Path.join Sample.ledger.archiveDir (numbered Sample.corrupted n)).utf8ByteSize ≤
          FileTree.maxPathBytes := by decide +kernel
  have fits : ∀ name, Sample.ledger.archiveName (Sample.disk (.text "nothing")) Sample.morning "demo" =
      .ok name → Sample.ledger.Fits (Sample.disk (.text "nothing")) name := by
    intro name hname m tried
    obtain rfl := Except.ok.inj (named.symm.trans hname)
    cases tried with
    | bare => decide +kernel
    | numbered hn => exact short _ hn
  have plain : ∀ run, Sample.ledger.load (Sample.disk (.text "nothing")) "demo" = .ok run →
      Path.IsSafe run.runId := by
    intro run hrun
    rw [hrun] at unread
    cases unread
  have writable : ∃ made,
      (Sample.disk (.text "nothing")).makeDirectories Sample.ledger.archiveDir = .ok made :=
    ⟨(Sample.disk (.text "nothing")).set ["runs", "archive"] .directory, by decide +kernel⟩
  obtain ⟨name, tree', harchive, -, hread, -⟩ := (archive_of_snapshot (by decide) snapshot
    (linkFree_of_entries (by simp [Sample.disk])) writable plain fits).2 _ rfl
  exact ⟨name, tree', harchive, hread⟩

/-- Bytes that are no text are not archived, and an identifier with a slash leads out of the
archive. -/
theorem not_archived :
    Sample.ledger.archive (Sample.disk (.bytes [255])) Sample.morning "demo" =
        .error (.io .notUtf8) ∧
      (Sample.ledger.archive (Sample.disk (.text Sample.slashed)) Sample.morning "demo").map (·.1) =
        .ok (some "runs/archive/../other.json") := by
  constructor
  · decide +kernel
  · decide +kernel

end Ledger

end RobotPipeline
