/-
  RobotPipeline/Proofs/Ledger/RoundTrip.lean
  ==========================================
  **A run survives being written and read.**

  The text of a run reads back as the run, whatever its strings, numbers and
  times are. So a snapshot that was saved loads, with what was running
  recovered; and a run that was loaded has nothing running, so that saving and
  loading it again changes nothing.

  One thing comes between writing a snapshot and reading it. A symbolic link in
  its place is replaced, and if the path led through the link it leads nowhere
  then. That cannot happen to a snapshot that loads: such a link leads to a
  file, and so the path does not go on behind it (`hasSnapshot_of_write`).
-/
import RobotPipeline.Proofs.Ledger.Reload
import RobotPipeline.Proofs.Ledger.Slot

namespace RobotPipeline

namespace Ledger

variable {l : Ledger} {tree tree' : FileTree} {dataset : String} {run : Run}

theorem save_eq_ok_iff : l.save tree run = .ok tree' ↔ run.Ordered ∧ l.write tree run = .ok tree' := by
  unfold save
  rw [← Run.orderViolation?_eq_none_iff]
  cases run.orderViolation? with
  | some violation => simp
  | none =>
    cases l.write tree run with
    | error cause => simp
    | ok written => simp

/-! ### Saving and loading -/

theorem load_of_save (fits : run.currentIndex ≤ Text.maxWord64) (h : l.save tree run = .ok tree')
    (leads : l.hasSnapshot tree' run.dataset = true) :
    l.load tree' run.dataset = .ok run.recover := by
  obtain ⟨ordered, hwrite⟩ := save_eq_ok_iff.mp h
  obtain ⟨there, hlocate⟩ := exists_locate_of_write hwrite leads
  have reads : tree'.readText (l.snapshotPath run.dataset) = .ok (encode run) := by
    simp [FileTree.readText, FileTree.read, hlocate, bind, Except.bind]
  exact load_of_encode reads ordered (decode?_encode fits)

/-- Where there was no link in its place, a snapshot that was written is found. -/
theorem Unlinked.hasSnapshot_of_write (unlinked : l.Unlinked tree run.dataset)
    (h : l.write tree run = .ok tree') : l.hasSnapshot tree' run.dataset = true := by
  obtain ⟨-, there, hlocate⟩ := unlinked.exists_written h
  simp [hasSnapshot, FileTree.isFile, FileTree.node?, hlocate]

/-- Where a snapshot loads, one that is written in its place is found, also in place of a link. -/
theorem hasSnapshot_of_write (hload : l.load tree run.dataset = .ok run)
    (h : l.write tree run = .ok tree') : l.hasSnapshot tree' run.dataset = true := by
  obtain ⟨there, node, hlocate, hdirectory, -⟩ := exists_locate_of_load hload
  obtain ⟨made, hmade, hreplace⟩ := write_eq_ok_iff.mp h
  obtain ⟨before, name, ends⟩ := l.exists_endsIn_snapshotPath run.dataset
  have within : tree.Within made := FileTree.within_makeDirectoriesUp _ hmade
  exact FileTree.isFile_of_replace ends within hlocate hdirectory hreplace

theorem Unlinked.slot_ne_link (unlinked : l.Unlinked tree dataset) (safe : Path.IsSafe dataset)
    (there : Location) (target : String) :
    l.slot tree dataset ≠ .ok (.present there (.link target)) := by
  intro hlink
  obtain ⟨loc, isAt, -, hpath⟩ := FileTree.exists_isAt (Path.isName_json safe) hlink
  exact unlinked tree (makeDirectories_self isAt safe hpath) there target hlink

/-- A run that was loaded can be saved again: it is in order, and where it was loaded from is a file
or a link that can be replaced. -/
theorem exists_save_of_load (safe : Path.IsSafe dataset) (h : l.load tree dataset = .ok run) :
    ∃ tree', l.save tree run = .ok tree' := by
  obtain ⟨rfl, ordered, -⟩ := of_load h
  obtain ⟨loc, isAt, hlen, hpath, hget⟩ := exists_isAt_of_load safe h
  have hself := isAt.locate_join (Path.isName_json safe) hlen hpath
  have replaced : ∃ tree', tree.replace (l.snapshotPath run.dataset) (.text (encode run)) =
      .ok tree' := by
    unfold FileTree.replace snapshotPath
    rcases hget with ⟨content, mode, hget⟩ | ⟨target, hget⟩
    · simp [hself, FileTree.spotAt, hget, bind, Except.bind]
    · simp [hself, FileTree.spotAt, hget, bind, Except.bind]
  obtain ⟨tree', hreplace⟩ := replaced
  have hmade := makeDirectories_self isAt safe hpath
  exact ⟨tree', save_eq_ok_iff.mpr ⟨ordered, write_eq_ok_iff.mpr ⟨tree, hmade, hreplace⟩⟩⟩

/-- **Writing and reading a run are inverse.** The text of a run tells the run. A run that is saved
loads with what was running recovered, and unchanged if nothing was, if the path to its snapshot then
leads to a file; it does if there was no link in its place. A run that is loaded may be saved, and
loads again unchanged. -/
theorem roundTrip (l : Ledger) :
    (∀ run : Run, run.currentIndex ≤ Text.maxWord64 → decode? (encode run) = some run) ∧
    (∀ (tree tree' : FileTree) (run : Run), run.currentIndex ≤ Text.maxWord64 →
      l.save tree run = .ok tree' →
        (l.Unlinked tree run.dataset → l.hasSnapshot tree' run.dataset = true) ∧
          (l.hasSnapshot tree' run.dataset = true →
            l.load tree' run.dataset = .ok run.recover ∧
              ((∀ r ∈ run.stages, r.status ≠ .running) → l.load tree' run.dataset = .ok run))) ∧
    ∀ (tree : FileTree) (dataset : String) (run : Run), run.currentIndex ≤ Text.maxWord64 →
      l.load tree dataset = .ok run →
        (∀ violation, l.save tree run ≠ .error (.stageOrder violation)) ∧
          (Path.IsSafe dataset → ∃ tree', l.save tree run = .ok tree') ∧
          ∀ tree', l.save tree run = .ok tree' → l.load tree' dataset = .ok run := by
  refine ⟨?_, ?_, ?_⟩
  · intro run fits
    exact decode?_encode fits
  · intro tree tree' run fits hsave
    refine ⟨fun unlinked => unlinked.hasSnapshot_of_write (save_eq_ok_iff.mp hsave).2, ?_⟩
    intro leads
    have hload := load_of_save fits hsave leads
    refine ⟨hload, ?_⟩
    intro idle
    rw [Run.recover_of_not_running idle] at hload
    exact hload
  · intro tree dataset run fits hload
    obtain ⟨rfl, ordered, idle⟩ := of_load hload
    refine ⟨?_, fun safe => exists_save_of_load safe hload, ?_⟩
    · intro violation hsave
      have inOrder := (Run.orderViolation?_eq_none_iff run).mpr ordered
      unfold save at hsave
      simp only [inOrder] at hsave
      split at hsave
      · cases hsave
      · cases hsave
    · intro tree' hsave
      have hagain := load_of_save fits hsave (hasSnapshot_of_write hload (save_eq_ok_iff.mp hsave).2)
      rw [Run.recover_of_not_running idle] at hagain
      exact hagain

/-! ### Samples -/

namespace Sample

/-- A run whose texts are hard to write, and whose first stage is running. -/
def quoted : Run :=
  { (Run.new morning "demo" ["a \"quoted\"\\ name", "\x07\n🤖"]).markRunning morning
      "a \"quoted\"\\ name" with
    runId := "\x7b\x7d\x00/é"
    parameters := some { Parameters.usual "demo" with task := "\t", hubUser := some "" } }

def emptyDisk : FileTree where
  entries := []
  here := []

/-- A disk where a link stands in the place of a snapshot, and leads to a file beside it. -/
def throughLink (text : String) : FileTree where
  entries := [(["runs"], .directory), (["runs", "real.json"], .file (.text text) 0o644),
    (["runs", "demo.json"], .link "real.json")]
  here := []

/-- A disk where a link stands in the place of a snapshot, and leads to a directory. -/
def linked : FileTree where
  entries := [(["runs"], .directory), (["runs", "sub"], .directory),
    (["runs", "demo.json"], .link "sub")]
  here := []

/-- The path of the snapshot of this run leads through the link, and back to it. -/
def roundabout : Run := Run.new morning "demo.json/../demo" ["a"]

end Sample

theorem unlinked_emptyDisk : Sample.ledger.Unlinked Sample.emptyDisk "demo" := by
  have hmade : Sample.emptyDisk.makeDirectories Sample.ledger.dir =
      .ok (Sample.emptyDisk.set ["runs"] .directory) := by decide +kernel
  have absent : (Sample.emptyDisk.set ["runs"] .directory).locate false
      (Sample.ledger.snapshotPath "demo") = .ok (.absent ["runs", "demo.json"] false) := by
    decide +kernel
  intro made hmade' loc target hlink
  obtain rfl := Except.ok.inj (hmade.symm.trans hmade')
  rw [absent] at hlink
  cases hlink

theorem load_throughLink : Sample.ledger.load (Sample.throughLink (encode Sample.quoted)) "demo" =
    .ok Sample.quoted.recover := by
  have reads : ∀ text, (Sample.throughLink text).readText (Sample.ledger.snapshotPath "demo") =
      .ok text := fun _ => rfl
  have ordered : Sample.quoted.Ordered := (Run.orderViolation?_eq_none_iff _).mp (by decide)
  have decodes : decode? (encode Sample.quoted) = some Sample.quoted :=
    decode?_encode (Nat.zero_le _)
  have loads : Sample.ledger.load (Sample.throughLink (encode Sample.quoted)) Sample.quoted.dataset =
      .ok Sample.quoted.recover := load_of_encode (reads _) ordered decodes
  exact loads

/-- The run with the hard texts is saved on an empty disk and loads, with its first stage failed. So
it loads through a link, and once more when it was saved in place of the link. -/
theorem roundTrip_of_sample : ∃ tree tree',
    decode? (encode Sample.quoted) = some Sample.quoted ∧
    Sample.quoted.recover ≠ Sample.quoted ∧
    Sample.ledger.save Sample.emptyDisk Sample.quoted = .ok tree ∧
    Sample.ledger.load tree "demo" = .ok Sample.quoted.recover ∧
    Sample.ledger.save (Sample.throughLink (encode Sample.quoted)) Sample.quoted.recover =
      .ok tree' ∧
    Sample.ledger.load tree' "demo" = .ok Sample.quoted.recover := by
  obtain ⟨decodes, saves, loads⟩ := roundTrip Sample.ledger
  have fits : Sample.quoted.currentIndex ≤ Text.maxWord64 := Nat.zero_le _
  have saved : (Sample.ledger.save Sample.emptyDisk Sample.quoted).isOk = true := by decide +kernel
  cases hsave : Sample.ledger.save Sample.emptyDisk Sample.quoted with
  | error e => simp [hsave, Except.isOk, Except.toBool] at saved
  | ok tree =>
    obtain ⟨leads, found⟩ := saves _ _ _ fits hsave
    obtain ⟨hload, -⟩ := found (leads unlinked_emptyDisk)
    obtain ⟨-, again, stays⟩ := loads _ "demo" Sample.quoted.recover (Nat.zero_le _) load_throughLink
    obtain ⟨tree', hagain⟩ := again (by decide)
    exact ⟨tree, tree', decodes _ fits, by decide, rfl, hload, hagain, stays tree' hagain⟩

/-- A run is saved over a link that the path to its snapshot leads through, and does not load. -/
theorem not_reloaded :
    Sample.roundabout.Ordered ∧ ∃ tree, Sample.ledger.save Sample.linked Sample.roundabout = .ok tree ∧
      Sample.ledger.load tree Sample.roundabout.dataset = .error (.io .notADirectory) := by
  have saved : (Sample.ledger.save Sample.linked Sample.roundabout).isOk = true := by decide +kernel
  have lost : (Sample.ledger.save Sample.linked Sample.roundabout).bind
      (fun tree => Sample.ledger.load tree Sample.roundabout.dataset) =
        .error (.io .notADirectory) := by decide +kernel
  cases hsave : Sample.ledger.save Sample.linked Sample.roundabout with
  | error e => simp [hsave, Except.isOk, Except.toBool] at saved
  | ok tree =>
    rw [hsave] at lost
    exact ⟨(save_eq_ok_iff.mp hsave).1, tree, rfl, lost⟩

end Ledger

end RobotPipeline
