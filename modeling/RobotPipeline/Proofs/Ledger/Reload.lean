/-
  RobotPipeline/Proofs/Ledger/Reload.lean
  =======================================
  **What was committed loads again.**

  The snapshot of a run of the pipeline, in order, loads as that run with its
  running stages recovered. Its index is no larger than the number of stages,
  and so it fits the 64 bits that a snapshot has for it.

  A commit that passes puts this snapshot in place of the one before it, in one
  step (`readText_of_commit`). In the place of the snapshot there may be no
  symbolic link, and a commit leaves none there.
-/
import RobotPipeline.Proofs.FileTree.Made
import RobotPipeline.Proofs.Ledger.Load
import RobotPipeline.Proofs.Pipeline.Perform
import RobotPipeline.Proofs.Registry.Backward
import RobotPipeline.Proofs.Run.Written

namespace RobotPipeline

/-! ### Writing a snapshot -/

namespace Ledger

variable {l : Ledger} {tree tree' : FileTree} {dataset : String} {run : Run}

/-- In the place of the snapshot of a dataset there is no symbolic link, once there is a directory
for it. The path to the snapshot might lead through the link. -/
def Unlinked (l : Ledger) (tree : FileTree) (dataset : String) : Prop :=
  ∀ made, tree.makeDirectories l.dir = .ok made → ∀ loc target,
    made.locate false (l.snapshotPath dataset) ≠ .ok (.present loc (.link target))

/-- A snapshot that is written stands where its path leads to, in a directory that is there. -/
theorem Unlinked.exists_written (unlinked : l.Unlinked tree run.dataset)
    (h : l.write tree run = .ok tree') :
    tree'.makeDirectories l.dir = .ok tree' ∧
      ∃ loc, ∀ follow, tree'.locate follow (l.snapshotPath run.dataset) =
        .ok (.present loc (.file (.text (encode run)) FileTree.privateMode)) := by
  unfold write at h
  cases hmake : tree.makeDirectories l.dir with
  | error cause => simp [hmake, bind, Except.bind] at h
  | ok made =>
    simp only [hmake, bind, Except.bind] at h
    obtain ⟨loc, blind, rfl, hlocate⟩ := FileTree.exists_replaced h (unlinked made hmake)
    refine ⟨?_, loc, hlocate⟩
    apply FileTree.makeDirectories_of_isDirectory
    rcases FileTree.isDirectory_of_makeDirectories hmake with hempty | hdirectory
    · exact .inl hempty
    · exact .inr (FileTree.isDirectory_set hdirectory blind _)

theorem Unlinked.readText_of_write (unlinked : l.Unlinked tree run.dataset)
    (h : l.write tree run = .ok tree') :
    tree'.readText (l.snapshotPath run.dataset) = .ok (encode run) := by
  obtain ⟨-, loc, hlocate⟩ := unlinked.exists_written h
  simp [FileTree.readText, FileTree.read, hlocate, bind, Except.bind]

theorem Unlinked.of_write (unlinked : l.Unlinked tree run.dataset)
    (h : l.write tree run = .ok tree') : l.Unlinked tree' run.dataset := by
  obtain ⟨hmade, there, hlocate⟩ := unlinked.exists_written h
  intro made hmade' loc target hlink
  obtain rfl := Except.ok.inj (hmade.symm.trans hmade')
  rw [hlocate] at hlink
  cases hlink

end Ledger

/-- After a commit the snapshot is the text of the run. -/
theorem Action.readText_of_commit {σ : Type} {ledger : Ledger} {run : Run} {w : World σ}
    {files : FileTree} (h : commit ledger run w = .ok files)
    (unlinked : ledger.Unlinked w.files run.dataset) :
    files.readText (ledger.snapshotPath run.dataset) = .ok (Ledger.encode run) :=
  unlinked.readText_of_write (of_commit_eq_ok h).2

/-! ### Loading a committed run -/

theorem Run.currentIndex_reindex_le (run : Run) :
    run.reindex.currentIndex ≤ run.reindex.stages.length := by
  unfold reindex
  cases h : run.firstIncomplete? with
  | none => exact Nat.le_refl _
  | some place =>
    obtain ⟨hlt, -, -⟩ := List.findIdx?_eq_some_iff_getElem.mp h
    exact Nat.le_of_lt hlt

theorem Run.currentIndex_refresh_le (now : Instant) (run : Run) :
    (run.refresh now).currentIndex ≤ (run.refresh now).stages.length :=
  run.currentIndex_reindex_le

/-- A run of the pipeline can be told from its snapshot. -/
theorem Pipeline.decode?_encode {p : Pipeline} {run : Run}
    (names_eq : run.names = p.registry.names) (indexed : run.currentIndex ≤ run.stages.length) :
    Ledger.decode? (Ledger.encode run) = some run := by
  have hlen : run.stages.length = p.registry.stages.length := by
    simpa [Run.names, Registry.names] using congrArg List.length names_eq
  have fits : run.currentIndex ≤ Text.maxWord64 := by
    have hle := p.registry.length_stages_le
    unfold Text.maxWord32 at hle
    unfold Text.maxWord64
    omega
  exact Ledger.decode?_encode fits

theorem Ledger.load_of_encode {l : Ledger} {tree : FileTree} {run : Run}
    (reads : tree.readText (l.snapshotPath run.dataset) = .ok (encode run)) (ordered : run.Ordered)
    (decodes : decode? (encode run) = some run) : l.load tree run.dataset = .ok run.recover := by
  have holds : interpret run.dataset (encode run) = .ok run.recover :=
    interpret_eq_ok_iff.mpr ⟨run, decodes, rfl, ordered, rfl⟩
  exact load_eq_ok_iff.mpr ⟨_, reads, holds⟩

theorem Pipeline.load_of_encode {p : Pipeline} {tree : FileTree} {run : Run}
    (reads : tree.readText (p.ledger.snapshotPath run.dataset) = .ok (Ledger.encode run))
    (names_eq : run.names = p.registry.names) (ordered : run.Ordered)
    (indexed : run.currentIndex ≤ run.stages.length) :
    p.load tree run.dataset = .ok run.recover := by
  have decodes := Pipeline.decode?_encode names_eq indexed
  rw [Pipeline.load_eq_ok_iff]
  exact ⟨Ledger.load_of_encode reads ordered decodes, run.names_recover.trans names_eq⟩

end RobotPipeline
