/-
  RobotPipeline/Proofs/FileTree/Write.lean
  ========================================
  **A file that is written is read as it was written.**

  The path may lead to the file through links. Only a device keeps nothing of
  what is written to it.
-/
import RobotPipeline.Proofs.FileTree.Enter

namespace RobotPipeline.FileTree

variable {tree tree' : FileTree} {path : String} {content : Content}

/-- A file that was put where a path leads is read there. -/
theorem read_set {spot : Spot} {loc : Location} (hspot : tree.locate true path = .ok spot)
    (leads : (Reach.spot spot).LeadsTo loc) (blind : tree.IsBlind loc) (mode : Nat) :
    (tree.set loc (.file content mode)).read path = .ok content := by
  rw [read, locate_set hspot leads blind (fun _ => rfl)]
  rfl

theorem isBlind_of_locate {follow : Bool} {loc : Location} {mode : Nat}
    (h : tree.locate follow path = .ok (.present loc (.file content mode))) : tree.IsBlind loc := by
  have hseen := walk_sees maxLinks _ _ (locate_eq_ok_iff.mp h).2
  exact isBlind_of_file (by simpa [Spot.IsSeen] using hseen)

/-- A file that is written holds what was written, through links too. -/
theorem read_of_write (h : tree.write path content = .ok tree')
    (file : tree'.isFile path = true) : tree'.read path = .ok content := by
  unfold write at h
  cases hspot : tree.locate true path with
  | error cause => simp [hspot, bind, Except.bind] at h
  | ok spot =>
    simp only [hspot, bind, Except.bind] at h
    cases spot with
    | absent loc slashed =>
      cases slashed with
      | true => cases h
      | false =>
        cases h
        have hnone : tree.get? loc = none := walk_sees maxLinks _ _ (locate_eq_ok_iff.mp hspot).2
        exact read_set hspot ⟨rfl, rfl⟩ (isBlind_of_absent hnone) plainMode
    | present loc node =>
      cases node with
      | directory => cases h
      | file old mode =>
        cases h
        exact read_set hspot ⟨rfl, by simp⟩ (isBlind_of_locate hspot) mode
      | _ =>
        -- a device swallows what is written
        cases h
        simp [isFile, node?, hspot] at file

/-- What reads as something else than nothing can be written. -/
theorem exists_write_of_read (h : tree.read path = .ok content) (nonempty : content ≠ .text "")
    (new : Content) : ∃ tree', tree.write path new = .ok tree' ∧ tree'.read path = .ok new := by
  unfold read at h
  cases hspot : tree.locate true path with
  | error cause => simp [hspot, bind, Except.bind] at h
  | ok spot =>
    simp only [hspot, bind, Except.bind] at h
    cases spot with
    | absent loc slashed => cases h
    | present loc node =>
      cases node with
      | directory => cases h
      | file old mode =>
        refine ⟨tree.set loc (.file new mode), ?_, ?_⟩
        · simp only [write, hspot, bind, Except.bind]
        · exact read_set hspot ⟨rfl, by simp⟩ (isBlind_of_locate hspot) mode
      | _ => exact absurd (Except.ok.inj h).symm nonempty

end RobotPipeline.FileTree
