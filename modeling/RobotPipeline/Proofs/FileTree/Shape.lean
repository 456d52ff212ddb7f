/-
  RobotPipeline/Proofs/FileTree/Shape.lean
  ========================================
  **Where a path leads does not depend on what the files hold.**

  Two trees have the same shape when they differ in nothing but the contents
  and the permissions of files; every walk takes the same way in both. So when
  two trees differ in one file only, they are the same once that file is
  replaced, whatever directories are made before (`DifferAt.write_eq`).
-/
import RobotPipeline.Proofs.FileTree.Replace
import RobotPipeline.Ledger.Basic

namespace RobotPipeline

/-- A node without what it holds if it is a file. -/
def Node.shape : Node → Node
  | .file _ _ => .file (.text "") 0
  | node => node

namespace FileTree

/-! ### Trees of the same shape -/

/-- Two trees differ in nothing but what their files hold. -/
structure SameShape (tree tree' : FileTree) : Prop where
  here_eq : tree'.here = tree.here
  get_eq : ∀ loc, (tree'.get? loc).map Node.shape = (tree.get? loc).map Node.shape

def Spot.shape : Spot → Spot
  | .present loc node => .present loc node.shape
  | .absent loc slashed => .absent loc slashed

def Reach.shape : Reach → Reach
  | .spot there => .spot there.shape
  | .link loc parts => .link loc parts

/-- Nodes of the same shape are the same, or both are files. -/
theorem eq_or_files_of_shape {a b : Option Node} (h : b.map Node.shape = a.map Node.shape) :
    b = a ∨ ∃ content mode content' mode', a = some (.file content mode) ∧
      b = some (.file content' mode') := by
  cases a with
  | none => cases b with
    | none => exact .inl rfl
    | some node => cases h
  | some node => cases b with
    | none => cases h
    | some node' =>
      cases node <;> cases node' <;> simp_all [Node.shape]

theorem Spot.of_shape_eq {spot spot' : Spot} (h : spot'.shape = spot.shape) :
    (∃ loc slashed, spot = .absent loc slashed ∧ spot' = .absent loc slashed) ∨
      ∃ loc node node', spot = .present loc node ∧ spot' = .present loc node' ∧
        node'.shape = node.shape := by
  cases spot with
  | absent loc slashed => cases spot' with
    | absent loc' slashed' =>
      obtain ⟨rfl, rfl⟩ := Spot.absent.inj h
      exact .inl ⟨_, _, rfl, rfl⟩
    | present loc' node' => cases h
  | present loc node => cases spot' with
    | absent loc' slashed' => cases h
    | present loc' node' =>
      obtain ⟨rfl, hnode⟩ := Spot.present.inj h
      exact .inr ⟨_, _, _, rfl, rfl, hnode⟩

/-- Results that are the same but for their shapes are the same refusal, or no refusal. -/
theorem of_map_eq {α β : Type} {shape : α → β} {result result' : Except IoError α}
    (h : result'.map shape = result.map shape) :
    (∃ cause, result = .error cause ∧ result' = .error cause) ∨
      ∃ a a', result = .ok a ∧ result' = .ok a' ∧ shape a' = shape a := by
  cases result with
  | error cause => cases result' with
    | error cause' =>
      obtain rfl := Except.error.inj h
      exact .inl ⟨_, rfl, rfl⟩
    | ok a' => cases h
  | ok a => cases result' with
    | error cause' => cases h
    | ok a' => exact .inr ⟨a, a', rfl, rfl, Except.ok.inj h⟩

section Walk

variable {tree tree' : FileTree} (same : tree.SameShape tree') (follow : Bool)
include same

theorem walkToLink_shape (dir : Location) (parts : List String) :
    (tree'.walkToLink follow dir parts).map Reach.shape =
      (tree.walkToLink follow dir parts).map Reach.shape := by
  induction parts generalizing dir with
  | nil => rfl
  | cons part rest ih =>
    rw [walkToLink, walkToLink]
    by_cases hstay : part = "" ∨ part = "."
    · rw [if_pos hstay, if_pos hstay]
      exact ih dir
    rw [if_neg hstay, if_neg hstay]
    by_cases hup : part = ".."
    · rw [if_pos hup, if_pos hup]
      exact ih dir.dropLast
    rw [if_neg hup, if_neg hup]
    by_cases hlong : maxNameBytes < part.utf8ByteSize
    · rw [if_pos hlong, if_pos hlong]
    rw [if_neg hlong, if_neg hlong]
    rcases eq_or_files_of_shape (same.get_eq (dir ++ [part])) with
      hget | ⟨content, mode, content', mode', hget, hget'⟩
    · rw [hget]
      cases tree.get? (dir ++ [part]) with
      | none => rfl
      | some node =>
        cases node with
        | directory => exact ih (dir ++ [part])
        | _ => rfl
    · -- a file ends the walk, whatever it holds
      rw [hget, hget']
      cases rest.isEmpty <;> rfl

theorem walk_shape (links : Nat) (dir : Location) (parts : List String) :
    (tree'.walk follow links dir parts).map Spot.shape =
      (tree.walk follow links dir parts).map Spot.shape := by
  rw [walk, walk]
  rcases of_map_eq (walkToLink_shape same follow dir parts) with
    ⟨cause, hwalk, hwalk'⟩ | ⟨reach, reach', hwalk, hwalk', hshape⟩
  · rw [hwalk, hwalk']
  · rw [hwalk, hwalk']
    cases reach with
    | spot spot => cases reach' with
      | spot spot' => exact congrArg Except.ok (Reach.spot.inj hshape)
      | link next more => cases hshape
    | link next more => cases reach' with
      | spot spot' => cases hshape
      | link next' more' =>
        obtain ⟨rfl, rfl⟩ : next' = next ∧ more' = more := by simpa [Reach.shape] using hshape
        -- each link that is followed is one less that is left
        cases links with
        | zero => rfl
        | succ links => exact walk_shape links next' more'

theorem locate_shape (path : String) :
    (tree'.locate follow path).map Spot.shape = (tree.locate follow path).map Spot.shape := by
  unfold locate
  split
  · rfl
  · split
    · rfl
    · split
      · rfl
      · rw [same.here_eq]
        exact walk_shape same follow maxLinks _ _

end Walk

theorem SameShape.isDirectory_eq {tree tree' : FileTree} (same : tree.SameShape tree')
    (path : String) : tree'.isDirectory path = tree.isDirectory path := by
  unfold isDirectory node?
  rcases of_map_eq (locate_shape same true path) with
    ⟨cause, hlocate, hlocate'⟩ | ⟨spot, spot', hlocate, hlocate', hshape⟩
  · rw [hlocate, hlocate']
  · rw [hlocate, hlocate']
    rcases Spot.of_shape_eq hshape with
      ⟨loc, slashed, rfl, rfl⟩ | ⟨loc, node, node', rfl, rfl, hnode⟩
    · rfl
    · cases node <;> cases node' <;> first | rfl | cases hnode

/-! ### Trees with more in them -/

/-- Everything that is in one tree is in another. -/
structure Within (tree tree' : FileTree) : Prop where
  here_eq : tree'.here = tree.here
  get_eq : ∀ loc node, tree.get? loc = some node → tree'.get? loc = some node

theorem Within.refl (tree : FileTree) : tree.Within tree := ⟨rfl, fun _ _ h => h⟩

theorem within_set_of_absent {tree : FileTree} {loc : Location} (h : tree.get? loc = none)
    (node : Node) : tree.Within (tree.set loc node) := by
  refine ⟨rfl, ?_⟩
  intro other there hget
  have hne : other ≠ loc := by
    rintro rfl
    simp [h] at hget
  rw [get?_set_other tree node hne, hget]

theorem Within.trans {tree middle tree' : FileTree} (h : tree.Within middle)
    (h' : middle.Within tree') : tree.Within tree' :=
  ⟨h'.here_eq.trans h.here_eq, fun loc node hget => h'.get_eq loc node (h.get_eq loc node hget)⟩

/-- A directory is made where nothing was. -/
theorem within_makeDirectory {tree tree' : FileTree} {path : String}
    (h : tree.makeDirectory path = .ok tree') : tree.Within tree' := by
  unfold makeDirectory at h
  cases hspot : tree.locate false path with
  | error cause => simp [hspot, bind, Except.bind] at h
  | ok spot =>
    simp only [hspot, bind, Except.bind] at h
    cases spot with
    | present _ _ => cases h
    | absent loc slashed =>
      cases h
      exact within_set_of_absent (walk_sees maxLinks _ _ (locate_eq_ok_iff.mp hspot).2) .directory

theorem within_makeDirectoriesUp (steps : Nat) {tree tree' : FileTree} {path : String}
    (h : makeDirectoriesUp steps tree path = .ok tree') : tree.Within tree' := by
  induction steps generalizing path tree' with
  | zero => exact within_makeDirectory h
  | succ steps ih =>
    unfold makeDirectoriesUp at h
    split at h
    · cases h
      exact .refl tree
    split at h
    · rename_i made hmade
      cases h
      exact within_makeDirectory hmade
    split at h
    · split at h
      · cases h
      · rename_i above _
        cases hup : makeDirectoriesUp steps tree above with
        | error cause => simp [hup, bind, Except.bind] at h
        | ok middle =>
          simp only [hup, bind, Except.bind] at h
          split at h
          · rename_i made hmade
            cases h
            exact (ih hup).trans (within_makeDirectory hmade)
          · split at h
            · cases h
              exact ih hup
            · cases h
    · split at h
      · cases h
        exact .refl tree
      · cases h

/-- A walk goes on at a link, or has ended at a node. -/
def Reach.IsMet : Reach → Prop
  | .spot (.absent _ _) => False
  | _ => True

section Within

variable {tree tree' : FileTree} (within : tree.Within tree') {follow : Bool}
include within

theorem walkToLink_within (dir : Location) (parts : List String) {reach : Reach}
    (h : tree.walkToLink follow dir parts = .ok reach) (met : reach.IsMet) :
    tree'.walkToLink follow dir parts = .ok reach := by
  induction parts generalizing dir with
  | nil => exact h
  | cons part rest ih =>
    rw [walkToLink] at h ⊢
    by_cases hstay : part = "" ∨ part = "."
    · rw [if_pos hstay] at h ⊢
      exact ih dir h
    rw [if_neg hstay] at h ⊢
    by_cases hup : part = ".."
    · rw [if_pos hup] at h ⊢
      exact ih dir.dropLast h
    rw [if_neg hup] at h ⊢
    by_cases hlong : maxNameBytes < part.utf8ByteSize
    · rw [if_pos hlong] at h
      cases h
    rw [if_neg hlong] at h ⊢
    cases hget : tree.get? (dir ++ [part]) with
    | none =>
      simp only [hget] at h
      split at h
      · cases h
        cases met
      · cases h
    | some node =>
      rw [within.get_eq _ _ hget]
      rw [hget] at h
      cases node with
      | directory => exact ih (dir ++ [part]) h
      | _ => exact h

theorem walk_within (links : Nat) (dir : Location) (parts : List String) {loc : Location}
    {node : Node} (h : tree.walk follow links dir parts = .ok (.present loc node)) :
    tree'.walk follow links dir parts = .ok (.present loc node) := by
  rcases walk_cases h with hspot | ⟨n, next, more, rfl, hlink, hrest⟩
  · rw [walk, walkToLink_within within dir parts hspot trivial]
  · rw [walk, walkToLink_within within dir parts hlink trivial]
    exact walk_within n next more hrest

theorem locate_within {path : String} {loc : Location} {node : Node}
    (h : tree.locate follow path = .ok (.present loc node)) :
    tree'.locate follow path = .ok (.present loc node) := by
  obtain ⟨hpath, hwalk⟩ := locate_eq_ok_iff.mp h
  refine locate_eq_ok_iff.mpr ⟨hpath, ?_⟩
  rw [within.here_eq]
  exact walk_within within maxLinks _ _ hwalk

end Within

/-! ### Trees that differ in one file -/

/-- Two trees differ at most in the file that a path leads to. -/
structure DifferAt (path : String) (there : Location) (tree tree' : FileTree) : Prop where
  leads : ∃ content mode, tree.locate false path = .ok (.present there (.file content mode))
  leads' : ∃ content mode, tree'.locate false path = .ok (.present there (.file content mode))
  erased : tree'.erase there = tree.erase there

/-- Two operations fail for the same reason, or leave trees in a relation. -/
inductive Agree (R : FileTree → FileTree → Prop) :
    Except IoError FileTree → Except IoError FileTree → Prop where
  | error (cause : IoError) : Agree R (.error cause) (.error cause)
  | ok {made made' : FileTree} (h : R made made') : Agree R (.ok made) (.ok made')

theorem get?_of_leads {tree : FileTree} {path : String} {there : Location} {content : Content}
    {mode : Nat} (h : tree.locate false path = .ok (.present there (.file content mode))) :
    tree.get? there = some (.file content mode) := by
  have hseen := walk_sees maxLinks _ _ (locate_eq_ok_iff.mp h).2
  simpa [Spot.IsSeen] using hseen

namespace DifferAt

variable {path dir : String} {there : Location} {tree tree' : FileTree}

theorem get_other (h : DifferAt path there tree tree') {loc : Location} (hne : loc ≠ there) :
    tree'.get? loc = tree.get? loc := by
  rw [← get?_erase_other tree' hne, h.erased, get?_erase_other tree hne]

theorem here_eq (h : DifferAt path there tree tree') : tree'.here = tree.here := by
  have hhere := congrArg FileTree.here h.erased
  exact hhere

theorem sameShape (h : DifferAt path there tree tree') : tree.SameShape tree' := by
  obtain ⟨content, mode, hleads⟩ := h.leads
  obtain ⟨content', mode', hleads'⟩ := h.leads'
  refine ⟨h.here_eq, ?_⟩
  intro loc
  by_cases hloc : loc = there
  · rw [hloc, get?_of_leads hleads, get?_of_leads hleads']
    rfl
  · rw [h.get_other hloc]

/-- Once the file is replaced they are the same. -/
theorem set_eq (h : DifferAt path there tree tree') (node : Node) :
    tree'.set there node = tree.set there node := by
  simp only [set, h.erased]

theorem replace_eq (h : DifferAt path there tree tree') (content : Content) :
    tree'.replace path content = tree.replace path content := by
  obtain ⟨_, _, hleads⟩ := h.leads
  obtain ⟨_, _, hleads'⟩ := h.leads'
  simp only [replace, hleads, hleads', bind, Except.bind, h.set_eq]

/-- A directory that is put where nothing was is put in both. -/
theorem set_directory (h : DifferAt path there tree tree') {loc : Location}
    (habsent : tree.get? loc = none) (habsent' : tree'.get? loc = none) :
    DifferAt path there (tree.set loc .directory) (tree'.set loc .directory) := by
  obtain ⟨content, mode, hleads⟩ := h.leads
  obtain ⟨content', mode', hleads'⟩ := h.leads'
  refine ⟨⟨content, mode, ?_⟩, ⟨content', mode', ?_⟩, ?_⟩
  · exact locate_within (within_set_of_absent habsent .directory) hleads
  · exact locate_within (within_set_of_absent habsent' .directory) hleads'
  · have hne : loc ≠ there := by
      rintro rfl
      rw [get?_of_leads hleads] at habsent
      cases habsent
    have herase : ∀ t : FileTree,
        (t.set loc .directory).erase there = (t.erase there).set loc .directory := by
      intro t
      simp [set, erase, hne, List.filter_filter, Bool.and_comm]
    rw [herase, herase, h.erased]

theorem makeDirectory (h : DifferAt path there tree tree') (dir : String) :
    Agree (DifferAt path there) (tree.makeDirectory dir) (tree'.makeDirectory dir) := by
  unfold FileTree.makeDirectory
  rcases of_map_eq (locate_shape h.sameShape false dir) with
    ⟨cause, hspot, hspot'⟩ | ⟨spot, spot', hspot, hspot', hshape⟩
  · rw [hspot, hspot']
    exact .error cause
  · rcases Spot.of_shape_eq hshape with
      ⟨loc, slashed, rfl, rfl⟩ | ⟨loc, node, node', rfl, rfl, -⟩
    · have habsent : tree.get? loc = none :=
        walk_sees maxLinks _ _ (locate_eq_ok_iff.mp hspot).2
      have habsent' : tree'.get? loc = none :=
        walk_sees maxLinks _ _ (locate_eq_ok_iff.mp hspot').2
      rw [hspot, hspot']
      exact .ok (h.set_directory habsent habsent')
    · rw [hspot, hspot']
      exact .error .alreadyExists

/-- A directory that could not be made may be there already. -/
theorem orDirectory (h : DifferAt path there tree tree') (dir : String) (cause : IoError) :
    Agree (DifferAt path there)
      (if tree.isDirectory dir then .ok tree else .error cause)
      (if tree'.isDirectory dir then .ok tree' else .error cause) := by
  rw [h.sameShape.isDirectory_eq]
  split
  · exact .ok h
  · exact .error cause

theorem makeDirectoriesUp (steps : Nat) (h : DifferAt path there tree tree') (dir : String) :
    Agree (DifferAt path there) (makeDirectoriesUp steps tree dir)
      (makeDirectoriesUp steps tree' dir) := by
  induction steps generalizing dir with
  | zero => exact h.makeDirectory dir
  | succ steps ih =>
    unfold FileTree.makeDirectoriesUp
    split
    · exact .ok h
    have hmake := h.makeDirectory dir
    generalize tree.makeDirectory dir = made at hmake ⊢
    generalize tree'.makeDirectory dir = made' at hmake ⊢
    cases hmake with
    | ok hmade => exact .ok hmade
    | error cause =>
      dsimp only
      split
      · cases Path.parent? dir with
        | none => exact .error cause
        | some above =>
          have habove := ih above
          dsimp only
          generalize FileTree.makeDirectoriesUp steps tree above = up at habove ⊢
          generalize FileTree.makeDirectoriesUp steps tree' above = up' at habove ⊢
          cases habove with
          | error cause => exact .error cause
          | @ok middle middle' hmiddle =>
            -- with what is above in place, the directory is tried once more
            have hagain := hmiddle.makeDirectory dir
            dsimp only [bind, Except.bind]
            generalize middle.makeDirectory dir = made at hagain ⊢
            generalize middle'.makeDirectory dir = made' at hagain ⊢
            cases hagain with
            | ok hmade => exact .ok hmade
            | error cause => exact hmiddle.orDirectory dir cause
      · exact h.orDirectory dir cause

/-- A file is written in the same way in both, in a directory that is made before. -/
theorem write_eq {l : Ledger} {run : Run}
    (h : DifferAt (l.snapshotPath run.dataset) there tree tree') :
    l.write tree' run = l.write tree run := by
  have hmake := h.makeDirectoriesUp ((Path.names l.dir).length + 1) l.dir
  unfold Ledger.write makeDirectories
  generalize FileTree.makeDirectoriesUp _ tree l.dir = made at hmake ⊢
  generalize FileTree.makeDirectoriesUp _ tree' l.dir = made' at hmake ⊢
  cases hmake with
  | error cause => rfl
  | ok hmade => exact hmade.replace_eq _

end DifferAt

end FileTree

end RobotPipeline
