/-
  RobotPipeline/Proofs/Rehearsal.lean
  ===================================
  **What can be relied on in a rehearsal.**

  A bench that was written to its file is read back as it was
  (`Bench.decode?_encode`), so a rehearsal goes on where the last one ended.

  The machine starts a program only if the check for the program holds
  (`isAvailable_of_machine`): the search path is looked through in one order
  by both, and what is found there is an executable file. A stage times out
  only if it has a time limit, is cancelled only if the operator wants that
  (`interrupted_of_rehearsed`), and leaves the pipeline in the directory where
  it was (`course_of_machine`).
-/
import RobotPipeline.Proofs.Launcher
import RobotPipeline.Proofs.Run.Written
import RobotPipeline.Rehearsal.Bench
import RobotPipeline.Rehearsal.Machine

namespace RobotPipeline.Rehearsal

/-! ### The bench in its file -/

namespace Bench

open Source (listOf? text?)

@[simp] theorem natural?_natural (n : Nat) : natural? (.natural n) = some n := rfl

theorem readLocation?_texts (loc : Location) : readLocation? (.texts loc) = some loc :=
  listOf?_texts loc

theorem readNode?_nodeToDatum (node : Node) : readNode? (nodeToDatum node) = some node := by
  cases node with
  | directory => rfl
  | device => rfl
  | link target => rfl
  | file content mode =>
    cases content with
    | text s => rfl
    | bytes bs =>
      have numbers : listOf? natural? (.list (bs.map fun b => .natural b.toNat)) =
          some (bs.map UInt8.toNat) := by
        have read := listOf?_list natural?_natural (bs.map UInt8.toNat)
        rw [List.map_map] at read
        exact read
      have bytes : (bs.map UInt8.toNat).map UInt8.ofNat = bs := by
        have same : ∀ b : UInt8, UInt8.ofNat b.toNat = b := fun _ => UInt8.ofNat_toNat
        simp [List.map_map, Function.comp_def, same]
      have shown : readNode? (nodeToDatum (.file (.bytes bs) mode)) =
          (listOf? natural? (.list (bs.map fun b => .natural b.toNat))).bind
            fun ns => some (.file (.bytes (ns.map UInt8.ofNat)) mode) := rfl
      rw [shown, numbers, Option.bind_some, bytes]

theorem readPlaced?_list (e : Location × Node) :
    readPlaced? (.list [.texts e.1, nodeToDatum e.2]) = some e := by
  simp [readPlaced?, readLocation?_texts, readNode?_nodeToDatum]

theorem read?_toDatum (b : Bench) : read? (toDatum b) = some b := by
  have entries := listOf?_list readPlaced?_list b.files.entries
  have unreadable := listOf?_list readLocation?_texts b.files.unreadable
  simp [read?, toDatum, Datum.field?, Datum.fields, entries, unreadable, readLocation?_texts]

theorem plain_nodeToDatum (node : Node) : Json.plain (nodeToDatum node) = true := by
  cases node with
  | directory => rfl
  | device => rfl
  | link target => rfl
  | file content mode =>
    cases content with
    | text s => rfl
    | bytes bs =>
      have numbers : ∀ b : UInt8, Json.plain (.natural b.toNat) = true := fun _ => rfl
      have mode : Json.plain (.natural mode) = true := rfl
      apply Json.plain_fields
      simp [Json.plain, Json.plainItems_map numbers, mode]

theorem plain_toDatum (b : Bench) : Json.plain (toDatum b) = true := by
  have entry : ∀ e : Location × Node,
      Json.plain (.list [.texts e.1, nodeToDatum e.2]) = true := by
    intro e
    simp [Json.plain, Json.plainItems, Json.plain_texts, plain_nodeToDatum]
  apply Json.plain_fields
  simp [Json.plain, Json.plainItems_map entry, Json.plainItems_map Json.plain_texts,
    Json.plain_texts, Datum.natural]

/-- **A bench is read back from its file as it was.** -/
theorem decode?_encode (b : Bench) : decode? (encode b) = some b := by
  rw [decode?, encode, Json.read?_pretty (plain_toDatum b), Option.bind_some, read?_toDatum]

end Bench

/-! ### Finding a program -/

namespace Image

variable {tree : FileTree} {path name : String} {image : Image}

theorem isExecutable_of_ofPath (h : ofPath tree path = .ok image) :
    tree.isExecutable path = true := by
  unfold ofPath at h
  unfold FileTree.isExecutable FileTree.node?
  cases hlocate : tree.locate true path with
  | error cause => simp [hlocate, bind, Except.bind] at h
  | ok spot =>
    simp only [hlocate, bind, Except.bind] at h
    cases spot with
    | absent loc slash => cases h
    | present loc node =>
      cases node with
      | file content mode =>
        simp only at h ⊢
        split at h
        · cases h
        · simpa using ‹_›
      | directory => cases h
      | link target => cases h
      | device => cases h

/-- What is found is in the first directory that has it. -/
theorem search_eq_ok {refusal : IoError} {dirs : List String}
    (h : search tree name refusal dirs = .ok (path, image)) :
    ∃ before dir after, dirs = before ++ dir :: after ∧
      (∀ d ∈ before, ∃ cause, ofPath tree (Path.join d name) = .error cause) ∧
      path = Path.join dir name ∧ ofPath tree path = .ok image := by
  induction dirs generalizing refusal with
  | nil => cases h
  | cons dir rest ih =>
    rw [search] at h
    cases hdir : ofPath tree (Path.join dir name) with
    | ok found =>
      simp only [hdir, Except.ok.injEq, Prod.mk.injEq] at h
      obtain ⟨rfl, rfl⟩ := h
      exact ⟨[], dir, rest, rfl, by simp, rfl, hdir⟩
    | error cause =>
      simp only [hdir] at h
      obtain ⟨before, dir', after, rfl, refused, hpath⟩ := ih h
      refine ⟨dir :: before, dir', after, rfl, ?_, hpath⟩
      simpa [hdir] using refused

theorem isAvailable_of_find {searchPath : String}
    (h : find tree searchPath name = .ok (path, image)) :
    Readiness.isAvailable tree (some searchPath) name = true := by
  unfold find at h
  unfold Readiness.isAvailable
  split at h
  · cases h
  · by_cases slash : '/' ∈ name.toList
    · have slash' : name.toList.any (· = '/') = true := by simpa using slash
      rw [if_pos slash'] at h
      rw [if_pos slash]
      cases hpath : ofPath tree name with
      | error cause => simp [hpath, Except.map] at h
      | ok found => exact isExecutable_of_ofPath hpath
    · have slash' : ¬ name.toList.any (· = '/') = true := by simpa using slash
      rw [if_neg slash'] at h
      obtain ⟨before, dir, after, hdirs, -, rfl, hpath⟩ := search_eq_ok h
      simp only [if_neg slash, hdirs, List.any_append, List.any_cons,
        isExecutable_of_ofPath hpath, Bool.true_or, Bool.or_true]

end Image

/-! ### The machine -/

variable {s : Start} {c : Course}

theorem exists_of_machine (h : machine s = .ok c) :
    ∃ path image left t,
      Image.find s.files ((s.vars.get? Variables.searchPath).getD Image.usualPath) s.program =
        .ok (path, image) ∧ c = course s left t := by
  unfold machine at h
  cases hfind : Image.find s.files ((s.vars.get? Variables.searchPath).getD Image.usualPath)
      s.program with
  | error cause => simp [hfind, bind, Except.bind] at h
  | ok found =>
    obtain ⟨path, image⟩ := found
    simp only [hfind, bind, Except.bind] at h
    cases haccept : accept s image with
    | error cause => simp [haccept] at h
    | ok _ =>
      simp only [haccept] at h
      exact ⟨path, image, _, _, rfl, (Except.ok.inj h).symm⟩

/-- **No check holds back a program that the machine would start.** -/
theorem isAvailable_of_machine {searchPath : String} (h : machine s = .ok c)
    (hset : s.vars.get? Variables.searchPath = some searchPath) :
    Readiness.isAvailable s.files (some searchPath) s.program = true := by
  obtain ⟨path, image, left, t, hfind, -⟩ := exists_of_machine h
  rw [hset] at hfind
  exact Image.isAvailable_of_find hfind

theorem interruption_of_time (h : (interruptTime s).isSome) :
    (interruption s = .timedOut ∧ s.timeLimit.isSome) ∨
      (interruption s = .cancelled ∧ s.cancelAfter.isSome) := by
  unfold interruptTime at h
  unfold interruption
  cases hlimit : s.timeLimit with
  | none =>
    cases hcancel : s.cancelAfter with
    | none => simp [hlimit, hcancel] at h
    | some b => simp
  | some a =>
    cases hcancel : s.cancelAfter with
    | none => simp
    | some b =>
      by_cases hle : micros a ≤ micros b
      · simp [hle]
      · simp [hle]

theorem ownEnding_ne (left : Except Leave Nat) :
    ownEnding left ≠ .timedOut ∧ ownEnding left ≠ .cancelled := by
  cases left with
  | ok code => simp [ownEnding]
  | error leave => cases leave <;> simp [ownEnding]

/-- A process that is said to be interrupted was meant to be. -/
theorem ending_course {left : Except Leave Nat} {t : Scene}
    (h : (course s left t).ending = .timedOut ∨ (course s left t).ending = .cancelled) :
    (interruptTime s).isSome ∧ (course s left t).ending = interruption s := by
  unfold course at h ⊢
  cases hwas : wasInterrupted s left t.time with
  | false =>
    obtain ⟨ne, ne'⟩ := ownEnding_ne left
    simp [hwas, ne, ne'] at h
  | true =>
    refine ⟨?_, by simp⟩
    unfold wasInterrupted at hwas
    cases htime : interruptTime s with
    | none => simp [htime] at hwas
    | some interrupt => rfl

/-- A process is interrupted only for a reason, and does not move the pipeline. -/
theorem course_of_machine (h : machine s = .ok c) :
    (c.ending = .timedOut → s.timeLimit.isSome) ∧
      (c.ending = .cancelled → s.cancelAfter.isSome) ∧ c.files.here = s.files.here := by
  obtain ⟨path, image, left, t, -, rfl⟩ := exists_of_machine h
  refine ⟨?_, ?_, rfl⟩
  · intro hend
    obtain ⟨meant, why⟩ := ending_course (.inl hend)
    rcases interruption_of_time meant with ⟨-, limit⟩ | ⟨cancelled, -⟩
    · exact limit
    · cases hend.symm.trans (why.trans cancelled)
  · intro hend
    obtain ⟨meant, why⟩ := ending_course (.inr hend)
    rcases interruption_of_time meant with ⟨timedOut, -⟩ | ⟨-, cancel⟩
    · cases hend.symm.trans (why.trans timedOut)
    · exact cancel

/-- **A rehearsed stage is interrupted only for a reason**: it times out only if it has a time limit,
and is cancelled only if the operator wants the end or is going to. -/
theorem interrupted_of_rehearsed {r : Launcher} {l : Launch} {w : World (Option Span)}
    {outcome : Outcome} (rehearsed : r.machine = machine)
    (h : ((r.run l).perform w).1 = .ok outcome) :
    (outcome.timedOut = true → l.timeLimit.isSome) ∧
      (outcome.cancelled = true → w.wantsEnd = true ∨ w.tool.isSome) := by
  obtain ⟨s, course, started, hmachine, -, timedOut, cancelled⟩ := Launcher.of_run h
  rw [rehearsed] at hmachine
  obtain ⟨limited, wanted, -⟩ := course_of_machine hmachine
  refine ⟨fun hout => started.timeLimit ▸ limited (timedOut hout), fun hout => ?_⟩
  have hcancel := wanted (cancelled hout)
  rw [started.cancelAfter] at hcancel
  by_cases wants : w.wantsEnd = true
  · exact .inl wants
  · exact .inr (by simpa [wants] using hcancel)

end RobotPipeline.Rehearsal
