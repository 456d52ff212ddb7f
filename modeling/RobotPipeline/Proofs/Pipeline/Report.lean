/-
  RobotPipeline/Proofs/Pipeline/Report.lean
  =========================================
  **What the operator is told is what is on record.**

  From the start of an invocation on, the snapshot of its dataset reads as the
  commits in the journal say (`Tracks`), as long as whoever launches the
  commands leaves it alone. So the run that loads in the end is the one that
  was committed last, and nothing in it is running any more.

  Why an invocation has failed is read off the phase that its drive has come
  to. The commit that led there has put the same on record, with the stage
  where the drive stood (`Trace.tells`).
-/
import RobotPipeline.Proofs.Pipeline.Crash
import RobotPipeline.Proofs.Pipeline.Isolation
import RobotPipeline.Proofs.Pipeline.Resume

namespace RobotPipeline

/-- The record of the first stage that is not complete. -/
def Run.next? (run : Run) : Option StageRecord := run.stages.find? (fun r => !r.status.isComplete)

theorem Run.Front.next?_eq {run : Run} {before after : List StageRecord} {record : StageRecord}
    (h : run.Front before record after) : run.next? = some record := by
  have none_before : before.find? (fun r => !r.status.isComplete) = none := by
    simpa [List.find?_eq_none] using h.complete
  simp [Run.next?, h.stages_eq, List.find?_append, none_before, h.incomplete]

namespace Pipeline

open RobotPipeline.Action

variable {σ : Type} {p : Pipeline} {env : Snapshot} {phase : Phase} {start : Run}
  {past : List Event} {dataset : String}

/-! ### The snapshot and the journal -/

/-- Whoever launches the commands leaves the snapshot of a dataset as it is, and puts no link in its
place. -/
structure Leaves (executor : Executor σ) (l : Ledger) (dataset : String) : Prop where
  reading : ∀ (launch : Launch) (w : World σ),
    ((executor launch).perform w).2.files.readText (l.snapshotPath dataset) =
      w.files.readText (l.snapshotPath dataset)
  unlinked : ∀ (launch : Launch) (w : World σ), l.Unlinked w.files dataset →
    l.Unlinked ((executor launch).perform w).2.files dataset

/-- The snapshot of a dataset has become what the entries made since an earlier world say. -/
def Tracks (l : Ledger) (dataset : String) (earlier w : World σ) : Prop :=
  l.Unlinked w.files dataset ∧ ∃ events, w.journal = events.reverse ++ earlier.journal ∧
    w.files.readText (l.snapshotPath dataset) =
      snapshotAfter dataset (earlier.files.readText (l.snapshotPath dataset)) events

variable {l : Ledger} {earlier w w' : World σ}

theorem tracks_self (unlinked : l.Unlinked w.files dataset) : Tracks l dataset w w :=
  ⟨unlinked, [], rfl, rfl⟩

theorem Tracks.step (h : Tracks l dataset earlier w) (entries : List Event)
    (unlinked : l.Unlinked w'.files dataset) (journal : w'.journal = entries.reverse ++ w.journal)
    (reading : w'.files.readText (l.snapshotPath dataset) =
      snapshotAfter dataset (w.files.readText (l.snapshotPath dataset)) entries) :
    Tracks l dataset earlier w' := by
  obtain ⟨-, events, hjournal, hreading⟩ := h
  refine ⟨unlinked, events ++ entries, ?_, ?_⟩
  · rw [journal, hjournal, List.reverse_append, List.append_assoc]
  · rw [reading, hreading, snapshotAfter_append]

theorem kept_tracks {executor : Executor σ} (leaves : Leaves executor p.ledger dataset)
    (earlier : World σ) : p.Kept executor dataset (Tracks p.ledger dataset earlier) := by
  constructor
  · intro w readings h
    exact h
  · intro w line h
    have unlinked : p.ledger.Unlinked (p.told line w).files dataset := by
      rw [files_told]
      exact h.1
    exact h.step [] unlinked (by simp) (by simp [snapshotAfter])
  · intro w stage env files failed _ h
    exact h.step [.checked stage env files failed] h.1 rfl rfl
  · intro w run hrun h
    subst hrun
    obtain ⟨unlinked, entry, journal, reading⟩ := exists_entry_of_save p.ledger run w h.1
    exact h.step [entry] unlinked journal reading
  · intro w launch h
    refine h.step [.launched launch, .returned launch.stage _]
      (leaves.unlinked launch w h.1) rfl ?_
    exact leaves.reading launch w

theorem Tracks.reading_eq (h : Tracks l dataset earlier w) :
    w.files.readText (l.snapshotPath dataset) =
      snapshotAfter dataset (earlier.files.readText (l.snapshotPath dataset))
        (w.since earlier) := by
  obtain ⟨-, events, hjournal, hreading⟩ := h
  rw [World.since_eq hjournal, hreading]

/-! ### The end of a drive -/

/-- What a failure of a drive says of the record of the first stage that is not complete, given the
run that the drive has started with. -/
def Tells (start : Run) (r : StageRecord) : Failure → Prop
  | .stageFailed stage exitCode timedOut =>
    r.name = stage ∧ r.status = .failed ∧ r.unreliable = true ∧
      ∃ o, r.lastOutcome = some o ∧ o.exitCode = exitCode ∧ o.timedOut = timedOut
  | .notReady stage failed =>
    r.name = stage ∧ r.note = some (unreadyNote failed) ∧
      ∃ r', start.record? stage = some r' ∧ r.status = r'.status ∧ r.attempts = r'.attempts
  | .launch e =>
    r.status = .failed ∧ r.note = some e.message ∧ (e.processRan = true → r.unreliable = true)
  | .cancelled stage =>
    r.name = stage ∧
      (start.record? stage = some r ∨ r.status = .failed ∧ r.unreliable = true)
  | _ => False

/-- While a drive stands at a stage, nothing else is running. -/
theorem Standing.not_running {run : Run} {s : Stage} {before after : List StageRecord}
    {record : StageRecord} (h : p.Standing run s before record after) (ordered : run.Ordered)
    (hrecord : record.status ≠ .running) : ∀ r ∈ run.stages, r.status ≠ .running := by
  intro r hr
  rw [h.stages_eq, List.mem_append, List.mem_cons] at hr
  rcases hr with hr | rfl | hr
  · exact h.idle ordered r (List.mem_append_left after hr)
  · exact hrecord
  · exact h.idle ordered r (List.mem_append_right before hr)

/-- Where a drive ends, nothing is running, unless a commit was refused there. -/
theorem Ends.not_running {result : Except Failure Run} (ends : Ends p phase result)
    (sound : phase.Sound p) (saved : ∀ before cause, phase ≠ .unsaved before cause) :
    ∀ r ∈ phase.run.stages, r.status ≠ .running := by
  obtain ⟨-, ordered, stands⟩ := sound
  cases ends with
  | complete _ => exact stands
  | cancelled _ _ => exact stands
  | unready =>
    obtain ⟨before, record, after, stand, hrecord⟩ := stands
    exact stand.not_running ordered hrecord
  | lost =>
    obtain ⟨before, record, after, stand, hrecord⟩ := stands
    exact stand.not_running ordered (by simp [hrecord])
  | failed =>
    obtain ⟨-, before, record, after, stand, hrecord⟩ := stands
    exact stand.not_running ordered (by simp [hrecord])
  | unsaved => exact absurd rfl (saved _ _)

/-- The failure that ends a drive tells what is on record. -/
theorem Trace.tells {e : Failure} (h : Trace p env (.ready start) past phase)
    (sound : (Phase.ready start).Sound p) (ends : Ends p phase (.error e))
    (saved : ∀ before cause, phase ≠ .unsaved before cause) :
    ∃ r, phase.run.next? = some r ∧ Tells start r e := by
  cases ends with
  | @cancelled run place s first hs =>
    have continues := h.continues sound
    obtain ⟨before, record, after, stand⟩ := exists_standing (h.sound sound).names_eq first hs
    have same := continues s.name (by simp) record stand.record?_eq stand.incomplete
    exact ⟨record, stand.next?_eq, stand.name_eq, .inl same⟩
  | @unready run s failed =>
    cases h with
    | snoc h step =>
      cases step with
      | saved hc _ =>
        cases hc with
        | @unready run _ _ _ =>
          have continues := h.continues sound
          obtain ⟨before, record, after, stand, -⟩ := (h.sound sound).stands
          have same := continues s.name (by simp) record stand.record?_eq stand.incomplete
          refine ⟨_, (stand.setNote (unreadyNote failed)).next?_eq, stand.name_eq, rfl, ?_⟩
          exact ⟨record, same, rfl, rfl⟩
  | @lost run s e =>
    cases h with
    | snoc h step =>
      cases step with
      | saved hc _ =>
        cases hc with
        | lost now =>
          obtain ⟨before, record, after, stand, -⟩ := (h.sound sound).stands
          refine ⟨_, (stand.markFailed now e.message e.processRan).next?_eq, rfl, rfl, ?_⟩
          intro ran
          simp [StageRecord.fail, ran]
  | @failed run s o =>
    cases h with
    | snoc h step =>
      cases step with
      | saved hc _ =>
        cases hc with
        | failed now ho =>
          obtain ⟨before, record, after, stand, -⟩ := (h.sound sound).stands
          have hstatus : (record.settle o).status = .failed := by simp [StageRecord.settle, ho]
          have unreliable : (record.settle o).unreliable = true := by
            simp [StageRecord.settle, ho]
          refine ⟨record.settle o, (stand.applyOutcome now ho).next?_eq, ?_⟩
          unfold failureOf
          by_cases hcancelled : o.cancelled = true
          · rw [if_pos hcancelled]
            exact ⟨stand.name_eq, .inr ⟨hstatus, unreliable⟩⟩
          · rw [if_neg hcancelled]
            exact ⟨stand.name_eq, hstatus, unreliable, o, rfl, rfl, rfl⟩
  | unsaved => exact absurd rfl (saved _ _)

/-! ### Skips -/

theorem skip_eq_ok (p : Pipeline) (dataset stage : String) (w : World σ) :
    ∀ run, ((p.skip dataset stage).perform w).1 = .ok run →
      ∃ made now recorded, p.runToSkip made w.files dataset = .ok recorded ∧
        run = recorded.markSkipped now stage skippedNote ∧
        ((p.skip dataset stage).perform w).2.since w = [.saved run] := by
  unfold skip
  cases p.registry.stage? stage with
  | none => rintro run ⟨⟩
  | some s =>
    dsimp only
    cases s.skippable with
    | false => rintro run ⟨⟩
    | true =>
      simp only [Bool.not_true, Bool.false_eq_true, if_false, perform_bind, perform_now,
        perform_get, perform_ofExcept]
      cases hrun : p.runToSkip (w.clock w.readings) w.files dataset with
      | error e => rintro run ⟨⟩
      | ok recorded =>
        dsimp only
        cases recorded.status? stage with
        | none => rintro run ⟨⟩
        | some status =>
          dsimp only
          split
          · simp only [perform_bind, perform_now, perform_save]
            generalize commit p.ledger _ _ = committed
            cases committed with
            | error cause => rintro run ⟨⟩
            | ok files =>
              rintro run ⟨⟩
              exact ⟨_, _, recorded, hrun, rfl, World.since_eq rfl⟩
          · rintro run ⟨⟩

theorem not_running_markSkipped {run : Run} (idle : ∀ r ∈ run.stages, r.status ≠ .running)
    (now : Instant) (name note : String) :
    ∀ r ∈ (run.markSkipped now name note).stages, r.status ≠ .running := by
  intro r hr
  rcases Run.mem_changeFirst hr with hr | ⟨q, -, -, rfl⟩
  · exact idle r hr
  · simp [StageRecord.skip]

theorem load_of_skip {stage : String} {run : Run} {executor : Executor σ}
    (leaves : Leaves executor p.ledger dataset) (unlinked : p.ledger.Unlinked w.files dataset)
    (h : ((p.skip dataset stage).perform w).1 = .ok run) :
    p.load ((p.skip dataset stage).perform w).2.files dataset = .ok run := by
  obtain ⟨made, now, recorded, hrecorded, rfl, hsince⟩ := skip_eq_ok p dataset stage w run h
  obtain ⟨tracks, -⟩ := keeps_skip (kept_tracks leaves w) stage w (tracks_self unlinked)
  have rest := atRest_runToSkip hrecorded
  have names_eq : (recorded.markSkipped now stage skippedNote).names = p.registry.names :=
    (Run.names_markSkipped ..).trans rest.names_eq
  have ordered := rest.ordered.markSkipped now stage skippedNote
  have idle := not_running_markSkipped rest.idle now stage skippedNote
  have dataset_eq : (recorded.markSkipped now stage skippedNote).dataset = dataset :=
    rest.dataset_eq
  have reads := tracks.reading_eq
  rw [hsince, snapshotAfter, List.foldl_cons, List.foldl_nil, snapshotStep, if_pos dataset_eq]
    at reads
  generalize ((p.skip dataset stage).perform w).2.files = tree at reads ⊢
  subst dataset_eq
  rw [load_of_encode reads names_eq ordered (Run.currentIndex_refresh_le now _),
    Run.recover_of_not_running idle]

/-! ### The report -/

/-- What is on record does not lead a retry to another dataset. -/
def Drive.KeepsTo (p : Pipeline) (tree : FileTree) : Drive → Prop
  | retry _ dataset _ _ => ∀ run params, p.load tree dataset = .ok run →
      run.parameters = some params → params.dataset = dataset
  | _ => True

theorem Drive.KeepsTo.own {d : Drive} {tree : FileTree} (h : d.KeepsTo p tree) :
    ∀ env, d.env? p tree = some env → env.params.dataset = d.dataset := by
  intro env henv
  refine Drive.dataset_eq_of_recorded rfl ?_ henv
  rintro vars stage force hd
  rw [hd] at h
  exact h

theorem Drive.tracks {executor : Executor σ} {d : Drive}
    (leaves : Leaves executor p.ledger d.dataset) (unlinked : p.ledger.Unlinked w.files d.dataset)
    (keeps : d.KeepsTo p w.files) :
    Tracks p.ledger d.dataset w ((d.act p executor).perform w).2 :=
  Drive.keeps (kept_tracks leaves w) keeps.own (tracks_self unlinked)

/-- The run of the phase that a drive ends at loads just as it is. -/
theorem Trace.load_of_ends {files tree : FileTree} {before : Except IoError String}
    {result : Except Failure Run} (h : Trace p env (.ready start) past phase)
    (opened : p.Opened files env start) (ends : Ends p phase result)
    (saved : ∀ before cause, phase ≠ .unsaved before cause)
    (left : tree.readText (p.ledger.snapshotPath env.params.dataset) =
      snapshotAfter env.params.dataset before (.saved start :: past)) :
    p.load tree env.params.dataset = .ok phase.run := by
  have idle := ends.not_running (h.sound opened.atRest.sound) saved
  rw [h.load_eq opened left, Run.recover_of_not_running idle]

section Story

variable {d : Drive} {files tree : FileTree} {events : List Event} {before : Except IoError String}
  (own : ∀ env, d.env? p files = some env → env.params.dataset = d.dataset)
  (left : tree.readText (p.ledger.snapshotPath d.dataset) = snapshotAfter d.dataset before events)
include own left

theorem Story.of_ok {run : Run} (h : p.Story d files events (.ok run)) :
    p.load tree d.dataset = .ok run ∧ run.isComplete = true := by
  cases h with
  | @driven env start past phase _ henv opened trace ends =>
    rw [← own _ henv] at left ⊢
    have saved : ∀ before cause, phase ≠ .unsaved before cause := by
      rintro before cause rfl
      cases ends
    have hload := trace.load_of_ends opened ends saved left
    cases ends with
    | complete hcomplete => exact ⟨hload, by simp [Run.isComplete, hcomplete]⟩

theorem Story.of_error {e : Failure} {rest : List Event} (hevents : events = .saved start :: rest)
    (saves : ∀ entry ∈ rest, refusedBySystem entry = false)
    (h : p.Story d files events (.error e)) :
    ∃ run r, p.load tree d.dataset = .ok run ∧ run.next? = some r ∧ Tells start r e := by
  cases h with
  | rejected _ => cases hevents
  | refused _ _ _ => cases hevents
  | @driven env run past phase _ henv opened trace ends =>
    cases hevents
    rw [← own _ henv] at left ⊢
    have sound := opened.atRest.sound
    have saved : ∀ before cause, phase ≠ .unsaved before cause := by
      rintro before cause rfl
      obtain ⟨entry, hmem, hentry⟩ := trace.exists_refused sound
      simp [saves entry hmem] at hentry
    obtain ⟨r, hnext, tells⟩ := trace.tells sound ends saved
    exact ⟨phase.run, r, trace.load_of_ends opened ends saved left, hnext, tells⟩

end Story

/-- **What an invocation reports is what its dataset has on record.** -/
theorem reported (executor : Executor σ) (w : World σ) (dataset : String)
    (leaves : Leaves executor p.ledger dataset) (unlinked : p.ledger.Unlinked w.files dataset) :
    (∀ d : Drive, d.dataset = dataset → d.KeepsTo p w.files →
      (∀ run, ((d.act p executor).perform w).1 = .ok run →
        p.load ((d.act p executor).perform w).2.files dataset = .ok run ∧
          run.isComplete = true) ∧
      ∀ (e : Failure) (start : Run) (rest : List Event),
        ((d.act p executor).perform w).1 = .error e →
        ((d.act p executor).perform w).2.since w = .saved start :: rest →
        (∀ entry ∈ rest, refusedBySystem entry = false) →
        ∃ run r, p.load ((d.act p executor).perform w).2.files dataset = .ok run ∧
          run.next? = some r ∧ Tells start r e) ∧
    ∀ (stage : String) (run : Run), ((p.skip dataset stage).perform w).1 = .ok run →
      p.load ((p.skip dataset stage).perform w).2.files dataset = .ok run := by
  constructor
  · rintro d rfl keeps
    have left := (Drive.tracks leaves unlinked keeps).reading_eq
    obtain ⟨-, story⟩ := d.story p executor w
    constructor
    · intro run hrun
      rw [hrun] at story
      exact story.of_ok keeps.own left
    · intro e start rest he hevents saves
      rw [he] at story
      exact story.of_error keeps.own left hevents saves
  · intro stage run hrun
    exact load_of_skip leaves unlinked hrun

/-! ### Samples -/

/-- The commands of the samples leave all files alone. -/
theorem leaves_sample (failing : String) (l : Ledger) (dataset : String) :
    Leaves (Sample.executor failing) l dataset := by
  constructor
  · exact fun _ _ => rfl
  · exact fun _ _ unlinked => unlinked

theorem unlinked_world : Sample.pipeline.ledger.Unlinked Sample.world.files "cubes" := by
  have hmade : Sample.world.files.makeDirectories Sample.pipeline.ledger.dir =
      .ok ((Sample.world.files.set ["state"] .directory).set ["state", "runs"] .directory) := by
    decide +kernel
  intro made hmade' loc target
  obtain rfl := Except.ok.inj (hmade.symm.trans hmade')
  have absent : ((Sample.world.files.set ["state"] .directory).set ["state", "runs"]
      .directory).locate false (Sample.pipeline.ledger.snapshotPath "cubes") =
        .ok (.absent ["state", "runs", "cubes.json"] false) := by decide +kernel
  rw [absent]
  simp

/-- When the second stage fails, a run loads whose second stage has failed. When nothing fails, the
run that is given back loads. -/
theorem reported_of_sample :
    (∃ tree run r, Sample.pipeline.load tree "cubes" = .ok run ∧ run.next? = some r ∧
      r.name = "train" ∧ r.status = .failed ∧ r.unreliable = true) ∧
    ∃ tree run, Sample.pipeline.load tree "cubes" = .ok run ∧ run.isComplete = true := by
  let d : Drive := .execute [] (.usual "cubes")
  constructor
  · have failed : ((d.act Sample.pipeline (Sample.executor "train")).perform Sample.world).1 =
        .error (.stageFailed "train" (Int32.ofInt 1) false) := by decide +kernel
    have opened : (((d.act Sample.pipeline (Sample.executor "train")).perform
        Sample.world).2.since Sample.world).head?.any Sample.isCommit = true := by decide +kernel
    have saves : (((d.act Sample.pipeline (Sample.executor "train")).perform
        Sample.world).2.since Sample.world).any refusedBySystem = false := by decide +kernel
    cases hevents : ((d.act Sample.pipeline (Sample.executor "train")).perform
        Sample.world).2.since Sample.world with
    | nil => simp [hevents] at opened
    | cons entry rest =>
      cases entry with
      | saved start =>
        have saves : ∀ entry ∈ rest, refusedBySystem entry = false := by
          intro entry hentry
          rw [hevents] at saves
          simpa using List.any_eq_false.mp saves entry (List.mem_cons_of_mem _ hentry)
        obtain ⟨run, r, hload, hnext, hname, hstatus, unreliable, -⟩ :=
          ((reported (Sample.executor "train") Sample.world "cubes" (leaves_sample _ _ _)
            unlinked_world).1 d rfl trivial).2 _ start rest failed hevents saves
        exact ⟨_, run, r, hload, hnext, hname, hstatus, unreliable⟩
      | _ => simp [hevents, Sample.isCommit] at opened
  · have done : ((d.act Sample.pipeline (Sample.executor "none")).perform Sample.world).1.isOk =
        true := by decide +kernel
    cases hrun : ((d.act Sample.pipeline (Sample.executor "none")).perform Sample.world).1 with
    | error e => simp [hrun, Except.isOk, Except.toBool] at done
    | ok run =>
      obtain ⟨hload, complete⟩ := ((reported (Sample.executor "none") Sample.world "cubes"
        (leaves_sample _ _ _) unlinked_world).1 d rfl trivial).1 run hrun
      exact ⟨_, run, hload, complete⟩

namespace Sample

/-- The environment of a retry by the recorded parameters of another dataset. -/
def strayEnv : Snapshot := Snapshot.take (Parameters.usual "beta").withoutPorts pipeline.settings []

end Sample

/-- A retry of one dataset gives back the run of another, when that is the dataset that the
parameters on record name. -/
theorem not_reported :
    ∃ run recorded,
      ((Sample.pipeline.retry (Sample.executor "none") [] "alpha" "record" false).perform
        (Sample.bothRecorded "beta" false)).1 = .ok run ∧
      Sample.pipeline.load (Sample.bothRecorded "beta" false).files "alpha" = .ok recorded ∧
      Sample.pipeline.load ((Sample.pipeline.retry (Sample.executor "none") [] "alpha" "record"
        false).perform (Sample.bothRecorded "beta" false)).2.files "alpha" ≠ .ok run := by
  have halpha : Sample.pipeline.load (Sample.bothRecorded "beta" false).files "alpha" =
      .ok (Sample.lostRun "alpha" "beta") := load_lostRun (readText_shelf _ _).1
  have hbeta : Sample.pipeline.load (Sample.bothRecorded "beta" false).files
      Sample.strayEnv.params.dataset = .ok (Sample.lostRun "beta" "beta") :=
    load_lostRun (readText_shelf _ _).2
  have henv : Snapshot.take ((Sample.lostRun "alpha" "beta").parameters.getD
      (.usual "alpha")).withoutPorts Sample.pipeline.settings [] = Sample.strayEnv := rfl
  have given : ((Sample.pipeline.retryWith (Sample.executor "none") Sample.strayEnv "record"
      false).perform (Sample.bothRecorded "beta" false)).1.toOption.map Run.dataset =
        some "beta" := by
    rw [retryWith_of_load hbeta]
    decide +kernel
  rw [retry_of_load halpha, henv]
  generalize (Sample.pipeline.retryWith (Sample.executor "none") Sample.strayEnv "record"
    false).perform (Sample.bothRecorded "beta" false) = done at given ⊢
  obtain ⟨result, after⟩ := done
  cases result with
  | error e => simp [Except.toOption] at given
  | ok run =>
    refine ⟨run, _, rfl, halpha, ?_⟩
    intro hload
    have hdataset : run.dataset = "beta" := by simpa [Except.toOption] using given
    rw [(atRest_of_load hload).dataset_eq] at hdataset
    exact absurd hdataset (by decide)

end Pipeline

end RobotPipeline
