/-
  RobotPipeline/Proofs/Pipeline/Course.lean
  =========================================
  **How the run on record changes.**

  Whatever a request does, each of its entries in the journal takes the run on
  record a few `Change`s further: it is recovered, made, resumed, reset, has a
  stage skipped, or is driven on. `Change` is all that can happen, so what all
  six changes keep holds of the run on record at every later moment.

  Only a retry resets stages; without one a run goes through the other five.
-/
import Mathlib.Logic.Relation
import RobotPipeline.Proofs.Pipeline.Trust

namespace RobotPipeline

namespace Pipeline

variable {σ : Type} {p : Pipeline} {env : Snapshot} {dataset : String} {retries : Bool}
  {tree : FileTree} {reading : Except IoError String}

/-! ### The run on record -/

/-- The run of the pipeline that a reading of a snapshot records, as it was written: what was
running is running in it. -/
def written? (p : Pipeline) (dataset : String) : Except IoError String → Option Run
  | .ok text => (Ledger.decode? text).filter fun run =>
      run.dataset = dataset ∧ run.Ordered ∧ run.names = p.registry.names
  | .error _ => none

theorem written?_eq_some_iff {text : String} {run : Run} :
    p.written? dataset (.ok text) = some run ↔
      Ledger.decode? text = some run ∧ run.dataset = dataset ∧ run.Ordered ∧
        run.names = p.registry.names := by
  simp [written?, Option.filter_eq_some_iff]

/-- What loads is the run on record, recovered. -/
theorem load_eq_ok_iff_written {run : Run} :
    p.load tree dataset = .ok run ↔
      ∃ saved, p.written? dataset (tree.readText (p.ledger.snapshotPath dataset)) = some saved ∧
        run = saved.recover := by
  rw [load_eq_ok_iff, Ledger.load_eq_ok_iff]
  cases tree.readText (p.ledger.snapshotPath dataset) with
  | error cause => simp [written?]
  | ok text =>
    simp only [Except.ok.injEq, exists_eq_left', Ledger.interpret_eq_ok_iff, written?_eq_some_iff]
    constructor
    · rintro ⟨⟨saved, hdecode, hdataset, ordered, rfl⟩, hnames⟩
      exact ⟨saved, ⟨hdecode, hdataset, ordered, by simpa using hnames⟩, rfl⟩
    · rintro ⟨saved, ⟨hdecode, hdataset, ordered, hnames⟩, rfl⟩
      exact ⟨⟨saved, hdecode, hdataset, ordered, rfl⟩, by simpa using hnames⟩

theorem written?_encode {run : Run} (dataset_eq : run.dataset = dataset)
    (names_eq : run.names = p.registry.names) (ordered : run.Ordered)
    (indexed : run.currentIndex ≤ run.stages.length) :
    p.written? dataset (.ok (Ledger.encode run)) = some run :=
  written?_eq_some_iff.mpr
    ⟨decode?_encode names_eq indexed, dataset_eq, ordered,
      names_eq⟩

/-! ### Changes -/

/-- One change of the run on record. Stages are reset only where there are retries. -/
inductive Change (p : Pipeline) (retries : Bool) : Option Run → Option Run → Prop where
  /-- It is found by the next invocation, and what was running has failed. -/
  | recovered (run : Run) : Change p retries (some run) (some run.recover)
  /-- There is none, and a new one is made. -/
  | made (now : Instant) (params : Parameters) :
      Change p retries none (some (Run.forRegistry now p.registry params))
  /-- It is resumed, with the stages that are now asked for. -/
  | resumed (now : Instant) (params : Parameters) (run : Run) :
      Change p retries (some run)
        (some { run.includeOptional now params.included with parameters := some params })
  /-- A stage and what comes after it are reset. -/
  | reset {now : Instant} {env : Snapshot} {stage : String} {force : Bool} {run opened : Run}
      (again : retries = true) (h : p.resetForRetry now env stage force run = .ok opened) :
      Change p retries (some run) (some opened)
  /-- The operator skips a stage. -/
  | skipped {run : Run} {stage : String} {s : Stage} {status : Status} (now : Instant)
      (hs : p.registry.stage? stage = some s) (skippable : s.skippable = true)
      (hstatus : run.status? stage = some status)
      (waiting : status = .failed ∨ status = .pending) :
      Change p retries (some run) (some (run.markSkipped now stage skippedNote))
  /-- A drive commits what its stage has come to. -/
  | driven {env : Snapshot} {phase next : Phase} {run : Run} (h : Commits p env phase run next)
      (sound : phase.Sound p) : Change p retries (some phase.run) (some run)

abbrev Changes (p : Pipeline) (retries : Bool) : Option Run → Option Run → Prop :=
  Relation.ReflTransGen (p.Change retries)

/-- An entry in the journal takes the run on record some changes further. A run that it commits is
then the one on record. -/
structure Proceeds (p : Pipeline) (retries : Bool) (dataset : String)
    (reading : Except IoError String) (e : Event) : Prop where
  changes : p.Changes retries (p.written? dataset reading)
    (p.written? dataset (snapshotStep dataset reading e))
  onRecord : ∀ run, e = .saved run → p.written? dataset (snapshotStep dataset reading e) = some run

/-- Entries in the journal, each of which takes the run on record further. -/
def Course (p : Pipeline) (retries : Bool) (dataset : String) :
    Except IoError String → List Event → Prop
  | _, [] => True
  | reading, e :: rest =>
    p.Proceeds retries dataset reading e ∧
      Course p retries dataset (snapshotStep dataset reading e) rest

theorem course_append {past future : List Event} :
    p.Course retries dataset reading (past ++ future) ↔
      p.Course retries dataset reading past ∧
        p.Course retries dataset (snapshotAfter dataset reading past) future := by
  induction past generalizing reading with
  | nil => simp [Course, snapshotAfter]
  | cons e past ih =>
    rw [List.cons_append, Course, Course, ih, and_assoc]
    rfl

theorem Course.changes {events : List Event} (h : p.Course retries dataset reading events) :
    p.Changes retries (p.written? dataset reading)
      (p.written? dataset (snapshotAfter dataset reading events)) := by
  induction events generalizing reading with
  | nil => exact .refl
  | cons e events ih => exact h.1.changes.trans (ih h.2)

/-- Every run that is committed has come from what was on record. -/
theorem Course.changes_saved {events : List Event} {run : Run}
    (h : p.Course retries dataset reading events) (saved : .saved run ∈ events) :
    p.Changes retries (p.written? dataset reading) (some run) := by
  induction events generalizing reading with
  | nil => cases saved
  | cons e events ih =>
    obtain ⟨proceeds, rest⟩ := h
    rcases List.mem_cons.mp saved with rfl | saved
    · rw [← proceeds.onRecord run rfl]
      exact proceeds.changes
    · exact proceeds.changes.trans (ih rest saved)

/-- An entry that commits nothing leaves what is on record. -/
theorem proceeds_of_ne_saved {e : Event} (h : ∀ run, e ≠ .saved run) :
    p.Proceeds retries dataset reading e := by
  cases e with
  | saved run => exact absurd rfl (h run)
  | _ => exact ⟨.refl, by simp⟩

theorem proceeds_saved {run : Run} (onRecord : p.written? dataset (.ok (Ledger.encode run)) = some run)
    (changes : p.Changes retries (p.written? dataset reading) (some run)) :
    p.Proceeds retries dataset reading (.saved run) := by
  have same : p.written? dataset (snapshotStep dataset reading (.saved run)) = some run := by
    rw [snapshotStep, if_pos (written?_eq_some_iff.mp onRecord).2.1, onRecord]
  constructor
  · rw [same]
    exact changes
  · rintro _ ⟨⟩
    exact same

/-! ### Drives -/

theorem Step.proceeds {phase next : Phase} {e : Event} (step : Step p env phase e next)
    (sound : phase.Sound p) (isOf : IsOf dataset phase.run) :
    p.Proceeds retries dataset (.ok (Ledger.encode phase.run)) e := by
  cases step with
  | checked _ _ _ => exact proceeds_of_ne_saved (by simp)
  | @saved _ _ run h ordered =>
    have sound' := h.sound sound
    have isOf' := h.isOf isOf
    have before := written?_encode isOf.dataset_eq sound.names_eq sound.ordered isOf.indexed
    have after := written?_encode isOf'.dataset_eq sound'.names_eq sound'.ordered isOf'.indexed
    rw [h.run_eq] at after
    apply proceeds_saved after
    rw [before]
    exact .single (.driven h sound)
  | refused _ _ => exact proceeds_of_ne_saved (by simp)
  | launched => exact proceeds_of_ne_saved (by simp)
  | returned _ => exact proceeds_of_ne_saved (by simp)

theorem Trace.course {start phase : Phase} {past : List Event} (h : Trace p env start past phase)
    (sound : start.Sound p) (isOf : IsOf dataset start.run) :
    p.Course retries dataset (.ok (Ledger.encode start.run)) past := by
  induction h with
  | nil => trivial
  | snoc past step ih =>
    obtain ⟨hpast, isOf'⟩ := past.durable isOf
    refine course_append.mpr ⟨ih, ?_⟩
    rw [hpast]
    exact ⟨step.proceeds (past.sound sound) isOf', trivial⟩

theorem Opened.changes {start : Run} (h : p.Opened tree env start) (again : retries = true) :
    p.Changes retries
      (p.written? env.params.dataset
        (tree.readText (p.ledger.snapshotPath env.params.dataset)))
      (some start) := by
  cases h with
  | resumed now h =>
    obtain ⟨saved, hsaved, rfl⟩ := load_eq_ok_iff_written.mp h
    rw [hsaved]
    exact .tail (.single (.recovered saved)) (.resumed now env.params saved.recover)
  | started now h =>
    rw [(load_eq_notFound_iff.mp h).1]
    exact .single (.made now env.params)
  | reset now h hreset =>
    obtain ⟨saved, hsaved, rfl⟩ := load_eq_ok_iff_written.mp h
    rw [hsaved]
    exact .tail (.single (.recovered saved)) (.reset again hreset)

/-- An execution resets nothing: it goes on with the run that it finds, or makes one. -/
theorem changes_openRun {params : Parameters} {w after : World σ} {start : Run} {recorded : Bool}
    (h : (p.openRun params).perform w = (.ok (start, recorded), after)) :
    p.Changes retries
      (p.written? params.dataset (w.files.readText (p.ledger.snapshotPath params.dataset)))
      (some start) := by
  unfold openRun at h
  rw [Action.perform_bind, Action.perform_get] at h
  dsimp only at h
  split at h
  · rename_i found hload
    obtain ⟨saved, hsaved, rfl⟩ := load_eq_ok_iff_written.mp hload
    rw [hsaved]
    simp only [Action.perform_bind, Action.perform_now, Action.perform_save] at h
    split at h
    · obtain ⟨rfl, -⟩ : _ = start ∧ true = recorded := by simpa using congrArg Prod.fst h
      exact .tail (.single (.recovered saved)) (.resumed _ params saved.recover)
    · simp at h
  · rename_i d hload
    rw [(load_eq_notFound_iff.mp hload).1]
    simp only [Action.perform_bind, Action.perform_now, Action.perform_save] at h
    split at h
    · obtain ⟨rfl, -⟩ : _ = start ∧ false = recorded := by simpa using congrArg Prod.fst h
      exact .single (.made _ params)
    · simp at h
  · simp at h

theorem changes_openExecution {env' : Snapshot} {w after : World σ} {start : Run}
    (h : (Drive.openExecution p env).perform w = (.ok (env', start), after)) :
    p.Changes retries
      (p.written? env.params.dataset
        (w.files.readText (p.ledger.snapshotPath env.params.dataset)))
      (some start) := by
  unfold Drive.openExecution at h
  rw [Action.perform_bind, Action.perform_ofExcept] at h
  split at h
  · rename_i hok
    obtain rfl := congrArg Prod.snd hok
    rw [Action.perform_bind] at h
    split at h
    · rename_i opened w' hopen
      obtain ⟨run, recorded⟩ := opened
      simp only [Action.perform_bind, perform_tell] at h
      obtain ⟨-, rfl⟩ : env = env' ∧ run = start := by simpa using congrArg Prod.fst h
      exact changes_openRun hopen
    · simp at h
  · simp at h

theorem Drive.changes_opening {d : Drive} {w after : World σ} {start : Run} {env' : Snapshot}
    (henv : d.env? p w.files = some env) (h : (d.opening p).perform w = (.ok (env', start), after))
    (opened : p.Opened w.files env start) (again : d.retried? = none ∨ retries = true) :
    p.Changes retries
      (p.written? env.params.dataset
        (w.files.readText (p.ledger.snapshotPath env.params.dataset)))
      (some start) := by
  rcases again with again | again
  · -- `Opened` does not tell an execution from a retry, so the code of the opening is read
    cases d with
    | execute vars params =>
      obtain rfl : Snapshot.take params p.settings vars = env := by simpa [env?] using henv
      unfold opening at h
      rw [Action.perform_bind, Action.perform_ofExcept] at h
      split at h
      · rename_i hok
        obtain rfl := congrArg Prod.snd hok
        exact changes_openExecution h
      · simp at h
    | executeWith env'' =>
      obtain rfl : env'' = env := by simpa [env?] using henv
      exact changes_openExecution h
    | retry vars dataset stage force => simp [retried?] at again
    | retryWith env'' stage force => simp [retried?] at again
  · exact opened.changes again

/-- What an invocation does to the run on record of its dataset. -/
theorem Drive.course (d : Drive) (executor : Executor σ) (w : World σ)
    (own : ∀ env, d.env? p w.files = some env → env.params.dataset = dataset)
    (again : d.retried? = none ∨ retries = true) :
    p.Course retries dataset (w.files.readText (p.ledger.snapshotPath dataset))
      (((d.act p executor).perform w).2.since w) := by
  have hopens := opens_opening (p := p) d w
  rw [d.act_eq p executor, Action.perform_bind]
  cases henv : d.env? p w.files with
  | none =>
    obtain ⟨e, he⟩ : ∃ e, (d.opening p).perform w = (.error e, w) := by simpa [henv] using hopens
    rw [he, World.since_eq_nil rfl]
    trivial
  | some env =>
    obtain rfl := own env henv
    rw [henv] at hopens
    dsimp only at hopens
    generalize hopening : (d.opening p).perform w = opened at hopens
    cases hopens with
    | rejected h hj =>
      rw [World.since_eq_nil hj]
      trivial
    | @refused run cause w' h why hj =>
      have hall : w'.journal = [.refused run cause].reverse ++ w.journal := hj
      rw [World.since_eq hall]
      exact ⟨proceeds_of_ne_saved (by simp), trivial⟩
    | @opened start w' h hj =>
      obtain ⟨events, phase, hjournal, trace, -⟩ :=
        drive_trace p executor env h.atRest.names_eq w'
      have hall : ((p.drive executor env start).perform w').2.journal =
          (.saved start :: events).reverse ++ w.journal := by
        rw [hjournal, hj, List.reverse_cons, List.append_assoc]
        rfl
      have sound := h.atRest.sound
      have isOf := h.isOf
      have onRecord := written?_encode isOf.dataset_eq sound.names_eq sound.ordered isOf.indexed
      have saved : snapshotStep env.params.dataset
          (w.files.readText (p.ledger.snapshotPath env.params.dataset)) (.saved start) =
            .ok (Ledger.encode start) := if_pos isOf.dataset_eq
      rw [World.since_eq hall, Course, saved]
      exact ⟨proceeds_saved onRecord (d.changes_opening henv hopening h again),
        trace.course sound isOf⟩

/-- An invocation that gets through gives a complete run, which has come from what was on record. -/
theorem Drive.changes_ok {d : Drive} {executor : Executor σ} {w : World σ} {run : Run}
    (own : ∀ env, d.env? p w.files = some env → env.params.dataset = dataset)
    (again : d.retried? = none ∨ retries = true) (h : ((d.act p executor).perform w).1 = .ok run) :
    p.Changes retries (p.written? dataset (w.files.readText (p.ledger.snapshotPath dataset)))
        (some run) ∧
      run.names = p.registry.names ∧ run.firstIncomplete? = none := by
  have course := d.course executor w own again
  have story := (d.story p executor w).2
  rw [h] at story
  generalize ((d.act p executor).perform w).2.since w = events at course story
  cases story with
  | driven henv opened trace ends =>
    obtain rfl := own _ henv
    cases ends with
    | complete hnone =>
      have sound := trace.sound opened.atRest.sound
      obtain ⟨hsnapshot, isOf⟩ :=
        trace.snapshotAfter_eq opened (w.files.readText (p.ledger.snapshotPath _))
      have onRecord := written?_encode isOf.dataset_eq sound.names_eq sound.ordered isOf.indexed
      have changes := course.changes
      rw [hsnapshot, onRecord] at changes
      exact ⟨changes, sound.names_eq, hnone⟩

/-! ### Skips -/

/-- A skip commits nothing unless the stage is declared as one that may be skipped. -/
theorem skippable_of_saved {stage : String} {w : World σ} {run : Run}
    (h : .saved run ∈ ((p.skip dataset stage).perform w).2.since w) :
    ∃ s, p.registry.stage? stage = some s ∧ s.skippable = true := by
  cases hs : p.registry.stage? stage with
  | none =>
    have quiet : ((p.skip dataset stage).perform w).2.journal = w.journal := by
      unfold skip
      rw [hs]
      rfl
    simp [World.since_eq_nil quiet] at h
  | some s =>
    cases hskip : s.skippable with
    | false =>
      have quiet : ((p.skip dataset stage).perform w).2.journal = w.journal := by
        unfold skip
        rw [hs]
        simp only [hskip]
        rfl
      simp [World.since_eq_nil quiet] at h
    | true => exact ⟨s, rfl, hskip⟩

theorem changes_runToSkip {now : Instant} {run : Run}
    (h : p.runToSkip now tree dataset = .ok run) :
    p.Changes retries
      (p.written? dataset (tree.readText (p.ledger.snapshotPath dataset))) (some run) := by
  unfold runToSkip at h
  split at h
  · rename_i hload
    cases h
    obtain ⟨saved, hsaved, rfl⟩ := load_eq_ok_iff_written.mp hload
    rw [hsaved]
    exact .single (.recovered saved)
  · rename_i hload
    rw [(load_eq_notFound_iff.mp hload).1]
    cases hv : validate (.usual dataset) with
    | error e => simp [hv, Except.map] at h
    | ok _ =>
      obtain rfl : Run.forRegistry now p.registry (.usual dataset) = run := by
        simpa [hv, Except.map] using h
      exact .single (.made now (.usual dataset))
  · cases h

theorem course_skip (stage : String) (w : World σ) :
    p.Course retries dataset (w.files.readText (p.ledger.snapshotPath dataset))
      (((p.skip dataset stage).perform w).2.since w) := by
  obtain ⟨events, hjournal, story⟩ := p.skip_story dataset stage w
  have hsince := World.since_eq hjournal
  cases story with
  | rejected =>
    rw [hsince]
    trivial
  | refused made now hrun hs hstatus why =>
    rw [hsince]
    exact ⟨proceeds_of_ne_saved (by simp), trivial⟩
  | @skipped run status made now hrun hs hstatus =>
    have committed : .saved (run.markSkipped now stage skippedNote) ∈
        ((p.skip dataset stage).perform w).2.since w := by simp [hsince]
    obtain ⟨s, hstage, skippable⟩ := skippable_of_saved committed
    have rest := atRest_runToSkip hrun
    have onRecord : p.written? dataset (.ok (Ledger.encode (run.markSkipped now stage skippedNote))) =
        some (run.markSkipped now stage skippedNote) :=
      written?_encode rest.dataset_eq ((Run.names_markSkipped ..).trans rest.names_eq)
        (rest.ordered.markSkipped now _ _) (Run.currentIndex_refresh_le now _)
    rw [hsince]
    refine ⟨proceeds_saved onRecord ?_, trivial⟩
    exact (changes_runToSkip hrun).tail (.skipped now hstage skippable hs hstatus)

/-! ### Requests -/

/-- What a request about a dataset does to the run on record. An invocation has to take its
environment from the dataset. -/
theorem Request.course {r : Request} (about : r.IsAbout dataset) (executor : Executor σ)
    (w : World σ)
    (own : ∀ d env, r = .drive d → d.env? p w.files = some env → env.params.dataset = dataset)
    (again : ∀ d, r = .drive d → d.retried? = none ∨ retries = true) :
    p.Course retries dataset (w.files.readText (p.ledger.snapshotPath dataset))
      ((r.answer p executor w).since w) := by
  cases about with
  | @drive d about => exact d.course executor w (fun env => own d env rfl) (again d rfl)
  | @skip stage => exact course_skip stage w
  | status =>
    have quiet : ((p.status dataset).perform w).2.journal = w.journal := rfl
    rw [Request.answer, World.since_eq_nil quiet]
    trivial

/-- Over a whole history the run on record changes as it may. -/
theorem History.course {turns : List (List Event)} (h : p.History dataset turns reading) :
    snapshotAfter dataset (.error .notFound) turns.flatten = reading ∧
      p.Course true dataset (.error .notFound) turns.flatten := by
  induction h with
  | nil => exact ⟨rfl, trivial⟩
  | @turn turns reading h σ executor w found r about past hpast ih =>
    obtain ⟨hreading, course⟩ := ih
    have onRecord := h.onRecord
    have own : ∀ d env, r = .drive d → d.env? p w.files = some env →
        env.params.dataset = dataset := by
      rintro d env rfl henv
      cases about with
      | drive about => exact Drive.dataset_eq_of_env? about (onRecord.found found) henv
    obtain ⟨future, hfuture⟩ := hpast
    have whole := r.course about executor w own (fun _ _ => .inr rfl)
    rw [found, ← hfuture] at whole
    rw [List.flatten_concat, snapshotAfter_append, hreading]
    refine ⟨rfl, course_append.mpr ⟨course, ?_⟩⟩
    rw [hreading]
    exact (course_append.mp whole).1

end Pipeline

end RobotPipeline
