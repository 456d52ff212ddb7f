/-
  RobotPipeline/Proofs/Pipeline/Durable.lean
  ==========================================
  **What a stopped invocation leaves behind.**

  The program may stop after any of its entries in the journal. A commit
  replaces the snapshot in one step, and nothing else that an invocation does
  touches it, so `snapshotAfter` is what the snapshot then reads as. Whatever
  else happened to the files, the run that was committed last loads from it,
  with its running stage recovered (`Trace.load_eq`).
-/
import RobotPipeline.Proofs.Ledger.Reload
import RobotPipeline.Proofs.Pipeline.Invocation

namespace RobotPipeline

/-! ### The snapshot after some entries -/

/-- What the snapshot of a dataset reads as after an entry. -/
def snapshotStep (dataset : String) (reading : Except IoError String) :
    Event → Except IoError String
  | .saved run => if run.dataset = dataset then .ok (Ledger.encode run) else reading
  | _ => reading

/-- What the snapshot of a dataset reads as after some entries. -/
def snapshotAfter (dataset : String) (before : Except IoError String) (events : List Event) :
    Except IoError String :=
  events.foldl (snapshotStep dataset) before

theorem snapshotAfter_append (dataset : String) (before : Except IoError String)
    (past future : List Event) :
    snapshotAfter dataset before (past ++ future) =
      snapshotAfter dataset (snapshotAfter dataset before past) future :=
  List.foldl_append

/-- A commit does to the file of the snapshot what its entry in the journal says: the file is
replaced, or left when the commit is refused. -/
theorem Action.exists_entry_of_save {σ : Type} (ledger : Ledger) (run : Run) (w : World σ)
    (unlinked : ledger.Unlinked w.files run.dataset) :
    ledger.Unlinked ((save ledger run).perform w).2.files run.dataset ∧
      ∃ entry, ((save ledger run).perform w).2.journal = entry :: w.journal ∧
        ((save ledger run).perform w).2.files.readText (ledger.snapshotPath run.dataset) =
          snapshotStep run.dataset (w.files.readText (ledger.snapshotPath run.dataset)) entry := by
  rw [perform_save]
  cases hc : commit ledger run w with
  | ok files =>
    have reads := readText_of_commit hc unlinked
    refine ⟨unlinked.of_write (of_commit_eq_ok hc).2, .saved run, rfl, ?_⟩
    exact reads.trans (if_pos rfl).symm
  | error cause => exact ⟨unlinked, .refused run cause, rfl, rfl⟩

namespace Pipeline

variable {p : Pipeline} {env : Snapshot} {phase next : Phase} {dataset : String}

/-! ### Runs that a snapshot can hold -/

/-- A run is of a dataset, and so are its parameters; its index fits its stages. -/
structure IsOf (dataset : String) (run : Run) : Prop where
  dataset_eq : run.dataset = dataset
  parameters : ∃ params, run.parameters = some params ∧ params.dataset = dataset
  indexed : run.currentIndex ≤ run.stages.length

theorem IsOf.setNote {run : Run} (h : IsOf dataset run) (name note : String) :
    IsOf dataset (run.setNote name note) := by
  refine ⟨h.dataset_eq, h.parameters, ?_⟩
  have hlen : (run.setNote name note).stages.length = run.stages.length := by
    simpa [Run.names] using congrArg List.length (run.names_setNote name note)
  rw [hlen]
  exact h.indexed

/-- A run that keeps its dataset and its parameters is still of the dataset, when its index is set
again. -/
theorem IsOf.refresh {run run' : Run} (h : IsOf dataset run) (now : Instant)
    (dataset_eq : run'.dataset = run.dataset) (parameters_eq : run'.parameters = run.parameters) :
    IsOf dataset (run'.refresh now) := by
  constructor
  · exact dataset_eq.trans h.dataset_eq
  · obtain ⟨params, hparams, hdataset⟩ := h.parameters
    exact ⟨params, parameters_eq.trans hparams, hdataset⟩
  · exact Run.currentIndex_refresh_le now run'

theorem IsOf.recover {run : Run} (h : IsOf dataset run) : IsOf dataset run.recover := by
  constructor
  · rw [Run.dataset_recover, h.dataset_eq]
  · rw [Run.parameters_recover]
    exact h.parameters
  · unfold Run.recover
    split
    · exact h.indexed
    · exact Run.currentIndex_reindex_le _

theorem Commits.isOf {run : Run} (h : Commits p env phase run next)
    (isOf : IsOf dataset phase.run) : IsOf dataset next.run := by
  cases h with
  | unready _ => exact isOf.setNote _ _
  | running now => exact isOf.refresh now rfl rfl
  | succeeded now _ => exact isOf.refresh now rfl rfl
  | failed now _ => exact isOf.refresh now rfl rfl
  | lost now => exact isOf.refresh now rfl rfl

theorem Opened.isOf {tree : FileTree} {run : Run} (h : p.Opened tree env run) :
    IsOf env.params.dataset run := by
  have dataset_eq := h.atRest.dataset_eq
  cases h with
  | resumed now _ => exact ⟨dataset_eq, ⟨_, rfl, rfl⟩, Run.currentIndex_refresh_le now _⟩
  | started now _ => exact ⟨dataset_eq, ⟨_, rfl, rfl⟩, Run.currentIndex_refresh_le now _⟩
  | reset now _ hreset =>
    obtain ⟨place, -, -, rfl⟩ := resetForRetry_eq_ok hreset
    exact ⟨dataset_eq, ⟨_, rfl, rfl⟩, Run.currentIndex_refresh_le now _⟩

/-! ### The snapshot follows the drive -/

theorem Step.durable {e : Event} (step : Step p env phase e next)
    (isOf : IsOf dataset phase.run) :
    snapshotAfter dataset (.ok (Ledger.encode phase.run)) [e] = .ok (Ledger.encode next.run) ∧
      IsOf dataset next.run := by
  cases step with
  | checked _ _ _ => exact ⟨rfl, isOf⟩
  | saved h _ =>
    have isOf' := h.isOf isOf
    constructor
    · rw [← h.run_eq]
      exact if_pos isOf'.dataset_eq
    · exact isOf'
  | refused _ _ => exact ⟨rfl, isOf⟩
  | launched => exact ⟨rfl, isOf⟩
  | returned _ => exact ⟨rfl, isOf⟩

/-- At every moment of a drive the snapshot holds the run that was committed last. -/
theorem Trace.durable {start : Phase} {past : List Event} (h : Trace p env start past phase)
    (isOf : IsOf dataset start.run) :
    snapshotAfter dataset (.ok (Ledger.encode start.run)) past = .ok (Ledger.encode phase.run) ∧
      IsOf dataset phase.run := by
  induction h with
  | nil => exact ⟨rfl, isOf⟩
  | snoc _ step ih =>
    obtain ⟨hpast, isOf'⟩ := ih
    rw [snapshotAfter_append, hpast]
    exact step.durable isOf'

theorem Trace.snapshotAfter_eq {files : FileTree} {start : Run} {past : List Event}
    (h : Trace p env (.ready start) past phase) (opened : p.Opened files env start)
    (before : Except IoError String) :
    snapshotAfter env.params.dataset before (.saved start :: past) =
        .ok (Ledger.encode phase.run) ∧
      IsOf env.params.dataset phase.run := by
  have hstart : snapshotAfter env.params.dataset before [.saved start] =
      .ok (Ledger.encode start) := if_pos opened.isOf.dataset_eq
  rw [← List.singleton_append, snapshotAfter_append, hstart]
  exact h.durable opened.isOf

/-- Whatever moment of a drive the program stops at, the run that was committed last loads, with
its running stage recovered. -/
theorem Trace.load_eq {files tree : FileTree} {start : Run} {before : Except IoError String}
    {past : List Event} (h : Trace p env (.ready start) past phase)
    (opened : p.Opened files env start)
    (left : tree.readText (p.ledger.snapshotPath env.params.dataset) =
      snapshotAfter env.params.dataset before (.saved start :: past)) :
    p.load tree env.params.dataset = .ok phase.run.recover := by
  obtain ⟨hsnapshot, isOf⟩ := h.snapshotAfter_eq opened before
  have sound := h.sound opened.atRest.sound
  rw [hsnapshot] at left
  rw [← isOf.dataset_eq] at left ⊢
  exact load_of_encode left sound.names_eq sound.ordered isOf.indexed

/-! ### Invocations that are stopped -/

/-- What an invocation has done when it stops, or is stopped. -/
inductive Stopped (p : Pipeline) (d : Drive) (tree : FileTree) : List Event → Prop where
  | early : Stopped p d tree []
  | refused {run : Run} {cause : LedgerError} : Stopped p d tree [.refused run cause]
  | driving {env : Snapshot} {start : Run} {past : List Event} {phase : Phase}
      (henv : d.env? p tree = some env) (h : p.Opened tree env start)
      (trace : Trace p env (.ready start) past phase) : Stopped p d tree (.saved start :: past)

/-- An invocation may stop after any of its entries. -/
theorem Story.stopped {d : Drive} {tree : FileTree} {events past : List Event}
    {result : Except Failure Run} (h : p.Story d tree events result) (hpast : past <+: events) :
    p.Stopped d tree past := by
  cases h with
  | rejected _ =>
    rw [List.prefix_nil.mp hpast]
    exact .early
  | refused _ _ _ =>
    rcases List.prefix_cons_iff.mp hpast with rfl | ⟨rest, rfl, hrest⟩
    · exact .early
    · rw [List.prefix_nil.mp hrest]
      exact .refused
  | driven henv h trace _ =>
    rcases List.prefix_cons_iff.mp hpast with rfl | ⟨rest, rfl, future, rfl⟩
    · exact .early
    · obtain ⟨phase, hrest, -⟩ := trace.of_append
      exact .driving henv h hrest

/-! ### What an opening keeps -/

theorem Opened.history?_eq {tree : FileTree} {run start : Run} (h : p.Opened tree env start)
    (hload : p.load tree env.params.dataset = .ok run) (name : String) :
    start.history? name = run.history? name := by
  cases h with
  | resumed now hload' =>
    obtain rfl := Except.ok.inj (hload.symm.trans hload')
    exact Run.history?_includeOptional now _ run name
  | started _ hnone => simp [hload] at hnone
  | @reset _ _ stage _ now hload' hreset =>
    obtain rfl := Except.ok.inj (hload.symm.trans hload')
    obtain ⟨place, -, -, rfl⟩ := resetForRetry_eq_ok hreset
    calc Run.history? _ name
        = (run.change stage StageRecord.reset).history? name :=
          Run.history?_resetFrom now place _ name
      _ = run.history? name :=
          Run.history?_change StageRecord.name_reset StageRecord.history_reset run stage name

theorem Opened.history_eq {tree : FileTree} {start : Run} {e : Failure}
    (h : p.Opened tree env start) (hload : p.load tree env.params.dataset = .error e) :
    ∀ r ∈ start.stages, r.history = (0, none, false) := by
  cases h with
  | resumed _ hload' => simp [hload] at hload'
  | started now _ =>
    intro r hr
    exact Run.history_of_mem_forRegistry hr
  | reset _ hload' _ => simp [hload] at hload'

/-! ### A sample -/

theorem load_recorded {run : Run} (names_eq : run.names = Sample.pipeline.registry.names)
    (dataset_eq : run.dataset = "cubes") (ordered : run.Ordered)
    (indexed : run.currentIndex ≤ run.stages.length) :
    Sample.pipeline.load (Sample.recorded (Ledger.encode run)) "cubes" = .ok run.recover := by
  have reads : (Sample.recorded (Ledger.encode run)).readText
      (Sample.pipeline.ledger.snapshotPath "cubes") = .ok (Ledger.encode run) := rfl
  rw [← dataset_eq] at reads ⊢
  exact load_of_encode reads names_eq ordered indexed

end Pipeline

end RobotPipeline
