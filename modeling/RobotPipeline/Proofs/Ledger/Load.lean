/-
  RobotPipeline/Proofs/Ledger/Load.lean
  =====================================
  **What a run that loads is like.**

  A snapshot that loads is about the dataset it was looked up for and has not
  gone out of order; what it shows as running is an interrupted stage, so
  nothing in the loaded run is running.
-/
import RobotPipeline.Pipeline.Basic
import RobotPipeline.Proofs.Run.Order

namespace RobotPipeline

namespace Ledger

/-- A snapshot text holds a run exactly when it records one of the dataset, in order; that run is
then recovered. -/
theorem interpret_eq_ok_iff {dataset text : String} {run : Run} :
    interpret dataset text = .ok run ↔
      ∃ saved, decode? text = some saved ∧ saved.dataset = dataset ∧ saved.Ordered ∧
        run = saved.recover := by
  unfold interpret
  cases decode? text with
  | none => simp
  | some saved =>
    by_cases hd : saved.dataset = dataset
    · cases hv : saved.orderViolation? with
      | some v =>
        have disordered : ¬ saved.Ordered := by
          rw [← Run.orderViolation?_eq_none_iff, hv]
          simp
        simp [hd, hv, disordered]
      | none =>
        have ordered := (Run.orderViolation?_eq_none_iff saved).mp hv
        simp [hd, hv, ordered, eq_comm]
    · simp [hd]

theorem load_eq_ok_iff {l : Ledger} {tree : FileTree} {dataset : String} {run : Run} :
    l.load tree dataset = .ok run ↔
      ∃ text, tree.readText (l.snapshotPath dataset) = .ok text ∧
        interpret dataset text = .ok run := by
  unfold load
  cases tree.readText (l.snapshotPath dataset) with
  | error cause => simp
  | ok text =>
    cases hi : interpret dataset text with
    | error what => simp [hi]
    | ok loaded => simp [hi]

/-- A run that loads is of the dataset, in order, and nothing in it is running. -/
theorem of_load {l : Ledger} {tree : FileTree} {dataset : String} {run : Run}
    (h : l.load tree dataset = .ok run) :
    run.dataset = dataset ∧ run.Ordered ∧ ∀ r ∈ run.stages, r.status ≠ .running := by
  obtain ⟨text, -, hinterpret⟩ := load_eq_ok_iff.mp h
  obtain ⟨saved, -, hdataset, ordered, rfl⟩ := interpret_eq_ok_iff.mp hinterpret
  refine ⟨?_, ordered.recover, saved.not_running_recover⟩
  simpa using hdataset

end Ledger

namespace Pipeline

variable {p : Pipeline} {tree : FileTree} {dataset : String} {run : Run}

theorem load_eq_ok_iff :
    p.load tree dataset = .ok run ↔
      p.ledger.load tree dataset = .ok run ∧ run.names = p.registry.names := by
  unfold load
  cases p.ledger.load tree dataset with
  | error e => simp
  | ok loaded =>
    by_cases hn : loaded.names = p.registry.names
    · simp only [hn, if_true, Except.ok.injEq]
      constructor
      · rintro rfl
        exact ⟨rfl, hn⟩
      · exact And.left
    · simp only [hn, if_false, reduceCtorEq, Except.ok.injEq, false_iff, not_and]
      rintro rfl
      exact hn

/-- There is no recorded run exactly when there is no snapshot to read. -/
theorem load_eq_notFound_iff {d : String} :
    p.load tree dataset = .error (.ledger (.notFound d)) ↔
      tree.readText (p.ledger.snapshotPath dataset) = .error .notFound ∧ d = dataset := by
  unfold load Ledger.load
  cases tree.readText (p.ledger.snapshotPath dataset) with
  | error cause =>
    by_cases hc : cause = .notFound
    · simp [hc, eq_comm]
    · simp [hc]
  | ok text =>
    cases hi : Ledger.interpret dataset text with
    | error what => simp [hi]
    | ok run =>
      by_cases hn : run.names = p.registry.names
      · simp [hi, hn]
      · simp [hi, hn, mismatch]

/-- A run of a dataset with the stages of the pipeline, in order, and at rest: nothing is
running. -/
structure AtRest (p : Pipeline) (dataset : String) (run : Run) : Prop where
  names_eq : run.names = p.registry.names
  dataset_eq : run.dataset = dataset
  ordered : run.Ordered
  idle : ∀ r ∈ run.stages, r.status ≠ .running

theorem atRest_of_load (h : p.load tree dataset = .ok run) : p.AtRest dataset run := by
  obtain ⟨hload, hnames⟩ := load_eq_ok_iff.mp h
  obtain ⟨hdataset, ordered, idle⟩ := Ledger.of_load hload
  exact ⟨hnames, hdataset, ordered, idle⟩

theorem atRest_forRegistry (p : Pipeline) (now : Instant) (params : Parameters) :
    p.AtRest params.dataset (Run.forRegistry now p.registry params) := by
  constructor
  · exact Run.names_forRegistry now p.registry params
  · rfl
  · exact Run.ordered_forRegistry now p.registry params
  · exact Run.not_running_forRegistry now p.registry params

end Pipeline

end RobotPipeline
