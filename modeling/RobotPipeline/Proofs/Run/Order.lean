/-
  RobotPipeline/Proofs/Run/Order.lean
  ===================================
  **No stage gets ahead of an incomplete one.**

  `Run.Ordered` says so of a run, and it is what a commit checks
  (`Run.orderViolation?_eq_none_iff`). Two facts carry all that follows:

  * a change of the first incomplete stage keeps the order, whatever the change
    (`Run.Front.ordered_change`);
  * when an incomplete stage appears before later ones (a stage taken in, a
    stage reset), none of the later ones is ahead.
-/
import RobotPipeline.Proofs.Run.Change

namespace RobotPipeline

namespace Run

/-- A stage may be ahead only when all stages before it are complete. -/
def Ordered (run : Run) : Prop :=
  run.stages.Pairwise fun a b => b.status.isAhead = true → a.status.isComplete = true

instance (run : Run) : Decidable run.Ordered := by unfold Ordered; infer_instance

theorem pairwise_of_complete {records : List StageRecord}
    (complete : ∀ r ∈ records, r.status.isComplete = true) :
    records.Pairwise fun a b => b.status.isAhead = true → a.status.isComplete = true :=
  List.pairwise_of_forall_mem_list fun a ha _ _ _ => complete a ha

theorem pairwise_of_still {records : List StageRecord}
    (still : ∀ r ∈ records, r.status.isAhead = false) :
    records.Pairwise fun a b => b.status.isAhead = true → a.status.isComplete = true :=
  List.pairwise_of_forall_mem_list fun _ _ b hb ahead => by simp [still b hb] at ahead

/-! ### The check -/

theorem orderViolationFrom?_some (b : StageRecord) (records : List StageRecord) :
    orderViolationFrom? (some b) records = none ↔ ∀ r ∈ records, r.status.isAhead = false := by
  induction records with
  | nil => simp [orderViolationFrom?]
  | cons r rest ih =>
    unfold orderViolationFrom?
    by_cases h : r.status.isAhead = true
    · simp [h]
    · simp [h, ih]

theorem orderViolationFrom?_none (records : List StageRecord) :
    orderViolationFrom? none records = none ↔
      records.Pairwise fun a b => b.status.isAhead = true → a.status.isComplete = true := by
  induction records with
  | nil => simp [orderViolationFrom?]
  | cons r rest ih =>
    rw [orderViolationFrom?, List.pairwise_cons]
    by_cases h : r.status.isComplete = true
    · simp [h, ih]
    · simp only [h, Bool.false_eq_true, if_false, orderViolationFrom?_some, imp_false,
        Bool.not_eq_true]
      constructor
      · intro still
        exact ⟨still, pairwise_of_still still⟩
      · exact And.left

/-- A commit lets a run pass exactly when it is in order. -/
theorem orderViolation?_eq_none_iff (run : Run) : run.orderViolation? = none ↔ run.Ordered :=
  orderViolationFrom?_none run.stages

/-! ### Where runs are in order -/

/-- Complete stages, then one in any state, then stages that are not ahead. -/
theorem ordered_of_split {run : Run} {before after : List StageRecord} {record : StageRecord}
    (stages_eq : run.stages = before ++ record :: after)
    (complete : ∀ r ∈ before, r.status.isComplete = true)
    (still : ∀ r ∈ after, r.status.isAhead = false) : run.Ordered := by
  rw [Ordered, stages_eq, List.pairwise_append, List.pairwise_cons]
  refine ⟨pairwise_of_complete complete, ⟨?_, pairwise_of_still still⟩, ?_⟩
  · intro b hb ahead
    simp [still b hb] at ahead
  · intro a ha b _ _
    exact complete a ha

/-- Complete stages, then stages that are not ahead. -/
theorem ordered_of_append {run : Run} {before after : List StageRecord}
    (stages_eq : run.stages = before ++ after)
    (complete : ∀ r ∈ before, r.status.isComplete = true)
    (still : ∀ r ∈ after, r.status.isAhead = false) : run.Ordered := by
  cases after with
  | nil =>
    rw [Ordered, stages_eq, List.append_nil]
    exact pairwise_of_complete complete
  | cons r rest =>
    exact ordered_of_split stages_eq complete fun b hb => still b (by simp [hb])

/-- After the first incomplete stage of a run in order, no stage is ahead. -/
theorem Front.still {run : Run} {before after : List StageRecord} {record : StageRecord}
    (h : run.Front before record after) (ho : run.Ordered) :
    ∀ r ∈ after, r.status.isAhead = false := by
  intro r hr
  rw [Ordered, h.stages_eq, List.pairwise_append, List.pairwise_cons] at ho
  have blocked := ho.2.1.1 r hr
  rw [h.incomplete] at blocked
  simpa using blocked

/-- A change of the first incomplete stage keeps the order. -/
theorem Front.ordered_change {run : Run} {before after : List StageRecord} {record : StageRecord}
    (h : run.Front before record after) (ho : run.Ordered) (f : StageRecord → StageRecord) :
    (run.change record.name f).Ordered :=
  ordered_of_split (h.stages_change f) h.complete (h.still ho)

/-! ### Changes away from the first incomplete stage -/

/-- A record that is ahead after one was skipped was there before. -/
theorem mem_of_mem_changeFirst_skip {now : Instant} {note name : String}
    {records : List StageRecord} {r : StageRecord}
    (hr : r ∈ changeFirst (StageRecord.skip now note) name records)
    (ahead : r.status.isAhead = true) : r ∈ records := by
  rcases mem_changeFirst hr with hr | ⟨q, -, -, rfl⟩
  · exact hr
  · simp [StageRecord.skip, Status.isAhead] at ahead

/-- Skipping one record keeps a list of records in order. -/
theorem pairwise_changeFirst_skip (now : Instant) (note name : String)
    {records : List StageRecord}
    (h : records.Pairwise fun a b => b.status.isAhead = true → a.status.isComplete = true) :
    (changeFirst (StageRecord.skip now note) name records).Pairwise
      fun a b => b.status.isAhead = true → a.status.isComplete = true := by
  induction records with
  | nil => simp [changeFirst]
  | cons r rest ih =>
    rw [List.pairwise_cons] at h
    unfold changeFirst
    split
    · exact List.pairwise_cons.mpr ⟨fun _ _ _ => rfl, h.2⟩
    · rw [List.pairwise_cons]
      constructor
      · intro b hb ahead
        exact h.1 b (mem_of_mem_changeFirst_skip hb ahead) ahead
      · exact ih h.2

theorem Ordered.markSkipped {run : Run} (ho : run.Ordered) (now : Instant) (name note : String) :
    (run.markSkipped now name note).Ordered :=
  pairwise_changeFirst_skip now note name ho

/-- A recovered run is in order, and nothing in it is running. -/
theorem Ordered.recover {run : Run} (ho : run.Ordered) : run.recover.Ordered := by
  rw [Ordered, stages_recover, List.pairwise_map]
  apply ho.imp
  intro a b hab ahead
  have hb : b.status ≠ .running := by
    intro running
    simp [StageRecord.recover, running, Status.isAhead] at ahead
  rw [StageRecord.recover_of_ne_running hb] at ahead
  have ha : a.status ≠ .running := by
    intro running
    simp [running, Status.isComplete, ahead] at hab
  rw [StageRecord.recover_of_ne_running ha]
  exact hab ahead

theorem not_running_recover (run : Run) : ∀ r ∈ run.recover.stages, r.status ≠ .running := by
  intro r hr
  rw [stages_recover] at hr
  obtain ⟨q, -, rfl⟩ := List.mem_map.mp hr
  exact q.status_recover_ne_running

/-- A record that is ahead after stages were taken in was there before. -/
theorem mem_of_mem_takeIn {requested : List String} {records : List StageRecord} {r : StageRecord}
    (hr : r ∈ takeIn requested records) (ahead : r.status.isAhead = true) : r ∈ records := by
  rcases mem_takeIn hr with hr | ⟨q, -, rfl⟩
  · exact hr
  · simp [StageRecord.reset, Status.isAhead] at ahead

/-- Taking in left-out stages keeps the order, when nothing is running: no stage after one that is
taken in has succeeded. -/
theorem pairwise_takeIn (requested : List String) {records : List StageRecord}
    (idle : ∀ r ∈ records, r.status ≠ .running)
    (h : records.Pairwise fun a b => b.status.isAhead = true → a.status.isComplete = true) :
    (takeIn requested records).Pairwise
      fun a b => b.status.isAhead = true → a.status.isComplete = true := by
  induction records with
  | nil => simp [takeIn]
  | cons r rest ih =>
    rw [List.pairwise_cons] at h
    rw [takeIn, List.pairwise_cons]
    constructor
    · intro b hb ahead
      have old := mem_of_mem_takeIn hb ahead
      split
      · rename_i taken
        have notSucceeded : b.status ≠ .succeeded := (isTakenIn_iff.mp taken).2.2.2 b old
        have notRunning := idle b (by simp [old])
        revert ahead notSucceeded notRunning
        cases b.status <;> simp [Status.isAhead]
      · exact h.1 b old ahead
    · apply ih _ h.2
      intro b hb
      exact idle b (by simp [hb])

theorem Ordered.includeOptional {run : Run} (ho : run.Ordered)
    (idle : ∀ r ∈ run.stages, r.status ≠ .running) (now : Instant) (requested : List String) :
    (run.includeOptional now requested).Ordered :=
  pairwise_takeIn requested idle ho

theorem not_running_includeOptional {run : Run} (idle : ∀ r ∈ run.stages, r.status ≠ .running)
    (now : Instant) (requested : List String) :
    ∀ r ∈ (run.includeOptional now requested).stages, r.status ≠ .running := by
  intro r hr running
  exact idle r (mem_of_mem_takeIn hr (by rw [running]; rfl)) running

theorem isAhead_resetRequested (r : StageRecord) : (resetRequested r).status.isAhead = false := by
  unfold resetRequested
  split
  · rename_i h
    simp only [StageRecord.isNotRequested, Bool.and_eq_true, decide_eq_true_eq] at h
    simp [h.1, Status.isAhead]
  · simp [StageRecord.reset, Status.isAhead]

/-- A run whose stages are reset from a place on is in order, if the stages before it are
complete. -/
theorem ordered_resetFrom {run : Run} {place : Nat}
    (complete : ∀ r ∈ run.stages.take place, r.status.isComplete = true) (now : Instant) :
    (run.resetFrom now place).Ordered := by
  have stages_eq : (run.resetFrom now place).stages =
      run.stages.take place ++ (run.stages.drop place).map resetRequested := rfl
  apply ordered_of_append stages_eq complete
  intro r hr
  obtain ⟨q, -, rfl⟩ := List.mem_map.mp hr
  exact isAhead_resetRequested q

theorem not_running_resetFrom {run : Run} {place : Nat}
    (complete : ∀ r ∈ run.stages.take place, r.status.isComplete = true) (now : Instant) :
    ∀ r ∈ (run.resetFrom now place).stages, r.status ≠ .running := by
  intro r hr running
  rw [resetFrom, stages_refresh, List.mem_append] at hr
  rcases hr with hr | hr
  · simpa [running, Status.isComplete] using complete r hr
  · obtain ⟨q, -, rfl⟩ := List.mem_map.mp hr
    simpa [running, Status.isAhead] using isAhead_resetRequested q

theorem isAhead_recordFor (included : List String) (s : Stage) :
    (recordFor included s).status.isAhead = false := by
  unfold recordFor
  dsimp only
  split <;> simp [StageRecord.leaveOut, Status.isAhead]

theorem ordered_forRegistry (now : Instant) (registry : Registry) (p : Parameters) :
    (forRegistry now registry p).Ordered := by
  apply pairwise_of_still
  intro r hr
  obtain ⟨s, -, rfl⟩ := List.mem_map.mp hr
  exact isAhead_recordFor p.included s

theorem not_running_forRegistry (now : Instant) (registry : Registry) (p : Parameters) :
    ∀ r ∈ (forRegistry now registry p).stages, r.status ≠ .running := by
  intro r hr running
  obtain ⟨s, -, rfl⟩ := List.mem_map.mp hr
  simpa [running, Status.isAhead] using isAhead_recordFor p.included s

end Run

end RobotPipeline
