/-
  RobotPipeline/Proofs/Pipeline/Retried.lean
  ==========================================
  **What a retry refuses, and what it sets back.**

  A retry of a recorded run is refused for one of three reasons, looked for in
  this order: there is no such stage; the stage is done and the retry is not
  forced; an earlier stage is not done. A drive never ends with any of the
  three, so the result of the whole retry tells which of them was found
  (`Pipeline.retryWith_eq_refusal_iff`).

  Otherwise the stage is set back, and then all records from its place on,
  except those of stages that no one asked for. The record of the stage itself
  is set back in any case: after the first of the two resets it is pending, so
  the second one does not pass it over.
-/
import RobotPipeline.Proofs.Pipeline.Keeps
import RobotPipeline.Proofs.Pipeline.Validity
import RobotPipeline.Proofs.Run.Described

namespace RobotPipeline

/-- The errors that a retry is refused with before it changes anything. -/
def Failure.refusesRetry : Failure → Bool
  | .configuration _ => true
  | .needsForce _ => true
  | .blocked .. => true
  | _ => false

namespace StageRecord

/-- The record is pending again; what was tried so far stays on it. -/
structure WentBack (r r' : StageRecord) : Prop where
  name : r'.name = r.name
  status : r'.status = .pending
  attempts : r'.attempts = r.attempts
  lastOutcome : r'.lastOutcome = r.lastOutcome
  unreliable : r'.unreliable = r.unreliable
  startedAt : r'.startedAt = none
  finishedAt : r'.finishedAt = none
  note : r'.note = none

theorem wentBack_reset (r : StageRecord) : r.WentBack r.reset :=
  ⟨rfl, rfl, rfl, rfl, rfl, rfl, rfl, rfl⟩

/-- What becomes of a record after that of a stage that is retried: it goes back as well, unless
its stage was left out because no one asked for it. -/
inductive GoesAlong (r : StageRecord) : StageRecord → Prop where
  | leftOut (status : r.status = .skipped) (note : r.note = some "not requested") : GoesAlong r r
  | back {r' : StageRecord} (asked : ¬ (r.status = .skipped ∧ r.note = some "not requested"))
      (back : r.WentBack r') : GoesAlong r r'

theorem goesAlong_resetRequested (r : StageRecord) : r.GoesAlong (Run.resetRequested r) := by
  have left : r.isNotRequested = true ↔ r.status = .skipped ∧ r.note = some "not requested" := by
    rw [isNotRequested, Bool.and_eq_true, decide_eq_true_iff, decide_eq_true_iff]
    rfl
  unfold Run.resetRequested
  split
  · rename_i h
    exact .leftOut (left.mp h).1 (left.mp h).2
  · rename_i h
    exact .back (fun h' => h (left.mpr h')) (wentBack_reset r)

end StageRecord

namespace Run

/-! ### Setting a run back -/

namespace Spot

variable {run : Run} {stage : String} {before after : List StageRecord} {record : StageRecord}

theorem getElem?_eq (h : run.Spot stage before record after) :
    run.stages[before.length]? = some record := by
  simp [h.stages_eq]

theorem take_eq (h : run.Spot stage before record after) :
    run.stages.take before.length = before := by
  rw [h.stages_eq, List.take_left]

/-- A stage that is reset and then reset with those after it: the second reset does not pass it
over, because it is pending. -/
theorem stages_resetFrom (h : run.Spot stage before record after) (now : Instant) :
    ((run.change stage StageRecord.reset).resetFrom now before.length).stages =
      before ++ record.reset :: after.map resetRequested := by
  have fresh : ∀ r ∈ before, r.name ≠ record.name := by
    rw [h.name_eq]
    exact h.fresh
  have changed : (run.change stage StageRecord.reset).stages = before ++ record.reset :: after := by
    rw [stages_change, h.stages_eq, ← h.name_eq, changeFirst_append fresh]
  have pending : resetRequested record.reset = record.reset := rfl
  rw [resetFrom, stages_refresh, changed, List.take_left, List.drop_left, List.map_cons, pending]

end Spot

/-- A run that was set back to a stage: nothing has changed before its record, and the records from
there on have gone back. -/
structure SetBack (run : Run) (params : Parameters) (before : List StageRecord)
    (record : StageRecord) (after : List StageRecord) (opened : Run) : Prop where
  stages : ∃ record' after', opened.stages = before ++ record' :: after' ∧
    record.WentBack record' ∧ List.Forall₂ StageRecord.GoesAlong after after'
  currentIndex : opened.currentIndex = before.length
  finishedAt : opened.finishedAt = none
  parameters : opened.parameters = some params
  runId : opened.runId = run.runId
  dataset : opened.dataset = run.dataset
  startedAt : opened.startedAt = run.startedAt

theorem Spot.setBack {run : Run} {stage : String} {before after : List StageRecord}
    {record : StageRecord} (h : run.Spot stage before record after)
    (done : ∀ r ∈ before, r.IsDone) (now : Instant) (params : Parameters) :
    run.SetBack params before record after
      { (run.change stage StageRecord.reset).resetFrom now before.length with
        parameters := some params } := by
  have stages_eq := h.stages_resetFrom now
  have front : ((run.change stage StageRecord.reset).resetFrom now before.length).Front
      before record.reset (after.map resetRequested) := by
    constructor
    · exact stages_eq
    · exact fun r hr => StageRecord.isDone_iff.mp (done r hr)
    · rfl
    · rw [StageRecord.name_reset, h.name_eq]
      exact h.fresh
  have first := front.firstIncomplete?
  constructor
  · refine ⟨record.reset, after.map resetRequested, stages_eq, record.wentBack_reset, ?_⟩
    rw [List.forall₂_map_right_iff, List.forall₂_same]
    exact fun r _ => r.goesAlong_resetRequested
  · change (((run.change stage StageRecord.reset).resetFrom now
      before.length).firstIncomplete?).getD _ = before.length
    rw [first, Option.getD_some]
  · change (if ((run.change stage StageRecord.reset).resetFrom now
      before.length).firstIncomplete?.isNone then _ else none) = none
    rw [first]
    rfl
  · rfl
  · rfl
  · rfl
  · rfl

end Run

namespace Pipeline

variable {σ : Type} {p : Pipeline} {executor : Executor σ} {env : Snapshot} {stage : String}
  {force : Bool} {run : Run} {before after : List StageRecord} {record : StageRecord}

/-! ### The decision -/

/-- The first of some records whose stage is not done. -/
theorem find?_open_eq_some_iff {records : List StageRecord} {b : StageRecord} :
    records.find? (fun r => !r.status.isComplete) = some b ↔
      ∃ passed rest, records = passed ++ b :: rest ∧ (∀ r ∈ passed, r.IsDone) ∧ ¬ b.IsDone := by
  simp only [List.find?_eq_some_iff_append, StageRecord.isDone_iff, Bool.not_not,
    Bool.not_eq_true', Bool.not_eq_true]
  constructor
  · rintro ⟨notDone, passed, rest, hsplit, done⟩
    exact ⟨passed, rest, hsplit, done, notDone⟩
  · rintro ⟨passed, rest, hsplit, done, notDone⟩
    exact ⟨notDone, passed, rest, hsplit, done⟩

theorem find?_open_eq_none_iff {records : List StageRecord} :
    records.find? (fun r => !r.status.isComplete) = none ↔ ∀ r ∈ records, r.IsDone := by
  simp [List.find?_eq_none, StageRecord.isDone_iff]

theorem stage?_eq_none_iff {registry : Registry} {name : String} :
    registry.stage? name = none ↔ name ∉ registry.names := by
  simp [Registry.stage?, Registry.names]

theorem resetForRetry_of_unknown (h : stage ∉ p.registry.names) (now : Instant) :
    p.resetForRetry now env stage force run = .error (.configuration (.unknownStage stage)) := by
  rw [resetForRetry, stage?_eq_none_iff.mpr h]

/-- The decision about a retry of a stage that there is. -/
theorem resetForRetry_of_spot (hmem : stage ∈ p.registry.names)
    (spot : run.Spot stage before record after) (now : Instant) :
    p.resetForRetry now env stage force run =
      if record.status.isComplete ∧ !force then .error (.needsForce stage)
      else
        match before.find? (fun r => !r.status.isComplete) with
        | some blocking => .error (.blocked stage blocking.name blocking.status)
        | none =>
          .ok { (run.change stage StageRecord.reset).resetFrom now before.length with
            parameters := some env.params } := by
  obtain ⟨s, hs⟩ : ∃ s, p.registry.stage? stage = some s := by
    rw [← Option.ne_none_iff_exists', ne_eq, stage?_eq_none_iff, not_not]
    exact hmem
  cases hfind : before.find? (fun r => !r.status.isComplete) <;>
    simp only [resetForRetry, hs, spot.position?_eq, spot.getElem?_eq, spot.take_eq, hfind]

theorem resetForRetry_eq_unknown_iff (names_eq : run.names = p.registry.names) (now : Instant) :
    p.resetForRetry now env stage force run = .error (.configuration (.unknownStage stage)) ↔
      stage ∉ p.registry.names := by
  constructor
  · intro h hmem
    obtain ⟨before, record, after, spot⟩ := Run.exists_spot (names_eq ▸ hmem)
    rw [resetForRetry_of_spot hmem spot now] at h
    split at h
    · cases h
    · split at h <;> cases h
  · intro h
    exact resetForRetry_of_unknown h now

theorem resetForRetry_eq_needsForce_iff (hmem : stage ∈ p.registry.names)
    (spot : run.Spot stage before record after) (now : Instant) :
    p.resetForRetry now env stage force run = .error (.needsForce stage) ↔
      record.IsDone ∧ force = false := by
  rw [resetForRetry_of_spot hmem spot now, StageRecord.isDone_iff, ← Bool.not_eq_true']
  split
  · rename_i h
    exact iff_of_true rfl h
  · rename_i h
    refine iff_of_false ?_ h
    split <;> simp

theorem resetForRetry_eq_blocked_iff (hmem : stage ∈ p.registry.names)
    (spot : run.Spot stage before record after) (now : Instant) {blocking : String}
    {status : Status} :
    p.resetForRetry now env stage force run = .error (.blocked stage blocking status) ↔
      ¬ (record.IsDone ∧ force = false) ∧
        ∃ passed b rest, before = passed ++ b :: rest ∧ (∀ r ∈ passed, r.IsDone) ∧ ¬ b.IsDone ∧
          b.name = blocking ∧ b.status = status := by
  rw [resetForRetry_of_spot hmem spot now, StageRecord.isDone_iff, ← Bool.not_eq_true']
  split
  · rename_i h
    exact iff_of_false (by simp) fun h' => h'.1 h
  · rename_i h
    rw [and_iff_right h]
    cases hfind : before.find? (fun r => !r.status.isComplete) with
    | none =>
      refine iff_of_false (by simp) ?_
      rintro ⟨passed, b, rest, rfl, -, notDone, -⟩
      exact notDone (find?_open_eq_none_iff.mp hfind b (by simp))
    | some found =>
      constructor
      · intro heq
        cases heq
        obtain ⟨passed, rest, hsplit, done, notDone⟩ := find?_open_eq_some_iff.mp hfind
        exact ⟨passed, found, rest, hsplit, done, notDone, rfl, rfl⟩
      · rintro ⟨passed, b, rest, hsplit, done, notDone, rfl, rfl⟩
        have first := find?_open_eq_some_iff.mpr ⟨passed, rest, hsplit, done, notDone⟩
        obtain rfl : found = b := Option.some.inj (hfind.symm.trans first)
        rfl

theorem resetForRetry_of_done (hmem : stage ∈ p.registry.names)
    (spot : run.Spot stage before record after) (allowed : ¬ (record.IsDone ∧ force = false))
    (done : ∀ r ∈ before, r.IsDone) (now : Instant) :
    p.resetForRetry now env stage force run =
      .ok { (run.change stage StageRecord.reset).resetFrom now before.length with
        parameters := some env.params } := by
  rw [StageRecord.isDone_iff, ← Bool.not_eq_true'] at allowed
  rw [resetForRetry_of_spot hmem spot now, if_neg allowed, find?_open_eq_none_iff.mpr done]

/-! ### What comes of it -/

variable {w : World σ}

/-- A drive ends with none of the errors that a retry is refused with. -/
theorem Ends.refusesRetry_eq_false {phase : Phase} {e : Failure} (h : Ends p phase (.error e)) :
    e.refusesRetry = false := by
  cases h with
  | cancelled first hs => rfl
  | unready => rfl
  | lost => rfl
  | failed =>
    unfold failureOf
    split <;> rfl
  | unsaved => rfl

theorem retryWith_of_reset_error (hload : p.load w.files env.params.dataset = .ok run)
    {e : Failure} (h : p.resetForRetry (w.clock w.readings) env stage force run = .error e) :
    ((p.retryWith executor env stage force).perform w).1 = .error e := by
  rw [retryWith_of_load hload]
  simp only [Action.perform_bind, Action.perform_now, Action.perform_ofExcept, h]

/-- A retry that is not refused first commits the run that was set back, and drives that run if the
commit is not refused. -/
theorem retryWith_of_reset (executor : Executor σ)
    (hload : p.load w.files env.params.dataset = .ok run) {opened : Run}
    (h : p.resetForRetry (w.clock w.readings) env stage force run = .ok opened) :
    (∃ cause, ((p.retryWith executor env stage force).perform w).2.since w =
          [.refused opened (.io cause)] ∧
        ((p.retryWith executor env stage force).perform w).1 = .error (.ledger (.io cause))) ∨
      ∃ events phase, ((p.retryWith executor env stage force).perform w).2.since w =
          .saved opened :: events ∧
        Ends p phase ((p.retryWith executor env stage force).perform w).1 := by
  have rest : p.AtRest env.params.dataset opened := (Opened.reset _ hload h).atRest
  rw [retryWith_of_load hload]
  simp only [Action.perform_bind, Action.perform_now, Action.perform_ofExcept, h,
    Action.perform_save, perform_tell]
  cases hc : Action.commit p.ledger opened { w with readings := w.readings + 1 } with
  | error cause =>
    obtain ⟨e, he⟩ := (refusal_of_commit_eq_error hc).system_of_ordered rest.ordered
    cases he
    exact .inl ⟨e, World.since_eq rfl, rfl⟩
  | ok files =>
    refine .inr ?_
    dsimp only
    generalize hw : p.told (Progress.resumed opened) _ = w'
    have journal : w'.journal = .saved opened :: w.journal := by
      rw [← hw, journal_told]
    obtain ⟨events, phase, hjournal, -, ends⟩ := drive_trace p executor env rest.names_eq w'
    refine ⟨events, phase, World.since_eq ?_, ends⟩
    rw [hjournal, journal, List.reverse_cons, List.append_assoc]
    rfl

/-- The result of a retry tells what was decided about it. -/
theorem retryWith_eq_refusal_iff (executor : Executor σ)
    (hload : p.load w.files env.params.dataset = .ok run) {e : Failure}
    (he : e.refusesRetry = true) :
    ((p.retryWith executor env stage force).perform w).1 = .error e ↔
      p.resetForRetry (w.clock w.readings) env stage force run = .error e := by
  cases h : p.resetForRetry (w.clock w.readings) env stage force run with
  | error found => rw [retryWith_of_reset_error hload h, Except.error.injEq]
  | ok opened =>
    refine iff_of_false ?_ (by simp)
    intro heq
    rcases retryWith_of_reset executor hload h with
      ⟨cause, -, hresult⟩ | ⟨events, phase, -, ends⟩
    · rw [hresult] at heq
      cases heq
      cases he
    · rw [heq] at ends
      rw [ends.refusesRetry_eq_false] at he
      cases he

/-- What a retry of a stage comes to, given the records before that of the stage, that record, and
the records after it. -/
structure Retried (stage : String) (force : Bool) (params : Parameters) (run : Run)
    (before : List StageRecord) (record : StageRecord) (after : List StageRecord)
    (result : Except Failure Run) (events : List Event) : Prop where
  needsForce : result = .error (.needsForce stage) ↔ record.IsDone ∧ force = false
  /-- It is blocked when it does not need force and an earlier stage is not done. -/
  blocked : (∃ blocking status, result = .error (.blocked stage blocking status)) ↔
    ¬ (record.IsDone ∧ force = false) ∧ ∃ b ∈ before, ¬ b.IsDone
  /-- The first such stage is named. -/
  blocking : ∀ blocking status, result = .error (.blocked stage blocking status) →
    ∃ passed b rest, before = passed ++ b :: rest ∧ (∀ r ∈ passed, r.IsDone) ∧ ¬ b.IsDone ∧
      b.name = blocking ∧ b.status = status
  /-- Otherwise the run that was set back is committed before anything else, or the system refuses
  to. -/
  setBack : ¬ (record.IsDone ∧ force = false) → (∀ r ∈ before, r.IsDone) →
    ∃ opened, run.SetBack params before record after opened ∧
      ((∃ cause, events = [.refused opened (.io cause)] ∧ result = .error (.ledger (.io cause))) ∨
        ∃ later, events = .saved opened :: later)

/-- A retry of a recorded run is refused exactly when there is no such stage, when the stage is done
and the retry is not forced, or when an earlier stage is not done, in this order; otherwise it sets
back the run. -/
theorem retryWith_refuses_or_sets_back (executor : Executor σ) (stage : String) (force : Bool)
    (hload : p.load w.files env.params.dataset = .ok run) :
    (((p.retryWith executor env stage force).perform w).1 =
        .error (.configuration (.unknownStage stage)) ↔ stage ∉ p.registry.names) ∧
      (stage ∈ p.registry.names → ∃ before record after,
        run.stages = before ++ record :: after ∧ record.name = stage ∧
          Retried stage force env.params run before record after
            ((p.retryWith executor env stage force).perform w).1
            (((p.retryWith executor env stage force).perform w).2.since w)) := by
  have names_eq := (atRest_of_load hload).names_eq
  constructor
  · rw [retryWith_eq_refusal_iff executor hload rfl, resetForRetry_eq_unknown_iff names_eq]
  · intro hmem
    obtain ⟨before, record, after, spot⟩ := Run.exists_spot (names_eq ▸ hmem)
    refine ⟨before, record, after, spot.stages_eq, spot.name_eq, ?_⟩
    have hblocked {blocking : String} {status : Status} :
        ((p.retryWith executor env stage force).perform w).1 =
            .error (.blocked stage blocking status) ↔
          ¬ (record.IsDone ∧ force = false) ∧
            ∃ passed b rest, before = passed ++ b :: rest ∧ (∀ r ∈ passed, r.IsDone) ∧
              ¬ b.IsDone ∧ b.name = blocking ∧ b.status = status := by
      rw [retryWith_eq_refusal_iff executor hload rfl, resetForRetry_eq_blocked_iff hmem spot]
    constructor
    · rw [retryWith_eq_refusal_iff executor hload rfl, resetForRetry_eq_needsForce_iff hmem spot]
    · constructor
      · rintro ⟨blocking, status, heq⟩
        obtain ⟨allowed, passed, b, rest, rfl, -, notDone, -⟩ := hblocked.mp heq
        exact ⟨allowed, b, by simp, notDone⟩
      · rintro ⟨allowed, b, hb, notDone⟩
        have some_open : before.find? (fun r => !r.status.isComplete) ≠ none := by
          intro h
          exact notDone (find?_open_eq_none_iff.mp h b hb)
        obtain ⟨b, hfind⟩ := Option.ne_none_iff_exists'.mp some_open
        obtain ⟨passed, rest, hsplit, done, notDone⟩ := find?_open_eq_some_iff.mp hfind
        exact ⟨b.name, b.status,
          hblocked.mpr ⟨allowed, passed, b, rest, hsplit, done, notDone, rfl, rfl⟩⟩
    · intro blocking status heq
      exact (hblocked.mp heq).2
    · intro allowed done
      refine ⟨_, spot.setBack done (w.clock w.readings) env.params, ?_⟩
      rcases retryWith_of_reset executor hload
          (resetForRetry_of_done hmem spot allowed done (w.clock w.readings)) with
        refused | ⟨events, phase, committed, -⟩
      · exact .inl refused
      · exact .inr ⟨events, committed⟩

/-! ### Sample -/

namespace Sample

def replay : Stage where
  name := "replay"
  ordinal := 30
  command := ⟨"lerobot-replay", []⟩
  optional := true

def longRegistry : Registry where
  stages := [Sample.record, train, replay]
  nonempty := by simp
  sorted := by decide
  checked := by decide +kernel

def longPipeline : Pipeline := { pipeline with registry := longRegistry }

/-- What comes of a command that exits. -/
def exited (stage : String) (code : Int32) : Outcome where
  stage := stage
  exitCode := code
  duration := Span.zero
  startedAt := noon
  finishedAt := noon

/-- A run whose first stage has succeeded and whose second one has failed. No one asked for the
third. -/
def triedRun : Run :=
  ((((Run.forRegistry noon longRegistry (.usual "cubes")).markRunning noon "record").applyOutcome
    noon "record" (exited "record" 0)).markRunning noon "train").applyOutcome
      noon "train" (exited "train" 3)

def tried : World Unit := { world with files := recorded (Ledger.encode triedRun) }

def triedEnv : Snapshot := Snapshot.take (.usual "cubes") longPipeline.settings []

end Sample

theorem load_tried : Sample.longPipeline.load Sample.tried.files Sample.triedEnv.params.dataset =
    .ok Sample.triedRun := by
  have reads : Sample.tried.files.readText (Sample.longPipeline.ledger.snapshotPath "cubes") =
      .ok (Ledger.encode Sample.triedRun) := rfl
  have ordered : Sample.triedRun.Ordered := (Run.orderViolation?_eq_none_iff _).mp (by decide)
  have recovered : Sample.triedRun.recover = Sample.triedRun := by decide
  have loads : Sample.longPipeline.load Sample.tried.files Sample.triedRun.dataset =
      .ok Sample.triedRun.recover := load_of_encode reads rfl ordered (by decide)
  rw [recovered] at loads
  exact loads

/-- The stage that has failed is retried: it goes back with its attempt and its outcome, the stage
before it stays done, and the one that no one asked for stays left out. The stage that is done needs
force. -/
theorem retryWith_refuses_or_sets_back_tried :
    ((Sample.longPipeline.retryWith (Sample.executor "none") Sample.triedEnv "record"
      false).perform Sample.tried).1 = .error (.needsForce "record") ∧
    ∃ done failed left opened, Sample.triedRun.stages = [done, failed, left] ∧
      done.status = .succeeded ∧ failed.attempts = 1 ∧
      failed.lastOutcome = some (Sample.exited "train" 3) ∧ left.note = some "not requested" ∧
      Sample.triedRun.SetBack Sample.triedEnv.params [done] failed [left] opened := by
  obtain ⟨done, failed, left, stages, hdone, hfailed, attempts, outcome, hleft⟩ :
      ∃ done failed left, Sample.triedRun.stages = [done, failed, left] ∧
        done.status = .succeeded ∧ failed.status = .failed ∧ failed.attempts = 1 ∧
        failed.lastOutcome = some (Sample.exited "train" 3) ∧
        left.note = some "not requested" := ⟨_, _, _, rfl, rfl, rfl, rfl, rfl, rfl⟩
  have names : [done, failed, left].map (·.name) = ["record", "train", "replay"] := by
    rw [← stages]
    rfl
  obtain ⟨recordName, trainName, replayName⟩ :
      done.name = "record" ∧ failed.name = "train" ∧ left.name = "replay" := by simpa using names
  constructor
  · obtain ⟨before, record, after, hsplit, hname, retried⟩ := (retryWith_refuses_or_sets_back
      (w := Sample.tried) (Sample.executor "none") "record" false load_tried).2 (by decide)
    rw [stages] at hsplit
    rcases before with _ | ⟨first, before⟩
    · obtain ⟨rfl, -⟩ := List.cons.inj hsplit
      exact retried.needsForce.mpr ⟨.inl hdone, rfl⟩
    · -- no other stage has the name
      have mem : record ∈ [failed, left] := by
        rw [(List.cons.inj hsplit).2]
        simp
      rcases List.mem_pair.mp mem with rfl | rfl <;> simp_all
  · obtain ⟨before, record, after, hsplit, hname, retried⟩ := (retryWith_refuses_or_sets_back
      (w := Sample.tried) (Sample.executor "none") "train" false load_tried).2 (by decide)
    rw [stages] at hsplit
    rcases before with _ | ⟨first, _ | ⟨second, before⟩⟩
    · obtain ⟨rfl, -⟩ := List.cons.inj hsplit
      simp_all
    · obtain ⟨rfl, hrest⟩ := List.cons.inj hsplit
      obtain ⟨rfl, rfl⟩ := List.cons.inj hrest
      obtain ⟨opened, back, -⟩ := retried.setBack (by simp [StageRecord.IsDone, hfailed])
        (by simp [StageRecord.IsDone, hdone])
      exact ⟨done, failed, left, opened, stages, hdone, attempts, outcome, hleft, back⟩
    · obtain ⟨rfl, hrest⟩ := List.cons.inj hsplit
      obtain ⟨rfl, hlast⟩ := List.cons.inj hrest
      have mem : record ∈ [left] := by
        rw [hlast]
        simp
      obtain rfl := List.mem_singleton.mp mem
      simp_all

end Pipeline

end RobotPipeline
