/-
  RobotPipeline/Proofs/Pipeline/Drive.lean
  ========================================
  **Every drive makes a trace.**

  The parts of a drive are taken one by one, from the last to the first: what
  each of them writes in the journal is a piece of a trace, and it ends as the
  phase that it has come to says. `Pipeline.drive_trace` puts the pieces
  together, by induction over the stages that are still ahead.
-/
import RobotPipeline.Proofs.Pipeline.Standing

namespace RobotPipeline.Pipeline

variable {σ : Type}

/-- What was performed has added the entries of a trace to a journal. It gave a run with `post`,
and then the drive is ready for the next stage; or it failed, as the last phase says. -/
def Follows (p : Pipeline) (env : Snapshot) (start : Phase) (post : Run → Prop)
    (journal : List Event) (done : Except Failure Run × World σ) : Prop :=
  ∃ events phase, done.2.journal = events.reverse ++ journal ∧ Trace p env start events phase ∧
    match done.1 with
    | .ok run => phase = .ready run ∧ post run
    | .error e => Ends p phase (.error e)

section Follows

variable {p : Pipeline} {env : Snapshot} {start next : Phase} {post : Run → Prop}
  {journal : List Event} {done : Except Failure Run × World σ}

theorem follows_ok {run : Run} {w : World σ} (h : post run) :
    Follows p env (.ready run) post w.journal (.ok run, w) :=
  ⟨[], .ready run, rfl, .nil, rfl, h⟩

theorem follows_error {e : Failure} {w : World σ} (h : Ends p start (.error e)) :
    Follows p env start post w.journal (.error e, w) :=
  ⟨[], start, rfl, .nil, h⟩

theorem Follows.step {e : Event} (step : Step p env start e next)
    (h : Follows p env next post (e :: journal) done) : Follows p env start post journal done := by
  obtain ⟨events, phase, hjournal, htrace, hdone⟩ := h
  refine ⟨e :: events, phase, by simp [hjournal], ?_, hdone⟩
  exact (Trace.single step).trans htrace

/-- A commit that a phase asks for either leads to the next phase or ends the drive. -/
theorem follows_save {run : Run} {rest : Unit → Action σ Failure Run} {w : World σ}
    (h : Commits p env start run next)
    (hrest : ∀ w' : World σ, Follows p env next post w'.journal ((rest ()).perform w')) :
    Follows p env start post w.journal ((Action.save p.ledger run >>= rest).perform w) := by
  rw [Action.perform_bind, Action.perform_save]
  cases hc : Action.commit p.ledger run w with
  | ok files =>
    have ordered := (Run.orderViolation?_eq_none_iff run).mp (Action.of_commit_eq_ok hc).1
    exact .step (.saved h ordered) (hrest _)
  | error cause =>
    exact .step (.refused h (refusal_of_commit_eq_error hc)) (follows_error .unsaved)

theorem follows_tell {line : String} {rest : Unit → Action σ Failure Run} {w : World σ}
    (h : ∀ w' : World σ, Follows p env start post w'.journal ((rest ()).perform w')) :
    Follows p env start post w.journal ((p.tell line >>= rest).perform w) := by
  rw [Action.perform_bind, perform_tell, ← journal_told p line w]
  exact h _

/-- A launch makes two entries, however the command comes back. -/
theorem follows_launch {executor : Executor σ} {run : Run} {s : Stage} {l : Launch}
    {rest : Except LaunchError Outcome → Action σ Failure Run} {w : World σ}
    (hl : l.stage = s.name)
    (h : ∀ (result : Except LaunchError Outcome) (w' : World σ),
      Follows p env (.returned run s result) post w'.journal ((rest result).perform w')) :
    Follows p env (.marked run s l) post w.journal
      ((Action.launch executor l >>= rest).perform w) := by
  rw [Action.perform_bind, Action.perform_launch, hl]
  generalize (executor l).perform w = done
  exact .step .launched (.step (.returned done.1) (h done.1 _))

theorem Follows.imp {weaker : Run → Prop} (h : Follows p env start post journal done)
    (himp : ∀ run, post run → weaker run) : Follows p env start weaker journal done := by
  obtain ⟨events, phase, hjournal, htrace, hdone⟩ := h
  refine ⟨events, phase, hjournal, htrace, ?_⟩
  cases hresult : done.1 with
  | ok run =>
    rw [hresult] at hdone
    obtain ⟨hready, hpost⟩ := hdone
    exact ⟨hready, himp run hpost⟩
  | error e =>
    rw [hresult] at hdone
    exact hdone

end Follows

/-! ### One stage -/

section Stage

variable (p : Pipeline) (executor : Executor σ) (env : Snapshot)

theorem follows_stopUnready {post : Run → Prop} (place : Nat) (s : Stage) (run : Run)
    {failed : List String} (hf : failed ≠ []) (w : World σ) :
    Follows p env (.checked run s failed) post w.journal
      ((p.stopUnready place s run failed).perform w) := by
  unfold stopUnready
  apply follows_save (.unready hf)
  intro w'
  apply follows_tell
  intro w''
  exact follows_error .unready

theorem follows_stopLaunch {post : Run → Prop} (place : Nat) (s : Stage) (run : Run)
    (e : LaunchError) (w : World σ) :
    Follows p env (.returned run s (.error e)) post w.journal
      ((p.stopLaunch place s run e).perform w) := by
  unfold stopLaunch
  rw [Action.perform_bind, Action.perform_now]
  apply follows_save (.lost _)
  intro w'
  apply follows_tell
  intro w''
  exact follows_error .lost

/-- After a success the drive goes on with the run that holds it. -/
theorem follows_settle (place : Nat) (s : Stage) (run : Run) (o : Outcome) (w : World σ) :
    Follows p env (.returned run s (.ok o))
      (fun run' => o.isSuccess = true ∧ ∃ now, run' = run.applyOutcome now s.name o) w.journal
      ((p.settle place s run o).perform w) := by
  unfold settle
  rw [Action.perform_bind, Action.perform_now]
  cases ho : o.isSuccess with
  | true =>
    have hc : o.cancelled = false := by
      simp only [Outcome.isSuccess, Bool.and_eq_true] at ho
      simpa using ho.2
    apply follows_save (.succeeded _ ho)
    intro w'
    apply follows_tell
    intro w''
    simp only [hc]
    exact follows_ok ⟨trivial, _, rfl⟩
  | false =>
    apply follows_save (.failed _ ho)
    intro w'
    apply follows_tell
    intro w''
    have ending : Ends p (.failed (run.applyOutcome (w.clock w.readings) s.name o) s o)
        (.error (failureOf s o)) := .failed
    unfold failureOf at ending
    cases hc : o.cancelled with
    | true =>
      apply follows_error
      simpa [hc] using ending
    | false =>
      apply follows_error
      simpa [hc] using ending

/-- The run of a stage that was launched and has succeeded. -/
def Passed (s : Stage) (run run' : Run) : Prop :=
  ∃ (o : Outcome) (started ended : Instant), o.isSuccess = true ∧
    run' = (run.markRunning started s.name).applyOutcome ended s.name o

theorem follows_launchStage (place : Nat) (s : Stage) (run : Run) (w : World σ) :
    Follows p env (.checked run s []) (Passed s run) w.journal
      ((p.launchStage executor env place s run).perform w) := by
  unfold launchStage
  rw [Action.perform_bind, Action.perform_now]
  apply follows_save (.running _)
  intro w'
  apply follows_tell
  intro w''
  apply follows_launch rfl
  intro result w'''
  cases result with
  | error e => exact follows_stopLaunch p env place s _ e w'''
  | ok o =>
    apply (follows_settle p env place s _ o w''').imp
    rintro run' ⟨ho, now, rfl⟩
    exact ⟨o, _, now, ho, rfl⟩

theorem follows_runStage {place : Nat} {s : Stage} {run : Run}
    (first : run.firstIncomplete? = some place) (hs : p.registry.stages[place]? = some s)
    (w : World σ) :
    Follows p env (.ready run) (Passed s run) w.journal
      ((p.runStage executor env place s run).perform w) := by
  unfold runStage
  rw [Action.perform_bind, Action.perform_get]
  dsimp only
  split
  · exact follows_error (.cancelled first hs)
  · rw [Action.perform_bind, Action.perform_record]
    apply Follows.step (.checked w.files first hs)
    generalize Readiness.check p.registry env run w.files s = failed
    cases failed with
    | nil => exact follows_launchStage p executor env place s run _
    | cons name names => exact follows_stopUnready p env place s run (by simp) _

end Stage

/-! ### All stages -/

theorem Follows.bind {p : Pipeline} {env : Snapshot} {start : Phase} {mid post : Run → Prop}
    {act : Action σ Failure Run} {rest : Run → Action σ Failure Run} {w : World σ}
    (h : Follows p env start mid w.journal (act.perform w))
    (hrest : ∀ (run : Run) (w' : World σ), mid run →
      Follows p env (.ready run) post w'.journal ((rest run).perform w')) :
    Follows p env start post w.journal ((act >>= rest).perform w) := by
  rw [Action.perform_bind]
  obtain ⟨events, phase, hjournal, htrace, hdone⟩ := h
  generalize act.perform w = done at hjournal hdone ⊢
  obtain ⟨result, w'⟩ := done
  cases result with
  | error e => exact ⟨events, phase, hjournal, htrace, hdone⟩
  | ok run =>
    obtain ⟨rfl, hmid⟩ := hdone
    obtain ⟨more, last, hjournal', htrace', hdone'⟩ := hrest run w' hmid
    refine ⟨events ++ more, last, ?_, htrace.trans htrace', hdone'⟩
    rw [hjournal', hjournal, List.reverse_append, List.append_assoc]

/-- A stage that has passed is complete, and so are the stages before it. -/
theorem Passed.complete {p : Pipeline} {run run' : Run} {s : Stage}
    {before after : List StageRecord} {record : StageRecord}
    (stand : p.Standing run s before record after) (h : Passed s run run') :
    ∀ r ∈ run'.stages.take (before.length + 1), r.status.isComplete = true := by
  obtain ⟨o, started, ended, ho, rfl⟩ := h
  intro r hr
  rw [(stand.markRunning started).stages_applyOutcome, List.take_length_add_append,
    List.mem_append] at hr
  rcases hr with hr | hr
  · exact stand.complete r hr
  · simp only [List.take_succ_cons, List.take_zero, List.mem_singleton] at hr
    simp [hr, StageRecord.settle, ho, Status.isComplete]

theorem Passed.names {run run' : Run} {s : Stage} (h : Passed s run run') :
    run'.names = run.names := by
  obtain ⟨o, started, ended, -, rfl⟩ := h
  simp

/-- The next stage is the first of those that are ahead. -/
theorem of_drop_eq_cons {stages rest : List Stage} {place : Nat} {s : Stage}
    (h : stages.drop place = s :: rest) :
    stages[place]? = some s ∧ stages.drop (place + 1) = rest := by
  constructor
  · rw [← List.head?_drop, h, List.head?_cons]
  · rw [← List.tail_drop, h, List.tail_cons]

/-- When no stage is ahead any more, the run is complete. -/
theorem complete_of_drop_eq_nil {p : Pipeline} {place : Nat} {run : Run}
    (hstages : p.registry.stages.drop place = []) (hn : run.names = p.registry.names)
    (hdone : ∀ r ∈ run.stages.take place, r.status.isComplete = true) :
    run.firstIncomplete? = none := by
  have hlen : run.stages.length = p.registry.stages.length := by
    simpa [Run.names, Registry.names] using congrArg List.length hn
  have hle : run.stages.length ≤ place := by
    rw [hlen]
    exact List.drop_eq_nil_iff.mp hstages
  rw [List.take_of_length_le hle] at hdone
  simpa [Run.firstIncomplete?, List.findIdx?_eq_none_iff] using hdone

theorem follows_driveFrom (p : Pipeline) (executor : Executor σ) (env : Snapshot) {place : Nat}
    {stages : List Stage} {run : Run} (hstages : p.registry.stages.drop place = stages)
    (hn : run.names = p.registry.names)
    (hdone : ∀ r ∈ run.stages.take place, r.status.isComplete = true) (w : World σ) :
    Follows p env (.ready run) (fun run' => run'.firstIncomplete? = none) w.journal
      ((p.driveFrom executor env place stages run).perform w) := by
  induction stages generalizing place run w with
  | nil =>
    have complete := complete_of_drop_eq_nil hstages hn hdone
    unfold driveFrom
    apply follows_tell
    intro w'
    exact follows_ok complete
  | cons s rest ih =>
    obtain ⟨hs, hrest⟩ := of_drop_eq_cons hstages
    unfold driveFrom
    split
    · rename_i first
      obtain ⟨before, record, after, stand⟩ := exists_standing hn first hs
      obtain rfl : before.length = place := by simpa [stand.firstIncomplete?] using first
      apply (follows_runStage p executor env first hs w).bind
      intro run' w' passed
      exact ih hrest (passed.names.trans hn) (passed.complete stand) w'
    · rename_i first
      exact ih hrest hn (Run.complete_take_succ hdone first) w

/-- Whatever the executor does, a drive makes the entries of a trace, and ends as the phase says
that it has come to. -/
theorem drive_trace (p : Pipeline) (executor : Executor σ) (env : Snapshot) {run : Run}
    (hn : run.names = p.registry.names) (w : World σ) :
    ∃ events phase,
      ((p.drive executor env run).perform w).2.journal = events.reverse ++ w.journal ∧
      Trace p env (.ready run) events phase ∧
      Ends p phase ((p.drive executor env run).perform w).1 := by
  have follows : Follows p env (.ready run) (fun run' => run'.firstIncomplete? = none) w.journal
      ((p.drive executor env run).perform w) :=
    follows_driveFrom p executor env List.drop_zero hn (by simp) w
  obtain ⟨events, phase, hjournal, htrace, hdone⟩ := follows
  refine ⟨events, phase, hjournal, htrace, ?_⟩
  cases hresult : ((p.drive executor env run).perform w).1 with
  | error e =>
    rw [hresult] at hdone
    exact hdone
  | ok run' =>
    rw [hresult] at hdone
    obtain ⟨rfl, hnone⟩ := hdone
    exact .complete hnone

end RobotPipeline.Pipeline
