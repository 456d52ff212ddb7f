/-
  RobotPipeline/Proofs/Pipeline/Refused.lean
  ==========================================
  **An operation that is refused changes nothing.**

  An operation looks first and writes later. While it looks it may refuse, and
  nothing has happened yet but that the clock was read; from its first commit
  on it may fail, but it does not refuse any more.

  So an action is `Cautious` if nothing has happened when it refuses, and two
  kinds of actions are put together to such: those that only look, and those
  that never refuse.
-/
import RobotPipeline.Proofs.Pipeline.Durable
import RobotPipeline.Proofs.Pipeline.Keeps

namespace RobotPipeline

/-! ### Refusals -/

/-- An operation is turned down, rather than tried and failed. -/
def Failure.isRefusal : Failure → Bool
  | .invalidParameter _ | .configuration _ | .notSkippable _ | .invalidSkip _ _ | .needsForce _
  | .blocked _ _ _ => true
  | .ledger (.notFound _) | .ledger (.corrupted _ _) | .ledger (.pipelineMismatch _ _) => true
  | _ => false

/-- From one world to another nothing has happened but that the clock was read. -/
def World.Untouched {σ : Type} (w after : World σ) : Prop :=
  ∃ readings, after = { w with readings := readings }

theorem World.Untouched.refl {σ : Type} (w : World σ) : w.Untouched w := ⟨w.readings, rfl⟩

theorem World.Untouched.trans {σ : Type} {w middle after : World σ} (h : w.Untouched middle)
    (h' : middle.Untouched after) : w.Untouched after := by
  obtain ⟨_, rfl⟩ := h
  obtain ⟨readings, rfl⟩ := h'
  exact ⟨readings, rfl⟩

/-! ### Actions that refuse only at first -/

namespace Action

variable {σ α β : Type}

def Looks (act : Action σ Failure α) : Prop :=
  ∀ w : World σ, w.Untouched (act.perform w).2

def Steady (act : Action σ Failure α) : Prop :=
  ∀ (w : World σ) (e : Failure), (act.perform w).1 = .error e → e.isRefusal = false

def Cautious (act : Action σ Failure α) : Prop :=
  ∀ (w : World σ) (e : Failure), (act.perform w).1 = .error e → e.isRefusal = true →
    w.Untouched (act.perform w).2

theorem looks_throw (e : Failure) : Looks (throw e : Action σ Failure α) := World.Untouched.refl

theorem looks_get : Looks (get : Action σ Failure (World σ)) := World.Untouched.refl

theorem looks_ofExcept (result : Except Failure α) :
    Looks (ofExcept result : Action σ Failure α) := World.Untouched.refl

theorem looks_now : Looks (now : Action σ Failure Instant) := fun w => ⟨w.readings + 1, rfl⟩

theorem Looks.cautious {act : Action σ Failure α} (h : Looks act) : Cautious act :=
  fun w _ _ _ => h w

theorem Looks.bind {act : Action σ Failure β} {next : β → Action σ Failure α} (h : Looks act)
    (hnext : ∀ b, Cautious (next b)) : Cautious (act >>= next) := by
  intro w e he hrefused
  have hlook := h w
  rw [perform_bind] at he ⊢
  generalize act.perform w = done at he hlook ⊢
  obtain ⟨result, after⟩ := done
  cases result with
  | error e' => exact hlook
  | ok b => exact hlook.trans (hnext b after e he hrefused)

theorem steady_pure (a : α) : Steady (pure a : Action σ Failure α) := by
  intro w e he
  cases he

theorem Steady.bind {act : Action σ Failure β} {next : β → Action σ Failure α} (h : Steady act)
    (hnext : ∀ b, Steady (next b)) : Steady (act >>= next) := by
  intro w e he
  have hsteady := h w
  rw [perform_bind] at he
  generalize act.perform w = done at he hsteady
  obtain ⟨result, after⟩ := done
  cases result with
  | error e' =>
    cases he
    exact hsteady _ rfl
  | ok b => exact hnext b after e he

theorem Steady.cautious {act : Action σ Failure α} (h : Steady act) : Cautious act := by
  intro w e he hrefused
  rw [h w e he] at hrefused
  cases hrefused

/-- What comes after a cautious action may write, if it does not refuse any more. -/
theorem Cautious.bind {act : Action σ Failure β} {next : β → Action σ Failure α} (h : Cautious act)
    (hnext : ∀ (w : World σ) (b : β), (act.perform w).1 = .ok b → Steady (next b)) :
    Cautious (act >>= next) := by
  intro w e he hrefused
  have hcautious := h w
  have hresult := hnext w
  rw [perform_bind] at he ⊢
  generalize act.perform w = done at he hcautious hresult ⊢
  obtain ⟨result, after⟩ := done
  cases result with
  | error e' =>
    cases he
    exact hcautious _ rfl hrefused
  | ok b =>
    rw [hresult b rfl after e he] at hrefused
    cases hrefused

theorem Cautious.bind_steady {act : Action σ Failure β} {next : β → Action σ Failure α}
    (h : Cautious act) (hnext : ∀ b, Steady (next b)) : Cautious (act >>= next) :=
  h.bind fun _ b _ => hnext b

end Action

namespace Pipeline

open RobotPipeline.Action

variable {σ : Type} {p : Pipeline}

/-- A commit is refused by the order of its run or by the system: that is too late to be a refusal
of the operation. -/
theorem Refusal.not_isRefusal {run : Run} {cause : LedgerError} (h : Refusal run cause) :
    (Failure.ledger cause).isRefusal = false := by
  cases h with
  | order _ => rfl
  | system _ => rfl

theorem steady_save (ledger : Ledger) (run : Run) :
    Steady (save ledger run : Action σ Failure Unit) := by
  intro w e he
  rw [perform_save] at he
  rcases hc : commit ledger run w with cause | files
  · rw [hc] at he
    cases he
    exact (refusal_of_commit_eq_error hc).not_isRefusal
  · rw [hc] at he
    cases he

theorem steady_tell (line : String) : Steady (p.tell line : Action σ Failure Unit) := by
  intro w e he
  rw [perform_tell] at he
  cases he

/-! ### Openings -/

theorem cautious_openRun (params : Parameters) :
    Cautious (p.openRun params : Action σ Failure (Run × Bool)) := by
  unfold openRun
  apply looks_get.bind
  intro w
  split
  · apply looks_now.bind
    intro now
    apply Steady.cautious
    exact (steady_save _ _).bind fun _ => steady_pure _
  · apply looks_now.bind
    intro now
    apply Steady.cautious
    exact (steady_save _ _).bind fun _ => steady_pure _
  · exact (looks_throw _).cautious

theorem cautious_openExecution (env : Snapshot) :
    Cautious (Drive.openExecution p env : Action σ Failure (Snapshot × Run)) := by
  unfold Drive.openExecution
  apply (looks_ofExcept _).bind
  intro _
  apply (cautious_openRun env.params).bind_steady
  intro opened
  exact (steady_tell _).bind fun _ => steady_pure _

theorem perform_status (dataset : String) (w : World σ) :
    (p.status dataset).perform w = (p.load w.files dataset, w) := rfl

theorem looks_status (dataset : String) : Looks (p.status dataset : Action σ Failure Run) :=
  World.Untouched.refl

theorem cautious_openRetry (env : Snapshot) (stage : String) (force : Bool) :
    Cautious (Drive.openRetry p env stage force : Action σ Failure (Snapshot × Run)) := by
  unfold Drive.openRetry
  apply (looks_status _).bind
  intro run
  apply looks_now.bind
  intro now
  apply (looks_ofExcept _).bind
  intro opened
  apply Steady.cautious
  apply (steady_save _ _).bind
  intro _
  exact (steady_tell _).bind fun _ => steady_pure _

theorem cautious_opening (d : Drive) :
    Cautious (d.opening p : Action σ Failure (Snapshot × Run)) := by
  cases d with
  | execute vars params => exact (looks_ofExcept _).bind fun _ => cautious_openExecution _
  | executeWith env => exact cautious_openExecution env
  | retry vars dataset stage force =>
    have looks : Looks (p.retryParameters dataset : Action σ Failure Parameters) := by
      intro w
      simp only [retryParameters, status, perform_bind, perform_get, perform_ofExcept]
      rcases p.load w.files dataset with e | run
      · exact World.Untouched.refl w
      · exact World.Untouched.refl w
    exact looks.bind fun _ => cautious_openRetry _ stage force
  | retryWith env stage force => exact cautious_openRetry env stage force

/-! ### Drives -/

theorem Trace.not_isRefusal_of_ends {env : Snapshot} {start : Run} {past : List Event}
    {phase : Phase} {e : Failure} (h : Trace p env (.ready start) past phase)
    (ends : Ends p phase (.error e)) : e.isRefusal = false := by
  cases ends with
  | cancelled _ _ => rfl
  | unready => rfl
  | lost => rfl
  | failed =>
    unfold failureOf
    split
    · rfl
    · rfl
  | unsaved =>
    cases h with
    | snoc _ step =>
      cases step with
      | saved hc _ => cases hc
      | refused _ why => exact why.not_isRefusal

theorem steady_drive (executor : Executor σ) (env : Snapshot) {run : Run}
    (hn : run.names = p.registry.names) : Steady (p.drive executor env run) := by
  intro w e he
  obtain ⟨events, phase, -, trace, ends⟩ := drive_trace p executor env hn w
  rw [he] at ends
  exact trace.not_isRefusal_of_ends ends

theorem names_of_opening {d : Drive} {w : World σ} {opened : Snapshot × Run}
    (h : ((d.opening p).perform w).1 = .ok opened) : opened.2.names = p.registry.names := by
  have hopens := opens_opening (p := p) d w
  rcases henv : d.env? p w.files with _ | env
  · rw [henv] at hopens
    obtain ⟨e, he⟩ := hopens
    rw [he] at h
    cases h
  · rw [henv] at hopens
    dsimp only at hopens
    generalize (d.opening p).perform w = done at h hopens
    cases hopens with
    | rejected _ _ => cases h
    | refused _ _ _ => cases h
    | opened hopened _ =>
      cases h
      exact hopened.atRest.names_eq

theorem Drive.cautious (executor : Executor σ) (d : Drive) : Cautious (d.act p executor) := by
  rw [Drive.act_eq]
  apply (cautious_opening d).bind
  intro w opened hopened
  exact steady_drive executor opened.1 (names_of_opening hopened)

theorem cautious_skip (dataset stage : String) :
    Cautious (p.skip dataset stage : Action σ Failure Run) := by
  unfold skip
  rcases p.registry.stage? stage with _ | s
  · exact (looks_throw _).cautious
  · dsimp only
    by_cases hs : s.skippable = true
    · simp only [hs, Bool.not_true, Bool.false_eq_true, if_false]
      apply looks_now.bind
      intro made
      apply looks_get.bind
      intro w
      apply (looks_ofExcept _).bind
      intro run
      split
      · exact (looks_throw _).cautious
      · split
        · apply looks_now.bind
          intro now
          apply Steady.cautious
          exact (steady_save _ _).bind fun _ => steady_pure _
        · exact (looks_throw _).cautious
    · simp only [hs, Bool.not_false, if_true]
      exact Looks.cautious fun w => World.Untouched.refl w

/-- **Refused operations change nothing**, and asking for the status never does, whatever the
recorded run is like. -/
theorem untouched_of_refused (executor : Executor σ) (w : World σ) :
    (∀ (d : Drive) (e : Failure), ((d.act p executor).perform w).1 = .error e →
      e.isRefusal = true → w.Untouched ((d.act p executor).perform w).2) ∧
    (∀ (dataset stage : String) (e : Failure), ((p.skip dataset stage).perform w).1 = .error e →
      e.isRefusal = true → w.Untouched ((p.skip dataset stage).perform w).2) ∧
    ∀ dataset : String, ((p.status dataset).perform w).2 = w := by
  refine ⟨?_, ?_, ?_⟩
  · intro d
    exact d.cautious executor w
  · intro dataset stage
    exact cautious_skip dataset stage w
  · intro dataset
    rfl

/-! ### A sample -/

namespace Sample

/-- A world with a snapshot that is cut off. -/
def damaged : World Unit := { world with files := recorded "\x7b" }

/-- A run whose first stage was running when the program stopped. -/
def stoppedRun : Run := (Run.forRegistry noon registry (.usual "cubes")).markRunning noon "record"

def stopped : World Unit := { world with files := recorded (Ledger.encode stoppedRun) }

end Sample

theorem load_stopped :
    Sample.pipeline.load Sample.stopped.files "cubes" = .ok Sample.stoppedRun.recover := by
  have ordered : Sample.stoppedRun.Ordered := (Run.orderViolation?_eq_none_iff _).mp rfl
  exact load_recorded rfl rfl ordered (Nat.zero_le 2)

/-- A snapshot that is cut off refuses a retry and a stage that may not be skipped refuses a skip;
the snapshot stays. The status of a run that was stopped says that its stage has failed, and the
snapshot stays as well. -/
theorem untouched_of_sample :
    Sample.damaged.Untouched
        ((Sample.pipeline.retry (Sample.executor "none") [] "cubes" "record" false).perform
          Sample.damaged).2 ∧
      Sample.damaged.Untouched
        ((Sample.pipeline.skip "cubes" "record").perform Sample.damaged).2 ∧
      ∃ run, (Sample.pipeline.status "cubes").perform Sample.stopped = (.ok run, Sample.stopped) ∧
        run.status? "record" = some .failed := by
  obtain ⟨drives, skips, -⟩ :=
    untouched_of_refused (p := Sample.pipeline) (Sample.executor "none") Sample.damaged
  obtain ⟨-, -, still⟩ :=
    untouched_of_refused (p := Sample.pipeline) (Sample.executor "none") Sample.stopped
  let corrupted : Failure :=
    .ledger (.corrupted "/state/runs/cubes.json" (.unreadable Ledger.notARun))
  have hload : Sample.pipeline.load Sample.damaged.files "cubes" = .error corrupted := by
    decide +kernel
  have answer : ((Sample.pipeline.status "cubes").perform Sample.stopped).1 =
      .ok Sample.stoppedRun.recover := by
    rw [perform_status, load_stopped]
  refine ⟨?_, ?_, Sample.stoppedRun.recover, ?_, by decide +kernel⟩
  · apply drives (.retry [] "cubes" "record" false) corrupted _ rfl
    rw [Drive.act, retry_of_load_error hload]
  · exact skips "cubes" "record" (.notSkippable "record") rfl rfl
  · exact Prod.ext answer (still "cubes")

end Pipeline

end RobotPipeline
