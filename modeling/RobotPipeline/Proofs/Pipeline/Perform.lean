/-
  RobotPipeline/Proofs/Pipeline/Perform.lean
  ==========================================
  **Performing an action, step by step.**

  One equation per step says what it gives and what world it leaves, so that
  proofs take an invocation apart without opening the monad it is written in.
-/
import RobotPipeline.Pipeline.Basic

namespace RobotPipeline

instance decidableEqExcept {ε α : Type} [DecidableEq ε] [DecidableEq α] : DecidableEq (Except ε α)
  | .ok a, .ok b => decidable_of_iff (a = b) (by simp)
  | .error a, .error b => decidable_of_iff (a = b) (by simp)
  | .ok _, .error _ => .isFalse (by simp)
  | .error _, .ok _ => .isFalse (by simp)

namespace Action

variable {σ ε α β : Type}

@[simp] theorem perform_pure (a : α) (w : World σ) :
    (pure a : Action σ ε α).perform w = (.ok a, w) := rfl

@[simp] theorem perform_throw (e : ε) (w : World σ) :
    (throw e : Action σ ε α).perform w = (.error e, w) := rfl

@[simp] theorem perform_get (w : World σ) :
    (get : Action σ ε (World σ)).perform w = (.ok w, w) := rfl

@[simp] theorem perform_modify (f : World σ → World σ) (w : World σ) :
    (modify f : Action σ ε Unit).perform w = (.ok (), f w) := rfl

@[simp] theorem perform_ofExcept (result : Except ε α) (w : World σ) :
    (ofExcept result : Action σ ε α).perform w = (result, w) := rfl

@[simp] theorem perform_now (w : World σ) :
    (now : Action σ ε Instant).perform w =
      (.ok (w.clock w.readings), { w with readings := w.readings + 1 }) := rfl

@[simp] theorem perform_printLine (line : String) (w : World σ) :
    (printLine line : Action σ ε Unit).perform w =
      (.ok (), { w with output := w.output ++ line ++ "\n" }) := rfl

@[simp] theorem perform_record (e : Event) (w : World σ) :
    (record e : Action σ ε Unit).perform w = (.ok (), { w with journal := e :: w.journal }) := rfl

/-- An action goes on where the one before it has ended, unless that one fails. -/
theorem perform_bind (act : Action σ ε α) (next : α → Action σ ε β) (w : World σ) :
    (act >>= next).perform w =
      match act.perform w with
      | (.ok a, after) => (next a).perform after
      | (.error e, after) => (.error e, after) := by
  change (match act.perform w with
    | (result, after) => (ExceptT.bindCont next result).run after) = _
  obtain ⟨result, after⟩ := act.perform w
  cases result <;> rfl

theorem perform_save (ledger : Ledger) (run : Run) (w : World σ) :
    (save ledger run).perform w =
      match commit ledger run w with
      | .ok files =>
        (.ok (), { w with
          commits := w.commits + 1, files := files, journal := .saved run :: w.journal })
      | .error cause =>
        (.error (.ledger cause), { w with
          commits := w.commits + 1, journal := .refused run cause :: w.journal }) := rfl

/-- A run that is committed is not out of order, and its snapshot is what the files then hold. -/
theorem of_commit_eq_ok {ledger : Ledger} {run : Run} {w : World σ} {files : FileTree}
    (h : commit ledger run w = .ok files) :
    run.orderViolation? = none ∧ ledger.write w.files run = .ok files := by
  unfold commit Ledger.save at h
  cases hv : run.orderViolation? with
  | some v => simp [hv] at h
  | none =>
    cases hr : w.refusals w.commits with
    | some cause => simp [hv, hr] at h
    | none =>
      cases hw : ledger.write w.files run with
      | error cause => simp [hv, hr, hw] at h
      | ok tree => exact ⟨rfl, by simpa [hv, hr, hw] using h⟩

/-- A commit is refused because the run is out of order, or by the system. -/
theorem of_commit_eq_error {ledger : Ledger} {run : Run} {w : World σ} {cause : LedgerError}
    (h : commit ledger run w = .error cause) :
    (∃ v, run.orderViolation? = some v ∧ cause = .stageOrder v) ∨ ∃ e, cause = .io e := by
  unfold commit Ledger.save at h
  cases hv : run.orderViolation? with
  | some v => exact .inl ⟨v, rfl, by simpa [hv] using h.symm⟩
  | none =>
    refine .inr ?_
    cases hr : w.refusals w.commits with
    | some e => exact ⟨e, by simpa [hv, hr] using h.symm⟩
    | none =>
      cases hw : ledger.write w.files run with
      | error e => exact ⟨e, by simpa [hv, hr, hw] using h.symm⟩
      | ok tree => simp [hv, hr, hw] at h

/-- A launch gives what came back, and leaves the world that whoever launched it made. -/
theorem perform_launch (executor : Executor σ) (l : Launch) (w : World σ) :
    (launch executor l : Action σ ε (Except LaunchError Outcome)).perform w =
      (.ok ((executor l).perform w).1,
        { ((executor l).perform w).2 with
          clock := w.clock
          refusals := w.refusals
          commits := w.commits
          cancelled := w.cancelled || ((executor l).perform w).2.cancelled
          interrupt := w.interrupt
          journal := .returned l.stage ((executor l).perform w).1 :: .launched l :: w.journal }) :=
  rfl

end Action

namespace Pipeline

variable {σ ε : Type}

/-- The world after the operator was told something. -/
def told (p : Pipeline) (line : String) (w : World σ) : World σ :=
  if p.silent then w else { w with output := w.output ++ line ++ "\n" }

theorem perform_tell (p : Pipeline) (line : String) (w : World σ) :
    (p.tell line : Action σ ε Unit).perform w = (.ok (), p.told line w) := by
  unfold tell told
  split <;> rfl

@[simp] theorem journal_told (p : Pipeline) (line : String) (w : World σ) :
    (p.told line w).journal = w.journal := by
  unfold told
  split <;> rfl

@[simp] theorem files_told (p : Pipeline) (line : String) (w : World σ) :
    (p.told line w).files = w.files := by
  unfold told
  split <;> rfl

@[simp] theorem interrupt_told (p : Pipeline) (line : String) (w : World σ) :
    (p.told line w).interrupt = w.interrupt := by
  unfold told
  split <;> rfl

@[simp] theorem cancelled_told (p : Pipeline) (line : String) (w : World σ) :
    (p.told line w).cancelled = w.cancelled := by
  unfold told
  split <;> rfl

end Pipeline

end RobotPipeline
