/-
  RobotPipeline/Proofs/Pipeline/Keeps.lean
  ========================================
  **What an invocation keeps of the world.**

  An invocation looks at the clock, tells the operator what it does, notes its
  checks, commits runs and launches commands. All its commits are of runs of
  the dataset that it opened a run of. So a property of the world that each of
  these keeps is kept by the whole invocation (`Drive.keeps`).

  Most often it is a property of the files. Then it has to be kept by commits
  and launches only (`Kept.of_files`).
-/
import RobotPipeline.Proofs.Pipeline.Session

namespace RobotPipeline

/-! ### Actions that keep a property of the world -/

namespace Action

variable {σ ε α β : Type} {P : World σ → Prop} {Q : α → Prop} {R : β → Prop}

/-- An action keeps a property of the world, and what it gives has another one. -/
def Keeps (P : World σ → Prop) (Q : α → Prop) (act : Action σ ε α) : Prop :=
  ∀ w : World σ, P w → P (act.perform w).2 ∧ ∀ a, (act.perform w).1 = .ok a → Q a

theorem keeps_pure {a : α} (h : Q a) : Keeps P Q (pure a : Action σ ε α) := by
  intro w hP
  refine ⟨hP, ?_⟩
  rintro a' ⟨⟩
  exact h

theorem keeps_throw (e : ε) : Keeps P Q (throw e : Action σ ε α) := by
  intro w hP
  refine ⟨hP, ?_⟩
  rintro a ⟨⟩

theorem keeps_ofExcept {result : Except ε α} (h : ∀ a, result = .ok a → Q a) :
    Keeps P Q (ofExcept result : Action σ ε α) :=
  fun _ hP => ⟨hP, h⟩

theorem Keeps.bind {act : Action σ ε β} {next : β → Action σ ε α} (h : Keeps P R act)
    (hnext : ∀ b, R b → Keeps P Q (next b)) : Keeps P Q (act >>= next) := by
  intro w hP
  obtain ⟨hkept, hR⟩ := h w hP
  rw [perform_bind]
  generalize act.perform w = done at hkept hR ⊢
  obtain ⟨result, after⟩ := done
  cases result with
  | error e =>
    refine ⟨hkept, ?_⟩
    rintro a ⟨⟩
  | ok b => exact hnext b (hR b rfl) after hkept

/-- What an action gives may not matter. -/
theorem Keeps.bind_any {act : Action σ ε β} {next : β → Action σ ε α}
    (h : ∀ w : World σ, P w → P (act.perform w).2) (hnext : ∀ b, Keeps P Q (next b)) :
    Keeps P Q (act >>= next) := by
  have keeps : Keeps P (fun _ => True) act := fun w hP => ⟨h w hP, fun _ _ => trivial⟩
  exact keeps.bind fun b _ => hnext b

end Action

namespace Pipeline

open RobotPipeline.Action

variable {σ : Type} {p : Pipeline} {executor : Executor σ} {dataset : String}

/-! ### What all parts of an invocation keep -/

/-- A property of the world is kept by all that an invocation does with the runs of a dataset. It
makes no checks once the operator wants it to end. -/
structure Kept (p : Pipeline) (executor : Executor σ) (dataset : String) (P : World σ → Prop) :
    Prop where
  looked : ∀ {w : World σ} (readings : Nat), P w → P { w with readings := readings }
  told : ∀ {w : World σ} (line : String), P w → P (p.told line w)
  noted : ∀ {w : World σ} (stage : String) (env : Snapshot) (files : FileTree)
    (failed : List String), w.wantsEnd = false → P w →
      P { w with journal := .checked stage env files failed :: w.journal }
  saved : ∀ {w : World σ} {run : Run}, run.dataset = dataset → P w →
    P ((save p.ledger run).perform w).2
  launched : ∀ {w : World σ} (l : Launch), P w →
    P ((launch executor l : Action σ Failure (Except LaunchError Outcome)).perform w).2

/-- A property of the files has to be kept where a run of the dataset is written, and by whoever
launches the commands. A commit that is refused changes no file. -/
theorem Kept.of_files {P : FileTree → Prop}
    (write : ∀ {run : Run} {tree tree' : FileTree}, run.dataset = dataset → P tree →
      p.ledger.write tree run = .ok tree' → P tree')
    (launch : ∀ (l : Launch) (w : World σ), P w.files → P ((executor l).perform w).2.files) :
    p.Kept executor dataset (fun w => P w.files) := by
  constructor
  · exact fun _ hP => hP
  · intro w line hP
    rw [files_told]
    exact hP
  · exact fun _ _ _ _ _ hP => hP
  · intro w run hrun hP
    rw [perform_save]
    cases hc : commit p.ledger run w with
    | ok files => exact write hrun hP (of_commit_eq_ok hc).2
    | error cause => exact hP
  · intro w l hP
    exact launch l w hP

/-- An action keeps a property of the world, and what it gives is a run of a dataset. -/
abbrev KeepsRun (dataset : String) (P : World σ → Prop) (act : Action σ Failure Run) : Prop :=
  Keeps P (fun run => run.dataset = dataset) act

section Retry

variable {w : World σ} {vars : Variables} {asked stage : String} {force : Bool}

/-- A retry is one of the dataset that the parameters on record name, whatever it was asked for. -/
theorem retry_of_load {run : Run} (hload : p.load w.files asked = .ok run) :
    (p.retry executor vars asked stage force).perform w =
      (p.retryWith executor
        (Snapshot.take (run.parameters.getD (.usual asked)).withoutPorts p.settings vars)
        stage force).perform w := by
  simp only [retry, retryParameters, status, perform_bind, perform_get, perform_ofExcept, hload,
    perform_pure]

theorem retry_of_load_error {e : Failure} (hload : p.load w.files asked = .error e) :
    (p.retry executor vars asked stage force).perform w = (.error e, w) := by
  simp only [retry, retryParameters, status, perform_bind, perform_get, perform_ofExcept, hload]

/-- What a retry does once the recorded run is loaded. -/
theorem retryWith_of_load {env : Snapshot} {run : Run}
    (hload : p.load w.files env.params.dataset = .ok run) :
    (p.retryWith executor env stage force).perform w =
      (do
        let opened ← Action.ofExcept (p.resetForRetry (← now) env stage force run)
        save p.ledger opened
        p.tell (Progress.resumed opened)
        p.drive executor env opened : Action σ Failure Run).perform w := by
  simp only [retryWith, status, perform_bind, perform_get, perform_ofExcept, hload]

end Retry

section Kept

variable {P : World σ → Prop} (kept : p.Kept executor dataset P)
include kept

theorem keeps_tell_bind {α : Type} {Q : α → Prop} {line : String}
    {next : Unit → Action σ Failure α} (h : Keeps P Q (next ())) :
    Keeps P Q (p.tell line >>= next) := by
  apply Keeps.bind_any
  · intro w hP
    rw [perform_tell]
    exact kept.told line hP
  · exact fun _ => h

theorem keeps_now_bind {α : Type} {Q : α → Prop} {next : Instant → Action σ Failure α}
    (h : ∀ now, Keeps P Q (next now)) : Keeps P Q (Action.now >>= next) :=
  Keeps.bind_any (fun w hP => kept.looked (w.readings + 1) hP) h

theorem keeps_save_bind {α : Type} {Q : α → Prop} {run : Run} {next : Unit → Action σ Failure α}
    (hrun : run.dataset = dataset) (h : Keeps P Q (next ())) :
    Keeps P Q (save p.ledger run >>= next) :=
  Keeps.bind_any (fun _ hP => kept.saved hrun hP) fun _ => h

theorem keeps_stopUnready (place : Nat) (s : Stage) {run : Run} (hrun : run.dataset = dataset)
    (failed : List String) :
    KeepsRun dataset P (p.stopUnready place s run failed : Action σ Failure Run) := by
  unfold stopUnready
  apply keeps_save_bind kept (by exact hrun)
  apply keeps_tell_bind kept
  exact keeps_throw _

theorem keeps_stopLaunch (place : Nat) (s : Stage) {run : Run} (hrun : run.dataset = dataset)
    (e : LaunchError) : KeepsRun dataset P (p.stopLaunch place s run e : Action σ Failure Run) := by
  unfold stopLaunch
  apply keeps_now_bind kept
  intro now
  apply keeps_save_bind kept (by exact hrun)
  apply keeps_tell_bind kept
  exact keeps_throw _

theorem keeps_settle (place : Nat) (s : Stage) {run : Run} (hrun : run.dataset = dataset)
    (o : Outcome) : KeepsRun dataset P (p.settle place s run o : Action σ Failure Run) := by
  unfold settle
  apply keeps_now_bind kept
  intro now
  apply keeps_save_bind kept (by exact hrun)
  apply keeps_tell_bind kept
  split
  · exact keeps_throw _
  · split
    · exact keeps_throw _
    · exact keeps_pure hrun

theorem keeps_launchStage (env : Snapshot) (place : Nat) (s : Stage) {run : Run}
    (hrun : run.dataset = dataset) :
    KeepsRun dataset P (p.launchStage executor env place s run) := by
  unfold launchStage
  apply keeps_now_bind kept
  intro now
  have hmarked : (run.markRunning now s.name).dataset = dataset := hrun
  apply keeps_save_bind kept hmarked
  apply keeps_tell_bind kept
  apply Keeps.bind_any (fun _ hP => kept.launched _ hP)
  intro result
  cases result with
  | error e => exact keeps_stopLaunch kept place s hmarked e
  | ok o => exact keeps_settle kept place s hmarked o

theorem keeps_runStage (env : Snapshot) (place : Nat) (s : Stage) {run : Run}
    (hrun : run.dataset = dataset) :
    KeepsRun dataset P (p.runStage executor env place s run) := by
  intro w hP
  unfold runStage
  rw [perform_bind, perform_get]
  dsimp only
  split
  · exact keeps_throw _ w hP
  · rename_i goesOn
    rw [perform_bind, perform_record]
    have hnoted := kept.noted s.name env w.files (Readiness.check p.registry env run w.files s)
      (by simpa using goesOn) hP
    generalize Readiness.check p.registry env run w.files s = failed at hnoted ⊢
    cases failed with
    | nil => exact keeps_launchStage kept env place s hrun _ hnoted
    | cons name names => exact keeps_stopUnready kept place s hrun _ _ hnoted

theorem keeps_driveFrom (env : Snapshot) (place : Nat) (stages : List Stage) {run : Run}
    (hrun : run.dataset = dataset) :
    KeepsRun dataset P (p.driveFrom executor env place stages run) := by
  -- every stage hands on a run of the dataset, which is what the next one commits from
  induction stages generalizing place run with
  | nil =>
    unfold driveFrom
    apply keeps_tell_bind kept
    exact keeps_pure hrun
  | cons s rest ih =>
    unfold driveFrom
    split
    · apply (keeps_runStage kept env place s hrun).bind
      intro run' hrun'
      exact ih _ hrun'
    · exact ih _ hrun

theorem keeps_openRun (params : Parameters) (hparams : params.dataset = dataset) :
    Keeps P (fun opened => opened.1.dataset = dataset)
      (p.openRun params : Action σ Failure (Run × Bool)) := by
  unfold openRun
  apply Keeps.bind_any (fun _ hP => hP)
  intro w
  split
  · rename_i run hload
    have hrun : run.dataset = dataset := (atRest_of_load hload).dataset_eq.trans hparams
    apply keeps_now_bind kept
    intro now
    apply keeps_save_bind kept (by exact hrun)
    exact keeps_pure hrun
  · apply keeps_now_bind kept
    intro now
    apply keeps_save_bind kept (by exact hparams)
    exact keeps_pure hparams
  · exact keeps_throw _

theorem keeps_executeWith (env : Snapshot) (henv : env.params.dataset = dataset) :
    KeepsRun dataset P (p.executeWith executor env) := by
  unfold executeWith
  apply Keeps.bind_any (fun _ hP => hP)
  intro _
  apply (keeps_openRun kept env.params henv).bind
  intro opened hopened
  apply keeps_tell_bind kept
  exact keeps_driveFrom kept env 0 _ hopened

theorem keeps_retryWith (env : Snapshot) (stage : String) (force : Bool)
    (henv : env.params.dataset = dataset) :
    KeepsRun dataset P (p.retryWith executor env stage force) := by
  have keeps_status : KeepsRun dataset P (p.status env.params.dataset : Action σ Failure Run) := by
    apply Keeps.bind_any (fun _ hP => hP)
    intro w
    apply keeps_ofExcept
    intro run hload
    exact (atRest_of_load hload).dataset_eq.trans henv
  unfold retryWith
  apply keeps_status.bind
  intro run hrun
  apply keeps_now_bind kept
  intro now
  have keeps_reset : KeepsRun dataset P
      (Action.ofExcept (p.resetForRetry now env stage force run) : Action σ Failure Run) := by
    apply keeps_ofExcept
    intro opened hreset
    obtain ⟨place, -, -, rfl⟩ := resetForRetry_eq_ok hreset
    exact hrun
  apply keeps_reset.bind
  intro opened hopened
  apply keeps_save_bind kept hopened
  apply keeps_tell_bind kept
  exact keeps_driveFrom kept env 0 _ hopened

theorem keeps_skip (stage : String) :
    KeepsRun dataset P (p.skip dataset stage : Action σ Failure Run) := by
  unfold skip
  cases p.registry.stage? stage with
  | none => exact keeps_throw _
  | some s =>
    dsimp only
    cases s.skippable with
    | false =>
      have keeps_refusal : Keeps P (fun _ => False)
          (throw (.notSkippable stage) : Action σ Failure PUnit) := keeps_throw _
      exact keeps_refusal.bind fun _ h => h.elim
    | true =>
      simp only [Bool.not_true, Bool.false_eq_true, if_false]
      apply keeps_now_bind kept
      intro made
      apply Keeps.bind_any (fun _ hP => hP)
      intro w
      have keeps_runToSkip : KeepsRun dataset P
          (Action.ofExcept (p.runToSkip made w.files dataset) : Action σ Failure Run) := by
        apply keeps_ofExcept
        intro run hrun
        exact (atRest_runToSkip hrun).dataset_eq
      apply keeps_runToSkip.bind
      intro run hrun
      split
      · exact keeps_throw _
      · split
        · apply keeps_now_bind kept
          intro now
          apply keeps_save_bind kept (by exact hrun)
          exact keeps_pure hrun
        · exact keeps_throw _

/-- An invocation that drives in the environment of a dataset keeps what the commits of the runs of
the dataset keep. -/
theorem Drive.keeps {d : Drive} {w : World σ}
    (own : ∀ env, d.env? p w.files = some env → env.params.dataset = dataset) (hP : P w) :
    P ((d.act p executor).perform w).2 := by
  cases d with
  | execute vars params =>
    have keeps : KeepsRun dataset P (p.execute executor vars params) := by
      unfold Pipeline.execute
      apply Keeps.bind_any (fun _ hP => hP)
      intro _
      exact keeps_executeWith kept _ (own _ rfl)
    exact (keeps w hP).1
  | executeWith env => exact (keeps_executeWith kept env (own _ rfl) w hP).1
  | retryWith env stage force => exact (keeps_retryWith kept env stage force (own _ rfl) w hP).1
  | retry vars asked stage force =>
    cases hload : p.load w.files asked with
    | error e =>
      rw [act, retry_of_load_error hload]
      exact hP
    | ok run =>
      rw [act, retry_of_load hload]
      have henv := own _ (env?_retry hload vars stage force)
      exact (keeps_retryWith kept _ stage force henv w hP).1

end Kept

/-- What the commits of all runs keep is kept by every invocation. -/
theorem Drive.keeps_of_all {P : World σ → Prop} (kept : ∀ dataset, p.Kept executor dataset P)
    (d : Drive) {w : World σ} (hP : P w) : P ((d.act p executor).perform w).2 := by
  apply Drive.keeps (kept (((d.env? p w.files).map (·.params.dataset)).getD "")) _ hP
  intro env henv
  rw [henv, Option.map_some, Option.getD_some]

end Pipeline

end RobotPipeline
