/-
  RobotPipeline/Proofs/Pipeline/Validity.lean
  ===========================================
  **What is launched is launched under valid parameters, if the invocation starts with them.**

  Executing checks the parameters before anything else. Retrying does not: it
  takes the parameters on record, or those that it is given, as they are.
  Between the start and a launch no invocation changes them.
-/
import RobotPipeline.Proofs.Pipeline.Keeps
import RobotPipeline.Proofs.Pipeline.Trust

namespace RobotPipeline

theorem Parameters.valid_withoutPorts (params : Parameters) :
    params.withoutPorts.Valid ↔ params.Valid := Iff.rfl

namespace Pipeline

variable {σ : Type} {p : Pipeline} {env : Snapshot}

theorem validate_eq_ok_iff {params : Parameters} : validate params = .ok () ↔ params.Valid := by
  unfold validate Parameters.Valid
  cases params.validate with
  | ok _ => simp
  | error e => simp

/-! ### What an invocation starts with -/

/-- The parameters that an invocation starts with are valid. Executing makes sure of it. -/
def Drive.StartsValid (p : Pipeline) (tree : FileTree) : Drive → Prop
  | execute .. => True
  | executeWith _ => True
  | retry _ dataset _ _ =>
    ∀ run, p.load tree dataset = .ok run → (run.parameters.getD (.usual dataset)).Valid
  | retryWith env _ _ => env.params.Valid

/-- Invalid parameters end an execution before it does anything. -/
theorem Drive.perform_of_invalid {d : Drive} {w : World σ} (executor : Executor σ)
    (henv : d.env? p w.files = some env) (fresh : d.retried? = none) (h : ¬ env.params.Valid) :
    ((d.act p executor).perform w).2 = w := by
  have refused : ∃ e, validate env.params = .error e := by
    cases hv : validate env.params with
    | ok _ => exact absurd (validate_eq_ok_iff.mp hv) h
    | error e => exact ⟨e, rfl⟩
  obtain ⟨e, he⟩ := refused
  cases d with
  | execute vars params =>
    cases henv
    have he' : validate params = .error e := he
    simp [act, Pipeline.execute, Action.perform_bind, he']
  | executeWith env' =>
    cases henv
    simp [act, Pipeline.executeWith, Action.perform_bind, he]
  | retry vars dataset stage force => cases fresh
  | retryWith env' stage force => cases fresh

/-- The environment that an invocation drives in has valid parameters just if the invocation starts
with valid parameters. -/
theorem Drive.valid_iff_of_journal_ne {d : Drive} {w : World σ} {executor : Executor σ}
    (henv : d.env? p w.files = some env)
    (acts : ((d.act p executor).perform w).2.journal ≠ w.journal) :
    env.params.Valid ↔ d.StartsValid p w.files := by
  have fresh : d.retried? = none → env.params.Valid := by
    intro fresh
    by_contra h
    exact acts (by rw [Drive.perform_of_invalid executor henv fresh h])
  cases d with
  | execute vars params => exact ⟨fun _ => trivial, fun _ => fresh rfl⟩
  | executeWith env' => exact ⟨fun _ => trivial, fun _ => fresh rfl⟩
  | retryWith env' stage force =>
    cases henv
    exact Iff.rfl
  | retry vars dataset stage force =>
    cases hload : p.load w.files dataset with
    | error e => simp [env?, hload] at henv
    | ok run =>
      obtain rfl := Option.some.inj ((env?_retry hload vars stage force).symm.trans henv)
      constructor
      · rintro hvalid run' hrun'
        obtain rfl := Except.ok.inj (hload.symm.trans hrun')
        exact (Parameters.valid_withoutPorts _).mp hvalid
      · intro starts
        exact (Parameters.valid_withoutPorts _).mpr (starts run hload)

/-! ### Launches -/

/-- What is launched is rendered from the run that was then marked as running. -/
theorem Trace.launch_eq {start run : Run} {s : Stage} {l : Launch} {past : List Event}
    (h : Trace p env (.ready start) past (.marked run s l)) :
    ∃ earlier now, run = earlier.markRunning now s.name ∧ l = p.launchOf env earlier s := by
  cases h with
  | snoc h step =>
    cases step with
    | saved hc _ =>
      cases hc with
      | @running earlier _ now => exact ⟨earlier, now, rfl, rfl⟩

theorem Step.same_run {phase next : Phase} {e : Event} (step : Step p env phase e next) :
    next.run.runId = phase.run.runId ∧ next.run.dataset = phase.run.dataset := by
  cases step with
  | saved h _ => cases h <;> exact ⟨rfl, rfl⟩
  | _ => exact ⟨rfl, rfl⟩

/-- A drive keeps to the run that it started with. -/
theorem Trace.same_run {start phase : Phase} {past : List Event}
    (h : Trace p env start past phase) :
    phase.run.runId = start.run.runId ∧ phase.run.dataset = start.run.dataset := by
  induction h with
  | nil => exact ⟨rfl, rfl⟩
  | snoc _ step ih => exact ⟨step.same_run.1.trans ih.1, step.same_run.2.trans ih.2⟩

/-- What is launched is a stage of the pipeline, filled in from the run of an invocation, in the
environment that the invocation drives in; its checks were made right before, in the same
environment, and then it was committed that the stage is running. -/
theorem Request.Story.exists_launchOf {r : Request} {tree : FileTree} {past future : List Event}
    {l : Launch} (h : Request.Story p tree r (past ++ .launched l :: future)) :
    ∃ d env start sofar files run s now, r = .drive d ∧ d.env? p tree = some env ∧
      p.Opened tree env start ∧ s ∈ p.registry.stages ∧ run.runId = start.runId ∧
      run.dataset = start.dataset ∧
      past = sofar ++ [.checked s.name env files [], .saved (run.markRunning now s.name)] ∧
      l = p.launchOf env run s := by
  have cut : past ++ [.launched l] <+: past ++ .launched l :: future := ⟨future, by simp⟩
  obtain ⟨d, env, start, sofar, run, s, rfl, henv, opened, rfl, trace⟩ := h.exists_marked cut
  obtain ⟨-, before, record, after, stand, -⟩ := (trace.sound opened.atRest.sound).stands
  obtain ⟨sofar', files, -, -, rfl, -, -⟩ := trace.exists_checks
  have same := trace.same_run
  obtain ⟨earlier, now, rfl, rfl⟩ := trace.launch_eq
  exact ⟨d, env, start, .saved start :: sofar', files, earlier, s, now, rfl, henv, opened,
    List.mem_of_getElem? stand.stage, same.1, same.2, rfl, rfl⟩

/-- Every command that an invocation launches is rendered in the environment that its checks were
made in right before, and the parameters of this environment are valid just if the invocation
starts with valid parameters. -/
theorem valid_of_launched (executor : Executor σ) {d : Drive} {w : World σ}
    {past future : List Event} {l : Launch}
    (h : ((d.act p executor).perform w).2.since w = past ++ .launched l :: future) :
    ∃ env sofar files run s now, d.env? p w.files = some env ∧
      past = sofar ++ [.checked s.name env files [], .saved (run.markRunning now s.name)] ∧
      l = p.launchOf env run s ∧ (env.params.Valid ↔ d.StartsValid p w.files) := by
  have acts : ((d.act p executor).perform w).2.journal ≠ w.journal := by
    intro same
    rw [World.since_eq_nil same] at h
    simp at h
  have story := Request.story p executor (.drive d) w
  rw [Request.answer, h] at story
  obtain ⟨d', env, -, sofar, files, run, s, now, hd, henv, -, -, -, -, hpast, hl⟩ :=
    story.exists_launchOf
  cases hd
  exact ⟨env, sofar, files, run, s, now, henv, hpast, hl, Drive.valid_iff_of_journal_ne henv acts⟩

/-! ### Samples -/

theorem exists_launch {events : List Event} {stage : String}
    (h : events.any (Sample.isLaunchOf stage) = true) :
    ∃ past l future, events = past ++ .launched l :: future ∧ l.stage = stage := by
  obtain ⟨e, hmem, he⟩ := List.any_eq_true.mp h
  cases e with
  | launched l =>
    obtain ⟨past, future, hsplit⟩ := List.append_of_mem hmem
    exact ⟨past, l, future, hsplit, by simpa [Sample.isLaunchOf] using he⟩
  | _ => simp [Sample.isLaunchOf] at he

/-- The second stage is launched under the parameters that an execution was given. -/
theorem valid_of_sample :
    ∃ env run s, env.params.Valid ∧ (Sample.pipeline.launchOf env run s).stage = "train" := by
  have out : ((((Drive.execute [] (.usual "cubes")).act Sample.pipeline
      (Sample.executor "none")).perform Sample.world).2.since Sample.world).any
        (Sample.isLaunchOf "train") = true := by decide +kernel
  obtain ⟨past, l, future, hsplit, hstage⟩ := exists_launch out
  obtain ⟨env, -, -, run, s, -, -, -, rfl, valid⟩ := valid_of_launched _ hsplit
  exact ⟨env, run, s, valid.mpr trivial, hstage⟩

namespace Sample

/-- A run that was not begun, and asks for no episodes. -/
def idleRun : Run := Run.forRegistry noon registry { Parameters.usual "cubes" with episodes := 0 }

def idle : World Unit := { world with files := recorded (Ledger.encode idleRun) }

/-- The environment of a retry by the parameters on record. -/
def idleEnv : Snapshot :=
  Snapshot.take { Parameters.usual "cubes" with episodes := 0 } pipeline.settings []

end Sample

theorem load_idle : Sample.pipeline.load Sample.idle.files "cubes" = .ok Sample.idleRun := by
  have rest : Sample.pipeline.AtRest "cubes" Sample.idleRun :=
    atRest_forRegistry Sample.pipeline Sample.noon { Parameters.usual "cubes" with episodes := 0 }
  have loads := load_recorded rest.names_eq rest.dataset_eq rest.ordered (Nat.zero_le 2)
  rw [Run.recover_of_not_running rest.idle] at loads
  exact loads

/-- A retry by parameters on record that are not valid launches a command under them, and so does a
retry by such parameters that it is given. -/
theorem not_valid_of_launched :
    ¬ Sample.idleEnv.params.Valid ∧
      (Drive.retry [] "cubes" "record" false).env? Sample.pipeline Sample.idle.files =
        some Sample.idleEnv ∧
      ∀ d ∈ [Drive.retry [] "cubes" "record" false, .retryWith Sample.idleEnv "record" false],
        ∃ l, .launched l ∈ ((d.act Sample.pipeline (Sample.executor "none")).perform
          Sample.idle).2.since Sample.idle := by
  have hload : Sample.pipeline.load Sample.idle.files Sample.idleEnv.params.dataset =
      .ok Sample.idleRun := load_idle
  have out : (((Sample.pipeline.retryWith (Sample.executor "none") Sample.idleEnv "record"
      false).perform Sample.idle).2.since Sample.idle).any (Sample.isLaunchOf "record") = true := by
    rw [retryWith_of_load hload]
    decide +kernel
  obtain ⟨past, l, future, hsplit, -⟩ := exists_launch out
  have launched : .launched l ∈ ((Sample.pipeline.retryWith (Sample.executor "none")
      Sample.idleEnv "record" false).perform Sample.idle).2.since Sample.idle := by
    rw [hsplit]
    simp
  refine ⟨by decide, Drive.env?_retry load_idle [] "record" false, ?_⟩
  intro d hd
  rcases List.mem_pair.mp hd with rfl | rfl
  · refine ⟨l, ?_⟩
    rw [Drive.act, retry_of_load load_idle]
    exact launched
  · exact ⟨l, launched⟩

end Pipeline

end RobotPipeline
