/-
  RobotPipeline/Proofs/Pipeline/Invocation.lean
  =============================================
  **An invocation is an opening and a drive.**

  Executing and retrying differ only in how they come to the run that they
  drive. `Drive.opening` is that part: it looks at the recorded run, commits
  the run to go on with, and gives it. `Drive.story` says in one statement
  what a whole invocation may do, from its first entry in the journal to its
  result.
-/
import RobotPipeline.Proofs.Ledger.Load
import RobotPipeline.Proofs.Pipeline.Drive

namespace RobotPipeline

/-! ### The entries of an invocation -/

/-- The entries that were made in the journal since an earlier world, the earliest first. -/
def World.since {σ : Type} (w earlier : World σ) : List Event :=
  (w.journal.take (w.journal.length - earlier.journal.length)).reverse

theorem World.since_eq {σ : Type} {w earlier : World σ} {events : List Event}
    (h : w.journal = events.reverse ++ earlier.journal) : w.since earlier = events := by
  rw [since, h, List.length_append, Nat.add_sub_cancel, List.take_left, List.reverse_reverse]

theorem World.since_eq_nil {σ : Type} {w earlier : World σ} (h : w.journal = earlier.journal) :
    w.since earlier = [] :=
  since_eq (by rw [h, List.reverse_nil, List.nil_append])

namespace Pipeline

variable {σ : Type}

/-! ### Openings -/

/-- An invocation that takes a dataset through the pipeline. -/
inductive Drive where
  | execute (vars : Variables) (params : Parameters)
  | executeWith (env : Snapshot)
  | retry (vars : Variables) (dataset stage : String) (force : Bool)
  | retryWith (env : Snapshot) (stage : String) (force : Bool)

namespace Drive

def act (p : Pipeline) (executor : Executor σ) : Drive → Action σ Failure Run
  | execute vars params => p.execute executor vars params
  | executeWith env => p.executeWith executor env
  | retry vars dataset stage force => p.retry executor vars dataset stage force
  | retryWith env stage force => p.retryWith executor env stage force

def openExecution (p : Pipeline) (env : Snapshot) : Action σ Failure (Snapshot × Run) := do
  Action.ofExcept (validate env.params)
  let (run, recorded) ← p.openRun env.params
  p.tell (if recorded then Progress.resumed run else Progress.started run)
  return (env, run)

def openRetry (p : Pipeline) (env : Snapshot) (stage : String) (force : Bool) :
    Action σ Failure (Snapshot × Run) := do
  let run ← p.status env.params.dataset
  let run ← Action.ofExcept (p.resetForRetry (← Action.now) env stage force run)
  Action.save p.ledger run
  p.tell (Progress.resumed run)
  return (env, run)

/-- What the invocation does before it drives: it commits a run, and gives it together with the
environment to drive it in. -/
def opening (p : Pipeline) : Drive → Action σ Failure (Snapshot × Run)
  | execute vars params => do
    Action.ofExcept (validate params)
    openExecution p (Snapshot.take params p.settings vars)
  | executeWith env => openExecution p env
  | retry vars dataset stage force => do
    let params ← p.retryParameters dataset
    openRetry p (Snapshot.take params p.settings vars) stage force
  | retryWith env stage force => openRetry p env stage force

/-- The environment that the invocation drives in. A retry starts from the parameters on record, so
there is none for it without a record. -/
def env? (p : Pipeline) (tree : FileTree) : Drive → Option Snapshot
  | execute vars params => some (Snapshot.take params p.settings vars)
  | executeWith env => some env
  | retry vars dataset _ _ =>
    match p.load tree dataset with
    | .ok run =>
      some (Snapshot.take (run.parameters.getD (.usual dataset)).withoutPorts p.settings vars)
    | .error _ => none
  | retryWith env _ _ => some env

theorem env?_retry {p : Pipeline} {tree : FileTree} {run : Run} {dataset : String}
    (hload : p.load tree dataset = .ok run) (vars : Variables) (stage : String) (force : Bool) :
    (retry vars dataset stage force).env? p tree =
      some (Snapshot.take (run.parameters.getD (.usual dataset)).withoutPorts p.settings vars) := by
  simp only [env?, hload]

/-- The stage that is to run again, and whether it is whatever its status. -/
def retried? : Drive → Option (String × Bool)
  | execute .. => none
  | executeWith _ => none
  | retry _ _ stage force => some (stage, force)
  | retryWith _ stage force => some (stage, force)

/-- The invocation is accepted in an environment: an execution has valid parameters, and finds a run
that loads or none; a retry finds a run that loads, in which the stage may be retried. -/
def Accepts (p : Pipeline) (tree : FileTree) (env : Snapshot) : Option (String × Bool) → Prop
  | none =>
    validate env.params = .ok () ∧
      ((∃ run, p.load tree env.params.dataset = .ok run) ∨
        ∃ dataset, p.load tree env.params.dataset = .error (.ledger (.notFound dataset)))
  | some (stage, force) =>
    ∃ run, p.load tree env.params.dataset = .ok run ∧
      ∀ now, ∃ opened, p.resetForRetry now env stage force run = .ok opened

/-- The invocation is accepted. -/
def Accepted (p : Pipeline) (tree : FileTree) (d : Drive) : Prop :=
  ∃ env, d.env? p tree = some env ∧ Accepts p tree env d.retried?

/-- Opening and driving is all that an invocation does. -/
theorem act_eq (p : Pipeline) (executor : Executor σ) (d : Drive) :
    d.act p executor = d.opening p >>= fun opened => p.drive executor opened.1 opened.2 := by
  cases d <;> simp [act, opening, openExecution, openRetry,
    Pipeline.execute, Pipeline.executeWith, Pipeline.retry, Pipeline.retryWith]

end Drive

/-! ### The run that is opened -/

/-- How an invocation comes to the run that it drives, given the files that it finds. -/
inductive Opened (p : Pipeline) (tree : FileTree) (env : Snapshot) : Run → Prop where
  /-- The recorded run is resumed, with the stages that are now asked for. -/
  | resumed {run : Run} (now : Instant) (h : p.load tree env.params.dataset = .ok run) :
      Opened p tree env
        { run.includeOptional now env.params.included with parameters := some env.params }
  /-- There is no recorded run, so a new one is made. -/
  | started {dataset : String} (now : Instant)
      (h : p.load tree env.params.dataset = .error (.ledger (.notFound dataset))) :
      Opened p tree env (Run.forRegistry now p.registry env.params)
  /-- A stage of the recorded run and what comes after it are reset. -/
  | reset {run opened : Run} {stage : String} {force : Bool} (now : Instant)
      (h : p.load tree env.params.dataset = .ok run)
      (hreset : p.resetForRetry now env stage force run = .ok opened) : Opened p tree env opened

/-- A retry is accepted only when the stages before the one to retry are complete. -/
theorem resetForRetry_eq_ok {p : Pipeline} {now : Instant} {env : Snapshot} {stage : String}
    {force : Bool} {run opened : Run} (h : p.resetForRetry now env stage force run = .ok opened) :
    ∃ place, run.position? stage = some place ∧
      (∀ r ∈ run.stages.take place, r.status.isComplete = true) ∧
      opened = { (run.change stage StageRecord.reset).resetFrom now place with
        parameters := some env.params } := by
  unfold resetForRetry at h
  split at h
  · cases h
  · split at h
    · cases h
    · rename_i place hplace
      split at h
      · cases h
      · split at h
        · cases h
        · split at h
          · cases h
          · rename_i hnone
            refine ⟨place, hplace, ?_, by simpa using h.symm⟩
            simpa using hnone

/-- Up to the place of a stage, changing its record changes nothing. -/
theorem take_changeFirst {f : StageRecord → StageRecord} {name : String}
    {records : List StageRecord} {place : Nat}
    (h : records.findIdx? (fun r => r.name = name) = some place) :
    (Run.changeFirst f name records).take place = records.take place := by
  induction records generalizing place with
  | nil => simp at h
  | cons r rest ih =>
    rw [List.findIdx?_cons] at h
    by_cases hr : r.name = name
    · obtain rfl : place = 0 := by simpa [hr] using h.symm
      simp
    · cases place with
      | zero => simp [hr] at h
      | succ place =>
        have hrest : rest.findIdx? (fun r => r.name = name) = some place := by simpa [hr] using h
        simp [Run.changeFirst, hr, ih hrest]

/-- The run that an invocation opens is at rest. -/
theorem Opened.atRest {p : Pipeline} {tree : FileTree} {env : Snapshot} {run : Run}
    (h : p.Opened tree env run) : p.AtRest env.params.dataset run := by
  cases h with
  | resumed now h =>
    have rest := atRest_of_load h
    constructor
    · exact (Run.names_includeOptional now _ _).trans rest.names_eq
    · exact rest.dataset_eq
    · exact rest.ordered.includeOptional rest.idle now _
    · exact Run.not_running_includeOptional rest.idle now _
  | started now h => exact atRest_forRegistry p now env.params
  | @reset loaded _ stage force now h hreset =>
    have rest := atRest_of_load h
    obtain ⟨place, hplace, complete, rfl⟩ := resetForRetry_eq_ok hreset
    have complete' : ∀ r ∈ (loaded.change stage StageRecord.reset).stages.take place,
        r.status.isComplete = true := by
      rw [Run.stages_change, take_changeFirst hplace]
      exact complete
    have hnames : (loaded.change stage StageRecord.reset).names = loaded.names :=
      Run.map_name_changeFirst StageRecord.name_reset stage loaded.stages
    constructor
    · exact (Run.names_resetFrom now place _).trans (hnames.trans rest.names_eq)
    · exact rest.dataset_eq
    · exact Run.ordered_resetFrom complete' now
    · exact Run.not_running_resetFrom complete' now

/-- The run that is opened has the identifier of the run on record. -/
theorem Opened.runId_eq {p : Pipeline} {tree : FileTree} {env : Snapshot} {recorded run : Run}
    (h : p.Opened tree env run)
    (loads : p.ledger.load tree env.params.dataset = .ok recorded) :
    run.runId = recorded.runId := by
  cases h with
  | @resumed loaded now hload =>
    obtain rfl := Except.ok.inj (loads.symm.trans (load_eq_ok_iff.mp hload).1)
    rfl
  | started now hload =>
    obtain ⟨hread, -⟩ := load_eq_notFound_iff.mp hload
    simp [Ledger.load, hread] at loads
  | reset now hload hreset =>
    obtain rfl := Except.ok.inj (loads.symm.trans (load_eq_ok_iff.mp hload).1)
    obtain ⟨place, -, -, rfl⟩ := resetForRetry_eq_ok hreset
    rfl

/-! ### What an opening does -/

/-- What an opening in some environment may have done, seen from the files and the journal that it
started with. -/
inductive Opens (p : Pipeline) (tree : FileTree) (journal : List Event) (env : Snapshot)
    (retried : Option (String × Bool)) : Except Failure (Snapshot × Run) × World σ → Prop where
  | rejected {e : Failure} {w : World σ} (h : ¬ Drive.Accepts p tree env retried)
      (hj : w.journal = journal) : Opens p tree journal env retried (.error e, w)
  | refused {run : Run} {cause : LedgerError} {w : World σ} (h : p.Opened tree env run)
      (why : Refusal run cause) (hj : w.journal = .refused run cause :: journal) :
      Opens p tree journal env retried (.error (.ledger cause), w)
  | opened {run : Run} {w : World σ} (h : p.Opened tree env run)
      (hj : w.journal = .saved run :: journal) : Opens p tree journal env retried (.ok (env, run), w)

section Opens

variable {p : Pipeline} {env : Snapshot} {retried : Option (String × Bool)} {tree : FileTree}

/-- Committing the run that is opened, and going on with a note to the operator, is what all
openings end with. -/
theorem opens_save {run : Run} {w : World σ} (h : p.Opened tree env run) (line : String) :
    Opens p tree w.journal env retried
      ((Action.save p.ledger run >>= fun _ => p.tell line >>= fun _ => pure (env, run)).perform w) := by
  rw [Action.perform_bind, Action.perform_save]
  cases hc : Action.commit p.ledger run w with
  | ok files =>
    dsimp only
    rw [Action.perform_bind, perform_tell]
    exact .opened h (by simp)
  | error cause => exact .refused h (refusal_of_commit_eq_error hc) rfl

theorem opens_openExecution (w : World σ) :
    Opens p w.files w.journal env none ((Drive.openExecution p env).perform w) := by
  unfold Drive.openExecution
  rw [Action.perform_bind, Action.perform_ofExcept]
  cases hv : validate env.params with
  | error e => exact .rejected (by simp [Drive.Accepts, hv]) rfl
  | ok _ =>
    dsimp only
    unfold openRun
    rw [bind_assoc, Action.perform_bind, Action.perform_get]
    dsimp only
    cases hl : p.load w.files env.params.dataset with
    | ok run =>
      simp only [bind_assoc, pure_bind, Action.perform_bind Action.now, Action.perform_now]
      exact opens_save (w := { w with readings := w.readings + 1 }) (.resumed _ hl) _
    | error e =>
      split
      · simp_all
      · rename_i d heq
        cases heq
        simp only [bind_assoc, pure_bind, Action.perform_bind Action.now, Action.perform_now]
        exact opens_save (w := { w with readings := w.readings + 1 }) (.started _ hl) _
      · rename_i e' hne heq
        cases heq
        apply Opens.rejected _ rfl
        rintro ⟨-, ⟨run, hrun⟩ | ⟨d, hd⟩⟩
        · simp [hl] at hrun
        · apply hne d
          simpa [hl] using hd

theorem opens_openRetry (stage : String) (force : Bool) (w : World σ) :
    Opens p w.files w.journal env (some (stage, force))
      ((Drive.openRetry p env stage force).perform w) := by
  unfold Drive.openRetry status
  rw [Action.perform_bind, Action.perform_bind, Action.perform_get]
  dsimp only
  rw [Action.perform_ofExcept]
  cases hl : p.load w.files env.params.dataset with
  | error e => exact .rejected (by simp [Drive.Accepts, hl]) rfl
  | ok run =>
    dsimp only
    simp only [Action.perform_bind Action.now, Action.perform_now]
    rw [Action.perform_bind, Action.perform_ofExcept]
    cases hr : p.resetForRetry (w.clock w.readings) env stage force run with
    | error e =>
      refine .rejected ?_ rfl
      rintro ⟨loaded, hloaded, haccepted⟩
      obtain rfl : run = loaded := by simpa [hl] using hloaded
      obtain ⟨opened, hopened⟩ := haccepted (w.clock w.readings)
      simp [hr] at hopened
    | ok opened => exact opens_save (w := { w with readings := w.readings + 1 }) (.reset _ hl hr) _

/-- What the opening of an invocation may have done. Without an environment it does nothing. -/
theorem opens_opening (d : Drive) (w : World σ) :
    match d.env? p w.files with
    | some env => Opens p w.files w.journal env d.retried? ((d.opening p).perform w)
    | none => ∃ e, (d.opening p).perform w = (.error e, w) := by
  cases d with
  | execute vars params =>
    -- the parameters are checked twice
    have same : ((Drive.execute vars params).opening p).perform w =
        (Drive.openExecution p (Snapshot.take params p.settings vars)).perform w := by
      unfold Drive.opening Drive.openExecution
      simp only [Action.perform_bind, Action.perform_ofExcept, Snapshot.take]
      cases validate params <;> rfl
    rw [same]
    exact opens_openExecution w
  | executeWith env => exact opens_openExecution w
  | retry vars dataset stage force =>
    unfold Drive.opening Drive.env? retryParameters status
    simp only [Action.perform_bind, Action.perform_get, Action.perform_ofExcept]
    cases p.load w.files dataset with
    | error e => exact ⟨e, rfl⟩
    | ok run => exact opens_openRetry stage force w
  | retryWith env stage force => exact opens_openRetry stage force w

end Opens

/-! ### What an invocation does -/

/-- What an invocation may do, seen from the files that it finds: its entries in the journal, and
its result. -/
inductive Story (p : Pipeline) (d : Drive) (tree : FileTree) :
    List Event → Except Failure Run → Prop where
  /-- It is not accepted, and does nothing. -/
  | rejected {e : Failure} (h : ¬ d.Accepted p tree) : Story p d tree [] (.error e)
  /-- The run that it opens is not committed. -/
  | refused {env : Snapshot} {run : Run} {cause : LedgerError} (henv : d.env? p tree = some env)
      (h : p.Opened tree env run) (why : Refusal run cause) :
      Story p d tree [.refused run cause] (.error (.ledger cause))
  /-- It commits a run and drives it. -/
  | driven {env : Snapshot} {run : Run} {events : List Event} {phase : Phase}
      {result : Except Failure Run} (henv : d.env? p tree = some env) (h : p.Opened tree env run)
      (trace : Trace p env (.ready run) events phase) (ends : Ends p phase result) :
      Story p d tree (.saved run :: events) result

theorem Drive.story (p : Pipeline) (executor : Executor σ) (d : Drive) (w : World σ) :
    ((d.act p executor).perform w).2.journal =
        (((d.act p executor).perform w).2.since w).reverse ++ w.journal ∧
      Story p d w.files (((d.act p executor).perform w).2.since w)
        ((d.act p executor).perform w).1 := by
  suffices h : ∃ events, ((d.act p executor).perform w).2.journal = events.reverse ++ w.journal ∧
      Story p d w.files events ((d.act p executor).perform w).1 by
    obtain ⟨events, hjournal, hstory⟩ := h
    rw [World.since_eq hjournal]
    exact ⟨hjournal, hstory⟩
  rw [d.act_eq p executor, Action.perform_bind]
  have hopens := opens_opening (p := p) d w
  cases henv : d.env? p w.files with
  | none =>
    obtain ⟨e, he⟩ : ∃ e, (d.opening p).perform w = (.error e, w) := by simpa [henv] using hopens
    have rejected : ¬ d.Accepted p w.files := by
      rintro ⟨env, h, -⟩
      simp [henv] at h
    rw [he]
    exact ⟨[], rfl, .rejected rejected⟩
  | some env =>
    rw [henv] at hopens
    dsimp only at hopens
    generalize (d.opening p).perform w = opened at hopens
    cases hopens with
    | @rejected e w' h hj =>
      have rejected : ¬ d.Accepted p w.files := by
        rintro ⟨env', henv', haccepts⟩
        obtain rfl : env = env' := by simpa [henv] using henv'
        exact h haccepts
      exact ⟨[], hj, .rejected rejected⟩
    | @refused run cause w' h why hj => exact ⟨[.refused run cause], hj, .refused henv h why⟩
    | @opened run w' h hj =>
      obtain ⟨events, phase, hjournal, htrace, hends⟩ :=
        drive_trace p executor env h.atRest.names_eq w'
      refine ⟨.saved run :: events, ?_, .driven henv h htrace hends⟩
      rw [hjournal, hj, List.reverse_cons, List.append_assoc]
      rfl

/-! ### A sample -/

/-! A pipeline of two stages on an empty disk, small enough to be run while it is checked. -/

namespace Sample

def record : Stage where
  name := "record"
  ordinal := 10
  command := ⟨"lerobot-record", ["--dataset.repo_id={repo_id}"]⟩
  produces := [⟨"recording", none⟩]

def train : Stage where
  name := "train"
  ordinal := 20
  preconditions := [.artifact "recording"]
  command := ⟨"lerobot-train", []⟩
  skippable := true

def registry : Registry where
  stages := [record, train]
  nonempty := by simp
  sorted := by decide
  checked := by decide +kernel

def pipeline : Pipeline where
  registry := registry
  settings := {
    stateDir := "/state"
    defaultTimeLimit := none
    killGrace := Span.zero
    calibrationDir := "/calibration"
    workflowFile := none }

def noon : Instant where
  date := { year := 2024, month := 5, day := 17 }
  second := 43200
  nanos := 0

/-- The command of one stage exits with an error, the others with success. -/
def executor (failing : String) : Executor Unit := fun l =>
  pure {
    stage := l.stage
    exitCode := if l.stage = failing then Int32.ofInt 1 else Int32.ofInt 0
    duration := Span.zero
    startedAt := noon
    finishedAt := noon }

def world : World Unit where
  files := { entries := [], here := [] }
  clock := fun _ => noon
  tool := ()

/-- A disk with a snapshot. -/
def recorded (text : String) : FileTree where
  entries := [
    (["state"], .directory), (["state", "runs"], .directory),
    (["state", "runs", "cubes.json"], .file (.text text) FileTree.privateMode)]
  here := []

def isCommit : Event → Bool
  | .saved _ => true
  | _ => false

def isLaunchOf (stage : String) : Event → Bool
  | .launched l => l.stage = stage
  | _ => false

end Sample

end Pipeline

end RobotPipeline
