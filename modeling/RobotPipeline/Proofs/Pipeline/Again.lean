/-
  RobotPipeline/Proofs/Pipeline/Again.lean
  ========================================
  **Executing a finished run again changes nothing.**

  When an execution gets through, its run is `Settled`: refreshing it, taking
  in the stages asked for and recording the parameters leave it as it is. So
  the next execution opens that very run, commits it once more and has nothing
  to launch.

  The next execution has to find the snapshot. It does unless a command has
  put a link in its place that the path to it leads through: the commit of the
  outcome replaces that link, and with it the way.
-/
import RobotPipeline.Proofs.Ledger.Slot
import RobotPipeline.Proofs.Pipeline.Course
import RobotPipeline.Proofs.Run.Included

namespace RobotPipeline

namespace Run

/-! ### Stages that were taken in already -/

theorem takenIn_of_not_requested {requested : List String} {records : List StageRecord}
    (h : ∀ r ∈ records, r.isNotRequested = true → r.name ∉ requested) :
    TakenIn requested records := by
  induction records with
  | nil => trivial
  | cons r later ih =>
    refine ⟨?_, ih fun s hs => h s (by simp [hs])⟩
    cases hr : r.isNotRequested with
    | false => simp [isTakenIn, hr]
    | true => simp [isTakenIn, h r (by simp) hr]

/-- A stage that succeeds keeps those before it from being taken in. -/
theorem TakenIn.succeed {requested : List String} {before after : List StageRecord}
    {r r' : StageRecord} (h : TakenIn requested (before ++ r :: after))
    (succeeded : r'.status = .succeeded) : TakenIn requested (before ++ r' :: after) := by
  induction before with
  | nil =>
    refine ⟨?_, h.2⟩
    simp [isTakenIn, StageRecord.isNotRequested, succeeded]
  | cons b rest ih =>
    refine ⟨?_, ih h.2⟩
    simp [isTakenIn, succeeded]

end Run

/-! ### What holds when an action gets through -/

namespace Action

variable {σ ε α β : Type} {P : FileTree → Prop} {Q : α → FileTree → Prop}
  {R : β → FileTree → Prop}

/-- From files with one property an action that gets through comes to a result and files with
another. -/
def Gives (P : FileTree → Prop) (act : Action σ ε α) (Q : α → FileTree → Prop) : Prop :=
  ∀ w : World σ, P w.files → ∀ a, (act.perform w).1 = .ok a → Q a (act.perform w).2.files

theorem gives_any (act : Action σ ε α) : Gives P act fun _ _ => True :=
  fun _ _ _ _ => trivial

theorem gives_throw (e : ε) : Gives P (throw e : Action σ ε α) Q := by
  intro w _ a ha
  cases ha

theorem gives_pure {a : α} (h : ∀ files, P files → Q a files) :
    Gives P (pure a : Action σ ε α) Q := by
  intro w hw a' ha
  cases ha
  exact h w.files hw

theorem Gives.bind {act : Action σ ε β} {next : β → Action σ ε α} (h : Gives P act R)
    (hnext : ∀ b, Gives (R b) (next b) Q) : Gives P (act >>= next) Q := by
  intro w hw a ha
  have hact := h w hw
  rw [perform_bind] at ha ⊢
  generalize act.perform w = done at hact ha ⊢
  obtain ⟨result, after⟩ := done
  cases result with
  | error e => cases ha
  | ok b => exact hnext b after (hact b rfl) a ha

theorem Gives.imp {act : Action σ ε α} {weaker : α → FileTree → Prop} (h : Gives P act Q)
    (himp : ∀ a files, Q a files → weaker a files) : Gives P act weaker :=
  fun w hw a ha => himp a _ (h w hw a ha)

/-- Only what is done last counts. -/
theorem gives_last {act : Action σ ε β} {next : β → Action σ ε α}
    (h : ∀ b, Gives (fun _ => True) (next b) Q) : Gives P (act >>= next) Q :=
  (gives_any act).bind h

end Action

namespace Pipeline

open RobotPipeline.Action

variable {σ τ : Type} {p : Pipeline} {params : Parameters} {run run' : Run}

/-- The files are as a commit of a run has left them. -/
def Written (p : Pipeline) (run : Run) (files : FileTree) : Prop :=
  ∃ tree, p.ledger.write tree run = .ok files

section Rules

variable {α : Type} {P : FileTree → Prop} {Q : α → FileTree → Prop} {run : Run}

theorem gives_save_bind {next : Unit → Action σ Failure α}
    (h : Gives (p.Written run) (next ()) Q) : Gives P (save p.ledger run >>= next) Q := by
  have saved : Gives P (save p.ledger run : Action σ Failure Unit) fun _ => p.Written run := by
    intro w _ _ hsaved
    rw [perform_save] at hsaved ⊢
    cases hc : commit p.ledger run w with
    | ok files => exact ⟨w.files, (of_commit_eq_ok hc).2⟩
    | error cause => simp [hc] at hsaved
  exact saved.bind fun _ => h

theorem gives_tell_bind {line : String} {next : Unit → Action σ Failure α}
    (h : Gives P (next ()) Q) : Gives P (p.tell line >>= next) Q := by
  have told : Gives P (p.tell line : Action σ Failure Unit) fun _ => P := by
    intro w hw _ _
    rw [perform_tell, files_told]
    exact hw
  exact told.bind fun _ => h

end Rules

theorem gives_settle {P : FileTree → Prop} (place : Nat) (s : Stage) (run : Run) (o : Outcome) :
    Gives P (p.settle place s run o : Action σ Failure Run) fun run' files =>
      p.Written run' files ∧ o.isSuccess = true ∧ ∃ now, run' = run.applyOutcome now s.name o := by
  unfold settle
  apply gives_last
  intro now
  apply gives_save_bind
  apply gives_tell_bind
  split
  · exact gives_throw _
  · split
    · exact gives_throw _
    · rename_i ho
      exact gives_pure fun files written => ⟨written, by simpa using ho, now, rfl⟩

theorem gives_stopLaunch {P : FileTree → Prop} {Q : Run → FileTree → Prop} (place : Nat) (s : Stage)
    (run : Run) (e : LaunchError) :
    Gives P (p.stopLaunch place s run e : Action σ Failure Run) Q := by
  unfold stopLaunch
  repeat
    apply gives_last
    intro _
  exact gives_throw _

theorem gives_launchStage {P : FileTree → Prop} (executor : Executor σ) (env : Snapshot)
    (place : Nat) (s : Stage) (run : Run) :
    Gives P (p.launchStage executor env place s run) fun run' files =>
      p.Written run' files ∧ Passed s run run' := by
  unfold launchStage
  apply gives_last
  intro started
  apply gives_save_bind
  apply gives_tell_bind
  apply gives_last
  intro result
  cases result with
  | error e => exact gives_stopLaunch place s _ e
  | ok o =>
    refine (gives_settle place s (run.markRunning started s.name) o).imp ?_
    rintro run' files ⟨written, ho, ended, rfl⟩
    exact ⟨written, o, started, ended, ho, rfl⟩

/-- After a stage that has passed, its success was committed last. -/
theorem gives_runStage {P : FileTree → Prop} (executor : Executor σ) (env : Snapshot) (place : Nat)
    (s : Stage) (run : Run) :
    Gives P (p.runStage executor env place s run) fun run' files =>
      p.Written run' files ∧ Passed s run run' := by
  unfold runStage
  apply gives_last
  intro w
  split
  · exact gives_throw _
  · apply gives_last
    intro _
    split
    · exact gives_launchStage executor env place s run
    · apply gives_save_bind
      apply gives_tell_bind
      exact gives_throw _

/-! ### What an execution leaves behind -/

/-- A run that opening it for an execution leaves as it is. -/
structure Settled (p : Pipeline) (params : Parameters) (run : Run) : Prop where
  names_eq : run.names = p.registry.names
  dataset_eq : run.dataset = params.dataset
  parameters_eq : run.parameters = some params
  refreshed : ∀ now, run.refresh now = run
  takenIn : Run.TakenIn params.included run.stages

theorem Settled.passed {place : Nat} {s : Stage} (h : p.Settled params run)
    (first : run.firstIncomplete? = some place) (hs : p.registry.stages[place]? = some s)
    (passed : Passed s run run') : p.Settled params run' := by
  obtain ⟨before, record, after, stand⟩ := exists_standing h.names_eq first hs
  have hnames := passed.names
  obtain ⟨o, started, ended, ho, rfl⟩ := passed
  constructor
  · exact hnames.trans h.names_eq
  · exact h.dataset_eq
  · exact h.parameters_eq
  · exact fun now => Run.refresh_refresh ended now _
  · -- the one record that changes is that of a success
    have htaken := h.takenIn
    rw [stand.stages_eq] at htaken
    rw [(stand.markRunning started).stages_applyOutcome]
    exact htaken.succeed (by simp [StageRecord.settle, ho])

theorem settled_resumed {tree : FileTree} (h : p.load tree params.dataset = .ok run)
    (now : Instant) : p.Settled params
      { run.includeOptional now params.included with parameters := some params } := by
  have rest := atRest_of_load h
  constructor
  · exact (Run.names_includeOptional now _ _).trans rest.names_eq
  · exact rest.dataset_eq
  · rfl
  · intro later
    have hrefresh := Run.refresh_refresh now later
      { run with stages := Run.takeIn params.included run.stages }
    exact congrArg (fun r : Run => { r with parameters := some params }) hrefresh
  · exact Run.takenIn_takeIn params.included run.stages

theorem settled_forRegistry (p : Pipeline) (params : Parameters) (now : Instant) :
    p.Settled params (Run.forRegistry now p.registry params) := by
  constructor
  · exact Run.names_forRegistry now p.registry params
  · rfl
  · rfl
  · exact fun later => Run.refresh_refresh now later _
  · apply Run.takenIn_of_not_requested
    intro r hr hleft
    obtain ⟨s, -, rfl⟩ := List.mem_map.mp hr
    unfold Run.recordFor at hleft ⊢
    split at hleft
    · rename_i hout
      rw [if_pos hout]
      simp only [Bool.and_eq_true, decide_eq_true_eq] at hout
      exact hout.2
    · cases hleft

theorem gives_openRun {P : FileTree → Prop} (params : Parameters) :
    Gives P (p.openRun params : Action σ Failure (Run × Bool)) fun opened files =>
      p.Written opened.1 files ∧ p.Settled params opened.1 := by
  unfold openRun
  apply gives_last
  intro w
  split
  · rename_i run hload
    apply gives_last
    intro now
    apply gives_save_bind
    exact gives_pure fun _ written => ⟨written, settled_resumed hload now⟩
  · apply gives_last
    intro now
    apply gives_save_bind
    exact gives_pure fun _ written => ⟨written, settled_forRegistry p params now⟩
  · exact gives_throw _

theorem gives_driveFrom (executor : Executor σ) (env : Snapshot) {place : Nat} {stages : List Stage}
    (hstages : p.registry.stages.drop place = stages) (settled : p.Settled params run) :
    Gives (p.Written run) (p.driveFrom executor env place stages run) fun run' files =>
      p.Written run' files ∧ p.Settled params run' := by
  -- each stage is begun with a settled run that was committed last, and hands on such a run
  induction stages generalizing place run with
  | nil =>
    unfold driveFrom
    apply gives_tell_bind
    exact gives_pure fun _ written => ⟨written, settled⟩
  | cons s rest ih =>
    obtain ⟨hs, hrest⟩ := of_drop_eq_cons hstages
    unfold driveFrom
    split
    · rename_i first
      refine (gives_runStage executor env place s run).bind ?_
      rintro run' w ⟨written, passed⟩
      exact ih hrest (settled.passed first hs passed) w written
    · exact ih hrest settled

/-- An execution that gets through has committed its run last, and the run is settled. -/
theorem gives_execute (executor : Executor σ) (vars : Variables) (params : Parameters) :
    Gives (fun _ => True) (p.execute executor vars params) fun run files =>
      p.Written run files ∧ p.Settled params run := by
  unfold execute
  apply gives_last
  intro _
  unfold executeWith
  apply gives_last
  intro _
  refine (gives_openRun params).bind ?_
  rintro ⟨run, recorded⟩
  apply gives_tell_bind
  rintro w ⟨written, settled⟩
  exact gives_driveFrom executor _ List.drop_zero settled w written

/-! ### The next execution -/

/-- With all stages complete, a drive launches nothing. -/
theorem perform_driveFrom_of_complete (executor : Executor σ) (env : Snapshot) (place : Nat)
    (stages : List Stage) (complete : run.firstIncomplete? = none) (w : World σ) :
    (p.driveFrom executor env place stages run).perform w =
      (.ok run, p.told (Progress.finished run) w) := by
  induction stages generalizing place with
  | nil =>
    rw [driveFrom, perform_bind, perform_tell]
    rfl
  | cons s rest ih =>
    rw [driveFrom, if_neg (by simp [complete])]
    exact ih (place + 1)

theorem isDatasetName_of_validate (h : validate params = .ok ()) :
    Parameters.isDatasetName params.dataset = true := by
  cases hname : Parameters.isDatasetName params.dataset with
  | true => rfl
  | false => simp [validate, Parameters.validate, hname] at h

/-- A complete run that is settled is committed as it is, and that is all. -/
theorem perform_execute_of_settled (executor : Executor σ) (vars : Variables) {w : World σ}
    {files : FileTree} (valid : validate params = .ok ()) (settled : p.Settled params run)
    (complete : run.firstIncomplete? = none) (hload : p.load w.files params.dataset = .ok run)
    (hcommit : commit p.ledger run { w with readings := w.readings + 1 } = .ok files) :
    (p.execute executor vars params).perform w =
      (.ok run, p.told (Progress.finished run) (p.told (Progress.resumed run) { w with
        readings := w.readings + 1, commits := w.commits + 1, files := files,
        journal := .saved run :: w.journal })) := by
  have same : ∀ now, { run.includeOptional now params.included with parameters := some params } =
      run := by
    intro now
    unfold Run.includeOptional
    rw [Run.takeIn_of_takenIn settled.takenIn, settled.refreshed now, ← settled.parameters_eq]
  have hopen : (p.openRun params).perform w = (.ok (run, true), { w with
      readings := w.readings + 1, commits := w.commits + 1, files := files,
      journal := .saved run :: w.journal }) := by
    unfold openRun
    rw [perform_bind, perform_get]
    simp only [hload]
    rw [perform_bind, perform_now]
    simp only [same]
    rw [perform_bind, perform_save, hcommit]
    rfl
  unfold Pipeline.execute executeWith
  rw [perform_bind, perform_ofExcept, valid]
  simp only [Snapshot.take]
  rw [perform_bind, perform_ofExcept, valid]
  simp only [perform_bind, hopen, perform_tell]
  exact perform_driveFrom_of_complete executor _ 0 _ complete _

/-- A snapshot that has been committed is committed again, unless the system refuses. -/
theorem commit_of_holds {w : World σ} {loc : Location} {content : Content} {mode : Nat}
    (holds : p.ledger.Holds w.files run.dataset loc content mode)
    (safe : Path.IsSafe run.dataset) (ordered : run.Ordered)
    (accepts : w.refusals w.commits = none) :
    commit p.ledger run w = .ok (w.files.set (loc ++ [run.dataset ++ ".json"])
      (.file (.text (Ledger.encode run)) FileTree.privateMode)) := by
  unfold commit Ledger.save
  rw [(Run.orderViolation?_eq_none_iff run).mpr ordered, accepts, holds.write_eq safe rfl]

/-- A run that a settled execution has left on record loads as it is. -/
theorem load_of_settled {tree : FileTree} {loc : Location} {mode : Nat}
    (settled : p.Settled params run) (complete : run.firstIncomplete? = none)
    (safe : Path.IsSafe run.dataset)
    (holds : p.ledger.Holds tree run.dataset loc (.text (Ledger.encode run)) mode) :
    run.Ordered ∧ p.load tree run.dataset = .ok run := by
  have all : ∀ r ∈ run.stages, r.status.isComplete = true := by
    simpa [Run.firstIncomplete?, List.findIdx?_eq_none_iff] using complete
  have ordered : run.Ordered := Run.pairwise_of_complete all
  have idle : ∀ r ∈ run.stages, r.status ≠ .running := by
    intro r hr running
    simpa [running, Status.isComplete] using all r hr
  have indexed : run.currentIndex ≤ run.stages.length := by
    have hle := Run.currentIndex_refresh_le run.startedAt run
    rwa [settled.refreshed] at hle
  have reads : tree.readText (p.ledger.snapshotPath run.dataset) = .ok (Ledger.encode run) := by
    simp [FileTree.readText, holds.read_eq safe, bind, Except.bind]
  refine ⟨ordered, ?_⟩
  rw [Pipeline.load_of_encode reads settled.names_eq ordered indexed,
    Run.recover_of_not_running idle]

/-- An execution with the parameters of one that has got through gives the same run, whatever its
variables and its executor, and also when it is cancelled: it commits that run once more and
launches nothing, and every file is as it was. The path of the snapshot has to lead to a file yet,
and the system must not refuse the commit. -/
theorem unchanged_of_again (executor : Executor σ) (executor' : Executor τ) (vars vars' : Variables)
    (w : World σ) (w' : World τ)
    (through : ((p.execute executor vars params).perform w).1 = .ok run)
    (leads : p.ledger.hasSnapshot ((p.execute executor vars params).perform w).2.files
      params.dataset = true)
    (same : w'.files = ((p.execute executor vars params).perform w).2.files)
    (accepts : w'.refusals w'.commits = none) :
    ((p.execute executor' vars' params).perform w').1 = .ok run ∧
      ((p.execute executor' vars' params).perform w').2.since w' = [.saved run] ∧
      ((p.execute executor' vars' params).perform w').2.tool = w'.tool ∧
      (∀ loc, ((p.execute executor' vars' params).perform w').2.files.get? loc =
        w'.files.get? loc) ∧
      w'.files.read (p.ledger.snapshotPath params.dataset) = .ok (.text (Ledger.encode run)) ∧
      ((p.execute executor' vars' params).perform w').2.files.read
        (p.ledger.snapshotPath params.dataset) = .ok (.text (Ledger.encode run)) := by
  have valid : validate params = .ok () := by
    cases hv : validate params with
    | ok _ => rfl
    | error e => simp [Pipeline.execute, perform_bind, hv] at through
  obtain ⟨⟨tree, hwrite⟩, settled⟩ := gives_execute executor vars params w trivial run through
  have complete : run.firstIncomplete? = none := by
    have own : ∀ env, (Drive.execute vars params).env? p w.files = some env →
        env.params.dataset = params.dataset := by
      rintro env ⟨⟩
      rfl
    obtain ⟨-, -, hcomplete⟩ : p.Changes false _ (some run) ∧ run.names = p.registry.names ∧
        run.firstIncomplete? = none := Drive.changes_ok own (.inl rfl) through
    exact hcomplete
  have safe : Path.IsSafe run.dataset := by
    rw [settled.dataset_eq]
    exact Path.isSafe_of_isDatasetName (isDatasetName_of_validate valid)
  rw [← same] at hwrite leads
  rw [← settled.dataset_eq] at leads ⊢
  -- what was committed last is on disk, and loads as it is
  obtain ⟨loc, holds⟩ := Ledger.exists_holds_of_write safe hwrite leads
  obtain ⟨ordered, hload⟩ := load_of_settled settled complete safe holds
  have hcommit := commit_of_holds (w := { w' with readings := w'.readings + 1 }) holds safe ordered
    accepts
  have hagain := perform_execute_of_settled executor' vars' valid settled complete
    (settled.dataset_eq ▸ hload) hcommit
  rw [hagain]
  refine ⟨rfl, ?_, ?_, ?_, holds.read_eq safe, ?_⟩
  · apply World.since_eq
    simp
  · unfold told
    split <;> rfl
  · intro place
    simp only [files_told]
    by_cases hplace : place = loc ++ [run.dataset ++ ".json"]
    · rw [hplace, FileTree.get?_set_self _ _ (by simp), holds.get_eq]
    · rw [FileTree.get?_set_other _ _ hplace]
  · simp only [files_told]
    exact (holds.set _ _).read_eq safe

theorem exists_ok_of_isOk {ε α : Type} {result : Except ε α} (h : result.isOk = true) :
    ∃ a, result = .ok a := by
  cases result with
  | error e => cases h
  | ok a => exact ⟨a, rfl⟩

/-- A run that has got through is given back by a second execution that was cancelled. -/
theorem unchanged_of_sample :
    ∃ run files,
      ((Sample.pipeline.execute (Sample.executor "none") [] (.usual "cubes")).perform
        Sample.world).1 = .ok run ∧
      files = ((Sample.pipeline.execute (Sample.executor "none") [] (.usual "cubes")).perform
        Sample.world).2.files ∧
      ∀ vars, ((Sample.pipeline.execute (Sample.executor "train") vars (.usual "cubes")).perform
        { Sample.world with files := files, cancelled := true }).1 = .ok run := by
  have through : ((Sample.pipeline.execute (Sample.executor "none") [] (.usual "cubes")).perform
      Sample.world).1.isOk = true := by decide +kernel
  have leads : Sample.pipeline.ledger.hasSnapshot ((Sample.pipeline.execute
      (Sample.executor "none") [] (.usual "cubes")).perform Sample.world).2.files "cubes" =
        true := by decide +kernel
  obtain ⟨run, hrun⟩ := exists_ok_of_isOk through
  obtain ⟨files, hfiles⟩ : ∃ files, files = ((Sample.pipeline.execute (Sample.executor "none") []
      (.usual "cubes")).perform Sample.world).2.files := ⟨_, rfl⟩
  refine ⟨run, files, hrun, hfiles, ?_⟩
  intro vars
  exact (unchanged_of_again (Sample.executor "none") (Sample.executor "train") [] vars
    Sample.world { Sample.world with files := files, cancelled := true } hrun leads hfiles rfl).1

namespace Sample

/-- The state directory is reached through a link. -/
def linked : Pipeline where
  registry := registry
  settings := { pipeline.settings with stateDir := "/link" }

def linkedWorld : World Unit :=
  { world with files := {
      entries := [(["state"], .directory), (["link"], .link "state")], here := [] } }

/-- A link in the place of the snapshot, and a way to the state directory that leads through it. -/
def reroute (tree : FileTree) : FileTree :=
  let tree := tree.set ["state", "runs", "sub"] .directory
  let tree := tree.set ["state", "runs", "cubes.json"] (.link "sub")
  tree.set ["link"] (.link "state/runs/cubes.json/../..")

/-- The command of the last stage reroutes the way to the snapshot. -/
def rerouting : Executor Unit := fun l => do
  if l.stage = "train" then modify fun w => { w with files := reroute w.files }
  executor "none" l

end Sample

/-- Where the way to the snapshot leads through a link in its place, the run gets through, but the
next execution does not come to its snapshot. -/
theorem not_unchanged_of_rerouting :
    ((Sample.linked.execute Sample.rerouting [] (.usual "cubes")).perform
      Sample.linkedWorld).1.isOk = true ∧
    ((Sample.linked.execute Sample.rerouting [] (.usual "cubes")).perform
      ((Sample.linked.execute Sample.rerouting [] (.usual "cubes")).perform
        Sample.linkedWorld).2).1 = .error (.ledger (.io .notADirectory)) := by
  constructor
  · decide +kernel
  · decide +kernel

end Pipeline

end RobotPipeline
