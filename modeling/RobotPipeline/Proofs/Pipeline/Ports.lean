/-
  RobotPipeline/Proofs/Pipeline/Ports.lean
  ========================================
  **A retry takes ports and account from where it is started, not from the record.**

  The parameters on record lose their ports and their account before anything
  is made of them, and the run that is opened records the new parameters. So
  two snapshots that differ in these only lead to the same opened run. From its
  commit on the files are the same too, and with them all that follows.
-/
import RobotPipeline.CommandLine.Perform
import RobotPipeline.Proofs.FileTree.Shape
import RobotPipeline.Proofs.Pipeline.Validity
import RobotPipeline.Proofs.Snapshot

namespace RobotPipeline

/-! ### Ports and account of a retry -/

/-- The ports and the account that the operator names for a retry. -/
structure Overrides where
  followerPort : Option String := none
  leaderPort : Option String := none
  hubUser : Option String := none

namespace Overrides

/-- Parameters with what is named in place of what they have. -/
def apply (o : Overrides) (params : Parameters) : Parameters :=
  { params with
    followerPort := o.followerPort.or params.followerPort
    leaderPort := o.leaderPort.or params.leaderPort
    hubUser := o.hubUser.or params.hubUser }

end Overrides

/-- What stands in the hole of a port or of the account: what is named, or else the variable,
without the blanks around it; nothing if neither is there. -/
def currentText (named : Option String) (vars : Variables) (name : String) : String :=
  Text.trimText ((named.or (vars.get? name)).getD "")

/-- In the environment of a retry, the holes of ports and account hold the current ones. -/
theorem Snapshot.current_of_take (o : Overrides) (params : Parameters) (settings : Settings)
    (vars : Variables) :
    let values := (Snapshot.take (o.apply params.withoutPorts) settings vars).values
    values.get? "follower_port" =
        some (currentText o.followerPort vars Variables.followerPort) ∧
      values.get? "leader_port" = some (currentText o.leaderPort vars Variables.leaderPort) ∧
      values.get? "hf_user" = some (currentText o.hubUser vars Variables.hubUser) := by
  simp only [values_follower_port, values_leader_port, values_hf_user, trimmedVar,
    get?_followerPort, get?_leaderPort, get?_hubUser, Overrides.apply, Parameters.withoutPorts,
    Option.or_none]
  exact ⟨rfl, rfl, rfl⟩

namespace Pipeline

open RobotPipeline.Action

variable {σ : Type} {p : Pipeline} {executor : Executor σ} {vars : Variables}
  {dataset stage : String} {force : Bool} {o : Overrides}

/-- A retry with some ports or the account named by the operator. -/
def retryNaming (p : Pipeline) (executor : Executor σ) (vars : Variables) (dataset stage : String)
    (force : Bool) (o : Overrides) : Action σ Failure Run := do
  let params ← p.retryParameters dataset
  p.retryWith executor (Snapshot.take (o.apply params) p.settings vars) stage force

/-- The environment of a retry: the parameters on record, without ports and account, with what the
operator names, taken together with the variables of now. -/
def retryEnv (p : Pipeline) (vars : Variables) (dataset : String) (o : Overrides) (recorded : Run) :
    Snapshot :=
  Snapshot.take (o.apply (recorded.parameters.getD (.usual dataset)).withoutPorts) p.settings vars

theorem dataset_retryEnv {recorded : Run}
    (own : ∀ params, recorded.parameters = some params → params.dataset = dataset) :
    (p.retryEnv vars dataset o recorded).params.dataset = dataset := by
  cases hp : recorded.parameters with
  | none => simp [retryEnv, hp, Snapshot.take, Overrides.apply, Parameters.withoutPorts,
      Parameters.usual]
  | some params =>
    simpa [retryEnv, hp, Snapshot.take, Overrides.apply, Parameters.withoutPorts]
      using own params hp

theorem retryNaming_of_load {w : World σ} {recorded : Run}
    (hload : p.load w.files dataset = .ok recorded) :
    (p.retryNaming executor vars dataset stage force o).perform w =
      (p.retryWith executor (p.retryEnv vars dataset o recorded) stage force).perform w := by
  simp only [retryNaming, retryParameters, status, perform_bind, perform_get, perform_ofExcept,
    perform_pure, hload, retryEnv]

theorem retryNaming_of_error {w : World σ} {e : Failure}
    (hload : p.load w.files dataset = .error e) :
    (p.retryNaming executor vars dataset stage force o).perform w = (.error e, w) := by
  simp only [retryNaming, retryParameters, status, perform_bind, perform_get, perform_ofExcept,
    hload]

theorem retry_eq_retryNaming :
    p.retry executor vars dataset stage force =
      p.retryNaming executor vars dataset stage force {} := rfl

/-- The command line retries so, and does not show the run. -/
theorem perform_performTask_retry (w : World σ) :
    (CommandLine.performTask p executor vars
        (.retry dataset stage force o.followerPort o.leaderPort o.hubUser)).perform w =
      (((p.retryNaming executor vars dataset stage force o).perform w).1.map fun _ => (),
        ((p.retryNaming executor vars dataset stage force o).perform w).2) := by
  have same : CommandLine.performTask p executor vars
      (.retry dataset stage force o.followerPort o.leaderPort o.hubUser) =
        p.retryNaming executor vars dataset stage force o >>= fun _ => pure () := by
    simp only [CommandLine.performTask, retryNaming, bind_assoc]
    rfl
  rw [same, perform_bind]
  obtain ⟨result, after⟩ := (p.retryNaming executor vars dataset stage force o).perform w
  cases result <;> rfl

/-- Two runs differ at most in the ports and the account that they record. -/
structure SameButPorts (run run' : Run) : Prop where
  rest : run' = { run with parameters := run'.parameters }
  parameters : run'.parameters.map Parameters.withoutPorts =
    run.parameters.map Parameters.withoutPorts

namespace SameButPorts

variable {run run' : Run}

theorem names_eq (h : SameButPorts run run') : run'.names = run.names :=
  (congrArg Run.names h.rest).trans rfl

theorem dataset_eq (h : SameButPorts run run') : run'.dataset = run.dataset :=
  (congrArg Run.dataset h.rest).trans rfl

/-- The run that a retry starts from records new parameters, so the old ones do not matter. -/
theorem reset_eq (h : SameButPorts run run') (now : Instant) (env : Snapshot) :
    p.resetForRetry now env stage force run' = p.resetForRetry now env stage force run :=
  (congrArg (p.resetForRetry now env stage force) h.rest).trans rfl

theorem withoutPorts_eq (h : SameButPorts run run') :
    (run'.parameters.getD (.usual dataset)).withoutPorts =
      (run.parameters.getD (.usual dataset)).withoutPorts := by
  have hparams := h.parameters
  cases hp : run.parameters <;> cases hp' : run'.parameters <;> simp_all

end SameButPorts

/-! ### Two courses -/

/-- What was performed gave the same and made the same entries since a world, and it left the same
world if it has committed anything. -/
structure SameCourse {α : Type} (w : World σ) (done done' : Except Failure α × World σ) :
    Prop where
  result : done'.1 = done.1
  entries : done'.2.since w = done.2.since w
  world : (∃ run, .saved run ∈ done.2.since w) → done'.2 = done.2

section SameCourse

variable {α : Type} {w after : World σ} {files' : FileTree} {there : Location} {run run' : Run}

theorem SameCourse.looked {readings : Nat} {done done' : Except Failure α × World σ}
    (h : SameCourse { w with readings := readings } done done') : SameCourse w done done' :=
  ⟨h.result, h.entries, h.world⟩

theorem sameCourse_of_journal_eq {result : Except Failure α} (h : after.journal = w.journal) :
    SameCourse w (result, after) (result, { after with files := files' }) := by
  have hsince : after.since w = [] := World.since_eq_nil h
  refine ⟨rfl, rfl, ?_⟩
  rintro ⟨run, hsaved⟩
  rw [hsince] at hsaved
  cases hsaved

/-- Once the same run is committed, and so the same files are left, all is the same. -/
theorem sameCourse_save (next : Unit → Action σ Failure α)
    (hwrite : p.ledger.write files' run = p.ledger.write w.files run) :
    SameCourse w ((save p.ledger run >>= next).perform w)
      ((save p.ledger run >>= next).perform { w with files := files' }) := by
  have hcommit : commit p.ledger run { w with files := files' } = commit p.ledger run w := by
    simp only [commit, Ledger.save, hwrite]
  rw [perform_bind, perform_save, perform_bind, perform_save, hcommit]
  cases commit p.ledger run w with
  | ok files => exact ⟨rfl, rfl, fun _ => rfl⟩
  | error cause =>
    -- nothing is committed, so the files may go on to differ
    have hsince : World.since { w with
        commits := w.commits + 1, journal := .refused run cause :: w.journal } w =
          [.refused run cause] := World.since_eq rfl
    refine ⟨rfl, rfl, ?_⟩
    rintro ⟨saved, hsaved⟩
    dsimp only at hsaved
    rw [hsince] at hsaved
    simp at hsaved

theorem sameCourse_retryWith {env : Snapshot}
    (differ : FileTree.DifferAt (p.ledger.snapshotPath env.params.dataset) there w.files files')
    (hload : p.load w.files env.params.dataset = .ok run)
    (hload' : p.load files' env.params.dataset = .ok run') (same : SameButPorts run run') :
    SameCourse w ((p.retryWith executor env stage force).perform w)
      ((p.retryWith executor env stage force).perform { w with files := files' }) := by
  rw [retryWith_of_load hload, retryWith_of_load (w := { w with files := files' }) hload']
  simp only [perform_bind now, perform_now, perform_bind (ofExcept _), perform_ofExcept,
    same.reset_eq]
  cases hreset : p.resetForRetry (w.clock w.readings) env stage force run with
  | error e => exact sameCourse_of_journal_eq rfl
  | ok opened =>
    obtain ⟨place, -, -, hopened⟩ := resetForRetry_eq_ok hreset
    have hdataset : opened.dataset = env.params.dataset := by
      rw [hopened]
      exact (atRest_of_load hload).dataset_eq
    rw [← hdataset] at differ
    have course := sameCourse_save (w := { w with readings := w.readings + 1 })
      (fun _ => p.tell (Progress.resumed opened) >>= fun _ => p.drive executor env opened)
      differ.write_eq
    exact course.looked

theorem retryEnv_eq (same : SameButPorts run run') :
    p.retryEnv vars dataset o run' = p.retryEnv vars dataset o run := by
  unfold retryEnv
  rw [same.withoutPorts_eq]

theorem sameCourse_retryNaming
    (differ : FileTree.DifferAt (p.ledger.snapshotPath dataset) there w.files files')
    (hload : p.ledger.load w.files dataset = .ok run)
    (hload' : p.ledger.load files' dataset = .ok run') (same : SameButPorts run run')
    (own : ∀ params, run.parameters = some params → params.dataset = dataset) :
    SameCourse w ((p.retryNaming executor vars dataset stage force o).perform w)
      ((p.retryNaming executor vars dataset stage force o).perform { w with files := files' }) := by
  by_cases hn : run.names = p.registry.names
  · have loads : p.load w.files dataset = .ok run := load_eq_ok_iff.mpr ⟨hload, hn⟩
    have loads' : p.load files' dataset = .ok run' :=
      load_eq_ok_iff.mpr ⟨hload', same.names_eq.trans hn⟩
    rw [retryNaming_of_load loads, retryNaming_of_load (w := { w with files := files' }) loads',
      retryEnv_eq same]
    have hown : (p.retryEnv vars dataset o run).params.dataset = dataset := dataset_retryEnv own
    generalize p.retryEnv vars dataset o run = env at hown ⊢
    rw [← hown] at differ loads loads'
    exact sameCourse_retryWith differ loads loads' same
  · -- the error names the stages on record, which are the same
    have fails : p.load w.files dataset = .error (mismatch run) := by
      simp [load, hload, hn]
    have fails' : p.load files' dataset = .error (mismatch run) := by
      simp [load, hload', same.names_eq, hn, mismatch, same.dataset_eq]
    rw [retryNaming_of_error fails, retryNaming_of_error (w := { w with files := files' }) fails']
    exact sameCourse_of_journal_eq rfl

end SameCourse

/-- What a retry launches is a stage of the recorded run, filled in from the environment of the
retry, right after its checks in this environment and the commit that it is running. -/
theorem exists_launchOf_of_retryNaming {w : World σ} {recorded : Run} {past future : List Event}
    {l : Launch} (loads : p.ledger.load w.files dataset = .ok recorded)
    (own : ∀ params, recorded.parameters = some params → params.dataset = dataset)
    (h : ((p.retryNaming executor vars dataset stage force o).perform w).2.since w =
      past ++ .launched l :: future) :
    ∃ sofar files run s now, s ∈ p.registry.stages ∧ run.runId = recorded.runId ∧
      run.dataset = dataset ∧
      past = sofar ++ [.checked s.name (p.retryEnv vars dataset o recorded) files [],
        .saved (run.markRunning now s.name)] ∧
      l = p.launchOf (p.retryEnv vars dataset o recorded) run s := by
  cases hload : p.load w.files dataset with
  | error e =>
    rw [retryNaming_of_error hload, World.since_eq_nil rfl] at h
    simp at h
  | ok run =>
    obtain rfl := Except.ok.inj (loads.symm.trans (load_eq_ok_iff.mp hload).1)
    have story := Request.story p executor
      (.drive (.retryWith (p.retryEnv vars dataset o recorded) stage force)) w
    rw [retryNaming_of_load hload] at h
    rw [Request.answer, Drive.act, h] at story
    obtain ⟨d, env, start, sofar, files, run, s, now, hd, henv, opened, hs, runId_eq, dataset_eq,
      hpast, hl⟩ := story.exists_launchOf
    cases hd
    cases henv
    have hown : (p.retryEnv vars dataset o recorded).params.dataset = dataset :=
      dataset_retryEnv own
    have loads' : p.ledger.load w.files (p.retryEnv vars dataset o recorded).params.dataset =
        .ok recorded := by
      rw [hown]
      exact loads
    refine ⟨sofar, files, run, s, now, hs, runId_eq.trans (opened.runId_eq loads'), ?_, hpast, hl⟩
    rw [dataset_eq, opened.atRest.dataset_eq, hown]

/-- Two snapshots of a dataset that differ in the recorded ports and account only, on disks that are
otherwise the same, are retried alike: the retries give the same, make the same checks, commits and
launches, and leave the same world once anything is committed. What is launched is a stage of the
pipeline, filled in from the environment of the retry, which holds the ports and the account of
now. -/
theorem same_of_ports (executor : Executor σ) (vars : Variables) (stage : String) (force : Bool)
    (o : Overrides) {w : World σ} {files' : FileTree} {there : Location} {run run' : Run}
    (differ : FileTree.DifferAt (p.ledger.snapshotPath dataset) there w.files files')
    (hload : p.ledger.load w.files dataset = .ok run)
    (hload' : p.ledger.load files' dataset = .ok run') (same : SameButPorts run run')
    (own : ∀ params, run.parameters = some params → params.dataset = dataset) :
    let retry := p.retryNaming executor vars dataset stage force o
    let env := p.retryEnv vars dataset o run
    let w' := { w with files := files' }
    (retry.perform w').1 = (retry.perform w).1 ∧
    (retry.perform w').2.since w' = (retry.perform w).2.since w ∧
    ((∃ saved, .saved saved ∈ (retry.perform w).2.since w) →
      (retry.perform w').2 = (retry.perform w).2) ∧
    (∀ past l future, (retry.perform w).2.since w = past ++ .launched l :: future →
      ∃ sofar files earlier s now, s ∈ p.registry.stages ∧ earlier.runId = run.runId ∧
        earlier.dataset = dataset ∧
        past = sofar ++ [.checked s.name env files [], .saved (earlier.markRunning now s.name)] ∧
        l = p.launchOf env earlier s) ∧
    (env.values.get? "follower_port" =
        some (currentText o.followerPort vars Variables.followerPort) ∧
      env.values.get? "leader_port" = some (currentText o.leaderPort vars Variables.leaderPort) ∧
      env.values.get? "hf_user" = some (currentText o.hubUser vars Variables.hubUser)) ∧
    (∀ w, (CommandLine.performTask p executor vars
        (.retry dataset stage force o.followerPort o.leaderPort o.hubUser)).perform w =
      ((retry.perform w).1.map fun _ => (), (retry.perform w).2)) ∧
    (o = {} → p.retry executor vars dataset stage force = retry) := by
  intro retry env w'
  have course : SameCourse w (retry.perform w) (retry.perform w') :=
    sameCourse_retryNaming differ hload hload' same own
  refine ⟨course.result, course.entries, course.world,
    fun past l future h => exists_launchOf_of_retryNaming hload own h,
    Snapshot.current_of_take o _ p.settings vars, perform_performTask_retry, ?_⟩
  rintro rfl
  exact retry_eq_retryNaming

namespace Sample

/-- A run whose first stage was lost, with a port and an account on record. -/
def portedRun (port account : String) : Run :=
  { (Run.forRegistry noon registry (.usual "cubes")).markFailed noon "record" "lost" true with
    parameters := some { Parameters.usual "cubes" with
      followerPort := some port
      hubUser := some account } }

def ported (port account : String) : World Unit :=
  { world with files := recorded (Ledger.encode (portedRun port account)) }

/-- The variables of now. -/
def pluggedIn : Variables := [("FOLLOWER_PORT", "/dev/ttyACM2"), ("HF_USER", " me ")]

end Sample

theorem load_ported (port account : String) :
    Sample.pipeline.load (Sample.ported port account).files "cubes" =
      .ok (Sample.portedRun port account) := by
  have ordered : (Sample.portedRun port account).Ordered :=
    (Run.orderViolation?_eq_none_iff _).mp rfl
  have recovered : (Sample.portedRun port account).recover = Sample.portedRun port account := rfl
  have loads : Sample.pipeline.load (Sample.ported port account).files "cubes" =
      .ok (Sample.portedRun port account).recover :=
    load_recorded rfl rfl ordered (Nat.zero_le 2)
  rw [loads, recovered]

/-- The port and the account that were used last do not matter for a retry: the command is filled in
with the account of now. -/
theorem same_of_ported :
    let retry := Sample.pipeline.retry (Sample.executor "train") Sample.pluggedIn "cubes" "record"
      false
    let w := Sample.ported "/dev/ttyACM0" "she"
    (retry.perform (Sample.ported "/dev/ttyACM1" "you")).1 = (retry.perform w).1 ∧
      ∃ l, .launched l ∈ (retry.perform w).2.since w ∧
        l.arguments = ["lerobot-record", "--dataset.repo_id=me/cubes"] := by
  intro retry w
  have erased : (Sample.ported "/dev/ttyACM1" "you").files.erase ["state", "runs", "cubes.json"] =
      w.files.erase ["state", "runs", "cubes.json"] := by
    simp [w, Sample.ported, Sample.recorded, FileTree.erase]
  have differ : FileTree.DifferAt (Sample.pipeline.ledger.snapshotPath "cubes")
      ["state", "runs", "cubes.json"] w.files (Sample.ported "/dev/ttyACM1" "you").files :=
    ⟨⟨_, _, rfl⟩, ⟨_, _, rfl⟩, erased⟩
  have own : ∀ params, (Sample.portedRun "/dev/ttyACM0" "she").parameters = some params →
      params.dataset = "cubes" := by
    rintro params ⟨⟩
    rfl
  have same : SameButPorts (Sample.portedRun "/dev/ttyACM0" "she")
      (Sample.portedRun "/dev/ttyACM1" "you") := ⟨rfl, rfl⟩
  have loads := (load_eq_ok_iff.mp (load_ported "/dev/ttyACM0" "she")).1
  have loads' := (load_eq_ok_iff.mp (load_ported "/dev/ttyACM1" "you")).1
  obtain ⟨result, -, -, launched, -⟩ := same_of_ports (Sample.executor "train") Sample.pluggedIn
    "record" false {} differ loads loads' same own
  refine ⟨result, ?_⟩
  have out : ((retry.perform w).2.since w).any (Sample.isLaunchOf "record") = true := by
    have again : Sample.pipeline.load w.files (Sample.pipeline.retryEnv Sample.pluggedIn "cubes" {}
        (Sample.portedRun "/dev/ttyACM0" "she")).params.dataset = .ok _ := load_ported _ _
    rw [show retry.perform w = _ from retryNaming_of_load (o := {}) (load_ported _ _),
      retryWith_of_load again]
    decide +kernel
  obtain ⟨past, l, future, hsplit, hstage⟩ := exists_launch out
  refine ⟨l, by simp [hsplit], ?_⟩
  obtain ⟨-, -, earlier, s, -, mem, -, -, -, rfl⟩ := launched past l future hsplit
  have arguments : (Sample.pipeline.retryEnv Sample.pluggedIn "cubes" {}
      (Sample.portedRun "/dev/ttyACM0" "she")).arguments Sample.record =
        ["lerobot-record", "--dataset.repo_id=me/cubes"] := by decide +kernel
  rcases List.mem_pair.mp mem with rfl | rfl
  · exact arguments
  · exact absurd hstage (show "train" ≠ "record" by decide)

end Pipeline

end RobotPipeline
