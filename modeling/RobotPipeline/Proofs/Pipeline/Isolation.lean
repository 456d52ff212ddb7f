/-
  RobotPipeline/Proofs/Pipeline/Isolation.lean
  ============================================
  **A request about one dataset leaves the others alone.**

  The slot of another dataset is among what an invocation keeps, and every
  launch is for a run with the identifier on record.

  Which dataset is opened is another matter. A retry takes it from the
  parameters on record, which nothing ties to the dataset that it was asked
  for; and a restart takes the name in the archive from the identifier on
  record, which may lead out of it.
-/
import RobotPipeline.Proofs.Ledger.Slot
import RobotPipeline.Proofs.Pipeline.Ports

namespace RobotPipeline

namespace Pipeline

open RobotPipeline.Action

variable {σ : Type} {p : Pipeline} {executor : Executor σ} {dataset : String}

/-! ### What is launched -/

/-- The environment that a request drives in, if it drives anything. -/
def Request.env? (p : Pipeline) (tree : FileTree) : Request → Option Snapshot
  | .drive d => d.env? p tree
  | _ => none

/-- A command is that of a stage of the pipeline and of a run of a dataset with an identifier, filled
in from the environment of a request, which has the parameters of the same dataset. -/
def IsLaunchFor (p : Pipeline) (dataset runId : String) (env? : Option Snapshot) (l : Launch) :
    Prop :=
  ∃ env run s, env? = some env ∧ env.params.dataset = dataset ∧ s ∈ p.registry.stages ∧
    run.dataset = dataset ∧ run.runId = runId ∧ l = p.launchOf env run s

variable {env : Snapshot} {recorded : Run}

/-- What is launched for a request is for the recorded run. -/
theorem Request.Story.launched {r : Request} {tree : FileTree} {events : List Event}
    (h : Story p tree r events)
    (own : ∀ env, r.env? p tree = some env → env.params.dataset = dataset)
    (loads : p.ledger.load tree dataset = .ok recorded) :
    ∀ l, .launched l ∈ events → p.IsLaunchFor dataset recorded.runId (r.env? p tree) l := by
  intro l hl
  obtain ⟨past, future, rfl⟩ := List.append_of_mem hl
  obtain ⟨d, env, start, -, -, run, s, -, rfl, henv, opened, mem, runId_eq, dataset_eq, -, hl⟩ :=
    h.exists_launchOf
  obtain rfl := own env henv
  exact ⟨env, run, s, henv, rfl, mem, dataset_eq.trans opened.atRest.dataset_eq,
    runId_eq.trans (opened.runId_eq loads), hl⟩

/-! ### Isolation -/

/-- Whoever launches the commands leaves all snapshots as they are. -/
def Spares (executor : Executor σ) (l : Ledger) : Prop :=
  ∀ (launch : Launch) (w : World σ) (dataset : String),
    l.slot ((executor launch).perform w).2.files dataset = l.slot w.files dataset

/-- From one world to another nothing has become of the snapshot of one dataset, and commands were
launched only for the recorded run of another, in the environment of the request. -/
structure Isolated (p : Pipeline) (dataset other : String) (recorded : Run)
    (env? : Option Snapshot) (w after : World σ) : Prop where
  slot_eq : p.ledger.slot after.files other = p.ledger.slot w.files other
  launched : ∀ l, .launched l ∈ after.since w → p.IsLaunchFor dataset recorded.runId env? l

/-- A request names a dataset: it is about the dataset, or takes its run off the record. -/
def Request.Names (dataset : String) (r : Request) : Prop :=
  r.IsAbout dataset ∨ r = .restart dataset

/-- What is on record does not lead a request to another dataset: the parameters that a retry starts
from name the dataset, and the identifier that a restart archives under is part of a name. -/
def Request.StaysWith (recorded : Run) : Request → Prop
  | .drive (.retry _ dataset _ _) =>
    ∀ params, recorded.parameters = some params → params.dataset = dataset
  | .restart _ => Path.IsSafe recorded.runId
  | _ => True

variable {other : String} {w : World σ}

/-- Where the snapshot of a dataset is a file, commits of its runs leave the slots of the others. -/
theorem kept_slot (safe : Path.IsSafe dataset) (safe' : Path.IsSafe other) (hne : other ≠ dataset)
    (spares : Spares executor p.ledger) (before : Except IoError FileTree.Spot) :
    p.Kept executor dataset (fun w : World σ =>
      p.ledger.HasFile w.files dataset ∧ p.ledger.slot w.files other = before) := by
  apply Kept.of_files (P := fun tree =>
    p.ledger.HasFile tree dataset ∧ p.ledger.slot tree other = before)
  · rintro run tree tree' hrun ⟨hasFile, hslot⟩ hwrite
    obtain ⟨loc, content, mode, holds⟩ := (Ledger.hasFile_iff safe).mp hasFile
    obtain rfl := Except.ok.inj ((holds.write_eq safe hrun).symm.trans hwrite)
    exact ⟨(Ledger.hasFile_iff safe).mpr ⟨_, _, _, holds.set _ _⟩,
      (holds.slot_set safe' hne _).trans hslot⟩
  · rintro l w ⟨⟨there, content, mode, hown⟩, hslot⟩
    exact ⟨⟨there, content, mode, (spares l w dataset).trans hown⟩,
      (spares l w other).trans hslot⟩

theorem Drive.dataset_eq_of_staysWith {d : Drive} {tree : FileTree} (about : d.dataset = dataset)
    (stays : (Request.drive d).StaysWith recorded)
    (loads : p.ledger.load tree dataset = .ok recorded) (henv : d.env? p tree = some env) :
    env.params.dataset = dataset := by
  apply Drive.dataset_eq_of_recorded about _ henv
  rintro vars stage force rfl run params hload hparams
  obtain rfl := Except.ok.inj (loads.symm.trans (load_eq_ok_iff.mp hload).1)
  exact stays params hparams

theorem slot_restart (safe : Path.IsSafe dataset) (safe' : Path.IsSafe other)
    (hne : other ≠ dataset) (linkFree : p.ledger.LinkFree w.files)
    (loads : p.ledger.load w.files dataset = .ok recorded) (plain : Path.IsSafe recorded.runId) :
    p.ledger.slot ((p.restart dataset).perform w).2.files other =
      p.ledger.slot w.files other := by
  unfold restart
  simp only [perform_bind, perform_now, perform_get]
  cases harchive : p.ledger.archive w.files (w.clock w.readings) dataset with
  | error e => rfl
  | ok archived => exact Ledger.slot_archive safe safe' hne linkFree loads plain harchive

/-- A request that names a dataset, and is not led to another, is isolated. -/
theorem Request.isolated {r : Request} (names : r.Names dataset) (stays : r.StaysWith recorded)
    (safe : Path.IsSafe dataset) (safe' : Path.IsSafe other) (hne : other ≠ dataset)
    (linkFree : p.ledger.LinkFree w.files)
    (loads : p.ledger.load w.files dataset = .ok recorded)
    (spares : Spares executor p.ledger) :
    p.Isolated dataset other recorded (r.env? p w.files) w (r.answer p executor w) := by
  have kept := kept_slot safe safe' hne spares (p.ledger.slot w.files other)
  have found := And.intro (Ledger.hasFile_of_load safe (linkFree.slot_ne_link safe) loads)
    (Eq.refl (p.ledger.slot w.files other))
  have own : ∀ env, r.env? p w.files = some env → env.params.dataset = dataset := by
    intro env henv
    rcases names with about | rfl
    · cases about with
      | drive about => exact Drive.dataset_eq_of_staysWith about stays loads henv
      | skip => cases henv
      | status => cases henv
    · cases henv
  refine ⟨?_, (r.story p executor w).launched own loads⟩
  -- a restart commits no run: what it moves is dealt with by itself
  rcases names with about | rfl
  · cases about with
    | @drive d _ => exact (Drive.keeps kept own found).2
    | skip => exact (keeps_skip kept _ w found).1.2
    | status => rfl
  · exact slot_restart safe safe' hne linkFree loads stays

/-- The retry of the command line is isolated like any other. -/
theorem isolated_performTask_retry {vars : Variables} {stage : String} {force : Bool}
    {o : Overrides} (own : ∀ params, recorded.parameters = some params → params.dataset = dataset)
    (safe : Path.IsSafe dataset) (safe' : Path.IsSafe other) (hne : other ≠ dataset)
    (linkFree : p.ledger.LinkFree w.files)
    (loads : p.ledger.load w.files dataset = .ok recorded)
    (spares : Spares executor p.ledger) :
    p.Isolated dataset other recorded (some (p.retryEnv vars dataset o recorded)) w
      ((CommandLine.performTask p executor vars
        (.retry dataset stage force o.followerPort o.leaderPort o.hubUser)).perform w).2 := by
  rw [perform_performTask_retry]
  cases hload : p.load w.files dataset with
  | error e =>
    rw [retryNaming_of_error hload]
    exact ⟨rfl, by simp [World.since_eq_nil]⟩
  | ok run =>
    obtain rfl := Except.ok.inj (loads.symm.trans (load_eq_ok_iff.mp hload).1)
    rw [retryNaming_of_load hload]
    exact Request.isolated (r := .drive (.retryWith (p.retryEnv vars dataset o recorded) stage force))
      (.inl (.drive (dataset_retryEnv own))) trivial safe safe' hne linkFree loads spares

/-- A request that names a dataset, and the retry of the command line, leave the snapshot of every
other dataset as it is, and launch commands only for the recorded run; unless what is on record
leads them to another dataset. -/
theorem isolated_of_recorded (valid : Parameters.isDatasetName dataset = true)
    (valid' : Parameters.isDatasetName other = true) (hne : dataset ≠ other)
    (linkFree : p.ledger.LinkFree w.files)
    (loads : p.ledger.load w.files dataset = .ok recorded)
    (spares : Spares executor p.ledger) :
    (∀ r : Request, r.Names dataset → r.StaysWith recorded →
      p.Isolated dataset other recorded (r.env? p w.files) w (r.answer p executor w)) ∧
    ∀ (vars : Variables) (stage : String) (force : Bool) (o : Overrides),
      (Request.drive (.retry vars dataset stage force)).StaysWith recorded →
      p.Isolated dataset other recorded (some (p.retryEnv vars dataset o recorded)) w
        ((CommandLine.performTask p executor vars
          (.retry dataset stage force o.followerPort o.leaderPort o.hubUser)).perform w).2 := by
  have safe := Path.isSafe_of_isDatasetName valid
  have safe' := Path.isSafe_of_isDatasetName valid'
  constructor
  · intro r names stays
    exact Request.isolated names stays safe safe' hne.symm linkFree loads spares
  · intro vars stage force o stays
    exact isolated_performTask_retry stays safe safe' hne.symm linkFree loads spares

/-! ### Samples -/

namespace Sample

/-- A disk with the snapshots of two datasets. -/
def shelf (alpha beta : String) : FileTree where
  entries := [(["state"], .directory), (["state", "runs"], .directory),
    (["state", "runs", "alpha.json"], .file (.text alpha) FileTree.privateMode),
    (["state", "runs", "beta.json"], .file (.text beta) FileTree.privateMode)]
  here := []

/-- A run of one dataset whose first stage was lost, with the parameters of another. -/
def lostRun (dataset parameters : String) : Run :=
  { (Run.forRegistry noon registry (.usual dataset)).markFailed noon "record" "lost" true with
    parameters := some (.usual parameters) }

/-- A world with the runs of two datasets on record, one of them with some parameters. -/
def bothRecorded (parameters : String) (cancelled : Bool) : World Unit where
  files := shelf (Ledger.encode (lostRun "alpha" parameters)) (Ledger.encode (lostRun "beta" "beta"))
  clock := fun _ => noon
  cancelled := cancelled
  tool := ()

/-- A world with one run on record, whose identifier has a slash in it. -/
def slashed : World Unit :=
  { world with
    files := {
      entries := [(["state"], .directory), (["state", "runs"], .directory),
        (["state", "runs", "demo.json"],
          .file (.text Ledger.Sample.slashed) FileTree.privateMode)]
      here := [] } }

end Sample

theorem holds_shelf (alpha beta : String) : ∃ loc,
    Sample.pipeline.ledger.Holds (Sample.shelf alpha beta) "beta" loc (.text beta)
      FileTree.privateMode := by
  have located : (Sample.shelf alpha beta).locate false
      (Sample.pipeline.ledger.snapshotPath "beta") =
        .ok (.present ["state", "runs", "beta.json"] (.file (.text beta) FileTree.privateMode)) := by
    rfl
  obtain ⟨loc, holds, -⟩ := Ledger.exists_holds (by decide) located
  exact ⟨loc, holds⟩

theorem readText_shelf (alpha beta : String) :
    (Sample.shelf alpha beta).readText (Sample.pipeline.ledger.snapshotPath "alpha") = .ok alpha ∧
      (Sample.shelf alpha beta).readText (Sample.pipeline.ledger.snapshotPath "beta") =
        .ok beta := by
  constructor
  · rfl
  · rfl

theorem load_lostRun {tree : FileTree} {asked parameters : String}
    (reads : tree.readText (Sample.pipeline.ledger.snapshotPath asked) =
      .ok (Ledger.encode (Sample.lostRun asked parameters))) :
    Sample.pipeline.load tree asked = .ok (Sample.lostRun asked parameters) := by
  have ordered : (Sample.lostRun asked parameters).Ordered :=
    (Run.orderViolation?_eq_none_iff _).mp rfl
  have recovered : (Sample.lostRun asked parameters).recover = Sample.lostRun asked parameters := rfl
  have loads : Sample.pipeline.load tree (Sample.lostRun asked parameters).dataset =
      .ok (Sample.lostRun asked parameters).recover :=
    load_of_encode reads rfl ordered (Nat.zero_le 2)
  rw [recovered] at loads
  exact loads

/-- One of two datasets is retried, by the parameters of its own that are on record. -/
theorem isolated_of_sample :
    let r := Request.drive (.retry [] "alpha" "record" false)
    let w := Sample.bothRecorded "alpha" false
    Sample.pipeline.Isolated "alpha" "beta" (Sample.lostRun "alpha" "alpha")
      (r.env? Sample.pipeline w.files) w
      (r.answer Sample.pipeline (Sample.executor "none") w) := by
  intro r w
  have linkFree : Sample.pipeline.ledger.LinkFree (Sample.bothRecorded "alpha" false).files := by
    apply Ledger.linkFree_of_entries
    simp [Sample.bothRecorded, Sample.shelf]
  have reads : (Sample.bothRecorded "alpha" false).files.readText
      (Sample.pipeline.ledger.snapshotPath "alpha") =
        .ok (Ledger.encode (Sample.lostRun "alpha" "alpha")) := (readText_shelf _ _).1
  have loads := (load_eq_ok_iff.mp (load_lostRun reads)).1
  have spares : Spares (Sample.executor "none") Sample.pipeline.ledger := fun _ _ _ => rfl
  apply (isolated_of_recorded (by decide) (by decide) (by decide) linkFree loads spares).1
  · exact .inl (.drive rfl)
  · rintro params ⟨⟩
    rfl

/-- When the operator has given up, a drive changes no file. -/
theorem files_driveFrom_of_cancelled {w : World σ} (h : w.cancelled = true) (place : Nat)
    (stages : List Stage) (run : Run) :
    ((p.driveFrom executor env place stages run).perform w).2.files = w.files := by
  induction stages generalizing place with
  | nil =>
    unfold driveFrom
    rw [perform_bind, perform_tell]
    exact files_told p _ w
  | cons s rest ih =>
    unfold driveFrom
    split
    · simp [runStage, perform_bind, World.wantsEnd, h]
    · exact ih _

/-- When the operator has given up, a retry still resets the recorded run. -/
theorem slot_retryWith_of_cancelled {stage : String} {force : Bool} {run opened : Run}
    {loc : Location} {content : Content} {mode : Nat} (henv : env.params.dataset = dataset)
    (cancelled : w.cancelled = true) (granted : w.refusals w.commits = none)
    (safe : Path.IsSafe dataset) (hload : p.load w.files dataset = .ok run)
    (holds : p.ledger.Holds w.files dataset loc content mode)
    (hreset : p.resetForRetry (w.clock w.readings) env stage force run = .ok opened) :
    p.ledger.slot ((p.retryWith executor env stage force).perform w).2.files dataset =
      .ok (.present (loc ++ [dataset ++ ".json"])
        (.file (.text (Ledger.encode opened)) FileTree.privateMode)) := by
  subst henv
  have rest := (Opened.reset _ hload hreset).atRest
  have ordered := (Run.orderViolation?_eq_none_iff opened).mpr rest.ordered
  have hcommit : ∀ readings, commit p.ledger opened { w with readings := readings } =
      .ok (w.files.set (loc ++ [env.params.dataset ++ ".json"])
        (.file (.text (Ledger.encode opened)) FileTree.privateMode)) := by
    intro readings
    simp only [commit, Ledger.save, ordered, granted, holds.write_eq safe rest.dataset_eq]
  unfold retryWith status drive
  simp only [perform_bind, perform_get, perform_ofExcept, hload, perform_now, hreset, perform_save,
    hcommit, perform_tell]
  rw [files_driveFrom_of_cancelled (by simpa using cancelled), files_told]
  exact (holds.set _ _).locate_eq safe false

/-- A retry by the parameters of another dataset resets the run of the other, and a restart under an
identifier with a slash makes a snapshot of another dataset. -/
theorem not_isolated :
    (∃ recorded,
      Sample.pipeline.ledger.load (Sample.bothRecorded "beta" true).files "alpha" = .ok recorded ∧
      ∀ env?, ¬ Sample.pipeline.Isolated "alpha" "beta" recorded env?
        (Sample.bothRecorded "beta" true)
        ((Request.drive (.retry [] "alpha" "record" false)).answer Sample.pipeline
          (Sample.executor "none") (Sample.bothRecorded "beta" true))) ∧
    ∃ recorded,
      Sample.pipeline.ledger.load Sample.slashed.files "demo" = .ok recorded ∧
      ∀ env?, ¬ Sample.pipeline.Isolated "demo" "other" recorded env? Sample.slashed
        ((Request.restart "demo").answer Sample.pipeline (Sample.executor "none")
          Sample.slashed) := by
  constructor
  · have halpha : Sample.pipeline.load (Sample.bothRecorded "beta" true).files "alpha" =
        .ok (Sample.lostRun "alpha" "beta") := load_lostRun (readText_shelf _ _).1
    have hbeta : Sample.pipeline.load (Sample.bothRecorded "beta" true).files "beta" =
        .ok (Sample.lostRun "beta" "beta") := load_lostRun (readText_shelf _ _).2
    obtain ⟨loc, holds⟩ := holds_shelf (Ledger.encode (Sample.lostRun "alpha" "beta"))
      (Ledger.encode (Sample.lostRun "beta" "beta"))
    obtain ⟨env, henv, hretry⟩ : ∃ env, env.params.dataset = "beta" ∧
        (Sample.pipeline.retry (Sample.executor "none") [] "alpha" "record" false).perform
            (Sample.bothRecorded "beta" true) =
          (Sample.pipeline.retryWith (Sample.executor "none") env "record" false).perform
            (Sample.bothRecorded "beta" true) := ⟨_, rfl, retry_of_load halpha⟩
    let opened : Run :=
      { ((Sample.lostRun "beta" "beta").change "record" StageRecord.reset).resetFrom Sample.noon 0
        with parameters := some env.params }
    have hreset : Sample.pipeline.resetForRetry Sample.noon env "record" false
        (Sample.lostRun "beta" "beta") = .ok opened := rfl
    refine ⟨_, (load_eq_ok_iff.mp halpha).1, ?_⟩
    rintro env? ⟨unchanged, -⟩
    rw [Request.answer, Drive.act, hretry,
      slot_retryWith_of_cancelled henv rfl rfl (by decide) hbeta holds hreset] at unchanged
    have hspot := Except.ok.inj (unchanged.trans (holds.locate_eq (by decide) false))
    have htext := Content.text.inj (Node.file.inj (FileTree.Spot.present.inj hspot).2).1
    -- a run can be told from its snapshot, and these two differ in the status of a stage
    have hdecode := congrArg Ledger.decode? htext
    rw [decode?_encode (p := Sample.pipeline) rfl (Nat.zero_le 2),
      decode?_encode (p := Sample.pipeline) rfl (Nat.zero_le 2)] at hdecode
    have hstatus : some Status.pending = some Status.failed :=
      congrArg (fun run => run.status? "record") (Option.some.inj hdecode)
    cases hstatus
  · have loads : (Sample.pipeline.ledger.load Sample.slashed.files "demo").isOk = true := by
      decide +kernel
    have changed : Sample.pipeline.ledger.slot ((Request.restart "demo").answer Sample.pipeline
        (Sample.executor "none") Sample.slashed).files "other" ≠
          Sample.pipeline.ledger.slot Sample.slashed.files "other" := by decide +kernel
    cases hload : Sample.pipeline.ledger.load Sample.slashed.files "demo" with
    | error e => simp [hload, Except.isOk, Except.toBool] at loads
    | ok recorded => exact ⟨recorded, rfl, fun _ isolated => changed isolated.slot_eq⟩

end Pipeline

end RobotPipeline
