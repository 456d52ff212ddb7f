/-
  RobotPipeline/Proofs/Pipeline/Counted.lean
  ==========================================
  **Every launch is counted, and has a log of its own.**

  Opening, resetting, skipping and loading a run leave the numbers of its
  launches as they are. So what holds of the entries of one drive holds over
  any number of requests, as long as none takes the run off the record: a
  commit shows how often each stage was launched so far.

  Requests may be cut off. What is committed then is recovered when it is
  loaded, and keeps its numbers; but a stage that is committed as running and
  never launched is counted.
-/
import RobotPipeline.Proofs.Pipeline.Again
import RobotPipeline.Proofs.Pipeline.Numbered

namespace RobotPipeline.Pipeline

variable {σ : Type} {p : Pipeline} {env : Snapshot} {phase : Phase} {start : Run}
  {past events : List Event} {n : String → Nat} {runId dataset : String}

/-! ### Requests that find a run on record -/

/-- A run on record that shows the launches that were made. -/
structure Recorded (p : Pipeline) (dataset runId : String) (n : String → Nat) (run : Run) : Prop
    extends IsOf dataset run where
  names_eq : run.names = p.registry.names
  ordered : run.Ordered
  runId_eq : run.runId = runId
  counts : run.Counts n

/-- Entries that leave no launch behind, and the record as it is. -/
structure Barren (p : Pipeline) (events : List Event) : Prop where
  numbered : ∀ runId n, p.Numbered runId n events
  followed : Followed events
  launches_eq : launches events = []
  snapshot_eq : ∀ dataset reading, snapshotAfter dataset reading events = reading

/-- What a request makes of the record: it shows the launches of the request as well. -/
structure Goes (p : Pipeline) (dataset runId : String) (n : String → Nat)
    (reading : Except IoError String) (events : List Event) : Prop where
  numbered : p.Numbered runId n events
  followed : Followed events
  left : ∃ run, p.Recorded dataset runId (fun name => n name + (launches events).count name) run ∧
    snapshotAfter dataset reading events = .ok (Ledger.encode run)

section Requests

variable {run : Run} {reading : Except IoError String} {tree : FileTree} {d : Drive}

theorem barren_nil : p.Barren [] := by
  constructor
  · exact fun _ _ => numbered_nil
  · exact followed_nil
  · rfl
  · exact fun _ _ => rfl

theorem barren_refused (run : Run) (cause : LedgerError) : p.Barren [.refused run cause] := by
  constructor
  · exact fun _ _ => numbered_singleton trivial
  · exact followed_refused run cause
  · rfl
  · exact fun _ _ => rfl

theorem Barren.append {future : List Event} (hpast : p.Barren past) (hfuture : p.Barren future) :
    p.Barren (past ++ future) := by
  constructor
  · exact fun runId n => numbered_append (hpast.numbered runId n) (hfuture.numbered runId _)
  · exact followed_append hpast.followed hfuture.followed
  · rw [launches_append, hpast.launches_eq, hfuture.launches_eq, List.append_nil]
  · intro dataset reading
    rw [snapshotAfter_append, hpast.snapshot_eq, hfuture.snapshot_eq]

theorem Barren.goes (barren : p.Barren events) (recorded : p.Recorded dataset runId n run) :
    p.Goes dataset runId n (.ok (Ledger.encode run)) events :=
  ⟨barren.numbered runId n, barren.followed, run, by simpa [barren.launches_eq] using recorded,
    barren.snapshot_eq dataset _⟩

/-- Two requests, one after the other. -/
theorem Goes.append {future : List Event} (goes : p.Goes dataset runId n reading past)
    (h : ∀ run, p.Recorded dataset runId (fun name => n name + (launches past).count name) run →
      snapshotAfter dataset reading past = .ok (Ledger.encode run) →
      p.Goes dataset runId (fun name => n name + (launches past).count name)
        (.ok (Ledger.encode run)) future) :
    p.Goes dataset runId n reading (past ++ future) := by
  obtain ⟨numbered, followed, run, recorded, hrun⟩ := goes
  obtain ⟨numbered', followed', run', recorded', hrun'⟩ := h run recorded hrun
  refine ⟨numbered_append numbered numbered', followed_append followed followed', run', ?_, ?_⟩
  · simpa [launches_append, Nat.add_assoc] using recorded'
  · rw [snapshotAfter_append, hrun, hrun']

theorem Barren.append_goes {future : List Event} (barren : p.Barren past)
    (goes : p.Goes dataset runId n reading future) :
    p.Goes dataset runId n reading (past ++ future) := by
  obtain ⟨numbered, followed, run, recorded, hrun⟩ := goes
  refine ⟨numbered_append (barren.numbered runId n) ?_,
    followed_append barren.followed followed, run, ?_, ?_⟩
  · simpa [barren.launches_eq] using numbered
  · simpa [launches_append, barren.launches_eq] using recorded
  · rw [snapshotAfter_append, barren.snapshot_eq, hrun]

theorem Recorded.recover (recorded : p.Recorded dataset runId n run) :
    p.Recorded dataset runId n run.recover := by
  constructor
  · exact recorded.toIsOf.recover
  · exact run.names_recover.trans recorded.names_eq
  · exact recorded.ordered.recover
  · exact run.runId_recover.trans recorded.runId_eq
  · exact recorded.counts.recover

theorem fits_saved (recorded : p.Recorded dataset runId n run)
    (idle : ∀ r ∈ run.stages, r.status ≠ .running) : p.Fits runId n (.saved run) := by
  refine ⟨recorded.runId_eq, recorded.names_eq, ?_⟩
  intro name r hr
  simpa [status?_ne_running idle name] using recorded.counts name r hr

/-- A drive of a run that was opened with its launches. -/
theorem Recorded.driven (recorded : p.Recorded env.params.dataset runId n start)
    (opened : p.Opened tree env start) (trace : Trace p env (.ready start) events phase)
    (followed : Followed (.saved start :: events)) :
    p.Goes env.params.dataset runId n reading (.saved start :: events) := by
  have sound := opened.atRest.sound
  obtain ⟨numbered, runId_eq⟩ := trace.numbered sound recorded.counts
  rw [recorded.runId_eq] at numbered runId_eq
  have counts := trace.counts sound recorded.counts
  obtain ⟨hsnapshot, isOf⟩ := trace.snapshotAfter_eq opened reading
  have unmarked := trace.unmarked sound followed.tail
  constructor
  · have first := numbered_singleton (fits_saved recorded opened.atRest.idle)
    exact numbered_append first (by simpa [launches] using numbered)
  · exact followed
  · refine ⟨phase.run, ?_, hsnapshot⟩
    have sound' := trace.sound sound
    constructor
    · exact isOf
    · exact sound'.names_eq
    · exact sound'.ordered
    · exact runId_eq
    · intro name r hr
      simpa [Phase.shown, unmarked, launches] using counts name r hr

/-- A skip of a stage of a run that was opened with its launches. -/
theorem Recorded.skipped (recorded : p.Recorded dataset runId n run)
    (idle : ∀ r ∈ run.stages, r.status ≠ .running) (now : Instant) (stage note : String) :
    p.Goes dataset runId n reading [.saved (run.markSkipped now stage note)] := by
  have isOf : IsOf dataset run := recorded.toIsOf
  have idle' := not_running_markSkipped idle now stage note
  have skipped : p.Recorded dataset runId n (run.markSkipped now stage note) := by
    constructor
    · refine ⟨isOf.dataset_eq, (isOf.refresh now rfl rfl).parameters, ?_⟩
      exact Run.currentIndex_refresh_le now _
    · exact (Run.names_markSkipped ..).trans recorded.names_eq
    · exact recorded.ordered.markSkipped now stage note
    · exact recorded.runId_eq
    · exact recorded.counts.of_history?_eq (run.history?_markSkipped now stage note)
  exact ⟨numbered_singleton (fits_saved skipped idle'), followed_idle idle', _,
    by simpa [launches] using skipped, if_pos isOf.dataset_eq⟩

/-- What an invocation opens when a run is on record has its identifier and its launches. -/
theorem Recorded.opened (recorded : p.Recorded env.params.dataset runId n run)
    (hload : p.load tree env.params.dataset = .ok run) (opened : p.Opened tree env start) :
    p.Recorded env.params.dataset runId n start := by
  constructor
  · exact opened.isOf
  · exact opened.atRest.names_eq
  · exact opened.atRest.ordered
  · exact (opened.runId_eq (load_eq_ok_iff.mp hload).1).trans recorded.runId_eq
  · exact recorded.counts.of_history?_eq (opened.history?_eq hload)

theorem load_of_recorded (recorded : p.Recorded dataset runId n run)
    (reads : tree.readText (p.ledger.snapshotPath dataset) = .ok (Ledger.encode run)) :
    p.load tree dataset = .ok run.recover := by
  have isOf : IsOf dataset run := recorded.toIsOf
  obtain ⟨rfl, -, indexed⟩ := isOf
  exact load_of_encode reads recorded.names_eq recorded.ordered indexed

/-- A skip is cut off before it does something, or not at all. -/
theorem SkipStory.eq_of_prefix {stage : String} (h : p.SkipStory dataset stage tree events)
    (hpast : past <+: events) : past = [] ∨ past = events := by
  cases h with
  | rejected => exact .inl (List.prefix_nil.mp hpast)
  | refused _ _ _ _ _ => simpa [List.prefix_cons_iff] using hpast
  | skipped _ _ _ _ _ => simpa [List.prefix_cons_iff] using hpast

/-- A request goes on with the run on record. -/
theorem Request.Story.goes {r : Request} (story : Request.Story p tree r events)
    (hpast : past <+: events) (followed : Followed past) (about : r.IsAbout dataset)
    (recorded : p.Recorded dataset runId n run)
    (reads : tree.readText (p.ledger.snapshotPath dataset) = .ok (Ledger.encode run)) :
    p.Goes dataset runId n (.ok (Ledger.encode run)) past := by
  have hload := load_of_recorded recorded reads
  cases about with
  | @drive d about =>
    cases story with
    | drive story =>
      cases story.stopped hpast with
      | early => exact barren_nil.goes recorded
      | refused => exact (barren_refused _ _).goes recorded
      | @driving env start past phase henv opened trace =>
        obtain rfl : env.params.dataset = dataset := by
          apply Drive.dataset_eq_of_recorded about _ henv
          intro vars stage force _ run' params hload' hparams
          obtain rfl := Except.ok.inj (hload.symm.trans hload')
          obtain ⟨params', hparams', hdataset⟩ := recorded.recover.parameters
          obtain rfl := Option.some.inj (hparams.symm.trans hparams')
          exact hdataset
        exact (recorded.recover.opened hload opened).driven opened trace followed
  | skip =>
    cases story with
    | skip story =>
      rcases story.eq_of_prefix hpast with rfl | rfl
      · exact barren_nil.goes recorded
      cases story with
      | rejected => exact barren_nil.goes recorded
      | refused _ _ _ _ _ => exact (barren_refused _ _).goes recorded
      | skipped made now hrun _ _ =>
        have rest := atRest_runToSkip hrun
        rw [runToSkip, hload] at hrun
        obtain rfl := Except.ok.inj hrun
        exact recorded.recover.skipped rest.idle now _ _
  | status =>
    cases story
    rw [List.prefix_nil.mp hpast]
    exact barren_nil.goes recorded

end Requests

/-! ### Requests that find nothing on record -/

section Nothing

variable {executor : Executor σ} {w : World σ} {d : Drive} {e : Failure} {run : Run}

/-- A new run shows no launches. -/
theorem recorded_forRegistry (p : Pipeline) (params : Parameters) (now : Instant) :
    p.Recorded params.dataset (params.dataset ++ "-" ++ now.stamp) (fun _ => 0)
      (Run.forRegistry now p.registry params) := by
  have rest := atRest_forRegistry p now params
  constructor
  · exact ⟨rfl, ⟨params, rfl, rfl⟩, Run.currentIndex_refresh_le now _⟩
  · exact rest.names_eq
  · exact rest.ordered
  · rfl
  · intro name r hr
    exact congrArg (·.1) (Run.history_of_mem_forRegistry (Run.mem_of_record?_eq_some hr).1)

/-- Without a run on record nothing is retried. -/
theorem Drive.fresh_of_missing (henv : d.env? p w.files = some env)
    (hload : p.load w.files env.params.dataset = .error e) (about : d.dataset = env.params.dataset)
    (acts : ((d.act p executor).perform w).2.journal ≠ w.journal) : d.retried? = none := by
  cases d with
  | execute vars params => rfl
  | executeWith env' => rfl
  | retry vars asked stage force =>
    obtain rfl : asked = env.params.dataset := about
    simp [env?, hload] at henv
  | retryWith env' stage force =>
    cases henv
    refine absurd ?_ acts
    simp [act, Pipeline.retryWith, status, Action.perform_bind, hload]

/-- A request that finds nothing leaves nothing on record, or a run whose identifier is a name. -/
theorem Request.begins {r : Request} (executor : Executor σ) (w : World σ)
    (hpast : past <+: (r.answer p executor w).since w) (followed : Followed past)
    (about : r.IsAbout dataset)
    (found : w.files.readText (p.ledger.snapshotPath dataset) = .error .notFound) :
    p.Barren past ∨ ∃ runId, Path.IsName runId ∧
      p.Goes dataset runId (fun _ => 0) (.error .notFound) past := by
  have hload : p.load w.files dataset = .error (.ledger (.notFound dataset)) :=
    load_eq_notFound_iff.mpr ⟨found, rfl⟩
  have story := r.story p executor w
  generalize hevents : (r.answer p executor w).since w = events at story hpast
  cases about with
  | @drive d about =>
    cases story with
    | drive story =>
      cases story.stopped hpast with
      | early => exact .inl barren_nil
      | refused => exact .inl (barren_refused _ _)
      | @driving env start past phase henv opened trace =>
        have own : env.params.dataset = dataset := by
          apply Drive.dataset_eq_of_recorded about _ henv
          intro vars stage force _ run' params hload'
          simp [hload] at hload'
        subst own
        have acts : ((d.act p executor).perform w).2.journal ≠ w.journal := by
          intro same
          have none : (Request.answer p executor w (.drive d)).since w = [] :=
            World.since_eq_nil same
          rw [← hevents, none] at hpast
          simp at hpast
        have valid : env.params.Valid := by
          by_contra invalid
          have fresh := Drive.fresh_of_missing henv hload about acts
          exact acts (by rw [Drive.perform_of_invalid executor henv fresh invalid])
        have hname := isDatasetName_of_validate (validate_eq_ok_iff.mpr valid)
        cases opened with
        | resumed now hload' => simp [hload] at hload'
        | reset now hload' _ => simp [hload] at hload'
        | started now hload' =>
          have recorded := recorded_forRegistry p env.params now
          exact .inr ⟨_, isName_runId hname now, recorded.driven (.started now hload') trace
            followed⟩
  | skip =>
    cases story with
    | skip story =>
      rcases story.eq_of_prefix hpast with rfl | rfl
      · exact .inl barren_nil
      cases story with
      | rejected => exact .inl barren_nil
      | refused _ _ _ _ _ => exact .inl (barren_refused _ _)
      | skipped made now hrun _ _ =>
        have rest := atRest_runToSkip hrun
        rw [runToSkip, hload] at hrun
        cases hv : validate (.usual dataset) with
        | error e => simp [hv, Except.map] at hrun
        | ok _ =>
          obtain rfl : Run.forRegistry made p.registry (.usual dataset) = _ := by
            simpa [hv, Except.map] using hrun
          have hname := isDatasetName_of_validate hv
          have recorded := recorded_forRegistry p (.usual dataset) made
          exact .inr ⟨_, isName_runId hname made, recorded.skipped rest.idle now _ _⟩
  | status =>
    cases story
    rw [List.prefix_nil.mp hpast]
    exact .inl barren_nil

end Nothing

/-! ### Chronicles -/

/-- Turns that begin without a snapshot of a dataset, with what the snapshot reads as in the end.
Only the requests write it, and none of them takes the run off the record. A turn may be cut off, but
not between the commit that shows a stage as running and its launch. -/
inductive Chronicle (p : Pipeline) (dataset : String) :
    List (List Event) → Except IoError String → Prop where
  | nil : Chronicle p dataset [] (.error .notFound)
  | turn {turns : List (List Event)} {reading : Except IoError String}
      (h : Chronicle p dataset turns reading) {σ : Type} (executor : Executor σ) (w : World σ)
      (found : w.files.readText (p.ledger.snapshotPath dataset) = reading) {r : Request}
      (about : r.IsAbout dataset) {past : List Event}
      (hpast : past <+: (r.answer p executor w).since w)
      (uncut : past = (r.answer p executor w).since w ∨ Followed past) :
      Chronicle p dataset (turns ++ [past]) (snapshotAfter dataset reading past)

section Chronicle

variable {turns : List (List Event)} {reading : Except IoError String}

/-- A chronicle leaves nothing on record, or the run that it has made. -/
theorem Chronicle.goes (h : p.Chronicle dataset turns reading) :
    (p.Barren turns.flatten ∧ reading = .error .notFound) ∨ ∃ runId, Path.IsName runId ∧
      p.Goes dataset runId (fun _ => 0) (.error .notFound) turns.flatten ∧
      snapshotAfter dataset (.error .notFound) turns.flatten = reading := by
  induction h with
  | nil => exact .inl ⟨barren_nil, rfl⟩
  | @turn turns reading h σ executor w found r about past hpast uncut ih =>
    have story := r.story p executor w
    have followed : Followed past := by
      rcases uncut with rfl | followed
      · exact story.followed
      · exact followed
    rw [List.flatten_concat]
    rcases ih with ⟨barren, rfl⟩ | ⟨runId, hname, goes, rfl⟩
    · rcases r.begins executor w hpast followed about found with barren' | ⟨runId, hname, goes⟩
      · exact .inl ⟨barren.append barren', barren'.snapshot_eq dataset _⟩
      · refine .inr ⟨runId, hname, barren.append_goes goes, ?_⟩
        rw [snapshotAfter_append, barren.snapshot_eq]
    · refine .inr ⟨runId, hname, goes.append ?_, snapshotAfter_append ..⟩
      intro run recorded hrun
      rw [hrun] at found
      exact story.goes hpast followed about recorded found

/-- The launches of a run are counted, and have logs of their own. -/
structure Logged (p : Pipeline) (runId : String) (events : List Event) : Prop where
  /-- After every commit the records show how often each stage was launched, and count the launch
  that comes next. -/
  attempts : ∀ past run future, events = past ++ .saved run :: future →
    run.runId = runId ∧ run.names = p.registry.names ∧
      ∀ stage r, run.record? stage = some r →
        r.attempts.toNat = (launches past).count stage + if r.status = .running then 1 else 0
  /-- The log of a launch is named for the run, the stage and the number of the launch. -/
  logPath : ∀ past l future, events = past ++ .launched l :: future →
    l.stage ∈ p.registry.names ∧
    l.logPath = some (Path.join p.settings.stateDir "logs" ++ "/" ++ runId ++ "/" ++ l.stage ++ "-" ++
      Text.decimal ((launches past).count l.stage + 1) ++ ".log")
  /-- No two launches have the same log. -/
  distinct : ∀ past l middle l' future,
    events = past ++ .launched l :: middle ++ .launched l' :: future → l.logPath ≠ l'.logPath

/-- Where all numbers fit, the log of a launch has its number, and the number fits a record. -/
theorem Numbered.launch (numbered : p.Numbered runId (fun _ => 0) events)
    (few : ∀ stage, (launches events).count stage < 2 ^ 32) {l : Launch} {future : List Event}
    (hsplit : events = past ++ .launched l :: future) :
    l.stage ∈ p.registry.names ∧
    l.logPath = some (Path.join (Path.join p.settings.logsDir runId)
      (logName l.stage ((launches past).count l.stage + 1))) ∧
    (launches past).count l.stage + 1 < 2 ^ 32 := by
  obtain ⟨hstage, hpath⟩ := numbered past (.launched l) future hsplit
  have fits : (launches past).count l.stage + 1 < 2 ^ 32 := by
    have hfew := few l.stage
    simp [hsplit, launches_append, launches] at hfew
    omega
  simp only [Nat.zero_add, UInt32.toNat_ofNat_of_lt' fits] at hpath
  exact ⟨hstage, hpath, fits⟩

/-- The records of a commit show the launches before it, and the one that comes next. -/
theorem Numbered.attempts (numbered : p.Numbered runId (fun _ => 0) events)
    (followed : Followed events) (few : ∀ stage, (launches events).count stage < 2 ^ 32) {run : Run}
    {future : List Event} (hsplit : events = past ++ .saved run :: future) {stage : String}
    {r : StageRecord} (hr : run.record? stage = some r) :
    r.attempts.toNat = (launches past).count stage + if r.status = .running then 1 else 0 := by
  obtain ⟨-, -, counts⟩ := numbered past (.saved run) future hsplit
  have hstatus : run.status? stage = some r.status := by rw [Run.status?, hr, Option.map_some]
  rw [counts stage r hr]
  simp only [Nat.zero_add, hstatus, Option.some.injEq]
  apply UInt32.toNat_ofNat_of_lt'
  by_cases running : r.status = .running
  · -- the launch that is counted comes next
    rw [running] at hstatus
    obtain ⟨l, rest, rfl, rfl⟩ := followed past run future stage hsplit hstatus
    have next : events = (past ++ [.saved run]) ++ .launched l :: rest := by simp [hsplit]
    have fits := (numbered.launch few next).2.2
    simpa [running, launches_append, launches] using fits
  · have fits : (launches past).count stage < 2 ^ 32 := by
      have hfew := few stage
      simp [hsplit, launches_append] at hfew
      omega
    simpa [running] using fits

/-- Where all numbers fit, the launches are counted and have logs of their own. -/
theorem logged_of_numbered (hname : Path.IsName runId) (numbered : p.Numbered runId (fun _ => 0) events)
    (followed : Followed events) (plain : ∀ name ∈ p.registry.names, '/' ∉ name.toList)
    (few : ∀ stage, (launches events).count stage < 2 ^ 32) : p.Logged runId events := by
  constructor
  · intro past run future hsplit
    obtain ⟨runId_eq, names_eq, -⟩ := numbered past (.saved run) future hsplit
    exact ⟨runId_eq, names_eq, fun stage r hr => numbered.attempts followed few hsplit hr⟩
  · intro past l future hsplit
    obtain ⟨hstage, hpath, -⟩ := numbered.launch few hsplit
    have logs : Path.IsName "logs" := ⟨by decide, by decide, by decide, by decide⟩
    refine ⟨hstage, ?_⟩
    rw [hpath, Path.join_join hname (isName_logName (plain _ hstage) _), Settings.logsDir,
      Path.join_join logs hname, logName]
    simp [String.append_assoc]
  · intro past l middle l' future hsplit same
    have first : events = past ++ .launched l :: (middle ++ .launched l' :: future) := by
      simp [hsplit]
    obtain ⟨hstage, hpath, -⟩ := numbered.launch few first
    obtain ⟨hstage', hpath', -⟩ := numbered.launch few hsplit
    rw [hpath, hpath'] at same
    have hparts := congrArg Path.parts (Option.some.inj same)
    rw [Path.parts_join (isName_logName (plain _ hstage) _),
      Path.parts_join (isName_logName (plain _ hstage') _)] at hparts
    -- the same log would be that of the same launch, but the first is counted before the second
    obtain ⟨heq, hcount⟩ := logName_inj (List.singleton_inj.mp (List.append_cancel_left hparts))
    rw [heq] at hcount
    simp [launches_append, launches, heq] at hcount

/-- However many requests follow one another, as long as none takes the run off the record. -/
theorem logged_of_chronicle (h : p.Chronicle dataset turns reading)
    (plain : ∀ name ∈ p.registry.names, '/' ∉ name.toList)
    (few : ∀ stage, (launches turns.flatten).count stage < 2 ^ 32) :
    ∃ runId, p.Logged runId turns.flatten := by
  rcases h.goes with ⟨barren, -⟩ | ⟨runId, hname, goes, -⟩
  · have hname : Path.IsName "none" := ⟨by decide, by decide, by decide, by decide⟩
    exact ⟨"none", logged_of_numbered hname (barren.numbered _ _) barren.followed plain few⟩
  · exact ⟨runId, logged_of_numbered hname goes.numbered goes.followed plain few⟩

/-- Both stages of a pipeline are launched. -/
theorem logged_of_sample : ∃ (turns : List (List Event)) (runId : String),
    launches turns.flatten = ["record", "train"] ∧ Sample.pipeline.Logged runId turns.flatten := by
  have found : Sample.world.files.readText (Sample.pipeline.ledger.snapshotPath "cubes") =
      .error .notFound := by decide +kernel
  have chronicle := Chronicle.nil.turn (Sample.executor "none") Sample.world found
    (.drive (d := .execute [] (.usual "cubes")) rfl) (List.prefix_refl _) (.inl rfl)
  have stages : launches ([] ++ [(Request.answer Sample.pipeline (Sample.executor "none")
      Sample.world (.drive (.execute [] (.usual "cubes")))).since Sample.world]).flatten =
        ["record", "train"] := by decide +kernel
  obtain ⟨runId, logged⟩ := logged_of_chronicle chronicle (by decide) (by
    intro stage
    rw [stages]
    exact Nat.lt_of_le_of_lt List.count_le_length (by decide))
  exact ⟨_, runId, stages, logged⟩

end Chronicle

end RobotPipeline.Pipeline
