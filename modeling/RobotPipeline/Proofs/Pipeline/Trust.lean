/-
  RobotPipeline/Proofs/Pipeline/Trust.lean
  ========================================
  **No stage is launched on what cannot be trusted.**

  A history of a dataset starts without a snapshot. In each turn one request
  about the dataset finds the snapshot as the turns before have left it, and
  may be stopped after any of its entries.

  Whatever the turns were, the run on record keeps the promise that a stage it
  does not mark unreliable is trusted (`History.onRecord`). The checks of a
  stage pass only if the producers of what it needs are not marked, and they
  come earlier in the pipeline, where all stages are complete.
-/
import RobotPipeline.Proofs.Pipeline.Attempts
import RobotPipeline.Proofs.Pipeline.Durable
import RobotPipeline.Proofs.Pipeline.Session
import RobotPipeline.Proofs.Readiness.Reported

namespace RobotPipeline

namespace Pipeline

/-! ### Histories -/

def Drive.dataset : Drive → String
  | execute _ params => params.dataset
  | executeWith env => env.params.dataset
  | retry _ dataset _ _ => dataset
  | retryWith env _ _ => env.params.dataset

/-- A request is about a dataset, and does not take its run off the record. -/
inductive Request.IsAbout (dataset : String) : Request → Prop where
  | drive {d : Drive} (h : d.dataset = dataset) : IsAbout dataset (.drive d)
  | skip {stage : String} : IsAbout dataset (.skip dataset stage)
  | status : IsAbout dataset (.status dataset)

/-- Turns that begin without a snapshot of a dataset, with what the snapshot reads as in the end.
Only the requests write it; a turn may be cut off. -/
inductive History (p : Pipeline) (dataset : String) :
    List (List Event) → Except IoError String → Prop where
  | nil : History p dataset [] (.error .notFound)
  | turn {turns : List (List Event)} {reading : Except IoError String}
      (h : History p dataset turns reading) {σ : Type} (executor : Executor σ) (w : World σ)
      (found : w.files.readText (p.ledger.snapshotPath dataset) = reading) {r : Request}
      (about : r.IsAbout dataset) {past : List Event}
      (hpast : past <+: (r.answer p executor w).since w) :
      History p dataset (turns ++ [past]) (snapshotAfter dataset reading past)

/-- The attempts of a history, the latest first. -/
def attemptsOver (turns : List (List Event)) : Attempts := turns.reverse.flatMap attemptsIn

theorem attemptsOver_snoc (turns : List (List Event)) (past : List Event) :
    attemptsOver (turns ++ [past]) = attemptsIn past ++ attemptsOver turns := by
  simp [attemptsOver]

/-! ### What is on record -/

/-- What a snapshot of a dataset is like after some attempts: there is none and nothing was tried,
or it is that of a run that keeps the promise when it is loaded. -/
inductive OnRecord (p : Pipeline) (dataset : String) (as : Attempts) :
    Except IoError String → Prop where
  | nothing (h : as = []) : OnRecord p dataset as (.error .notFound)
  | run {run : Run} (names_eq : run.names = p.registry.names) (ordered : run.Ordered)
      (isOf : IsOf dataset run) (reliable : Reliable run.recover as) :
      OnRecord p dataset as (.ok (Ledger.encode run))

/-- What loads from what is on record. -/
inductive Found (dataset : String) (as : Attempts) : Except Failure Run → Prop where
  | nothing (h : as = []) : Found dataset as (.error (.ledger (.notFound dataset)))
  | run {run : Run} (parameters : ∃ params, run.parameters = some params ∧ params.dataset = dataset)
      (reliable : Reliable run as) : Found dataset as (.ok run)

variable {p : Pipeline} {env : Snapshot} {dataset : String} {as : Attempts} {tree : FileTree}
  {reading : Except IoError String}

theorem OnRecord.found (h : p.OnRecord dataset as reading)
    (reads : tree.readText (p.ledger.snapshotPath dataset) = reading) :
    Found dataset as (p.load tree dataset) := by
  cases h with
  | nothing h =>
    rw [load_eq_notFound_iff.mpr ⟨reads, rfl⟩]
    exact .nothing h
  | @run run names_eq ordered isOf reliable =>
    have hload : p.load tree dataset = .ok run.recover := by
      obtain ⟨rfl, -, indexed⟩ := isOf
      exact load_of_encode reads names_eq ordered indexed
    rw [hload]
    exact .run (by simpa using isOf.parameters) reliable

theorem Opened.reliable {start : Run} (h : p.Opened tree env start)
    (found : Found env.params.dataset as (p.load tree env.params.dataset)) :
    Reliable start as := by
  cases hload : p.load tree env.params.dataset with
  | error e =>
    rw [hload] at found
    cases found with
    | nothing has =>
      subst has
      exact reliable_nil start
  | ok run =>
    rw [hload] at found
    cases found with
    | run _ reliable => exact reliable.of_history?_eq (h.history?_eq hload)

/-- An invocation takes its environment from the dataset that it is about; a retry does when the
parameters on record are of the dataset. -/
theorem Drive.dataset_eq_of_recorded {d : Drive} (about : d.dataset = dataset)
    (recorded : ∀ vars stage force, d = .retry vars dataset stage force → ∀ run params,
      p.load tree dataset = .ok run → run.parameters = some params → params.dataset = dataset)
    (henv : d.env? p tree = some env) : env.params.dataset = dataset := by
  cases d with
  | execute vars params =>
    cases henv
    exact about
  | executeWith env' =>
    cases henv
    exact about
  | retryWith env' stage force =>
    cases henv
    exact about
  | retry vars asked stage force =>
    obtain rfl : asked = dataset := about
    cases hload : p.load tree asked with
    | error e => simp [env?, hload] at henv
    | ok run =>
      obtain rfl := Option.some.inj ((env?_retry hload vars stage force).symm.trans henv)
      cases hparams : run.parameters with
      | none => simp [Snapshot.take, Parameters.withoutPorts, Parameters.usual]
      | some params =>
        have hdataset := recorded vars stage force rfl run params hload hparams
        simpa [Snapshot.take, Parameters.withoutPorts] using hdataset

theorem Drive.dataset_eq_of_env? {d : Drive} (about : d.dataset = dataset)
    (found : Found dataset as (p.load tree dataset)) (henv : d.env? p tree = some env) :
    env.params.dataset = dataset := by
  apply Drive.dataset_eq_of_recorded about _ henv
  rintro - - - - run params hload hparams
  rw [hload] at found
  cases found with
  | run parameters _ =>
    obtain ⟨params', hparams', hdataset⟩ := parameters
    obtain rfl := Option.some.inj (hparams.symm.trans hparams')
    exact hdataset

/-! ### Turns keep the promise -/

/-- What an invocation leaves on record, wherever it is stopped. -/
theorem Stopped.onRecord {d : Drive} {past : List Event} (h : p.Stopped d tree past)
    (about : d.dataset = dataset) (onRecord : p.OnRecord dataset as reading)
    (reads : tree.readText (p.ledger.snapshotPath dataset) = reading) :
    p.OnRecord dataset (attemptsIn past ++ as) (snapshotAfter dataset reading past) := by
  cases h with
  | early => exact onRecord
  | refused => exact onRecord
  | @driving env start past phase henv opened trace =>
    have found := onRecord.found reads
    obtain rfl := Drive.dataset_eq_of_env? about found henv
    obtain ⟨hsnapshot, isOf⟩ := trace.snapshotAfter_eq opened reading
    have sound := trace.sound opened.atRest.sound
    rw [hsnapshot]
    exact .run sound.names_eq sound.ordered isOf
      (reliable_recover_of_tally sound (trace.tally opened.atRest.sound (opened.reliable found)))

/-- The run that a skip starts from is one that loads, or a new one. -/
theorem found_runToSkip {now : Instant} {run : Run} (h : p.runToSkip now tree dataset = .ok run)
    (found : Found dataset as (p.load tree dataset)) : Found dataset as (.ok run) := by
  unfold runToSkip at h
  generalize p.load tree dataset = loaded at h found
  cases found with
  | run parameters reliable =>
    cases h
    exact .run parameters reliable
  | nothing has =>
    subst has
    cases hv : validate (.usual dataset) with
    | error e => simp [hv, Except.map] at h
    | ok _ =>
      obtain rfl : Run.forRegistry now p.registry (.usual dataset) = run := by
        simpa [hv, Except.map] using h
      exact .run ⟨_, rfl, rfl⟩ (reliable_nil _)

theorem SkipStory.onRecord {stage : String} {events past : List Event}
    (h : p.SkipStory dataset stage tree events) (hpast : past <+: events)
    (onRecord : p.OnRecord dataset as reading)
    (reads : tree.readText (p.ledger.snapshotPath dataset) = reading) :
    p.OnRecord dataset (attemptsIn past ++ as) (snapshotAfter dataset reading past) := by
  cases h with
  | rejected =>
    rw [List.prefix_nil.mp hpast]
    exact onRecord
  | refused made now hrun hs hstatus why =>
    rcases List.prefix_cons_iff.mp hpast with rfl | ⟨rest, rfl, hrest⟩
    · exact onRecord
    · rw [List.prefix_nil.mp hrest]
      exact onRecord
  | @skipped run status made now hrun hs hstatus =>
    rcases List.prefix_cons_iff.mp hpast with rfl | ⟨rest, rfl, hrest⟩
    · exact onRecord
    · rw [List.prefix_nil.mp hrest]
      have rest := atRest_runToSkip hrun
      have dataset_eq : (run.markSkipped now stage skippedNote).dataset = dataset := rest.dataset_eq
      have hsnapshot : snapshotAfter dataset reading [.saved (run.markSkipped now stage skippedNote)] =
          .ok (Ledger.encode (run.markSkipped now stage skippedNote)) := if_pos dataset_eq
      cases found_runToSkip hrun (onRecord.found reads) with
      | run parameters reliable =>
        rw [hsnapshot]
        refine .run ((Run.names_markSkipped ..).trans rest.names_eq)
          (rest.ordered.markSkipped now _ _)
          ⟨dataset_eq, parameters, Run.currentIndex_refresh_le now _⟩ ?_
        exact (reliable.of_history?_eq
          (run.history?_markSkipped now stage skippedNote)).recover

theorem Request.Story.onRecord {r : Request} {events past : List Event}
    (h : Request.Story p tree r events) (hpast : past <+: events) (about : r.IsAbout dataset)
    (onRecord : p.OnRecord dataset as reading)
    (reads : tree.readText (p.ledger.snapshotPath dataset) = reading) :
    p.OnRecord dataset (attemptsIn past ++ as) (snapshotAfter dataset reading past) := by
  cases about with
  | drive about =>
    cases h with
    | drive h => exact (h.stopped hpast).onRecord about onRecord reads
  | skip =>
    cases h with
    | skip h => exact h.onRecord hpast onRecord reads
  | status =>
    cases h
    rw [List.prefix_nil.mp hpast]
    exact onRecord

/-- Whatever the turns were, what is on record keeps the promise. -/
theorem History.onRecord {turns : List (List Event)} (h : p.History dataset turns reading) :
    p.OnRecord dataset (attemptsOver turns) reading := by
  induction h with
  | nil => exact .nothing rfl
  | turn h executor w found about hpast ih =>
    rw [attemptsOver_snoc]
    exact (Request.story p executor _ w).onRecord hpast about ih found

/-! ### What a launch rests on -/

/-- Before a stage is launched its checks have passed, and that it is running was committed. -/
theorem Trace.exists_checks {start run : Run} {s : Stage} {l : Launch} {past : List Event}
    (h : Trace p env (.ready start) past (.marked run s l)) :
    ∃ sofar files earlier now, past = sofar ++ [.checked s.name env files [], .saved run] ∧
      Readiness.check p.registry env earlier files s = [] ∧
      run = earlier.markRunning now s.name := by
  cases h with
  | snoc h step =>
    cases step with
    | saved hc _ =>
      cases hc with
      | @running earlier _ now =>
        obtain ⟨failed, hfailed⟩ : ∃ failed : List String, failed = [] := ⟨[], rfl⟩
        rw [← hfailed] at h
        cases h with
        | @snoc sofar _ _ _ _ step =>
          cases step with
          | checked files _ _ =>
            refine ⟨sofar, files, earlier, now, ?_, hfailed, rfl⟩
            rw [hfailed, List.append_assoc]
            rfl
          | saved hc _ => cases hc

/-- An artifact is available for a stage at a place: a stage before that place produces it, is
complete on record, and trusted. If the artifact has a path, something usable was there; if it has
none, its producer has succeeded. -/
structure Available (p : Pipeline) (env : Snapshot) (files : FileTree) (run : Run) (as : Attempts)
    (place : Nat) (artifact : String) (producer : Stage) (record : StageRecord) : Prop where
  producer_eq : p.registry.producer? artifact = some producer
  earlier : ∃ i < place, p.registry.stages[i]? = some producer
  record_eq : run.record? producer.name = some record
  complete : record.status = .succeeded ∨ record.status = .skipped
  trusted : Trusted as producer.name
  logical : (p.registry.artifact? artifact).bind (·.path) = none → record.status = .succeeded
  onDisk : ∀ template, (p.registry.artifact? artifact).bind (·.path) = some template →
    Readiness.isUsable files (env.render template) = true

/-- What the check of an artifact says of its producer. -/
theorem of_hasArtifact {registry : Registry} {run : Run} {artifact : String} {producer : Stage}
    {record : StageRecord} (h : Readiness.hasArtifact registry env run tree artifact = true)
    (hp : registry.producer? artifact = some producer)
    (hr : run.record? producer.name = some record) :
    record.unreliable = false ∧
      ((registry.artifact? artifact).bind (·.path) = none → record.status = .succeeded) ∧
      ∀ template, (registry.artifact? artifact).bind (·.path) = some template →
        Readiness.isUsable tree (env.render template) = true := by
  unfold Readiness.hasArtifact at h
  simp only [hp, hr, Option.any_some] at h
  cases hu : record.unreliable with
  | true => simp [hu] at h
  | false =>
    rw [hu] at h
    refine ⟨rfl, ?_, ?_⟩
    · intro hnone
      simpa [hnone] using h
    · intro template htemplate
      simpa [htemplate] using h

theorem hasArtifact_of_check {registry : Registry} {run : Run} {s : Stage}
    (h : Readiness.check registry env run tree s = []) {artifact : String}
    (ha : artifact ∈ s.dependencies) :
    Readiness.hasArtifact registry env run tree artifact = true := by
  cases Readiness.check_eq_nil_iff.mp h _ (Registry.mem_dependencies.mp ha) with
  | artifact available => exact Readiness.hasArtifact_iff.mpr available

theorem Trace.available {start run : Run} {s : Stage} {l : Launch} {past : List Event}
    (h : Trace p env (.ready start) past (.marked run s l))
    (sound : (Phase.ready start).Sound p) (reliable : Reliable start as) :
    ∃ sofar files place, past = sofar ++ [.checked s.name env files [], .saved run] ∧
      p.registry.stages[place]? = some s ∧ ∀ artifact ∈ s.dependencies, ∃ producer record,
        p.Available env files run (attemptsIn past ++ as) place artifact producer record := by
  obtain ⟨-, before, running, after, stand, hrunning⟩ := (h.sound sound).stands
  obtain ⟨-, promise⟩ := h.tally sound reliable
  have names_eq : run.names = p.registry.names := (h.sound sound).names_eq
  obtain ⟨sofar, files, earlier, now, hpast, hcheck, hrun⟩ := h.exists_checks
  refine ⟨sofar, files, before.length, hpast, stand.stage, ?_⟩
  intro artifact ha
  obtain ⟨i, hi, producer, hproducer, hfind⟩ := p.registry.exists_producer_before stand.stage ha
  -- the record of the producer stands before that of the stage, so it is complete
  have hbefore : before[i]? = some before[i] := List.getElem?_eq_getElem hi
  have hrecord : run.stages[i]? = some before[i] := by
    rw [stand.stages_eq, List.getElem?_append_left hi, hbefore]
  have complete := stand.complete before[i] (List.getElem_mem hi)
  have hname : before[i].name = producer.name := by
    have hnames : run.names[i]? = p.registry.names[i]? := by rw [names_eq]
    simpa [Run.names, Registry.names, hrecord, hproducer] using hnames
  have hnodup : run.names.Nodup := by
    rw [names_eq]
    exact p.registry.nodup_names
  have hfound : run.record? producer.name = some before[i] := by
    rw [← hname]
    exact Run.record?_of_mem hnodup (List.mem_of_getElem? hrecord)
  have hne : producer.name ≠ s.name := by
    intro heq
    rw [heq, stand.record?_eq] at hfound
    obtain rfl := Option.some.inj hfound
    simp [hrunning, Status.isComplete] at complete
  have hchecked : earlier.record? producer.name = some before[i] := by
    rw [← hfound, hrun]
    exact (Run.record?_change_other (StageRecord.name_launch now) earlier hne).symm
  obtain ⟨unmarked, logical, onDisk⟩ :=
    of_hasArtifact (hasArtifact_of_check hcheck ha) hfind hchecked
  refine ⟨producer, before[i], hfind, ⟨i, hi, hproducer⟩, hfound, ?_, ?_, logical, onDisk⟩
  · revert complete
    cases before[i].status <;> simp [Status.isComplete]
  · exact promise producer.name (by simp [hfound, unmarked])

/-! ### Launches in a history -/

theorem Trace.eq_marked {start : Run} {phase : Phase} {past : List Event} {l : Launch}
    (h : Trace p env (.ready start) (past ++ [.launched l]) phase) :
    ∃ run s, Trace p env (.ready start) past (.marked run s l) := by
  generalize hall : past ++ [.launched l] = all at h
  cases h with
  | nil => simp at hall
  | snoc h step =>
    obtain ⟨rfl, he⟩ := List.append_inj' hall rfl
    obtain rfl := List.singleton_inj.mp he
    cases step with
    | launched => exact ⟨_, _, h⟩

/-- Only an invocation launches anything, and only after it has committed the run that it drives. -/
theorem Request.Story.exists_marked {r : Request} {events past : List Event} {l : Launch}
    (h : Request.Story p tree r events) (hpast : past ++ [.launched l] <+: events) :
    ∃ d env start sofar run s, r = .drive d ∧ d.env? p tree = some env ∧
      p.Opened tree env start ∧ past = .saved start :: sofar ∧
      Trace p env (.ready start) sofar (.marked run s l) := by
  have launched : .launched l ∈ events := hpast.subset (by simp)
  cases h with
  | restart => simp at launched
  | status => simp at launched
  | skip h => cases h <;> simp at launched
  | @drive d _ result h =>
    generalize hall : past ++ [.launched l] = all at hpast
    cases h.stopped hpast with
    | early => simp at hall
    | refused => simp [List.append_eq_cons_iff] at hall
    | @driving env start rest phase henv opened trace =>
      rcases List.append_eq_cons_iff.mp hall with ⟨-, hlast⟩ | ⟨sofar, rfl, rfl⟩
      · simp at hlast
      · obtain ⟨run, s, trace'⟩ := trace.eq_marked
        exact ⟨d, env, start, sofar, run, s, rfl, henv, opened, rfl, trace'⟩

/-- Every turn of a history is part of what a request did with what the turns before it left. -/
theorem History.exists_story {turns before after : List (List Event)} {turn : List Event}
    (h : p.History dataset turns reading) (hturns : turns = before ++ turn :: after) :
    ∃ (reading : Except IoError String) (tree : FileTree) (r : Request) (events : List Event),
      p.History dataset before reading ∧
      tree.readText (p.ledger.snapshotPath dataset) = reading ∧ r.IsAbout dataset ∧
      Request.Story p tree r events ∧ turn <+: events := by
  induction h generalizing after with
  | nil => simp at hturns
  | @turn turns reading h σ executor w found r about past hpast ih =>
    rcases List.eq_nil_or_concat after with rfl | ⟨after', last, rfl⟩
    · obtain ⟨rfl, hpast'⟩ := List.append_inj' hturns rfl
      obtain rfl := List.singleton_inj.mp hpast'
      exact ⟨reading, w.files, r, _, h, found, about, r.story p executor w, hpast⟩
    · rw [List.concat_eq_append, ← List.cons_append, ← List.append_assoc] at hturns
      obtain ⟨rfl, -⟩ := List.append_inj' hturns rfl
      exact ih rfl

/-- In no history of a dataset is a stage launched on an artifact that cannot be trusted. Right
before a launch, its checks have passed and the run was committed; for each artifact that the stage
depends on, a stage before it is the producer, is complete in that run, and its last attempt whose
process was started, if there is one, is on record as a success. -/
theorem available_of_launched {turns before after : List (List Event)}
    {past future : List Event} {l : Launch} (h : p.History dataset turns reading)
    (hturns : turns = before ++ (past ++ .launched l :: future) :: after) :
    ∃ sofar env files run place s, past = sofar ++ [.checked s.name env files [], .saved run] ∧
      p.registry.stages[place]? = some s ∧ s.name = l.stage ∧
      ∀ artifact ∈ s.dependencies, ∃ producer record,
        p.Available env files run (attemptsIn past ++ attemptsOver before) place artifact producer
          record := by
  obtain ⟨reading, tree, r, events, hbefore, reads, about, story, hprefix⟩ :=
    h.exists_story hturns
  have hcut : past ++ [.launched l] <+: events := by
    refine List.IsPrefix.trans ⟨future, ?_⟩ hprefix
    simp
  obtain ⟨d, env, start, sofar, run, s, rfl, henv, opened, rfl, trace⟩ := story.exists_marked hcut
  cases about with
  | drive about =>
    have found := hbefore.onRecord.found reads
    obtain rfl := Drive.dataset_eq_of_env? about found henv
    have sound := opened.atRest.sound
    obtain ⟨sofar', files, place, rfl, hs, available⟩ :=
      trace.available sound (opened.reliable found)
    exact ⟨.saved start :: sofar', env, files, run, place, s, rfl, hs,
      (trace.sound sound).stands.1.symm, available⟩

/-- The second of two stages is launched on the artifact of the first. -/
theorem available_of_sample :
    ∃ (env : Snapshot) (files : FileTree) (run : Run) (as : Attempts) (producer : Stage)
      (record : StageRecord),
      Sample.pipeline.Available env files run as 1 "recording" producer record := by
  have found : Sample.world.files.readText (Sample.pipeline.ledger.snapshotPath "cubes") =
      .error .notFound := by decide +kernel
  have history := History.nil.turn (Sample.executor "none") Sample.world found
    (.drive (d := .execute [] (.usual "cubes")) rfl) (List.prefix_refl _)
  have out : (((Request.drive (.execute [] (.usual "cubes"))).answer Sample.pipeline
      (Sample.executor "none") Sample.world).since Sample.world).any
        (Sample.isLaunchOf "train") = true := by decide +kernel
  obtain ⟨e, hmem, he⟩ := List.any_eq_true.mp out
  cases e with
  | launched l =>
    have hstage : l.stage = "train" := by simpa [Sample.isLaunchOf] using he
    obtain ⟨past, future, hsplit⟩ := List.append_of_mem hmem
    rw [hsplit] at history
    have only : [] ++ [past ++ .launched l :: future] =
        [] ++ (past ++ .launched l :: future) :: [] := rfl
    obtain ⟨-, env, files, run, place, s, -, hs, hname, available⟩ :=
      available_of_launched history only
    -- the launched stage is the second one
    rcases place with _ | _ | place
    · obtain rfl : Sample.record = s := Option.some.inj hs
      simp [hstage, Sample.record] at hname
    · obtain rfl : Sample.train = s := Option.some.inj hs
      obtain ⟨producer, record, h⟩ := available "recording" (by decide)
      exact ⟨env, files, run, _, producer, record, h⟩
    · cases hs
  | _ => simp [Sample.isLaunchOf] at he

end Pipeline

end RobotPipeline
