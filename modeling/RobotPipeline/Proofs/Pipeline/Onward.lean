/-
  RobotPipeline/Proofs/Pipeline/Onward.lean
  =========================================
  **Without a retry a dataset only goes onward.**

  A progression is made of executions and skips that go on from any snapshot
  of a dataset, or from none. A record that has succeeded is never changed in
  it, because only a reset would; and a stage is launched only where every
  stage that has succeeded comes before it, because the run is in order. So
  the launches that succeed, of all invocations together, follow the pipeline.
-/
import RobotPipeline.Proofs.Pipeline.Course
import RobotPipeline.Proofs.Pipeline.Resume
import RobotPipeline.Proofs.Run.Included

namespace RobotPipeline

namespace Run

/-! ### Records that changes pass over -/

theorem getElem?_changeFirst {f : StageRecord → StageRecord} {name : String}
    {records : List StageRecord} {i : Nat} {r : StageRecord} (h : records[i]? = some r) :
    (changeFirst f name records)[i]? = some r ∨
      records.find? (fun q => q.name = name) = some r := by
  induction records generalizing i with
  | nil => simp at h
  | cons q rest ih =>
    by_cases hname : q.name = name
    · cases i with
      | zero =>
        obtain rfl : q = r := by simpa using h
        exact .inr (by simp [hname])
      | succ i => exact .inl (by simpa [changeFirst, hname] using h)
    · cases i with
      | zero => exact .inl (by simpa [changeFirst, hname] using h)
      | succ i =>
        rcases ih (i := i) (by simpa using h) with h | h
        · exact .inl (by simpa [changeFirst, hname] using h)
        · exact .inr (by simpa [hname] using h)

theorem getElem?_takeIn {requested : List String} {records : List StageRecord} {i : Nat}
    {r : StageRecord} (h : records[i]? = some r) (requestedBefore : r.isNotRequested = false) :
    (takeIn requested records)[i]? = some r := by
  have left : isTakenIn requested r (records.drop (i + 1)) = false := by
    simp [isTakenIn, requestedBefore]
  rw [getElem?_takeIn_of_getElem? h, left, if_neg Bool.false_ne_true]

end Run

/-! ### Launches that succeed -/

/-- The stages whose launches came back with a success, in this order. -/
def successes (events : List Event) : List String :=
  ((answers events).filter fun answer => succeeds answer.2).map (·.1)

theorem successes_append (past future : List Event) :
    successes (past ++ future) = successes past ++ successes future := by
  simp [successes, answers_append]

theorem successes_sublist (events : List Event) :
    (successes events).Sublist ((answers events).map (·.1)) :=
  List.filter_sublist.map _

theorem mem_launches {events : List Event} {name : String} :
    name ∈ launches events ↔ ∃ l, .launched l ∈ events ∧ l.stage = name := by
  induction events with
  | nil => simp [launches]
  | cons e events ih => cases e <;> simp [launches, ih, eq_comm]

/-- The stage that came back with a success which is not committed yet. -/
def Phase.uncommitted : Phase → List String
  | returned _ s result => if succeeds result then [s.name] else []
  | unsaved before _ => before.uncommitted
  | _ => []

/-- The run records at a place that a stage has succeeded. -/
def Run.HasSucceededAt (run : Run) (i : Nat) (name : String) : Prop :=
  ∃ r, run.stages[i]? = some r ∧ r.name = name ∧ r.status = .succeeded

namespace Pipeline

variable {σ : Type} {p : Pipeline} {env : Snapshot} {dataset : String}
  {tree : FileTree} {start reading : Except IoError String}

/-! ### What has succeeded stays -/

/-- One change, where nothing is reset: the record of a stage that has succeeded stays in place. -/
theorem Change.kept {before after : Option Run} (h : p.Change false before after) {run : Run}
    (hrun : before = some run) {i : Nat} {r : StageRecord} (hr : run.stages[i]? = some r)
    (succeeded : r.status = .succeeded) :
    ∃ run', after = some run' ∧ run'.stages[i]? = some r := by
  cases h with
  | recovered run =>
    obtain rfl := Option.some.inj hrun
    refine ⟨_, rfl, ?_⟩
    rw [Run.stages_recover, List.getElem?_map, hr, Option.map_some,
      StageRecord.recover_of_ne_running (by simp [succeeded])]
  | made now params => cases hrun
  | resumed now params run =>
    obtain rfl := Option.some.inj hrun
    exact ⟨_, rfl, Run.getElem?_takeIn hr (by simp [StageRecord.isNotRequested, succeeded])⟩
  | reset again h => cases again
  | skipped now hs skippable hstatus waiting =>
    obtain rfl := Option.some.inj hrun
    refine ⟨_, rfl, ?_⟩
    rcases Run.getElem?_changeFirst hr with hr | hfound
    · exact hr
    · -- the record that is skipped waits
      rw [Run.status?, Run.record?, hfound, Option.map_some, succeeded] at hstatus
      obtain rfl := Option.some.inj hstatus
      simp at waiting
  | driven h sound =>
    obtain rfl := Option.some.inj hrun
    exact ⟨_, rfl, h.kept sound hr (by simp [succeeded, Status.isComplete])⟩

theorem Changes.kept {before after : Option Run} (h : p.Changes false before after) {run : Run}
    (hrun : before = some run) {i : Nat} {r : StageRecord} (hr : run.stages[i]? = some r)
    (succeeded : r.status = .succeeded) :
    ∃ run', after = some run' ∧ run'.stages[i]? = some r := by
  induction h with
  | refl => exact ⟨run, hrun, hr⟩
  | tail _ change ih =>
    obtain ⟨run', hrun', hr'⟩ := ih
    exact change.kept hrun' hr' succeeded

/-! ### Progressions -/

/-- Whole turns of executions and skips that go on from a snapshot of a dataset, with what the
snapshot reads as in the end. Only the requests write it. -/
inductive Progression (p : Pipeline) (dataset : String) (start : Except IoError String) :
    List (List Event) → Except IoError String → Prop where
  | nil : Progression p dataset start [] start
  | turn {turns : List (List Event)} {reading : Except IoError String}
      (h : Progression p dataset start turns reading) {σ : Type} (executor : Executor σ)
      (w : World σ) (found : w.files.readText (p.ledger.snapshotPath dataset) = reading)
      {r : Request} (about : r.IsAbout dataset) (again : ∀ d, r = .drive d → d.retried? = none) :
      Progression p dataset start (turns ++ [(r.answer p executor w).since w])
        (snapshotAfter dataset reading ((r.answer p executor w).since w))

theorem Drive.dataset_eq_of_execution {d : Drive} (about : d.dataset = dataset)
    (again : d.retried? = none) (henv : d.env? p tree = some env) : env.params.dataset = dataset := by
  apply Drive.dataset_eq_of_recorded about _ henv
  rintro vars stage force rfl
  cases again

/-- A request that retries nothing resets nothing. -/
theorem Request.course_of_onward {r : Request} (about : r.IsAbout dataset)
    (again : ∀ d, r = .drive d → d.retried? = none) (executor : Executor σ) (w : World σ)
    (found : w.files.readText (p.ledger.snapshotPath dataset) = reading) :
    p.Course false dataset reading ((r.answer p executor w).since w) := by
  have own : ∀ d env, r = .drive d → d.env? p w.files = some env →
      env.params.dataset = dataset := by
    rintro d env rfl henv
    cases about with
    | drive about => exact Drive.dataset_eq_of_execution about (again d rfl) henv
  rw [← found]
  exact r.course about executor w own fun d hd => .inl (again d hd)

theorem Progression.course {turns : List (List Event)}
    (h : p.Progression dataset start turns reading) :
    snapshotAfter dataset start turns.flatten = reading ∧
      p.Course false dataset start turns.flatten := by
  induction h with
  | nil => exact ⟨rfl, trivial⟩
  | @turn turns reading h σ executor w found r about again ih =>
    obtain ⟨hreading, course⟩ := ih
    rw [List.flatten_concat, snapshotAfter_append, hreading]
    refine ⟨rfl, course_append.mpr ⟨course, ?_⟩⟩
    rw [hreading]
    exact r.course_of_onward about again executor w found

/-! ### Launches -/

/-- Where a stage is launched, it comes after every stage of the run that has succeeded. -/
theorem Standing.lt_of_succeeded {run : Run} {s : Stage} {before after : List StageRecord}
    {record : StageRecord} (stand : p.Standing run s before record after)
    (ordered : run.Ordered) {i : Nat} {name : String} (h : run.HasSucceededAt i name) :
    i < before.length := by
  obtain ⟨r, hr, -, succeeded⟩ := h
  rw [stand.stages_eq] at hr
  by_contra hle
  have later : r ∈ record :: after := by
    rw [List.getElem?_append_right (by omega)] at hr
    exact List.mem_of_getElem? hr
  rcases List.mem_cons.mp later with rfl | later
  · simpa [succeeded, Status.isComplete] using stand.incomplete
  · simpa [succeeded, Status.isAhead] using stand.still ordered r later

/-- The place of a launched stage, and the run on record when it is launched. -/
theorem Request.Story.exists_place {r : Request} {events past future : List Event} {l : Launch}
    (h : Request.Story p tree r events) (about : r.IsAbout dataset)
    (again : ∀ d, r = .drive d → d.retried? = none)
    (hevents : events = past ++ .launched l :: future) (reading : Except IoError String) :
    ∃ (place : Nat) (s : Stage) (run : Run), p.registry.stages[place]? = some s ∧
      s.name = l.stage ∧
      p.written? dataset (snapshotAfter dataset reading past) = some run ∧
      ∀ i name, run.HasSucceededAt i name → i < place := by
  have hcut : past ++ [.launched l] <+: events := ⟨future, by simp [hevents]⟩
  obtain ⟨d, env, start, sofar, run, s, rfl, henv, opened, rfl, trace⟩ := h.exists_marked hcut
  cases about with
  | drive about =>
    obtain rfl := Drive.dataset_eq_of_execution about (again d rfl) henv
    have sound := trace.sound opened.atRest.sound
    obtain ⟨hsnapshot, isOf⟩ := trace.snapshotAfter_eq opened reading
    obtain ⟨hl, before, record, after, stand, -⟩ := sound.stands
    have onRecord := written?_encode isOf.dataset_eq sound.names_eq sound.ordered isOf.indexed
    refine ⟨before.length, s, run, stand.stage, hl.symm, ?_, ?_⟩
    · rw [hsnapshot]
      exact onRecord
    · intro i name succeeded
      exact stand.lt_of_succeeded sound.ordered succeeded

/-- What came back with a success is on record as one, unless its commit is still to be made. -/
theorem Trace.successes_recorded {first phase : Phase} {events : List Event}
    (h : Trace p env first events phase) (sound : first.Sound p) :
    ∀ name ∈ successes events, name ∈ phase.uncommitted ∨
      ∃ i, phase.run.HasSucceededAt i name := by
  -- from its answer to the commit that records it, a success is what the phase has uncommitted
  induction h with
  | nil => simp [successes, answers]
  | @snoc past phase next e h step ih =>
    intro name hname
    rw [successes_append, List.mem_append] at hname
    cases step with
    | @checked run place s files first hs =>
      rcases hname with hname | hname
      · simpa [Phase.uncommitted, Phase.run] using ih name hname
      · simp [successes, answers] at hname
    | @saved _ _ run hc _ =>
      have old : name ∈ successes past := by simpa [successes, answers] using hname
      have sound' := h.sound sound
      rcases ih name old with pending | ⟨i, r, hr, rfl, succeeded⟩
      · -- the success that is committed
        cases hc with
        | @succeeded run s o now ho =>
          obtain rfl : name = s.name := by simpa [Phase.uncommitted, succeeds, ho] using pending
          obtain ⟨before, record, after, stand, -⟩ := sound'.stands
          refine .inr ⟨before.length, record.settle o, ?_, stand.name_eq, ?_⟩
          · simp [Phase.run, stand.stages_applyOutcome now o]
          · simp [StageRecord.settle, ho]
        | failed now ho => simp [Phase.uncommitted, succeeds, ho] at pending
        | lost now => simp [Phase.uncommitted, succeeds] at pending
        | _ => simp [Phase.uncommitted] at pending
      · refine .inr ⟨i, r, ?_, rfl, succeeded⟩
        rw [hc.run_eq]
        exact hc.kept sound' hr (by simp [succeeded, Status.isComplete])
    | refused hc why =>
      have old : name ∈ successes past := by simpa [successes, answers] using hname
      exact ih name old
    | @launched run s l =>
      have old : name ∈ successes past := by simpa [successes, answers] using hname
      simpa [Phase.uncommitted, Phase.run] using ih name old
    | @returned run s result =>
      rcases hname with hname | hname
      · exact .inr (by simpa [Phase.uncommitted, Phase.run] using ih name hname)
      · left
        cases hs : succeeds result with
        | false => simp [successes, answers, hs] at hname
        | true =>
          obtain rfl : s.name = name := by simpa [successes, answers, hs, eq_comm] using hname
          simp [Phase.uncommitted, hs]

/-- When a drive is over and the system has refused nothing, every success is committed. -/
theorem Ends.uncommitted_eq {run : Run} {phase : Phase} {events : List Event}
    {result : Except Failure Run} (h : Ends p phase result)
    (trace : Trace p env (.ready run) events phase) (sound : (Phase.ready run).Sound p)
    (saves : ∀ e ∈ events, refusedBySystem e = false) : phase.uncommitted = [] := by
  cases h with
  | unsaved =>
    obtain ⟨e, hmem, he⟩ := trace.exists_refused sound
    simp [saves e hmem] at he
  | _ => rfl

theorem Trace.successes_sublist {run : Run} {phase : Phase} {events : List Event}
    (h : Trace p env (.ready run) events phase) (sound : (Phase.ready run).Sound p) :
    (successes events).Sublist (launches events) := by
  rw [h.launches_eq rfl sound]
  exact (RobotPipeline.successes_sublist events).trans (List.sublist_append_left _ _)

/-- What the successes of a whole request come to. -/
theorem Request.Story.successes {r : Request} {events : List Event}
    (h : Request.Story p tree r events) (about : r.IsAbout dataset)
    (again : ∀ d, r = .drive d → d.retried? = none)
    (saves : ∀ e ∈ events, refusedBySystem e = false) (reading : Except IoError String) :
    (successes events).Sublist (launches events) ∧ (launches events).Sublist p.registry.names ∧
      ∀ name ∈ successes events, ∃ run i,
        p.written? dataset (snapshotAfter dataset reading events) = some run ∧
          run.HasSucceededAt i name := by
  cases about with
  | @drive d about =>
    cases h with
    | drive h =>
      cases h with
      | rejected _ => simp [RobotPipeline.successes, answers, launches]
      | refused _ _ _ => simp [RobotPipeline.successes, answers, launches]
      | @driven env start events phase result henv opened trace ends =>
        obtain rfl := Drive.dataset_eq_of_execution about (again d rfl) henv
        have sound := opened.atRest.sound
        have sound' := trace.sound sound
        refine ⟨trace.successes_sublist sound, trace.launches_sublist sound, ?_⟩
        intro name hname
        obtain ⟨hsnapshot, isOf⟩ := trace.snapshotAfter_eq opened reading
        have onRecord :=
          written?_encode isOf.dataset_eq sound'.names_eq sound'.ordered isOf.indexed
        have committed := ends.uncommitted_eq trace sound fun e he => saves e (by simp [he])
        rcases trace.successes_recorded sound name hname with pending | ⟨i, recorded⟩
        · simp [committed] at pending
        · exact ⟨phase.run, i, by rw [hsnapshot, onRecord], recorded⟩
  | skip =>
    cases h with
    | skip h => cases h <;> simp [RobotPipeline.successes, answers, launches]
  | status =>
    cases h
    simp [RobotPipeline.successes, answers, launches]

/-! ### What a progression never does -/

/-- Every launch of a progression comes after all stages that have succeeded by then. -/
theorem Progression.exists_place {turns : List (List Event)}
    (h : p.Progression dataset start turns reading) {past future : List Event} {l : Launch}
    (hsplit : turns.flatten = past ++ .launched l :: future) :
    ∃ (place : Nat) (s : Stage) (run : Run), p.registry.stages[place]? = some s ∧
      s.name = l.stage ∧
      p.written? dataset (snapshotAfter dataset start past) = some run ∧
      ∀ i name, run.HasSucceededAt i name → i < place := by
  induction h generalizing future with
  | nil => simp at hsplit
  | @turn turns reading h σ executor w found r about again ih =>
    rw [List.flatten_concat] at hsplit
    rcases List.append_eq_append_iff.mp hsplit with ⟨sofar, rfl, hturn⟩ | ⟨rest, hflat, hrest⟩
    · -- the launch is in the last turn
      have story := r.story p executor w
      rw [snapshotAfter_append, h.course.1]
      exact story.exists_place about again hturn reading
    · cases rest with
      | nil =>
        -- it is the first entry of the last turn
        rw [List.append_nil] at hflat
        subst hflat
        have hturn : (r.answer p executor w).since w = [] ++ .launched l :: future := hrest.symm
        have last := (r.story p executor w).exists_place about again hturn reading
        rwa [← List.append_nil turns.flatten, snapshotAfter_append, h.course.1]
      | cons e rest =>
        obtain ⟨rfl, -⟩ := List.cons_eq_cons.mp hrest
        exact ih hflat

theorem names_eq_of_written {run : Run} (h : p.written? dataset reading = some run) :
    run.names = p.registry.names := by
  cases reading with
  | error cause => simp [written?] at h
  | ok text => exact (written?_eq_some_iff.mp h).2.2.2

/-- Where nothing is reset, what has succeeded at one moment has at all later ones. -/
theorem Course.hasSucceededAt {events : List Event} (h : p.Course false dataset reading events)
    {run : Run} (hrun : p.written? dataset reading = some run) {i : Nat} {name : String}
    (succeeded : run.HasSucceededAt i name) :
    ∃ run', p.written? dataset (snapshotAfter dataset reading events) = some run' ∧
      run'.HasSucceededAt i name := by
  obtain ⟨r, hr, hname, hstatus⟩ := succeeded
  obtain ⟨run', hrun', hr'⟩ := Changes.kept h.changes hrun hr hstatus
  exact ⟨run', hrun', r, hr', hname, hstatus⟩

theorem idxOf_eq_of_hasSucceededAt {run : Run} (names_eq : run.names = p.registry.names) {i : Nat}
    {name : String} (h : run.HasSucceededAt i name) : p.registry.names.idxOf name = i := by
  obtain ⟨r, hr, rfl, -⟩ := h
  have hname : p.registry.names[i]? = some r.name := by
    rw [← names_eq]
    simp [Run.names, hr]
  obtain ⟨hlt, hget⟩ := List.getElem?_eq_some_iff.mp hname
  rw [← hget]
  exact p.registry.nodup_names.idxOf_getElem i hlt

theorem idxOf_eq_of_getElem? {place : Nat} {s : Stage}
    (h : p.registry.stages[place]? = some s) : p.registry.names.idxOf s.name = place := by
  have hname : p.registry.names[place]? = some s.name := by simp [Registry.names, h]
  obtain ⟨hlt, hget⟩ := List.getElem?_eq_some_iff.mp hname
  rw [← hget]
  exact p.registry.nodup_names.idxOf_getElem place hlt

/-- One name comes before another in the pipeline. -/
def Precedes (p : Pipeline) (a b : String) : Prop :=
  p.registry.names.idxOf a < p.registry.names.idxOf b

theorem pairwise_precedes (p : Pipeline) : p.registry.names.Pairwise p.Precedes := by
  rw [List.pairwise_iff_getElem]
  intro i j hi hj hij
  rw [Precedes, p.registry.nodup_names.idxOf_getElem i hi,
    p.registry.nodup_names.idxOf_getElem j hj]
  exact hij

/-- The launches of a progression that succeed follow the pipeline, and are on record as
successes in the end. -/
theorem Progression.successes {turns : List (List Event)}
    (h : p.Progression dataset start turns reading)
    (saves : ∀ e ∈ turns.flatten, refusedBySystem e = false) :
    (successes turns.flatten).Pairwise p.Precedes ∧
      ∀ name ∈ successes turns.flatten, ∃ run i, p.written? dataset reading = some run ∧
        run.HasSucceededAt i name := by
  induction h with
  | nil => simp [RobotPipeline.successes, answers]
  | @turn turns reading h σ executor w found r about again ih =>
    rw [List.flatten_concat] at saves
    obtain ⟨increasing, recorded⟩ := ih fun e he => saves e (by simp [he])
    have story := r.story p executor w
    have course := r.course_of_onward about again executor w found
    obtain ⟨hsuccesses, hlaunches, recorded'⟩ :=
      story.successes about again (fun e he => saves e (by simp [he])) reading
    rw [List.flatten_concat, successes_append]
    constructor
    · refine List.pairwise_append.mpr ⟨increasing, ?_, ?_⟩
      · exact p.pairwise_precedes.sublist (hsuccesses.trans hlaunches)
      · -- an earlier success is still on record when a later one is launched
        intro a ha b hb
        obtain ⟨run, i, hrun, succeeded⟩ := recorded a ha
        obtain ⟨l, hl, rfl⟩ := mem_launches.mp (hsuccesses.subset hb)
        obtain ⟨past, future, hsplit⟩ := List.append_of_mem hl
        obtain ⟨place, s, run', hs, hname, hrun', before⟩ :=
          story.exists_place about again hsplit reading
        rw [hsplit] at course
        obtain ⟨run'', hrun'', succeeded'⟩ :=
          (course_append.mp course).1.hasSucceededAt hrun succeeded
        obtain rfl := Option.some.inj (hrun'.symm.trans hrun'')
        rw [Precedes, idxOf_eq_of_hasSucceededAt (names_eq_of_written hrun) succeeded, ← hname,
          idxOf_eq_of_getElem? hs]
        exact before i a succeeded'
    · intro name hname
      rcases List.mem_append.mp hname with hname | hname
      · obtain ⟨run, i, hrun, succeeded⟩ := recorded name hname
        obtain ⟨run', hrun', succeeded'⟩ := course.hasSucceededAt hrun succeeded
        exact ⟨run', i, hrun', succeeded'⟩
      · exact recorded' name hname

/-- How a dataset goes onward. -/
structure Onward (p : Pipeline) (dataset : String) (start : Except IoError String)
    (events : List Event) : Prop where
  /-- A stage is launched only at a place after that of every stage that is on record as a success
  then, or was at an earlier moment. -/
  launched : ∀ earlier middle l future, events = earlier ++ middle ++ .launched l :: future →
    ∃ (place : Nat) (s : Stage), p.registry.stages[place]? = some s ∧ s.name = l.stage ∧
      ∀ run, p.written? dataset (snapshotAfter dataset start earlier) = some run →
        ∀ i name, run.HasSucceededAt i name → i < place
  /-- A record of a success stays as it is. -/
  kept : ∀ earlier middle future, events = earlier ++ middle ++ future →
    ∀ run, p.written? dataset (snapshotAfter dataset start earlier) = some run →
      ∀ (i : Nat) (r : StageRecord), run.stages[i]? = some r → r.status = .succeeded →
        ∃ run', p.written? dataset (snapshotAfter dataset start (earlier ++ middle)) = some run' ∧
          run'.stages[i]? = some r
  /-- The launches that succeed are of stages further and further on. -/
  increasing : (successes events).Pairwise p.Precedes

/-- However many executions and skips follow one another, from whatever snapshot and with whatever
parameters, the dataset goes onward. -/
theorem onward_of_progression {turns : List (List Event)}
    (h : p.Progression dataset start turns reading)
    (saves : ∀ e ∈ turns.flatten, refusedBySystem e = false) :
    p.Onward dataset start turns.flatten := by
  have course := h.course.2
  constructor
  · intro earlier middle l future hsplit
    obtain ⟨place, s, run', hs, hname, hrun', before⟩ := h.exists_place hsplit
    refine ⟨place, s, hs, hname, ?_⟩
    intro run hrun i name succeeded
    rw [hsplit, List.append_assoc] at course
    have middle_course := (course_append.mp (course_append.mp course).2).1
    obtain ⟨run'', hrun'', succeeded'⟩ := middle_course.hasSucceededAt hrun succeeded
    rw [← snapshotAfter_append, hrun'] at hrun''
    obtain rfl := Option.some.inj hrun''
    exact before i name succeeded'
  · intro earlier middle future hsplit run hrun i r hr succeeded
    rw [hsplit, List.append_assoc] at course
    have middle_course := (course_append.mp (course_append.mp course).2).1
    rw [snapshotAfter_append]
    exact Changes.kept middle_course.changes hrun hr succeeded
  · exact (h.successes saves).1

/-- Both stages of a pipeline succeed, one after the other. -/
theorem onward_of_sample : ∃ turns : List (List Event),
    successes turns.flatten = ["record", "train"] ∧
      Sample.pipeline.Onward "cubes" (.error .notFound) turns.flatten := by
  have found : Sample.world.files.readText (Sample.pipeline.ledger.snapshotPath "cubes") =
      .error .notFound := by decide +kernel
  have again : ∀ d, Request.drive (.execute [] (.usual "cubes")) = .drive d →
      d.retried? = none := by
    rintro _ ⟨⟩
    rfl
  have progression := Progression.nil.turn (Sample.executor "none") Sample.world found (.drive rfl)
    again
  exact ⟨_, by decide +kernel, onward_of_progression progression (by decide +kernel)⟩

end Pipeline

end RobotPipeline
