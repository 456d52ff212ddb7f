/-
  RobotPipeline/Proofs/Pipeline/Grounds.lean
  ==========================================
  **No stage is complete on record without grounds.**

  A stage that is skipped on record is an optional one that no one asked for
  and that was never tried, or one that may be skipped and that the operator
  has skipped. A stage that has succeeded has an outcome that says so, and
  nothing since then has put it in doubt.

  The note that tells the two ways of being skipped apart is a free text that
  failures and checks write as well. They never write it on a skipped record,
  and every change that takes a record out of being skipped clears it.
-/
import RobotPipeline.Proofs.Pipeline.Course

namespace RobotPipeline

namespace StageRecord

/-- The record of an optional stage that no one asked for, as it was made. -/
structure IsLeftOut (s : Stage) (r : StageRecord) : Prop where
  optional : s.optional = true
  note_eq : r.note = some notRequested
  attempts_eq : r.attempts = 0
  lastOutcome_eq : r.lastOutcome = none

/-- The record of a stage that the operator may skip and has skipped. -/
structure IsSkipped (s : Stage) (r : StageRecord) : Prop where
  skippable : s.skippable = true
  note_eq : r.note = some Pipeline.skippedNote

/-- The record of a stage whose last attempt is a success. -/
structure HasSucceeded (r : StageRecord) : Prop where
  reliable : r.unreliable = false
  outcome : ∃ o, r.lastOutcome = some o ∧ o.exitCode = 0 ∧ o.timedOut = false ∧ o.cancelled = false

/-- A stage that is complete on record has grounds to be. -/
structure Grounded (s : Stage) (r : StageRecord) : Prop where
  skipped : r.status = .skipped → r.IsLeftOut s ∨ r.IsSkipped s
  succeeded : r.status = .succeeded → r.HasSucceeded

variable {s : Stage} {r : StageRecord}

theorem grounded_of_incomplete (h : r.status.isComplete = false) : r.Grounded s := by
  constructor
  · intro skipped
    simp [skipped, Status.isComplete] at h
  · intro succeeded
    simp [succeeded, Status.isComplete] at h

theorem grounded_reset (s : Stage) (r : StageRecord) : r.reset.Grounded s :=
  grounded_of_incomplete rfl

/-- The outcome that makes a success of a stage is the one that is kept. -/
theorem grounded_settle (s : Stage) (o : Outcome) (r : StageRecord) : (r.settle o).Grounded s := by
  cases ho : o.isSuccess with
  | false =>
    apply grounded_of_incomplete
    simp [settle, ho, Status.isComplete]
  | true =>
    constructor
    · intro skipped
      simp [settle, ho] at skipped
    · intro _
      refine ⟨by simp [settle, ho], o, rfl, ?_⟩
      simpa [Outcome.isSuccess, and_assoc] using ho

theorem Grounded.recover (h : r.Grounded s) : r.recover.Grounded s := by
  by_cases running : r.status = .running
  · apply grounded_of_incomplete
    simp [StageRecord.recover, running, Status.isComplete]
  · rw [recover_of_ne_running running]
    exact h

theorem grounded_skip (skippable : s.skippable = true) (now : Instant) :
    (r.skip now Pipeline.skippedNote).Grounded s :=
  ⟨fun _ => .inr ⟨skippable, rfl⟩, nofun⟩

theorem grounded_recordFor (included : List String) (s : Stage) :
    (Run.recordFor included s).Grounded s := by
  unfold Run.recordFor
  dsimp only
  split
  · rename_i leftOut
    have optional : s.optional = true := by
      simp only [Bool.and_eq_true] at leftOut
      exact leftOut.1
    exact ⟨fun _ => .inl ⟨optional, rfl, rfl, rfl⟩, nofun⟩
  · exact grounded_of_incomplete rfl

end StageRecord

namespace Run

/-- Every record of a run is that of a declared stage, and is complete only with grounds. -/
def Grounded (registry : Registry) (run : Run) : Prop :=
  ∀ r ∈ run.stages, ∃ s ∈ registry.stages, s.name = r.name ∧ r.Grounded s

variable {registry : Registry} {run : Run}

theorem grounded_forRegistry (now : Instant) (registry : Registry) (params : Parameters) :
    (forRegistry now registry params).Grounded registry := by
  intro r hr
  obtain ⟨s, hs, rfl⟩ := List.mem_map.mp hr
  refine ⟨s, hs, ?_, StageRecord.grounded_recordFor params.included s⟩
  unfold recordFor
  dsimp only
  split <;> rfl

theorem Grounded.recover (h : run.Grounded registry) : run.recover.Grounded registry := by
  intro r hr
  rw [stages_recover] at hr
  obtain ⟨q, hq, rfl⟩ := List.mem_map.mp hr
  obtain ⟨s, hs, hname, grounded⟩ := h q hq
  exact ⟨s, hs, by simpa using hname, grounded.recover⟩

theorem Grounded.reset (h : run.Grounded registry) {q : StageRecord} (hq : q ∈ run.stages) :
    ∃ s ∈ registry.stages, s.name = q.reset.name ∧ q.reset.Grounded s := by
  obtain ⟨s, hs, hname, -⟩ := h q hq
  exact ⟨s, hs, hname, StageRecord.grounded_reset s q⟩

theorem Grounded.includeOptional (h : run.Grounded registry) (now : Instant)
    (requested : List String) : (run.includeOptional now requested).Grounded registry := by
  intro r hr
  rcases mem_takeIn hr with hr | ⟨q, hq, rfl⟩
  · exact h r hr
  · exact h.reset hq

theorem Grounded.changeReset (h : run.Grounded registry) (name : String) :
    (run.change name StageRecord.reset).Grounded registry := by
  intro r hr
  rcases mem_changeFirst hr with hr | ⟨q, hq, -, rfl⟩
  · exact h r hr
  · exact h.reset hq

theorem Grounded.resetFrom (h : run.Grounded registry) (now : Instant) (place : Nat) :
    (run.resetFrom now place).Grounded registry := by
  intro r hr
  rw [Run.resetFrom, stages_refresh, List.mem_append] at hr
  rcases hr with hr | hr
  · exact h r (List.mem_of_mem_take hr)
  · obtain ⟨q, hq, rfl⟩ := List.mem_map.mp hr
    have hq' := List.mem_of_mem_drop hq
    unfold resetRequested
    split
    · exact h q hq'
    · exact h.reset hq'

theorem Grounded.markSkipped (h : run.Grounded registry) {stage : String} {s : Stage}
    (hs : registry.stage? stage = some s) (skippable : s.skippable = true) (now : Instant) :
    (run.markSkipped now stage Pipeline.skippedNote).Grounded registry := by
  intro r hr
  rcases mem_changeFirst hr with hr | ⟨q, hq, hname, rfl⟩
  · exact h r hr
  · have declared : s.name = stage := by simpa using List.find?_some hs
    exact ⟨s, List.mem_of_find?_eq_some hs, declared.trans hname.symm,
      StageRecord.grounded_skip skippable now⟩

/-- In a complete run, a stage that no one may leave out or skip has succeeded. -/
theorem Grounded.status?_eq (h : run.Grounded registry) (names_eq : run.names = registry.names)
    (complete : run.firstIncomplete? = none) {s : Stage} (hs : s ∈ registry.stages)
    (mandatory : s.skippable = false ∧ s.optional = false) :
    run.status? s.name = some .succeeded := by
  have recorded : s.name ∈ run.names := by
    rw [names_eq]
    exact List.mem_map_of_mem hs
  obtain ⟨r, hr⟩ := exists_record? recorded
  obtain ⟨hmem, hname⟩ := mem_of_record?_eq_some hr
  obtain ⟨s', hs', hname', grounded⟩ := h r hmem
  obtain rfl : s' = s :=
    List.inj_on_of_nodup_map registry.nodup_names hs' hs (hname'.trans hname)
  have done : r.status.isComplete = true := by
    simp only [firstIncomplete?, List.findIdx?_eq_none_iff, Bool.not_eq_false'] at complete
    exact complete r hmem
  rw [status?, hr, Option.map_some, Option.some.injEq]
  cases hstatus : r.status with
  | succeeded => rfl
  | skipped =>
    rcases grounded.skipped hstatus with leftOut | skipped
    · simp [leftOut.optional] at mandatory
    · simp [skipped.skippable] at mandatory
  | _ => simp [hstatus, Status.isComplete] at done

end Run

namespace Pipeline

variable {p : Pipeline} {env : Snapshot} {dataset : String} {retries : Bool}
  {reading : Except IoError String}

/-! ### Changes keep the grounds -/

/-- What a drive does to the record of its stage has to be grounded, and that is enough. -/
theorem Standing.grounded_change {run : Run} {s : Stage} {before after : List StageRecord}
    {record : StageRecord} (stand : p.Standing run s before record after)
    (h : run.Grounded p.registry) {f : StageRecord → StageRecord}
    (hf : ∀ t, (f record).Grounded t) (hname : (f record).name = record.name) :
    (run.change s.name f).Grounded p.registry := by
  intro r hr
  rw [stand.stages_change, List.mem_append, List.mem_cons] at hr
  have old := h
  unfold Run.Grounded at old
  rw [stand.stages_eq] at old
  rcases hr with hr | rfl | hr
  · exact old r (by simp [hr])
  · obtain ⟨t, ht, htname, -⟩ := old record (by simp)
    exact ⟨t, ht, htname.trans hname.symm, hf t⟩
  · exact old r (by simp [hr])

theorem Commits.grounded {phase next : Phase} {run : Run} (h : Commits p env phase run next)
    (sound : phase.Sound p) (grounded : phase.run.Grounded p.registry) :
    run.Grounded p.registry := by
  have stands := sound.stands
  cases h with
  | unready hfailed =>
    -- the note goes to a record that is not complete
    obtain ⟨before, record, after, stand, -⟩ := stands
    exact stand.grounded_change grounded
      (fun _ => StageRecord.grounded_of_incomplete stand.incomplete) rfl
  | running now =>
    obtain ⟨before, record, after, stand, -⟩ := stands
    exact stand.grounded_change grounded (fun _ => StageRecord.grounded_of_incomplete rfl) rfl
  | succeeded now ho =>
    obtain ⟨before, record, after, stand, -⟩ := stands
    exact stand.grounded_change grounded (fun t => StageRecord.grounded_settle t _ record) rfl
  | failed now ho =>
    obtain ⟨before, record, after, stand, -⟩ := stands
    exact stand.grounded_change grounded (fun t => StageRecord.grounded_settle t _ record) rfl
  | lost now =>
    obtain ⟨before, record, after, stand, -⟩ := stands
    exact stand.grounded_change grounded (fun _ => StageRecord.grounded_of_incomplete rfl) rfl

/-- One change: a run that was grounded stays so, and a run that is made is. -/
theorem Change.grounded {before after : Option Run} (h : p.Change retries before after)
    (grounded : ∀ run ∈ before, run.Grounded p.registry) :
    ∀ run ∈ after, run.Grounded p.registry := by
  intro run hrun
  cases h with
  | recovered run =>
    obtain rfl := Option.some.inj hrun
    exact (grounded _ rfl).recover
  | made now params =>
    obtain rfl := Option.some.inj hrun
    exact Run.grounded_forRegistry now p.registry params
  | resumed now params run =>
    obtain rfl := Option.some.inj hrun
    exact (grounded _ rfl).includeOptional now params.included
  | @reset now _ _ _ _ _ again h =>
    obtain rfl := Option.some.inj hrun
    obtain ⟨place, -, -, rfl⟩ := resetForRetry_eq_ok h
    exact ((grounded _ rfl).changeReset _).resetFrom now place
  | skipped now hs skippable hstatus waiting =>
    obtain rfl := Option.some.inj hrun
    exact (grounded _ rfl).markSkipped hs skippable now
  | driven h sound =>
    obtain rfl := Option.some.inj hrun
    exact h.grounded sound (grounded _ rfl)

theorem Changes.grounded {run : Run} (h : p.Changes retries none (some run)) :
    run.Grounded p.registry := by
  have all : ∀ after, p.Changes retries none after → ∀ run ∈ after, run.Grounded p.registry := by
    intro after h
    induction h with
    | refl => simp
    | tail _ change ih => exact change.grounded ih
  exact all _ h run rfl

/-- In no history of a dataset is a stage complete on record without grounds: not in a run that is
committed, and not in one that an invocation gets through. In the latter, every stage that may
neither be skipped nor be left out has succeeded. -/
theorem grounded_of_history {turns : List (List Event)} (h : p.History dataset turns reading) :
    (∀ turn ∈ turns, ∀ run, .saved run ∈ turn → run.Grounded p.registry) ∧
    ∀ {σ : Type} (d : Drive) (executor : Executor σ) (w : World σ) (run : Run),
      d.dataset = dataset →
      w.files.readText (p.ledger.snapshotPath dataset) = reading →
      ((d.act p executor).perform w).1 = .ok run →
      run.Grounded p.registry ∧ ∀ s ∈ p.registry.stages,
        s.skippable = false ∧ s.optional = false → run.status? s.name = some .succeeded := by
  obtain ⟨hreading, course⟩ := h.course
  constructor
  · intro turn hturn run hrun
    exact (course.changes_saved (List.mem_flatten.mpr ⟨turn, hturn, hrun⟩)).grounded
  · intro σ d executor w run about found hrun
    have own : ∀ env, d.env? p w.files = some env → env.params.dataset = dataset :=
      fun _ => Drive.dataset_eq_of_env? about (h.onRecord.found found)
    obtain ⟨changes, names_eq, complete⟩ := Drive.changes_ok own (.inr rfl) hrun
    rw [found, ← hreading] at changes
    have grounded : run.Grounded p.registry := Changes.grounded (course.changes.trans changes)
    exact ⟨grounded, fun s hs => grounded.status?_eq names_eq complete hs⟩

/-- The second of two stages is skipped; or both are run, and the first has to succeed. -/
theorem grounded_of_sample :
    (∃ run, .saved run ∈ ((Request.skip "cubes" "train").answer Sample.pipeline
        (Sample.executor "none") Sample.world).since Sample.world ∧
      run.Grounded Sample.registry) ∧
    ∃ run, (((Drive.execute [] (.usual "cubes")).act Sample.pipeline
        (Sample.executor "none")).perform Sample.world).1 = .ok run ∧
      run.status? "record" = some .succeeded := by
  have found : Sample.world.files.readText (Sample.pipeline.ledger.snapshotPath "cubes") =
      .error .notFound := by decide +kernel
  constructor
  · have about : (Request.skip "cubes" "train").IsAbout "cubes" := .skip
    have turn := History.nil.turn (Sample.executor "none") Sample.world found about
      (List.prefix_refl _)
    have saved : (((Request.skip "cubes" "train").answer Sample.pipeline
        (Sample.executor "none") Sample.world).since Sample.world).any
          Sample.isCommit = true := by decide +kernel
    obtain ⟨e, hmem, he⟩ := List.any_eq_true.mp saved
    cases e with
    | saved run =>
      have grounded := (grounded_of_history turn).1 _ (by simp) run hmem
      exact ⟨run, hmem, grounded⟩
    | _ => simp [Sample.isCommit] at he
  · have through : (((Drive.execute [] (.usual "cubes")).act Sample.pipeline
        (Sample.executor "none")).perform Sample.world).1.isOk = true := by decide +kernel
    cases hrun : (((Drive.execute [] (.usual "cubes")).act Sample.pipeline
        (Sample.executor "none")).perform Sample.world).1 with
    | error e => simp [hrun, Except.isOk, Except.toBool] at through
    | ok run =>
      obtain ⟨-, succeeded⟩ := (grounded_of_history History.nil).2 (.execute [] (.usual "cubes"))
        (Sample.executor "none") Sample.world run rfl found hrun
      exact ⟨run, rfl, succeeded Sample.record (by decide) ⟨rfl, rfl⟩⟩

end Pipeline

end RobotPipeline
