/-
  RobotPipeline/Proofs/Pipeline/Standing.lean
  ===========================================
  **Where a drive stands in the run that it has committed.**

  At every phase the run has the stages of the pipeline and is in order. From
  the checks of a stage until its outcome is committed, the record of that
  stage is the first incomplete one, and it is running exactly from the commit
  that says so. `Trace.sound` shows this of all phases that a trace comes to.

  Every commit of a drive changes that one record (`Standing.stages_change`).
-/
import RobotPipeline.Proofs.Ledger.Load
import RobotPipeline.Proofs.Pipeline.Trace
import RobotPipeline.Proofs.Run.Lookup

namespace RobotPipeline

namespace Pipeline

/-! ### The stage where a drive stands -/

/-- A drive stands at a stage: the record of the stage is the first incomplete one of the run. -/
structure Standing (p : Pipeline) (run : Run) (s : Stage) (before : List StageRecord)
    (record : StageRecord) (after : List StageRecord) : Prop
    extends run.Front before record after where
  stage : p.registry.stages[before.length]? = some s
  name_eq : record.name = s.name

theorem exists_standing {p : Pipeline} {run : Run} {place : Nat} {s : Stage}
    (hn : run.names = p.registry.names) (first : run.firstIncomplete? = some place)
    (hs : p.registry.stages[place]? = some s) :
    ∃ before record after, p.Standing run s before record after := by
  have hnodup : run.names.Nodup := by
    rw [hn]
    exact p.registry.nodup_names
  obtain ⟨before, record, after, front, rfl⟩ := Run.exists_front hnodup first
  refine ⟨before, record, after, front, hs, ?_⟩
  -- both names stand at the same place of the same list
  have hname : run.names[before.length]? = p.registry.names[before.length]? := by rw [hn]
  simpa [Run.names, Registry.names, front.getElem?_stages, hs] using hname

namespace Standing

variable {p : Pipeline} {run : Run} {s : Stage} {before after : List StageRecord}
  {record : StageRecord}

theorem mem_names (h : p.Standing run s before record after) : s.name ∈ p.registry.names :=
  List.mem_map.mpr ⟨s, List.mem_of_getElem? h.stage, rfl⟩

theorem record?_eq (h : p.Standing run s before record after) :
    run.record? s.name = some record := by
  rw [← h.name_eq]
  exact h.toFront.record?_eq

theorem record?_change (h : p.Standing run s before record after)
    {f : StageRecord → StageRecord} (hf : ∀ r, (f r).name = r.name) :
    (run.change s.name f).record? s.name = some (f record) := by
  rw [Run.record?_change_self hf, h.record?_eq, Option.map_some]

/-- A change of the stage changes its record only. -/
theorem stages_change (h : p.Standing run s before record after) (f : StageRecord → StageRecord) :
    (run.change s.name f).stages = before ++ f record :: after := by
  rw [← h.name_eq, h.toFront.stages_change]

theorem ordered_change (h : p.Standing run s before record after) (ordered : run.Ordered)
    (f : StageRecord → StageRecord) : (run.change s.name f).Ordered := by
  rw [← h.name_eq]
  exact h.toFront.ordered_change ordered f

/-- A change that leaves the stage incomplete leaves the drive standing there. -/
theorem change (h : p.Standing run s before record after) {f : StageRecord → StageRecord}
    (hname : (f record).name = record.name) (hinc : (f record).status.isComplete = false) :
    p.Standing (run.change s.name f) s before (f record) after := by
  have front := h.toFront.change hname hinc
  rw [h.name_eq] at front
  exact ⟨front, h.stage, hname.trans h.name_eq⟩

theorem refresh (h : p.Standing run s before record after) (now : Instant) :
    p.Standing (run.refresh now) s before record after :=
  ⟨h.toFront.refresh now, h.stage, h.name_eq⟩

theorem markRunning (h : p.Standing run s before record after) (now : Instant) :
    p.Standing (run.markRunning now s.name) s before (record.launch now) after :=
  (h.change (f := StageRecord.launch now) rfl rfl).refresh now

theorem markFailed (h : p.Standing run s before record after) (now : Instant) (note : String)
    (ran : Bool) :
    p.Standing (run.markFailed now s.name note ran) s before (record.fail now note ran) after :=
  (h.change (f := StageRecord.fail now note ran) rfl rfl).refresh now

theorem setNote (h : p.Standing run s before record after) (note : String) :
    p.Standing (run.setNote s.name note) s before { record with note := some note } after :=
  h.change (f := fun r => { r with note := some note }) rfl h.incomplete

theorem stages_applyOutcome (h : p.Standing run s before record after) (now : Instant)
    (o : Outcome) : (run.applyOutcome now s.name o).stages = before ++ record.settle o :: after :=
  h.stages_change (StageRecord.settle o)

theorem applyOutcome (h : p.Standing run s before record after) (now : Instant) {o : Outcome}
    (ho : o.isSuccess = false) :
    p.Standing (run.applyOutcome now s.name o) s before (record.settle o) after :=
  (h.change (f := StageRecord.settle o) rfl (by simp [StageRecord.settle, ho, Status.isComplete])).refresh now

/-- No stage but the one where the drive stands may be running. -/
theorem idle (h : p.Standing run s before record after) (ordered : run.Ordered) :
    ∀ r ∈ before ++ after, r.status ≠ .running := by
  intro r hr running
  rcases List.mem_append.mp hr with hr | hr
  · simpa [running, Status.isComplete] using h.complete r hr
  · simpa [running, Status.isAhead] using h.still ordered r hr

end Standing

end Pipeline

/-! ### What holds at every phase -/

namespace Phase

/-- Where the drive stands at a phase, and whether a stage is running there. -/
def Stands (p : Pipeline) : Phase → Prop
  | ready run => ∀ r ∈ run.stages, r.status ≠ .running
  | checked run s _ => ∃ before record after,
      p.Standing run s before record after ∧ record.status ≠ .running
  | unready run s _ => ∃ before record after,
      p.Standing run s before record after ∧ record.status ≠ .running
  | marked run s l => l.stage = s.name ∧ ∃ before record after,
      p.Standing run s before record after ∧ record.status = .running
  | launched run s => ∃ before record after,
      p.Standing run s before record after ∧ record.status = .running
  | returned run s _ => ∃ before record after,
      p.Standing run s before record after ∧ record.status = .running
  | lost run s _ => ∃ before record after,
      p.Standing run s before record after ∧ record.status = .failed
  | failed run s o => o.isSuccess = false ∧ ∃ before record after,
      p.Standing run s before record after ∧ record.status = .failed
  | unsaved before _ => before.Stands p

/-- The invariant of a drive. -/
structure Sound (p : Pipeline) (phase : Phase) : Prop where
  names_eq : phase.run.names = p.registry.names
  ordered : phase.run.Ordered
  stands : phase.Stands p

end Phase

namespace Pipeline

variable {p : Pipeline} {env : Snapshot}

/-- A run at rest is one that a drive may start with. -/
theorem AtRest.sound {dataset : String} {run : Run} (h : p.AtRest dataset run) :
    (Phase.ready run).Sound p :=
  ⟨h.names_eq, h.ordered, h.idle⟩

/-- A commit changes the record of the stage where the drive stands, and no other. -/
theorem Commits.exists_change {phase next : Phase} {run : Run}
    (h : Commits p env phase run next) (stands : phase.Stands p) :
    ∃ s before record after f, p.Standing phase.run s before record after ∧
      (∀ r : StageRecord, (f r).name = r.name) ∧
      next.run.stages = (phase.run.change s.name f).stages := by
  cases h with
  | @unready run s failed _ =>
    obtain ⟨before, record, after, stand, -⟩ := stands
    exact ⟨s, before, record, after, fun r => { r with note := some _ }, stand, fun _ => rfl, rfl⟩
  | @running run s now =>
    obtain ⟨before, record, after, stand, -⟩ := stands
    exact ⟨s, before, record, after, _, stand, StageRecord.name_launch now, rfl⟩
  | @succeeded run s o now _ =>
    obtain ⟨before, record, after, stand, -⟩ := stands
    exact ⟨s, before, record, after, _, stand, StageRecord.name_settle o, rfl⟩
  | @failed run s o now _ =>
    obtain ⟨before, record, after, stand, -⟩ := stands
    exact ⟨s, before, record, after, _, stand, StageRecord.name_settle o, rfl⟩
  | @lost run s e now =>
    obtain ⟨before, record, after, stand, -⟩ := stands
    exact ⟨s, before, record, after, _, stand, StageRecord.name_fail now _ _, rfl⟩

/-- After a commit the drive stands where it should. -/
theorem Commits.stands {phase next : Phase} {run : Run} (h : Commits p env phase run next)
    (ordered : phase.run.Ordered) (stands : phase.Stands p) : next.Stands p := by
  cases h with
  | @unready run s failed hfailed =>
    obtain ⟨before, record, after, stand, hrecord⟩ := stands
    exact ⟨_, _, _, stand.setNote (unreadyNote failed), hrecord⟩
  | @running run s now =>
    obtain ⟨before, record, after, stand, -⟩ := stands
    constructor
    · rfl
    · exact ⟨_, _, _, stand.markRunning now, rfl⟩
  | @succeeded run s o now ho =>
    -- the record that was running is complete, and no other one may be running
    obtain ⟨before, record, after, stand, -⟩ := stands
    have idle := stand.idle ordered
    intro r hr
    rw [stand.stages_applyOutcome now o, List.mem_append, List.mem_cons] at hr
    rcases hr with hr | rfl | hr
    · apply idle r
      simp [hr]
    · simp [StageRecord.settle, ho]
    · apply idle r
      simp [hr]
  | @failed run s o now ho =>
    obtain ⟨before, record, after, stand, -⟩ := stands
    have hfailed : (record.settle o).status = .failed := by simp [StageRecord.settle, ho]
    constructor
    · exact ho
    · exact ⟨_, _, _, stand.applyOutcome now ho, hfailed⟩
  | @lost run s e now =>
    obtain ⟨before, record, after, stand, -⟩ := stands
    exact ⟨_, _, _, stand.markFailed now e.message e.processRan, rfl⟩

theorem Commits.sound {phase next : Phase} {run : Run} (h : Commits p env phase run next)
    (sound : phase.Sound p) : next.Sound p := by
  obtain ⟨names_eq, ordered, stands⟩ := sound
  obtain ⟨s, before, record, after, f, stand, hf, stages_eq⟩ := h.exists_change stands
  constructor
  · rw [← names_eq, Run.names, stages_eq]
    exact Run.map_name_changeFirst hf s.name phase.run.stages
  · rw [Run.Ordered, stages_eq]
    exact stand.ordered_change ordered f
  · exact h.stands ordered stands

theorem Step.sound {phase next : Phase} {e : Event} (step : Step p env phase e next)
    (sound : phase.Sound p) : next.Sound p := by
  cases step with
  | @checked run place s files first hs =>
    obtain ⟨names_eq, ordered, idle⟩ := sound
    have hn : run.names = p.registry.names := names_eq
    obtain ⟨before, record, after, stand⟩ := exists_standing hn first hs
    exact ⟨names_eq, ordered, before, record, after, stand,
      idle record (by rw [stand.stages_eq]; simp)⟩
  | saved h _ => exact h.sound sound
  | refused _ _ => exact ⟨sound.names_eq, sound.ordered, sound.stands⟩
  | launched => exact ⟨sound.names_eq, sound.ordered, sound.stands.2⟩
  | returned result => exact ⟨sound.names_eq, sound.ordered, sound.stands⟩

/-- A drive that starts with a run at rest is sound at every phase. -/
theorem Trace.sound {start phase : Phase} {events : List Event}
    (h : Trace p env start events phase) (sound : start.Sound p) : phase.Sound p := by
  induction h with
  | nil => exact sound
  | snoc _ step ih => exact step.sound ih

/-! ### Commits that pass -/

/-- The entry is no commit that was refused for the order of the stages, and no commit of a run
that is out of order. -/
def InOrder : Event → Prop
  | .saved run => run.Ordered
  | .refused _ cause => ∃ e, cause = .io e
  | _ => True

theorem Refusal.system_of_ordered {run : Run} {cause : LedgerError} (why : Refusal run cause)
    (ordered : run.Ordered) : ∃ e, cause = .io e := by
  cases why with
  | order hv => simp [(Run.orderViolation?_eq_none_iff run).mpr ordered] at hv
  | system e => exact ⟨e, rfl⟩

/-- One step of a drive: the phase it comes from is sound, so what it commits is in order. -/
theorem Step.inOrder {phase next : Phase} {e : Event}
    (step : Step p env phase e next) (sound : phase.Sound p) : InOrder e := by
  cases step with
  | checked _ _ _ => trivial
  | saved _ ordered => exact ordered
  | refused h why =>
    have ordered := (h.sound sound).ordered
    rw [h.run_eq] at ordered
    exact why.system_of_ordered ordered
  | launched => trivial
  | returned _ => trivial

theorem Trace.inOrder {start phase : Phase} {events : List Event}
    (h : Trace p env start events phase) (sound : start.Sound p) : ∀ e ∈ events, InOrder e := by
  induction h with
  | nil => simp
  | snoc past step ih =>
    intro e he
    rcases List.mem_append.mp he with he | he
    · exact ih e he
    · rw [List.mem_singleton.mp he]
      exact step.inOrder (past.sound sound)

end Pipeline

end RobotPipeline
