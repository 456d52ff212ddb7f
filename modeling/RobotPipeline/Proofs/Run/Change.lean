/-
  RobotPipeline/Proofs/Run/Change.lean
  ====================================
  **What the changes of a run change, and what they leave.**

  Every change of a run is a change of one record, or of the records from a
  place on. The names of the stages never change. At the first incomplete
  stage a run falls into three parts: the complete records before it, its own
  record, and the records after it (`Run.Front`); a change of that stage
  changes the middle part only.
-/
import Mathlib.Tactic.ByContra
import RobotPipeline.Run.Basic

namespace RobotPipeline

/-! ### Records -/

namespace StageRecord

@[simp] theorem name_reset (r : StageRecord) : r.reset.name = r.name := rfl

@[simp] theorem name_launch (now : Instant) (r : StageRecord) : (r.launch now).name = r.name := rfl

@[simp] theorem name_settle (o : Outcome) (r : StageRecord) : (r.settle o).name = r.name := rfl

@[simp] theorem name_fail (now : Instant) (note : String) (ran : Bool) (r : StageRecord) :
    (r.fail now note ran).name = r.name := rfl

@[simp] theorem name_skip (now : Instant) (note : String) (r : StageRecord) :
    (r.skip now note).name = r.name := rfl

@[simp] theorem name_recover (r : StageRecord) : r.recover.name = r.name := by
  unfold recover
  split <;> rfl

/-- Recovery changes no record but those of running stages. -/
theorem recover_of_ne_running {r : StageRecord} (h : r.status ≠ .running) : r.recover = r :=
  if_neg h

theorem status_recover_ne_running (r : StageRecord) : r.recover.status ≠ .running := by
  unfold recover
  split
  · simp
  · assumption

end StageRecord

namespace Run

/-! ### Fields that stay -/

@[simp] theorem stages_refresh (now : Instant) (run : Run) :
    (run.refresh now).stages = run.stages := rfl

@[simp] theorem stages_change (run : Run) (name : String) (f : StageRecord → StageRecord) :
    (run.change name f).stages = changeFirst f name run.stages := rfl

theorem recover_of_not_running {run : Run} (h : ∀ r ∈ run.stages, r.status ≠ .running) :
    run.recover = run := by
  have none : run.interruptedStages = [] := by
    simpa [interruptedStages] using h
  rw [recover, none]
  rfl

/-- Recovery makes failures of running stages, and finds the first incomplete one again. -/
theorem stages_recover (run : Run) : run.recover.stages = run.stages.map StageRecord.recover := by
  unfold recover
  split
  · rename_i h
    -- no stage is running, so no record changes
    have still : ∀ r ∈ run.stages, r.status ≠ .running := by
      simpa [interruptedStages] using h
    have same : run.stages.map StageRecord.recover = run.stages.map id :=
      List.map_congr_left fun r hr => StageRecord.recover_of_ne_running (still r hr)
    rw [same, List.map_id]
  · rfl

@[simp] theorem dataset_recover (run : Run) : run.recover.dataset = run.dataset := by
  unfold recover
  split <;> rfl

@[simp] theorem runId_recover (run : Run) : run.recover.runId = run.runId := by
  unfold recover
  split <;> rfl

@[simp] theorem parameters_recover (run : Run) : run.recover.parameters = run.parameters := by
  unfold recover
  split <;> rfl

/-! ### Names -/

theorem map_name_changeFirst {f : StageRecord → StageRecord} (hf : ∀ r, (f r).name = r.name)
    (name : String) (records : List StageRecord) :
    (changeFirst f name records).map (·.name) = records.map (·.name) := by
  induction records with
  | nil => rfl
  | cons r rest ih =>
    unfold changeFirst
    split
    · simp [hf]
    · simp [ih]

theorem map_name_takeIn (requested : List String) (records : List StageRecord) :
    (takeIn requested records).map (·.name) = records.map (·.name) := by
  induction records with
  | nil => rfl
  | cons r rest ih =>
    unfold takeIn
    split <;> simp [ih]

@[simp] theorem name_resetRequested (r : StageRecord) : (resetRequested r).name = r.name := by
  unfold resetRequested
  split <;> rfl

@[simp] theorem names_markRunning (now : Instant) (name : String) (run : Run) :
    (run.markRunning now name).names = run.names :=
  map_name_changeFirst (StageRecord.name_launch now) name run.stages

@[simp] theorem names_applyOutcome (now : Instant) (name : String) (o : Outcome) (run : Run) :
    (run.applyOutcome now name o).names = run.names :=
  map_name_changeFirst (StageRecord.name_settle o) name run.stages

@[simp] theorem names_setNote (name note : String) (run : Run) :
    (run.setNote name note).names = run.names :=
  map_name_changeFirst (f := fun r => { r with note := some note }) (fun _ => rfl) name run.stages

@[simp] theorem names_markSkipped (now : Instant) (name note : String) (run : Run) :
    (run.markSkipped now name note).names = run.names :=
  map_name_changeFirst (StageRecord.name_skip now note) name run.stages

@[simp] theorem names_includeOptional (now : Instant) (requested : List String) (run : Run) :
    (run.includeOptional now requested).names = run.names :=
  map_name_takeIn requested run.stages

@[simp] theorem names_resetFrom (now : Instant) (place : Nat) (run : Run) :
    (run.resetFrom now place).names = run.names := by
  have h : ∀ r : StageRecord, (resetRequested r).name = r.name := name_resetRequested
  simp only [names, resetFrom, stages_refresh, List.map_append, List.map_map, Function.comp_def, h]
  rw [← List.map_append, List.take_append_drop]

@[simp] theorem names_recover (run : Run) : run.recover.names = run.names := by
  simp [names, stages_recover, Function.comp_def]

@[simp] theorem names_forRegistry (now : Instant) (registry : Registry) (p : Parameters) :
    (forRegistry now registry p).names = registry.names := by
  have h : ∀ s, (recordFor p.included s).name = s.name := by
    intro s
    unfold recordFor
    dsimp only
    split <;> rfl
  simp [names, forRegistry, Registry.names, Function.comp_def, h]

/-! ### Records after a change -/

theorem mem_changeFirst {f : StageRecord → StageRecord} {name : String}
    {records : List StageRecord} {r : StageRecord} (h : r ∈ changeFirst f name records) :
    r ∈ records ∨ ∃ q ∈ records, q.name = name ∧ r = f q := by
  induction records with
  | nil => simp [changeFirst] at h
  | cons q rest ih =>
    rw [changeFirst] at h
    split at h
    · rename_i hname
      rcases List.mem_cons.mp h with rfl | h
      · exact .inr ⟨q, by simp, hname, rfl⟩
      · exact .inl (List.mem_cons_of_mem q h)
    · rcases List.mem_cons.mp h with rfl | h
      · exact .inl List.mem_cons_self
      · rcases ih h with h | ⟨q', hq', hname, rfl⟩
        · exact .inl (List.mem_cons_of_mem q h)
        · exact .inr ⟨q', List.mem_cons_of_mem q hq', hname, rfl⟩

/-- What it takes for a stage to be taken in, before the stages in `later`. -/
theorem isTakenIn_iff {requested : List String} {r : StageRecord} {later : List StageRecord} :
    isTakenIn requested r later = true ↔ r.status = .skipped ∧ r.note = some "not requested" ∧
      r.name ∈ requested ∧ ∀ s ∈ later, s.status ≠ .succeeded := by
  simp only [isTakenIn, StageRecord.isNotRequested, Bool.and_eq_true, decide_eq_true_eq,
    List.all_eq_true, and_assoc]
  exact Iff.rfl

theorem mem_takeIn {requested : List String} {records : List StageRecord} {r : StageRecord}
    (h : r ∈ takeIn requested records) : r ∈ records ∨ ∃ q ∈ records, r = q.reset := by
  induction records with
  | nil => simp [takeIn] at h
  | cons q rest ih =>
    rw [takeIn, List.mem_cons] at h
    rcases h with rfl | h
    · split
      · exact .inr ⟨q, by simp, rfl⟩
      · exact .inl List.mem_cons_self
    · rcases ih h with h | ⟨q', hq', rfl⟩
      · exact .inl (List.mem_cons_of_mem q h)
      · exact .inr ⟨q', List.mem_cons_of_mem q hq', rfl⟩

/-! ### The first incomplete stage -/

/-- The first incomplete stage of a run is that of `record`: the records `before` it are complete,
and none of them has its name. -/
structure Front (run : Run) (before : List StageRecord) (record : StageRecord)
    (after : List StageRecord) : Prop where
  stages_eq : run.stages = before ++ record :: after
  complete : ∀ r ∈ before, r.status.isComplete = true
  incomplete : record.status.isComplete = false
  fresh : ∀ r ∈ before, r.name ≠ record.name

theorem changeFirst_append {f : StageRecord → StageRecord} {before after : List StageRecord}
    {record : StageRecord} (fresh : ∀ r ∈ before, r.name ≠ record.name) :
    changeFirst f record.name (before ++ record :: after) = before ++ f record :: after := by
  induction before with
  | nil => simp [changeFirst]
  | cons r rest ih =>
    have hr : r.name ≠ record.name := fresh r (by simp)
    simp only [List.cons_append, changeFirst, if_neg hr]
    rw [ih fun b hb => fresh b (by simp [hb])]

namespace Front

variable {run : Run} {before after : List StageRecord} {record : StageRecord}

/-- A change of the first incomplete stage changes its record only. -/
theorem stages_change (h : run.Front before record after) (f : StageRecord → StageRecord) :
    (run.change record.name f).stages = before ++ f record :: after := by
  rw [Run.stages_change, h.stages_eq, changeFirst_append h.fresh]

theorem firstIncomplete? (h : run.Front before record after) :
    run.firstIncomplete? = some before.length := by
  have none_before : before.findIdx? (fun r => !r.status.isComplete) = none := by
    simpa [List.findIdx?_eq_none_iff] using h.complete
  simp [Run.firstIncomplete?, h.stages_eq, List.findIdx?_append, none_before, List.findIdx?_cons,
    h.incomplete]

theorem getElem?_stages (h : run.Front before record after) :
    run.stages[before.length]? = some record := by
  simp [h.stages_eq]

/-- A change that leaves the stage incomplete leaves it the first incomplete one. -/
theorem change (h : run.Front before record after) {f : StageRecord → StageRecord}
    (hname : (f record).name = record.name) (hinc : (f record).status.isComplete = false) :
    (run.change record.name f).Front before (f record) after := by
  constructor
  · exact h.stages_change f
  · exact h.complete
  · exact hinc
  · intro r hr
    rw [hname]
    exact h.fresh r hr

/-- Index and end do not matter for where the first incomplete stage is. -/
theorem refresh (h : run.Front before record after) (now : Instant) :
    (run.refresh now).Front before record after :=
  ⟨h.stages_eq, h.complete, h.incomplete, h.fresh⟩

end Front

/-- The names of the incomplete stages, in pipeline order. -/
def incomplete (run : Run) : List String :=
  (run.stages.filter (fun r => !r.status.isComplete)).map (·.name)

theorem incomplete_sublist (run : Run) : run.incomplete.Sublist run.names :=
  List.filter_sublist.map _

theorem incomplete_of_stages_eq {run : Run} {before after : List StageRecord}
    {record : StageRecord} (stages_eq : run.stages = before ++ record :: after)
    (complete : ∀ r ∈ before, r.status.isComplete = true) :
    run.incomplete = (if record.status.isComplete then [] else [record.name]) ++
      (after.filter (fun r => !r.status.isComplete)).map (·.name) := by
  have hbefore : before.filter (fun r => !r.status.isComplete) = [] := by
    simpa [List.filter_eq_nil_iff] using complete
  rw [incomplete, stages_eq, List.filter_append, hbefore, List.nil_append, List.filter_cons]
  cases record.status.isComplete <;> simp

theorem incomplete_eq_nil_iff {run : Run} :
    run.incomplete = [] ↔ run.firstIncomplete? = none := by
  simp [incomplete, firstIncomplete?, List.filter_eq_nil_iff, List.findIdx?_eq_none_iff]

/-- The records before the first incomplete one, that one, and the records after it. -/
theorem exists_split_of_firstIncomplete? {run : Run} {place : Nat}
    (h : run.firstIncomplete? = some place) :
    ∃ before record after, run.stages = before ++ record :: after ∧ before.length = place ∧
      (∀ r ∈ before, r.status.isComplete = true) ∧ record.status.isComplete = false := by
  obtain ⟨hlt, hrec, hbefore⟩ := List.findIdx?_eq_some_iff_getElem.mp h
  refine ⟨run.stages.take place, run.stages[place], run.stages.drop (place + 1), ?_, ?_, ?_, ?_⟩
  · rw [List.getElem_cons_drop, List.take_append_drop]
  · rw [List.length_take]
    omega
  · intro r hr
    obtain ⟨i, hi, rfl⟩ := List.mem_take_iff_getElem.mp hr
    simpa using hbefore i (by omega)
  · simpa using hrec

/-- A run with an incomplete stage has a first one, given that no two stages share a name. -/
theorem exists_front {run : Run} {place : Nat} (hn : run.names.Nodup)
    (h : run.firstIncomplete? = some place) :
    ∃ before record after, run.Front before record after ∧ before.length = place := by
  obtain ⟨before, record, after, hsplit, len, complete, incomplete⟩ :=
    exists_split_of_firstIncomplete? h
  refine ⟨before, record, after, ⟨hsplit, complete, incomplete, ?_⟩, len⟩
  intro r hr heq
  rw [names, hsplit, List.map_append, List.nodup_append] at hn
  exact hn.2.2 r.name (List.mem_map_of_mem hr) record.name
    (List.mem_map_of_mem List.mem_cons_self) heq

/-- The first incomplete stage is the next one, unless the next one is complete too. -/
theorem complete_take_succ {run : Run} {place : Nat}
    (hdone : ∀ r ∈ run.stages.take place, r.status.isComplete = true)
    (h : run.firstIncomplete? ≠ some place) :
    ∀ r ∈ run.stages.take (place + 1), r.status.isComplete = true := by
  intro r hr
  obtain ⟨i, hi, rfl⟩ := List.mem_take_iff_getElem.mp hr
  by_contra hinc
  have earlier : ∀ (j : Nat) (hj : j < place) (hlt : j < run.stages.length),
      run.stages[j].status.isComplete = true := by
    intro j hj hlt
    apply hdone
    exact List.mem_take_iff_getElem.mpr ⟨j, by omega, rfl⟩
  have hplace : i = place := by
    by_contra hne
    exact hinc (earlier i (by omega) (by omega))
  subst hplace
  apply h
  refine List.findIdx?_eq_some_iff_getElem.mpr ⟨by omega, by simpa using hinc, ?_⟩
  intro j hj
  simpa using earlier j hj (by omega)

end Run

end RobotPipeline
