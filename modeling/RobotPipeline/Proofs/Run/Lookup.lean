/-
  RobotPipeline/Proofs/Run/Lookup.lean
  ====================================
  **The record of a stage, found by its name.**

  Every change of a run says what it does to the record of each name. What was
  tried so far of a stage (`StageRecord.history`) survives resetting, skipping
  and taking in: only launches, outcomes and interruptions change it.
-/
import Mathlib.Data.List.Nodup
import RobotPipeline.Proofs.Run.Change

namespace RobotPipeline

namespace StageRecord

/-- What a record says of the attempts so far: their number, the last outcome, and whether the last
one may have left something half done. -/
def history (r : StageRecord) : UInt32 × Option Outcome × Bool :=
  (r.attempts, r.lastOutcome, r.unreliable)

@[simp] theorem history_reset (r : StageRecord) : r.reset.history = r.history := rfl

@[simp] theorem history_skip (now : Instant) (note : String) (r : StageRecord) :
    (r.skip now note).history = r.history := rfl

@[simp] theorem isComplete_recover (r : StageRecord) :
    r.recover.status.isComplete = r.status.isComplete := by
  unfold recover
  split
  · rename_i running
    simp [running, Status.isComplete]
  · rfl

end StageRecord

namespace Run

theorem mem_of_record?_eq_some {run : Run} {name : String} {r : StageRecord}
    (h : run.record? name = some r) : r ∈ run.stages ∧ r.name = name :=
  ⟨List.mem_of_find?_eq_some h, by simpa using List.find?_some h⟩

theorem exists_record? {run : Run} {name : String} (h : name ∈ run.names) :
    ∃ r, run.record? name = some r := by
  obtain ⟨r, hr, rfl⟩ := List.mem_map.mp h
  exact Option.isSome_iff_exists.mp (List.find?_isSome.mpr ⟨r, hr, by simp⟩)

theorem record?_of_mem {run : Run} (hn : run.names.Nodup) {r : StageRecord}
    (hr : r ∈ run.stages) : run.record? r.name = some r := by
  obtain ⟨found, hfound⟩ := exists_record? (List.mem_map_of_mem (f := (·.name)) hr)
  obtain ⟨hmem, hname⟩ := mem_of_record?_eq_some hfound
  rw [hfound, List.inj_on_of_nodup_map hn hmem hr hname]

/-! ### Changes of one record -/

section Change

variable {f : StageRecord → StageRecord}

theorem record?_change_self (hf : ∀ r, (f r).name = r.name) (run : Run) (name : String) :
    (run.change name f).record? name = (run.record? name).map f := by
  have go : ∀ records : List StageRecord,
      (changeFirst f name records).find? (fun r => r.name = name) =
        (records.find? (fun r => r.name = name)).map f := by
    intro records
    induction records with
    | nil => rfl
    | cons r rest ih =>
      by_cases h : r.name = name
      · simp [changeFirst, h, hf]
      · simp [changeFirst, h, ih]
  exact go run.stages

theorem record?_change_other (hf : ∀ r, (f r).name = r.name) (run : Run) {name other : String}
    (hne : other ≠ name) : (run.change name f).record? other = run.record? other := by
  have go : ∀ records : List StageRecord,
      (changeFirst f name records).find? (fun r => r.name = other) =
        records.find? (fun r => r.name = other) := by
    intro records
    induction records with
    | nil => rfl
    | cons r rest ih =>
      by_cases h : r.name = name
      · have hr : r.name ≠ other := fun e => hne (e.symm.trans h)
        simp [changeFirst, h, hf, hne.symm]
      · simp [changeFirst, h, List.find?_cons, ih]
  exact go run.stages

end Change

/-! ### The records before and after it -/

/-- The first record with a name, between those before and after it. -/
structure Spot (run : Run) (stage : String) (before : List StageRecord) (record : StageRecord)
    (after : List StageRecord) : Prop where
  stages_eq : run.stages = before ++ record :: after
  name_eq : record.name = stage
  fresh : ∀ r ∈ before, r.name ≠ stage

theorem exists_spot {run : Run} {stage : String} (h : stage ∈ run.names) :
    ∃ before record after, run.Spot stage before record after := by
  obtain ⟨record, hrecord⟩ := exists_record? h
  obtain ⟨hname, before, after, hsplit, hbefore⟩ := List.find?_eq_some_iff_append.mp hrecord
  refine ⟨before, record, after, hsplit, by simpa using hname, ?_⟩
  intro r hr
  simpa using hbefore r hr

section Spot

variable {run : Run} {stage : String} {before after : List StageRecord} {record : StageRecord}

theorem Spot.record?_eq (h : run.Spot stage before record after) :
    run.record? stage = some record := by
  have none_before : before.find? (fun r => r.name = stage) = none := by
    simpa [List.find?_eq_none] using h.fresh
  simp [record?, h.stages_eq, List.find?_append, none_before, h.name_eq]

theorem Spot.position?_eq (h : run.Spot stage before record after) :
    run.position? stage = some before.length := by
  have none_before : before.findIdx? (fun r => r.name = stage) = none := by
    simpa [List.findIdx?_eq_none_iff] using h.fresh
  simp [position?, h.stages_eq, List.findIdx?_append, none_before, List.findIdx?_cons, h.name_eq]

/-- The first incomplete stage is the first one with its name. -/
theorem Front.spot (h : run.Front before record after) :
    run.Spot record.name before record after :=
  ⟨h.stages_eq, rfl, h.fresh⟩

theorem Front.record?_eq (h : run.Front before record after) :
    run.record? record.name = some record :=
  h.spot.record?_eq

theorem Front.position?_eq (h : run.Front before record after) :
    run.position? record.name = some before.length :=
  h.spot.position?_eq

end Spot

/-! ### Recovery -/

theorem record?_recover (run : Run) (name : String) :
    run.recover.record? name = (run.record? name).map StageRecord.recover := by
  have same : (fun r : StageRecord => decide (r.name = name)) ∘ StageRecord.recover =
      fun r => decide (r.name = name) := by
    funext r
    simp
  rw [record?, stages_recover, List.find?_map, same]
  rfl

theorem position?_recover (run : Run) (name : String) :
    run.recover.position? name = run.position? name := by
  simp [position?, stages_recover, List.findIdx?_map, Function.comp_def]

theorem firstIncomplete?_recover (run : Run) :
    run.recover.firstIncomplete? = run.firstIncomplete? := by
  simp [firstIncomplete?, stages_recover, List.findIdx?_map, Function.comp_def]

/-! ### What was tried so far -/

/-- What a run says of the attempts of a stage so far. -/
def history? (run : Run) (name : String) : Option (UInt32 × Option Outcome × Bool) :=
  (run.record? name).map StageRecord.history

theorem history?_eq_of_map_eq {run run' : Run}
    (h : run.stages.map (fun r => (r.name, r.history)) =
      run'.stages.map (fun r => (r.name, r.history))) (name : String) :
    run.history? name = run'.history? name := by
  have go : ∀ records : List StageRecord,
      (records.find? (fun r => r.name = name)).map StageRecord.history =
        ((records.map fun r => (r.name, r.history)).find? (fun e => e.1 = name)).map (·.2) := by
    intro records
    simp [List.find?_map, Function.comp_def]
  unfold history? record?
  rw [go run.stages, h, ← go run'.stages]

theorem history?_change {f : StageRecord → StageRecord} (hf : ∀ r, (f r).name = r.name)
    (hh : ∀ r, (f r).history = r.history) (run : Run) (name other : String) :
    (run.change name f).history? other = run.history? other := by
  refine history?_eq_of_map_eq ?_ other
  rw [stages_change]
  generalize run.stages = records
  induction records with
  | nil => rfl
  | cons r rest ih =>
    unfold changeFirst
    split
    · simp [hf, hh]
    · simp [ih]

theorem history?_includeOptional (now : Instant) (requested : List String) (run : Run)
    (name : String) : (run.includeOptional now requested).history? name = run.history? name := by
  refine history?_eq_of_map_eq ?_ name
  change (takeIn requested run.stages).map _ = _
  generalize run.stages = records
  induction records with
  | nil => rfl
  | cons r rest ih =>
    unfold takeIn
    split <;> simp [ih]

theorem history?_resetFrom (now : Instant) (place : Nat) (run : Run) (name : String) :
    (run.resetFrom now place).history? name = run.history? name := by
  have same : ∀ r : StageRecord,
      ((resetRequested r).name, (resetRequested r).history) = (r.name, r.history) := by
    intro r
    unfold resetRequested
    split <;> rfl
  refine history?_eq_of_map_eq ?_ name
  rw [resetFrom, stages_refresh, List.map_append, List.map_map]
  simp only [Function.comp_def, same]
  rw [← List.map_append, List.take_append_drop]

theorem history?_markSkipped (now : Instant) (run : Run) (name note other : String) :
    (run.markSkipped now name note).history? other = run.history? other :=
  history?_change (StageRecord.name_skip now note) (StageRecord.history_skip now note) run name other

theorem history_of_mem_forRegistry {now : Instant} {registry : Registry} {p : Parameters}
    {r : StageRecord} (h : r ∈ (forRegistry now registry p).stages) :
    r.history = (0, none, false) := by
  obtain ⟨s, -, rfl⟩ := List.mem_map.mp h
  unfold recordFor
  dsimp only
  split <;> rfl

end Run

end RobotPipeline
