/-
  RobotPipeline/Proofs/Run/Described.lean
  =======================================
  **Index and end of a run always say what its statuses say.**

  A run is made from a list of stage names or from a registry, and then changed
  by eight operations, in any order, for any names and places. Six of them end
  by setting index and end anew. A note is set without that, and no status
  changes then. Recovery sets them anew only when it finds a running stage,
  and otherwise changes nothing.

  So there are three forms of a step (`Run.Operation.apply_cases`), and what
  holds of a run follows for any sequence of operations from what these three
  forms keep.
-/
import RobotPipeline.Proofs.Run.Change

namespace RobotPipeline

/-- Later stages need not wait for this one. -/
def StageRecord.IsDone (r : StageRecord) : Prop := r.status = .succeeded ∨ r.status = .skipped

theorem StageRecord.isDone_iff {r : StageRecord} : r.IsDone ↔ r.status.isComplete = true := by
  unfold StageRecord.IsDone
  cases r.status <;> simp [Status.isComplete]

namespace Run

/-! ### The first stage that is not done -/

/-- The place of the first record that is not done; the number of records if there is none. -/
inductive FirstOpen (records : List StageRecord) : Nat → Prop where
  | found {before after : List StageRecord} {r : StageRecord}
      (records_eq : records = before ++ r :: after) (done : ∀ b ∈ before, b.IsDone)
      (notDone : ¬ r.IsDone) : FirstOpen records before.length
  | none (done : ∀ r ∈ records, r.IsDone) : FirstOpen records records.length

theorem firstIncomplete?_eq_none_iff {run : Run} :
    run.firstIncomplete? = none ↔ ∀ r ∈ run.stages, r.IsDone := by
  simp [firstIncomplete?, List.findIdx?_eq_none_iff, StageRecord.isDone_iff]

theorem isComplete_iff {run : Run} : run.isComplete = true ↔ ∀ r ∈ run.stages, r.IsDone := by
  rw [isComplete, Option.isNone_iff_eq_none, firstIncomplete?_eq_none_iff]

/-- The index that a run is given stands at the first stage that is not done. -/
theorem firstOpen_reindex (run : Run) : FirstOpen run.stages run.reindex.currentIndex := by
  unfold reindex
  cases h : run.firstIncomplete? with
  | none => exact .none (firstIncomplete?_eq_none_iff.mp h)
  | some place =>
    obtain ⟨before, r, after, split, rfl, complete, incomplete⟩ :=
      exists_split_of_firstIncomplete? h
    refine .found split (fun b hb => StageRecord.isDone_iff.mpr (complete b hb)) ?_
    rw [StageRecord.isDone_iff, incomplete]
    exact Bool.false_ne_true

theorem isDone_of_status_eq {r q : StageRecord} (h : r.status = q.status) :
    r.IsDone ↔ q.IsDone := by
  rw [StageRecord.IsDone, StageRecord.IsDone, h]

/-- Only the statuses matter for whether all stages are done. -/
theorem forall_isDone_of_map_status {records others : List StageRecord}
    (h : others.map (·.status) = records.map (·.status)) :
    (∀ r ∈ others, r.IsDone) ↔ ∀ r ∈ records, r.IsDone := by
  have go : ∀ list : List StageRecord, (∀ r ∈ list, r.IsDone) ↔
      ∀ s ∈ list.map (·.status), s = .succeeded ∨ s = .skipped := by
    intro list
    rw [List.forall_mem_map]
    rfl
  rw [go, go, h]

theorem FirstOpen.of_map_status {records others : List StageRecord} {place : Nat}
    (h : others.map (·.status) = records.map (·.status)) (first : FirstOpen records place) :
    FirstOpen others place := by
  cases first with
  | none done =>
    have len : records.length = others.length := by
      simpa using congrArg List.length h.symm
    rw [len]
    exact .none ((forall_isDone_of_map_status h).mpr done)
  | @found before after r records_eq done notDone =>
    rw [records_eq, List.map_append, List.map_cons] at h
    obtain ⟨before', rest, rfl, hbefore, hrest⟩ := List.map_eq_append_iff.mp h
    obtain ⟨r', after', rfl, hr, -⟩ := List.map_eq_cons_iff.mp hrest
    have len : before.length = before'.length := by
      simpa using congrArg List.length hbefore.symm
    rw [len]
    refine .found rfl ((forall_isDone_of_map_status hbefore).mpr done) ?_
    rwa [isDone_of_status_eq hr]

/-! ### What the fields of a run say -/

/-- The index of a run is the place of its first stage that is not done, and the run has an end
exactly when all its stages are done. -/
structure Described (run : Run) : Prop where
  index : FirstOpen run.stages run.currentIndex
  ended : run.finishedAt.isSome = true ↔ ∀ r ∈ run.stages, r.IsDone

theorem described_refresh (now : Instant) (run : Run) : (run.refresh now).Described := by
  constructor
  · exact firstOpen_reindex run
  · rw [stages_refresh, ← isComplete_iff, refresh]
    cases run.isComplete <;> simp

theorem described_new {names : List String} (h : names ≠ []) (now : Instant) (dataset : String) :
    (new now dataset names).Described := by
  obtain ⟨first, rest, rfl⟩ := List.exists_cons_of_ne_nil h
  have notDone : ¬ ({ name := first } : StageRecord).IsDone := by simp [StageRecord.IsDone]
  constructor
  · change FirstOpen _ ([] : List StageRecord).length
    exact .found rfl (by simp) notDone
  · constructor
    · intro ended
      simp [new] at ended
    · intro done
      exact absurd (done { name := first } (by simp [new])) notDone

/-! ### Operations -/

/-- What the pipeline does to a run. -/
inductive Operation where
  | markRunning (now : Instant) (name : String)
  | applyOutcome (now : Instant) (name : String) (o : Outcome)
  | markFailed (now : Instant) (name note : String) (ran : Bool)
  | setNote (name note : String)
  | markSkipped (now : Instant) (name note : String)
  | resetFrom (now : Instant) (place : Nat)
  | includeOptional (now : Instant) (requested : List String)
  | recover

def Operation.apply : Operation → Run → Run
  | .markRunning now name, run => run.markRunning now name
  | .applyOutcome now name o, run => run.applyOutcome now name o
  | .markFailed now name note ran, run => run.markFailed now name note ran
  | .setNote name note, run => run.setNote name note
  | .markSkipped now name note, run => run.markSkipped now name note
  | .resetFrom now place, run => run.resetFrom now place
  | .includeOptional now requested, run => run.includeOptional now requested
  | .recover, run => run.recover

/-- The run after a sequence of operations. -/
def after (run : Run) (operations : List Operation) : Run :=
  operations.foldl (fun run operation => operation.apply run) run

theorem after_append (run : Run) (first second : List Operation) :
    run.after (first ++ second) = (run.after first).after second :=
  List.foldl_append

theorem map_status_setNote (name note : String) (run : Run) :
    (run.setNote name note).stages.map (·.status) = run.stages.map (·.status) := by
  rw [setNote, stages_change]
  generalize run.stages = records
  induction records with
  | nil => rfl
  | cons r rest ih =>
    unfold changeFirst
    split
    · rfl
    · rw [List.map_cons, ih, List.map_cons]

/-- A run that recovery changes has a stage that is not done afterwards. -/
theorem exists_failed_of_interrupted {run : Run} (h : run.interruptedStages.isEmpty = false) :
    ∃ r ∈ run.stages.map StageRecord.recover, ¬ r.IsDone := by
  obtain ⟨name, hname⟩ := List.isEmpty_eq_false_iff_exists_mem.mp h
  obtain ⟨r, hr, -⟩ := List.mem_map.mp hname
  obtain ⟨hmem, running⟩ := List.mem_filter.mp hr
  refine ⟨r.recover, List.mem_map_of_mem hmem, ?_⟩
  rw [StageRecord.recover, if_pos (by simpa using running)]
  simp [StageRecord.IsDone]

/-- The three forms of a step: index and end are set anew; the statuses stay, and with them index
and end; or a running stage was found, and the run loses its end. -/
theorem Operation.apply_cases (operation : Operation) (run : Run) :
    (∃ now changed, operation.apply run = refresh now changed ∧
      changed.finishedAt = run.finishedAt) ∨
    ((operation.apply run).stages.map (·.status) = run.stages.map (·.status) ∧
      (operation.apply run).currentIndex = run.currentIndex ∧
      (operation.apply run).finishedAt = run.finishedAt) ∨
    (∃ changed, operation.apply run = reindex changed ∧ changed.finishedAt = none ∧
      ∃ r ∈ changed.stages, ¬ r.IsDone) := by
  cases operation with
  | markRunning now name => exact .inl ⟨now, _, rfl, rfl⟩
  | applyOutcome now name o => exact .inl ⟨now, _, rfl, rfl⟩
  | markFailed now name note ran => exact .inl ⟨now, _, rfl, rfl⟩
  | markSkipped now name note => exact .inl ⟨now, _, rfl, rfl⟩
  | resetFrom now place => exact .inl ⟨now, _, rfl, rfl⟩
  | includeOptional now requested => exact .inl ⟨now, _, rfl, rfl⟩
  | setNote name note => exact .inr (.inl ⟨map_status_setNote name note run, rfl, rfl⟩)
  | recover =>
    change _ ∨ (run.recover.stages.map _ = _ ∧ run.recover.currentIndex = _ ∧
      run.recover.finishedAt = _) ∨ ∃ changed, run.recover = _ ∧ _
    cases h : run.interruptedStages.isEmpty with
    | true =>
      rw [Run.recover, if_pos h]
      exact .inr (.inl ⟨rfl, rfl, rfl⟩)
    | false =>
      rw [Run.recover, if_neg (by simp [h])]
      exact .inr (.inr ⟨_, rfl, rfl, exists_failed_of_interrupted h⟩)

theorem Described.apply {run : Run} (h : run.Described) (operation : Operation) :
    (operation.apply run).Described := by
  rcases operation.apply_cases run with
    ⟨now, changed, eq, -⟩ | ⟨statuses, index, ended⟩ | ⟨changed, eq, ended, r, hr, notDone⟩
  · rw [eq]
    exact described_refresh now changed
  · constructor
    · rw [index]
      exact h.index.of_map_status statuses
    · rw [ended, forall_isDone_of_map_status statuses]
      exact h.ended
  · rw [eq]
    constructor
    · exact firstOpen_reindex changed
    · simp only [reindex, ended, Option.isSome_none, Bool.false_eq_true, false_iff]
      intro done
      exact notDone (done r hr)

/-- An operation that leaves all stages done leaves an end that is set. -/
theorem Operation.finishedAt_apply {run : Run} {t : Instant} (operation : Operation)
    (h : run.finishedAt = some t) (done : ∀ r ∈ (operation.apply run).stages, r.IsDone) :
    (operation.apply run).finishedAt = some t := by
  rcases operation.apply_cases run with
    ⟨now, changed, eq, same⟩ | ⟨-, -, same⟩ | ⟨changed, eq, -, r, hr, notDone⟩
  · rw [eq, stages_refresh, ← isComplete_iff] at done
    rw [eq, refresh, done, if_pos rfl, same, h, Option.some_or]
  · rw [same, h]
  · rw [eq] at done
    exact absurd (done r hr) notDone

/-! ### Sequences of operations -/

/-- How a run begins: with a list of names, or with the stages of a registry. -/
inductive IsNew : Run → Prop where
  | named {names : List String} (names_ne : names ≠ []) (now : Instant) (dataset : String) :
      IsNew (new now dataset names)
  | registered (now : Instant) (registry : Registry) (p : Parameters) :
      IsNew (forRegistry now registry p)

theorem IsNew.described {run : Run} (h : run.IsNew) : run.Described := by
  cases h with
  | named names_ne now dataset => exact described_new names_ne now dataset
  | registered now registry p => exact described_refresh now _

theorem Described.after {run : Run} (h : run.Described) (operations : List Operation) :
    (run.after operations).Described := by
  induction operations generalizing run with
  | nil => exact h
  | cons operation rest ih => exact ih (h.apply operation)

theorem finishedAt_after {run : Run} {t : Instant} {operations : List Operation}
    (h : run.finishedAt = some t)
    (done : ∀ first, first <+: operations → ∀ r ∈ (run.after first).stages, r.IsDone) :
    (run.after operations).finishedAt = some t := by
  induction operations generalizing run with
  | nil => exact h
  | cons operation rest ih =>
    have now_done : ∀ r ∈ (operation.apply run).stages, r.IsDone :=
      done [operation] (List.prefix_append [operation] rest)
    refine ih (operation.finishedAt_apply h now_done) ?_
    intro first hfirst
    exact done (operation :: first) (List.cons_prefix_cons.mpr ⟨rfl, hfirst⟩)

/-- After any operations index and end of a run say what its statuses say, and an end that is set
stays the same for as long as all stages are done. -/
theorem index_and_end_follow_statuses {run : Run} (fresh : run.IsNew)
    (operations : List Operation) :
    (run.after operations).Described ∧
      ∀ (t : Instant) (more : List Operation), (run.after operations).finishedAt = some t →
        (∀ first, first <+: more →
          ∀ r ∈ (run.after (operations ++ first)).stages, r.IsDone) →
        (run.after (operations ++ more)).finishedAt = some t := by
  refine ⟨fresh.described.after operations, ?_⟩
  intro t more ended done
  rw [after_append]
  refine finishedAt_after ended ?_
  intro first hfirst
  rw [← after_append]
  exact done first hfirst

/-! ### Samples -/

namespace Sample

def dawn : Instant where
  date := { year := 2024, month := 11, day := 3 }
  second := 18000
  nanos := 0

def dusk : Instant where
  date := { year := 2024, month := 11, day := 3 }
  second := 61200
  nanos := 0

/-- A run of three stages. -/
def several : Run := new dawn "cubes" ["scan", "fit", "view"]

def scanned : Outcome where
  stage := "scan"
  exitCode := 0
  duration := Span.zero
  startedAt := dawn
  finishedAt := dawn

/-- The first stage succeeds and the others are skipped, so the run has an end. -/
def firstPass : List Operation :=
  [.markRunning dawn "scan", .applyOutcome dawn "scan" scanned, .markSkipped dawn "fit" "by hand",
    .markSkipped dawn "view" "by hand"]

/-- The last two stages are set back, and skipped again later. -/
def secondPass : List Operation :=
  [.resetFrom dusk 1, .markSkipped dusk "view" "by hand", .markSkipped dusk "fit" "by hand"]

def noteScan : Operation := .setNote "scan" "looked at"

end Sample

open Sample in
/-- The end that was set by the first pass is kept by a note and lost by a reset, which also takes
the index back; after the second pass the run has a later end. -/
theorem index_and_end_follow_statuses_several :
    (several.after (firstPass ++ [noteScan])).finishedAt = some dawn ∧
      FirstOpen (several.after (firstPass ++ secondPass.take 2)).stages 1 ∧
      (several.after (firstPass ++ secondPass.take 2)).finishedAt.isSome = false ∧
      (several.after (firstPass ++ secondPass)).Described ∧
      (several.after (firstPass ++ secondPass)).finishedAt = some dusk := by
  have fresh : several.IsNew := .named (by simp) dawn "cubes"
  have described := fun operations => (index_and_end_follow_statuses fresh operations).1
  have ended := (index_and_end_follow_statuses fresh firstPass).2 dawn [noteScan] (by decide +kernel)
  refine ⟨ended ?_, (described (firstPass ++ secondPass.take 2)).index, by decide +kernel,
    described (firstPass ++ secondPass), by decide +kernel⟩
  intro first hfirst
  obtain rfl | rfl : first = [] ∨ first = [noteScan] := by
    simpa [List.prefix_cons_iff] using hfirst
  · exact fun r hr => StageRecord.isDone_iff.mpr (by revert r; decide +kernel)
  · exact fun r hr => StageRecord.isDone_iff.mpr (by revert r; decide +kernel)

end Run

end RobotPipeline
