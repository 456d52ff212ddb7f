/-
  RobotPipeline/Proofs/Run/Included.lean
  ======================================
  **The left-out stages that are taken in when they are asked for later.**

  Which stages these are is decided by the run as it was (`Eligible`): a stage
  was left out, it is asked for, and none after it has succeeded. That the
  records change meanwhile makes no difference. A pass over the places that
  changes the list it looks at (`foldl_lookAt`) only looks at a place and what
  comes after it, which it has not changed yet; and a record that it changes
  had not succeeded before and has not afterwards (`all_takeIn`). So nothing
  is left to be taken in a second time (`takenIn_takeIn`).
-/
import RobotPipeline.Proofs.Run.Change

namespace RobotPipeline

namespace Run

/-! ### Stages to take in -/

/-- The stage at a place was left out because no one asked for it, it is asked for now, and no stage
after it has succeeded. -/
def Eligible (requested : List String) (records : List StageRecord) (place : Nat) : Prop :=
  ∃ r, records[place]? = some r ∧ r.status = .skipped ∧ r.note = some "not requested" ∧
    r.name ∈ requested ∧ ∀ s ∈ records.drop (place + 1), s.status ≠ .succeeded

section Eligible

variable {requested : List String} {records later : List StageRecord} {r : StageRecord}

theorem eligible_iff {place : Nat} (h : records[place]? = some r) :
    Eligible requested records place ↔
      isTakenIn requested r (records.drop (place + 1)) = true := by
  rw [isTakenIn_iff]
  constructor
  · rintro ⟨r', hr', eligible⟩
    obtain rfl := Option.some.inj (hr'.symm.trans h)
    exact eligible
  · exact fun eligible => ⟨r, h, eligible⟩

theorem eligible_zero_iff :
    Eligible requested (r :: later) 0 ↔ isTakenIn requested r later = true :=
  eligible_iff rfl

theorem eligible_succ_iff {place : Nat} :
    Eligible requested (r :: later) (place + 1) ↔ Eligible requested later place :=
  Iff.rfl

/-- The names that are given are those of the eligible stages, in pipeline order. -/
theorem exists_places (requested : List String) (records : List StageRecord) :
    ∃ places : List Nat, places.Pairwise (· < ·) ∧
      (∀ place, place ∈ places ↔ Eligible requested records place) ∧
      places.map (fun place => records[place]?.map (·.name)) =
        (takenIn requested records).map some := by
  induction records with
  | nil => exact ⟨[], .nil, by simp [Eligible], rfl⟩
  | cons r later ih =>
    obtain ⟨places, sorted, mem, names⟩ := ih
    -- the places of the rest are one further on, and the first is before them
    have sorted' : (places.map (· + 1)).Pairwise (· < ·) :=
      List.pairwise_map.mpr (sorted.imp fun h => Nat.succ_lt_succ h)
    have names' : (places.map (· + 1)).map (fun place => (r :: later)[place]?.map (·.name)) =
        (takenIn requested later).map some := by
      rw [List.map_map, ← names]
      rfl
    have mem_succ : ∀ place, place + 1 ∈ places.map (· + 1) ↔
        Eligible requested (r :: later) (place + 1) := by
      intro place
      rw [eligible_succ_iff, ← mem]
      simp
    rw [takenIn]
    split
    · rename_i taken
      refine ⟨0 :: places.map (· + 1), List.pairwise_cons.mpr ⟨by simp, sorted'⟩, ?_, ?_⟩
      · intro place
        cases place with
        | zero => simp [eligible_zero_iff, taken]
        | succ place => simpa using mem_succ place
      · rw [List.map_cons, names', List.map_cons]
        rfl
    · rename_i left
      refine ⟨places.map (· + 1), sorted', ?_, names'⟩
      intro place
      cases place with
      | zero => simp [eligible_zero_iff, left]
      | succ place => exact mem_succ place

/-! ### Their records -/

theorem length_takeIn (requested : List String) (records : List StageRecord) :
    (takeIn requested records).length = records.length := by
  simpa using congrArg List.length (map_name_takeIn requested records)

/-- The record at a place depends on what it was and on the records after it. -/
theorem getElem?_takeIn_of_getElem? {place : Nat} (h : records[place]? = some r) :
    (takeIn requested records)[place]? =
      some (if isTakenIn requested r (records.drop (place + 1)) then r.reset else r) := by
  induction records generalizing place with
  | nil => simp at h
  | cons q later ih =>
    cases place with
    | zero =>
      obtain rfl : q = r := by simpa using h
      rfl
    | succ place => exact ih (by simpa using h)

end Eligible

/-! ### A pass in place -/

/-- Looks at one place of a list, and takes in the stage there if it is eligible by the list as it
is then. -/
def lookAt (requested : List String) (state : List StageRecord × List String) (place : Nat) :
    List StageRecord × List String :=
  match state.1[place]? with
  | none => state
  | some r =>
    if isTakenIn requested r (state.1.drop (place + 1)) then
      (state.1.set place r.reset, state.2 ++ [r.name])
    else state

theorem lookAt_next (requested : List String) (passed later : List StageRecord)
    (names : List String) (r : StageRecord) :
    lookAt requested (passed ++ r :: later, names) passed.length =
      (passed ++ (if isTakenIn requested r later then r.reset else r) :: later,
        names ++ if isTakenIn requested r later then [r.name] else []) := by
  have at_place : (passed ++ r :: later)[passed.length]? = some r := by simp
  have after : (passed ++ r :: later).drop (passed.length + 1) = later := by simp
  rw [lookAt]
  simp only [at_place, after]
  split
  · simp
  · simp

/-- After the places of `passed` a pass goes on with `records`, which are as they were. -/
theorem foldl_lookAt_append (requested : List String) (records passed : List StageRecord)
    (names : List String) :
    (List.range' passed.length records.length).foldl (lookAt requested)
        (passed ++ records, names) =
      (passed ++ takeIn requested records, names ++ takenIn requested records) := by
  induction records generalizing passed names with
  | nil => simp [takeIn, takenIn]
  | cons r later ih =>
    rw [List.length_cons, List.range'_succ, List.foldl_cons, lookAt_next]
    have next := ih (passed ++ [if isTakenIn requested r later then r.reset else r])
      (names ++ if isTakenIn requested r later then [r.name] else [])
    rw [List.length_append, List.length_singleton, List.append_assoc, List.singleton_append] at next
    rw [next, takeIn, takenIn]
    split <;> simp

/-- A pass over all places that changes the list as it goes takes in the same stages. -/
theorem foldl_lookAt (requested : List String) (records : List StageRecord) :
    (List.range records.length).foldl (lookAt requested) (records, []) =
      (takeIn requested records, takenIn requested records) := by
  have pass := foldl_lookAt_append requested records [] []
  rw [List.range_eq_range']
  exact pass

/-! ### A second time -/

/-- No stage is left to be taken in. -/
def TakenIn (requested : List String) : List StageRecord → Prop
  | [] => True
  | r :: later => isTakenIn requested r later = false ∧ TakenIn requested later

theorem takeIn_of_takenIn {requested : List String} {records : List StageRecord}
    (h : TakenIn requested records) : takeIn requested records = records := by
  induction records with
  | nil => rfl
  | cons r later ih => rw [takeIn, ih h.2, h.1, if_neg Bool.false_ne_true]

/-- What is taken in was skipped, so it had not succeeded. -/
theorem all_takeIn (requested : List String) (records : List StageRecord) :
    (takeIn requested records).all (fun s => s.status ≠ .succeeded) =
      records.all (fun s => s.status ≠ .succeeded) := by
  induction records with
  | nil => rfl
  | cons r later ih =>
    rw [takeIn, List.all_cons, List.all_cons, ih]
    split
    · rename_i taken
      simp [StageRecord.reset, (isTakenIn_iff.mp taken).1]
    · rfl

theorem takenIn_takeIn (requested : List String) (records : List StageRecord) :
    TakenIn requested (takeIn requested records) := by
  induction records with
  | nil => trivial
  | cons r later ih =>
    refine ⟨?_, ih⟩
    split
    · rfl
    · rename_i hleft
      unfold isTakenIn at hleft ⊢
      rw [all_takeIn]
      simpa using hleft

theorem takenIn_eq_nil {requested : List String} {records : List StageRecord}
    (h : TakenIn requested records) : takenIn requested records = [] := by
  induction records with
  | nil => rfl
  | cons r later ih => rw [takenIn, h.1, if_neg Bool.false_ne_true, ih h.2]

/-- Refreshing sets an end once. -/
theorem refresh_refresh (now later : Instant) (run : Run) :
    (run.refresh now).refresh later = run.refresh now := by
  have hend : (if run.isComplete then (run.refresh now).finishedAt.or (some later) else none) =
      (run.refresh now).finishedAt := by
    unfold refresh
    cases run.isComplete <;> cases run.finishedAt <;> rfl
  calc (run.refresh now).refresh later
      = { run.refresh now with
          finishedAt :=
            if run.isComplete then (run.refresh now).finishedAt.or (some later) else none } := rfl
    _ = run.refresh now := by rw [hend]

theorem includeOptional_includeOptional (now later : Instant) (requested : List String)
    (run : Run) : (run.includeOptional now requested).includeOptional later requested =
      run.includeOptional now requested := by
  have stays : takeIn requested (run.includeOptional now requested).stages =
      (run.includeOptional now requested).stages :=
    takeIn_of_takenIn (takenIn_takeIn requested run.stages)
  calc (run.includeOptional now requested).includeOptional later requested
      = refresh later (run.includeOptional now requested) := by rw [includeOptional, stays]
    _ = run.includeOptional now requested := refresh_refresh now later _

/-- A pass over the run takes in the eligible stages, in pipeline order; their records go back to
pending, and all others stay. Asking for the same stages again changes nothing. -/
theorem includeOptional_takes_eligible (requested : List String) (now : Instant) (run : Run) :
    (List.range run.stages.length).foldl (lookAt requested) (run.stages, []) =
      ((run.includeOptional now requested).stages, takenIn requested run.stages) ∧
    (∃ places : List Nat, places.Pairwise (· < ·) ∧
      (∀ place, place ∈ places ↔ Eligible requested run.stages place) ∧
      places.map (fun place => run.stages[place]?.map (·.name)) =
        (takenIn requested run.stages).map some) ∧
    (run.includeOptional now requested).stages.length = run.stages.length ∧
    (∀ place r, run.stages[place]? = some r →
      (Eligible requested run.stages place →
        (run.includeOptional now requested).stages[place]? = some
          { r with status := .pending, startedAt := none, finishedAt := none, note := none }) ∧
      (¬ Eligible requested run.stages place →
        (run.includeOptional now requested).stages[place]? = some r)) ∧
    ∀ later, takenIn requested (run.includeOptional now requested).stages = [] ∧
      (run.includeOptional now requested).includeOptional later requested =
        run.includeOptional now requested := by
  refine ⟨foldl_lookAt requested run.stages, exists_places requested run.stages,
    length_takeIn requested run.stages, ?_, ?_⟩
  · intro place r hr
    have changed : (run.includeOptional now requested).stages[place]? = _ :=
      getElem?_takeIn_of_getElem? hr
    constructor
    · intro eligible
      rw [changed, if_pos ((eligible_iff hr).mp eligible)]
      rfl
    · intro not_eligible
      rw [changed, if_neg fun taken => not_eligible ((eligible_iff hr).mpr taken)]
  · intro later
    exact ⟨takenIn_eq_nil (takenIn_takeIn requested run.stages),
      includeOptional_includeOptional now later requested run⟩

/-! ### Samples -/

namespace Sample

def forenoon : Instant where
  date := { year := 2026, month := 2, day := 17 }
  second := 34980
  nanos := 0

def leftOutStage (name : String) : StageRecord :=
  { name := name, status := .skipped, note := some StageRecord.notRequested }

/-- Of three left-out stages the first is followed by one that has succeeded. -/
def halfway : Run :=
  { new forenoon "cubes" [] with
    stages := [leftOutStage "preview", { name := "scan", status := .succeeded },
      leftOutStage "sort", leftOutStage "pack"] }

end Sample

open Sample in
theorem includeOptional_takes_eligible_halfway :
    Eligible ["pack", "preview"] halfway.stages 3 ∧
      ¬ Eligible ["pack", "preview"] halfway.stages 0 ∧
      (halfway.includeOptional forenoon ["pack", "preview"]).stages[3]? = some { name := "pack" } ∧
      (halfway.includeOptional forenoon ["pack", "preview"]).stages[0]? =
        some (leftOutStage "preview") := by
  obtain ⟨-, -, -, records, -⟩ :=
    includeOptional_takes_eligible ["pack", "preview"] forenoon halfway
  have pack : Eligible ["pack", "preview"] halfway.stages 3 := (eligible_iff rfl).mpr (by decide)
  have preview : ¬ Eligible ["pack", "preview"] halfway.stages 0 := by
    rw [eligible_iff rfl]
    decide
  exact ⟨pack, preview, (records 3 (leftOutStage "pack") rfl).1 pack,
    (records 0 (leftOutStage "preview") rfl).2 preview⟩

end Run

end RobotPipeline
