/-
  RobotPipeline/Proofs/Run/Overtaken.lean
  =======================================
  **What the check of the stage order finds.**

  The check goes through the records once and keeps the first one that is not
  done. That is enough, since a stage that has overtaken any earlier one
  (`Overtakes`) has also overtaken that first one. So the check finds something
  exactly when there is such a pair, and it names the first stage of all that
  has overtaken another and the first of all that is not done (`Reports`).
-/
import RobotPipeline.Proofs.Run.Described
import RobotPipeline.Proofs.Run.Order

namespace RobotPipeline

namespace Run

/-! ### Pairs of places -/

/-- The stage at place `j` is running or has succeeded, while an earlier one, at place `i`, is not
done. -/
def Overtakes (records : List StageRecord) (i j : Nat) : Prop :=
  i < j ∧ ∃ a b, records[i]? = some a ∧ records[j]? = some b ∧ ¬ a.IsDone ∧
    (b.status = .succeeded ∨ b.status = .running)

/-- A violation names the stage at place `j`, the first that has overtaken another, and the one at
place `i`, the first that is not done. -/
structure Reports (records : List StageRecord) (v : OrderViolation) (i j : Nat) : Prop where
  overtakes : Overtakes records i j
  first_ahead : ∀ k l, Overtakes records k l → j ≤ l
  first_open : ∀ k < i, ∀ r, records[k]? = some r → r.IsDone
  names_both : ∃ a b, records[j]? = some a ∧ records[i]? = some b ∧
    v = { stage := a.name, status := a.status, blocking := b.name, blockingStatus := b.status }

theorem isAhead_iff {r : StageRecord} :
    r.status.isAhead = true ↔ r.status = .succeeded ∨ r.status = .running := by
  cases r.status <;> simp [Status.isAhead]

/-- A run is in order when no stage has overtaken another. -/
theorem ordered_iff {run : Run} : run.Ordered ↔ ∀ i j, ¬ Overtakes run.stages i j := by
  rw [Ordered, List.pairwise_iff_getElem]
  constructor
  · rintro ordered i j ⟨hlt, a, b, ha, hb, notDone, ahead⟩
    obtain ⟨hi, rfl⟩ := List.getElem?_eq_some_iff.mp ha
    obtain ⟨hj, rfl⟩ := List.getElem?_eq_some_iff.mp hb
    exact notDone (StageRecord.isDone_iff.mpr (ordered i j hi hj hlt (isAhead_iff.mpr ahead)))
  · intro none i j hi hj hlt ahead
    by_contra incomplete
    refine none i j ⟨hlt, _, _, List.getElem?_eq_getElem hi, List.getElem?_eq_getElem hj, ?_,
      isAhead_iff.mp ahead⟩
    rwa [StageRecord.isDone_iff]

/-! ### What the check finds -/

section Check

variable {records : List StageRecord} {v : OrderViolation}

/-- Once a stage is found that is not done, the check looks for the first that is ahead. -/
theorem split_of_blocked {b : StageRecord} (h : orderViolationFrom? (some b) records = some v) :
    ∃ between a after, records = between ++ a :: after ∧
      (∀ r ∈ between, r.status.isAhead = false) ∧ a.status.isAhead = true ∧
      v = ⟨a.name, a.status, b.name, b.status⟩ := by
  induction records with
  | nil => simp [orderViolationFrom?] at h
  | cons r rest ih =>
    rw [orderViolationFrom?] at h
    split at h
    · rename_i ahead
      exact ⟨[], r, rest, rfl, by simp, ahead, (Option.some.inj h).symm⟩
    · rename_i still
      obtain ⟨between, a, after, rfl, hbetween, ahead, hv⟩ := ih h
      refine ⟨r :: between, a, after, rfl, ?_, ahead, hv⟩
      exact List.forall_mem_cons.mpr ⟨by simpa using still, hbetween⟩

/-- Before that, the check passes over the stages that are done. -/
theorem split_of_unblocked (h : orderViolationFrom? none records = some v) :
    ∃ done b rest, records = done ++ b :: rest ∧ (∀ r ∈ done, r.IsDone) ∧ ¬ b.IsDone ∧
      orderViolationFrom? (some b) rest = some v := by
  induction records with
  | nil => simp [orderViolationFrom?] at h
  | cons r rest ih =>
    rw [orderViolationFrom?] at h
    by_cases complete : r.status.isComplete = true
    · rw [if_pos complete] at h
      obtain ⟨done, b, rest', rfl, hdone, notDone, found⟩ := ih h
      refine ⟨r :: done, b, rest', rfl, ?_, notDone, found⟩
      exact List.forall_mem_cons.mpr ⟨StageRecord.isDone_iff.mpr complete, hdone⟩
    · rw [if_neg complete] at h
      exact ⟨[], r, rest, rfl, by simp, by rwa [StageRecord.isDone_iff], h⟩

theorem getElem?_at_second (done between after : List StageRecord) (b a : StageRecord) :
    (done ++ b :: (between ++ a :: after))[done.length + 1 + between.length]? = some a := by
  rw [List.getElem?_append_right (by omega),
    show done.length + 1 + between.length - done.length = between.length + 1 by omega]
  simp

theorem mem_between {done between after : List StageRecord} {b a r : StageRecord} {n : Nat}
    (hn : n < between.length)
    (h : (done ++ b :: (between ++ a :: after))[done.length + 1 + n]? = some r) : r ∈ between := by
  rw [List.getElem?_append_right (by omega),
    show done.length + 1 + n - done.length = n + 1 by omega, List.getElem?_cons_succ,
    List.getElem?_append_left hn] at h
  exact List.mem_of_getElem? h

/-- The first stage that is not done, and the first after it that is ahead, are what a violation
names. -/
theorem reports_of_split {done between after : List StageRecord} {b a : StageRecord}
    (hdone : ∀ r ∈ done, r.IsDone) (notDone : ¬ b.IsDone)
    (hbetween : ∀ r ∈ between, r.status.isAhead = false) (ahead : a.status.isAhead = true) :
    Reports (done ++ b :: (between ++ a :: after)) ⟨a.name, a.status, b.name, b.status⟩
      done.length (done.length + 1 + between.length) := by
  have at_open : (done ++ b :: (between ++ a :: after))[done.length]? = some b := by simp
  have at_ahead := getElem?_at_second done between after b a
  have first_open : ∀ k < done.length, ∀ r,
      (done ++ b :: (between ++ a :: after))[k]? = some r → r.IsDone := by
    intro k hk r hr
    rw [List.getElem?_append_left hk] at hr
    exact hdone r (List.mem_of_getElem? hr)
  refine ⟨⟨by omega, b, a, at_open, at_ahead, notDone, isAhead_iff.mp ahead⟩, ?_, first_open,
    ⟨a, b, at_ahead, at_open, rfl⟩⟩
  rintro k l ⟨hlt, q, r, hq, hr, q_open, r_ahead⟩
  by_contra early
  -- the overtaken stage is not before the first open one, so the other one is between
  have late : done.length ≤ k := by
    by_contra hk
    exact q_open (first_open k (by omega) q hq)
  obtain ⟨n, rfl⟩ : ∃ n, l = done.length + 1 + n := ⟨l - done.length - 1, by omega⟩
  have still := hbetween r (mem_between (by omega) hr)
  rw [isAhead_iff.mpr r_ahead] at still
  cases still

theorem exists_reports (h : orderViolationFrom? none records = some v) :
    ∃ i j, Reports records v i j := by
  obtain ⟨done, b, rest, rfl, hdone, notDone, found⟩ := split_of_unblocked h
  obtain ⟨between, a, after, rfl, hbetween, ahead, rfl⟩ := split_of_blocked found
  exact ⟨_, _, reports_of_split hdone notDone hbetween ahead⟩

/-- There is only one violation to report. -/
theorem Reports.unique {w : OrderViolation} {i j k l : Nat} (hv : Reports records v i j)
    (hw : Reports records w k l) : v = w := by
  have same_ahead : j = l :=
    Nat.le_antisymm (hv.first_ahead k l hw.overtakes) (hw.first_ahead i j hv.overtakes)
  have same_open : i = k := by
    obtain ⟨-, a, -, ha, -, a_open, -⟩ := hv.overtakes
    obtain ⟨-, b, -, hb, -, b_open, -⟩ := hw.overtakes
    apply Nat.le_antisymm
    · by_contra hlt
      exact b_open (hv.first_open k (by omega) b hb)
    · by_contra hlt
      exact a_open (hw.first_open i (by omega) a ha)
  subst same_ahead same_open
  obtain ⟨a, b, ha, hb, rfl⟩ := hv.names_both
  obtain ⟨a', b', ha', hb', rfl⟩ := hw.names_both
  obtain rfl := Option.some.inj (ha.symm.trans ha')
  obtain rfl := Option.some.inj (hb.symm.trans hb')
  rfl

end Check

/-- The check finds something exactly when a stage has overtaken an earlier one, and what it reports
are the first stage that has and the first stage of all that is not done. -/
theorem orderViolation?_decides (run : Run) :
    (run.orderViolation?.isSome = true ↔ ∃ i j, Overtakes run.stages i j) ∧
      ∀ v, run.orderViolation? = some v ↔ ∃ i j, Reports run.stages v i j := by
  have found_iff : run.orderViolation?.isSome = true ↔ ∃ i j, Overtakes run.stages i j := by
    rw [← not_iff_not, Option.not_isSome_iff_eq_none, orderViolation?_eq_none_iff, ordered_iff]
    simp
  refine ⟨found_iff, fun v => ⟨exists_reports, ?_⟩⟩
  rintro ⟨i, j, reports⟩
  obtain ⟨w, hw⟩ := Option.isSome_iff_exists.mp (found_iff.mpr ⟨i, j, reports.overtakes⟩)
  obtain ⟨k, l, reports'⟩ := exists_reports hw
  rw [hw, reports.unique reports']

/-- A running stage is both: the failed one is not ahead, and the last one has overtaken them. -/
example : orderViolationFrom? none
    [{ name := "scan", status := .succeeded }, { name := "sort", status := .running },
      { name := "pack", status := .failed }, { name := "ship", status := .succeeded }] =
    some ⟨"ship", .succeeded, "sort", .running⟩ := by
  decide

end Run

end RobotPipeline
