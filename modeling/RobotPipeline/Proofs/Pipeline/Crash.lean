/-
  RobotPipeline/Proofs/Pipeline/Crash.lean
  ========================================
  **Nothing is lost when the program stops.**

  That a stage is running is committed before its command is handed over, and
  its outcome before anything else is done. So at every moment the run that
  was committed last knows every outcome, and shows as running the stage whose
  outcome it does not know. Loading makes a failure of that stage: it is the
  first to run again.

  A command is out from its launch until a commit follows its return.
-/
import RobotPipeline.Proofs.Pipeline.Durable

namespace RobotPipeline

/-- A command came back with a result, and the run was committed right after. -/
def Committed (past : List Event) (stage : String) (result : Except LaunchError Outcome) : Prop :=
  ∃ run, [.returned stage result, .saved run] <:+: past

theorem Committed.mono {past : List Event} {stage : String} {result : Except LaunchError Outcome}
    (h : Committed past stage result) (future : List Event) :
    Committed (past ++ future) stage result := by
  obtain ⟨run, hrun⟩ := h
  exact ⟨run, hrun.trans (List.infix_append' [] past future)⟩

theorem committed_snoc {past : List Event} {e : Event} {stage : String}
    {result : Except LaunchError Outcome} (h : Committed (past ++ [e]) stage result) :
    Committed past stage result ∨
      ∃ run earlier, e = .saved run ∧ past = earlier ++ [.returned stage result] := by
  obtain ⟨run, hrun⟩ := h
  rcases List.infix_concat_iff.mp hrun with hlast | hpast
  · obtain ⟨earlier, hearlier⟩ := hlast
    have split : (earlier ++ [.returned stage result]) ++ [.saved run] = past ++ [e] := by
      simpa using hearlier
    obtain ⟨hpast, he⟩ := List.append_inj' split rfl
    exact .inr ⟨run, earlier, (List.singleton_inj.mp he).symm, hpast.symm⟩
  · exact .inl ⟨run, hpast⟩

def StageRecord.Shows (r : StageRecord) : Except LaunchError Outcome → Prop
  | .ok o => r.status = (if o.isSuccess then .succeeded else .failed) ∧ r.lastOutcome = some o
  | .error e => r.status = .failed ∧ r.note = some e.message

theorem StageRecord.Shows.status_ne_running {r : StageRecord}
    {result : Except LaunchError Outcome} (h : r.Shows result) : r.status ≠ .running := by
  cases result with
  | error e => simp [h.1]
  | ok o =>
    rw [h.1]
    split <;> simp

/-- The first incomplete stage of a run was interrupted, in the attempt with the given number. -/
structure Run.InterruptedAt (run : Run) (stage : String) (attempt : Nat) (r : StageRecord) :
    Prop where
  record_eq : run.record? stage = some r
  first : run.firstIncomplete? = run.position? stage
  status_eq : r.status = .failed
  unreliable : r.unreliable = true
  note_eq : r.note = some StageRecord.interrupted
  attempts_eq : r.attempts.toNat = attempt

/-- The incomplete stages of a run, except for those named, have the records of an earlier run. -/
def Run.AsIn (earlier run : Run) (except : List String) : Prop :=
  ∀ name ∉ except, ∀ r, run.record? name = some r → r.status.isComplete = false →
    earlier.record? name = some r

/-- A stage was launched once since an earlier run, and the other incomplete stages were left. -/
structure Run.LaunchedSince (earlier run : Run) (stage : String) : Prop where
  others : Run.AsIn earlier run [stage]
  launch : ∃ r now, earlier.record? stage = some r ∧ run.record? stage = some (r.launch now)

namespace Phase

/-- The stage whose command is out. -/
def inFlight? : Phase → Option Stage
  | launched _ s => some s
  | returned _ s _ => some s
  | unsaved before _ => before.inFlight?
  | _ => none

/-- The invocation is over: nothing more is done. -/
def isOver : Phase → Bool
  | unready .. => true
  | lost .. => true
  | failed .. => true
  | unsaved .. => true
  | _ => false

/-- What the incomplete stages of a phase have to do with the run that the drive has started from. -/
def Continues (start : Run) : Phase → Prop
  | ready run => Run.AsIn start run []
  | checked run _ _ => Run.AsIn start run []
  | marked run s _ => Run.LaunchedSince start run s.name
  | launched run s => Run.LaunchedSince start run s.name
  | returned run s _ => Run.LaunchedSince start run s.name
  | unsaved before _ => before.Continues start
  | _ => True

end Phase

namespace Pipeline

variable {p : Pipeline} {env : Snapshot} {start phase next : Phase} {past : List Event}

/-- While a command is out, its stage is the first incomplete one, and running. -/
theorem exists_standing_of_inFlight {s : Stage} (sound : phase.Sound p)
    (h : phase.inFlight? = some s) :
    ∃ before record after, p.Standing phase.run s before record after ∧
      record.status = .running := by
  induction phase with
  | launched run _ =>
    cases h
    exact sound.stands
  | returned run _ result =>
    cases h
    exact sound.stands
  | unsaved before cause ih => exact ih ⟨sound.names_eq, sound.ordered, sound.stands⟩ h
  | _ => cases h

/-- A commit changes the record of one stage only, and that stage is not complete before. -/
theorem Commits.frame {run : Run} (h : Commits p env phase run next) (sound : phase.Sound p) :
    ∃ s before record after, p.Standing phase.run s before record after ∧
      ∀ other ≠ s.name, next.run.record? other = phase.run.record? other := by
  obtain ⟨s, before, record, after, f, stand, hf, stages_eq⟩ := h.exists_change sound.stands
  refine ⟨s, before, record, after, stand, ?_⟩
  intro other hne
  rw [← Run.record?_change_other hf phase.run hne]
  unfold Run.record?
  rw [stages_eq]

theorem Commits.record?_of_complete {run : Run} (h : Commits p env phase run next)
    (sound : phase.Sound p) {name : String} {r : StageRecord}
    (hr : phase.run.record? name = some r) (complete : r.status.isComplete = true) :
    next.run.record? name = some r := by
  obtain ⟨s, before, record, after, stand, same⟩ := h.frame sound
  have hne : name ≠ s.name := by
    rintro rfl
    obtain rfl := Option.some.inj (stand.record?_eq.symm.trans hr)
    simp [stand.incomplete] at complete
  rw [same name hne]
  exact hr

/-! ### Outcomes are on record -/

theorem Step.isOver_eq {e : Event} (step : Step p env phase e next) : phase.isOver = false := by
  cases step with
  | saved h _ => cases h <;> rfl
  | refused h _ => cases h <;> rfl
  | _ => rfl

/-- The commit after a return puts on record what came back. -/
theorem Commits.shows {run run' : Run} {s : Stage} {result : Except LaunchError Outcome}
    (h : Commits p env (.returned run s result) run' next)
    (sound : (Phase.returned run s result).Sound p) :
    ∃ r, next.run.record? s.name = some r ∧ r.Shows result ∧
      (r.status.isComplete = true ∨ next.isOver = true) := by
  obtain ⟨before, record, after, stand, -⟩ := sound.stands
  cases h with
  | @succeeded _ _ o now ho =>
    refine ⟨record.settle o, stand.record?_change (StageRecord.name_settle o), ⟨rfl, rfl⟩, .inl ?_⟩
    simp [StageRecord.settle, ho, Status.isComplete]
  | @failed _ _ o now ho =>
    exact ⟨record.settle o, stand.record?_change (StageRecord.name_settle o), ⟨rfl, rfl⟩, .inr rfl⟩
  | @lost _ _ e now =>
    exact ⟨_, stand.record?_change (StageRecord.name_fail now _ _), ⟨rfl, rfl⟩, .inr rfl⟩

theorem Trace.eq_returned {stage : String} {result : Except LaunchError Outcome}
    (h : Trace p env start (past ++ [.returned stage result]) phase) :
    ∃ run s, phase = .returned run s result ∧ s.name = stage := by
  generalize hall : past ++ [.returned stage result] = all at h
  cases h with
  | nil => simp at hall
  | snoc h step =>
    obtain ⟨-, he⟩ := List.append_inj' hall rfl
    obtain rfl := List.singleton_inj.mp he
    cases step with
    | returned _ => exact ⟨_, _, rfl, rfl⟩

/-- At every moment the run that was committed last shows every outcome that was committed. -/
theorem Trace.shows (h : Trace p env start past phase) (sound : start.Sound p) {stage : String}
    {result : Except LaunchError Outcome} (committed : Committed past stage result) :
    ∃ r, phase.run.record? stage = some r ∧ r.Shows result ∧
      (r.status.isComplete = true ∨ phase.isOver = true) := by
  induction h with
  | nil => simp [Committed] at committed
  | @snoc past phase next e h step ih =>
    rcases committed_snoc committed with hpast | ⟨run, earlier, rfl, rfl⟩
    · obtain ⟨r, hr, shows, hrest⟩ := ih hpast
      -- a step is made, so the outcome that was committed is a success
      have complete : r.status.isComplete = true := by simpa [step.isOver_eq] using hrest
      refine ⟨r, ?_, shows, .inl complete⟩
      cases step with
      | saved hc _ => exact hc.record?_of_complete (h.sound sound) hr complete
      | _ => exact hr
    · obtain ⟨run, s, rfl, rfl⟩ := h.eq_returned
      cases step with
      | saved hc _ => exact hc.shows (h.sound sound)

/-! ### Commands that are out -/

theorem Trace.ends_returned {run : Run} {s : Stage} {result : Except LaunchError Outcome}
    (h : Trace p env start past (.returned run s result)) (idle : start.inFlight? = none) :
    ∃ earlier, past = earlier ++ [.returned s.name result] := by
  cases h with
  | nil => cases idle
  | snoc h step =>
    cases step with
    | saved hc _ => cases hc
    | returned _ => exact ⟨_, rfl⟩

/-- Only a return can be followed by a commit while a command is out. -/
theorem Commits.eq_returned {run : Run} {s : Stage} (h : Commits p env phase run next)
    (hs : phase.inFlight? = some s) : ∃ run' result, phase = .returned run' s result := by
  cases h with
  | unready _ => cases hs
  | running _ => cases hs
  | succeeded _ _ =>
    cases hs
    exact ⟨_, _, rfl⟩
  | failed _ _ =>
    cases hs
    exact ⟨_, _, rfl⟩
  | lost _ =>
    cases hs
    exact ⟨_, _, rfl⟩

/-- Every command that was handed over is out, or what it came back with is committed. -/
theorem Trace.inFlight (h : Trace p env start past phase) (sound : start.Sound p)
    (idle : start.inFlight? = none) {l : Launch} (launched : .launched l ∈ past) :
    (∃ result, Committed past l.stage result) ∨
      ∃ s, phase.inFlight? = some s ∧ s.name = l.stage := by
  induction h with
  | nil => cases launched
  | @snoc past phase next e h step ih =>
    rcases List.mem_append.mp launched with hmem | hmem
    · rcases ih hmem with ⟨result, hresult⟩ | ⟨s, hs, hname⟩
      · exact .inl ⟨result, hresult.mono [e]⟩
      · cases step with
        | checked _ _ _ => cases hs
        | @saved _ _ run hc _ =>
          obtain ⟨run', result, rfl⟩ := hc.eq_returned hs
          obtain ⟨earlier, rfl⟩ := h.ends_returned idle
          rw [hname]
          exact .inl ⟨result, run, earlier, [], by simp⟩
        | refused _ _ => exact .inr ⟨s, hs, hname⟩
        | launched => cases hs
        | returned _ => exact .inr ⟨s, hs, hname⟩
    · obtain rfl := List.mem_singleton.mp hmem
      cases step with
      | launched => exact .inr ⟨_, rfl, (h.sound sound).stands.1.symm⟩

/-! ### Attempts are counted -/

theorem Commits.continues {start run : Run} (h : Commits p env phase run next)
    (sound : phase.Sound p) (continues : phase.Continues start) : next.Continues start := by
  have stands := sound.stands
  cases h with
  | unready _ => trivial
  | failed _ _ => trivial
  | lost _ => trivial
  | @running run s now =>
    obtain ⟨before, record, after, stand, -⟩ := stands
    have hrecord := continues s.name (by simp) record stand.record?_eq stand.incomplete
    refine ⟨?_, record, now, hrecord, ?_⟩
    · intro name hname r hr incomplete
      have hne : name ≠ s.name := by simpa using hname
      refine continues name (by simp) r ?_ incomplete
      rw [← hr]
      exact (Run.record?_change_other (StageRecord.name_launch now) run hne).symm
    · exact stand.record?_change (StageRecord.name_launch now)
  | @succeeded run s o now ho =>
    obtain ⟨before, record, after, stand, -⟩ := stands
    intro name _ r hr incomplete
    by_cases hname : name = s.name
    · -- the stage that has succeeded is complete
      subst hname
      have hrecord : (run.applyOutcome now s.name o).record? s.name = some (record.settle o) :=
        stand.record?_change (StageRecord.name_settle o)
      obtain rfl := Option.some.inj (hrecord.symm.trans hr)
      simp [StageRecord.settle, ho, Status.isComplete] at incomplete
    · refine continues.others name (by simpa using hname) r ?_ incomplete
      rw [← hr]
      exact (Run.record?_change_other (StageRecord.name_settle o) run hname).symm

theorem Trace.continues {start : Run} (h : Trace p env (.ready start) past phase)
    (sound : (Phase.ready start).Sound p) : phase.Continues start := by
  induction h with
  | nil =>
    intro name _ r hr _
    exact hr
  | snoc h step ih =>
    cases step with
    | checked _ _ _ => exact ih
    | saved hc _ => exact hc.continues (h.sound sound) ih
    | refused _ _ => exact ih
    | launched => exact ih
    | returned _ => exact ih

theorem launchedSince_of_inFlight {start : Run} {s : Stage} (continues : phase.Continues start)
    (h : phase.inFlight? = some s) : Run.LaunchedSince start phase.run s.name := by
  induction phase with
  | launched run _ =>
    cases h
    exact continues
  | returned run _ result =>
    cases h
    exact continues
  | unsaved before cause ih => exact ih continues h
  | _ => cases h

/-- The number of launches of a stage that are on record for a dataset. -/
def attemptsOnRecord (p : Pipeline) (tree : FileTree) (dataset stage : String) : Nat :=
  match p.load tree dataset with
  | .ok run => ((run.record? stage).map (·.attempts.toNat)).getD 0
  | .error _ => 0

theorem Opened.attempts_eq {tree : FileTree} {start : Run} (h : p.Opened tree env start)
    {stage : String} {r : StageRecord} (hr : start.record? stage = some r) :
    r.attempts.toNat = p.attemptsOnRecord tree env.params.dataset stage := by
  unfold attemptsOnRecord
  cases hload : p.load tree env.params.dataset with
  | error e =>
    have hnone := h.history_eq hload r (Run.mem_of_record?_eq_some hr).1
    simp only [StageRecord.history, Prod.mk.injEq] at hnone
    rw [hnone.1]
    rfl
  | ok run =>
    have same := h.history?_eq hload stage
    rw [Run.history?, hr, Run.history?] at same
    cases hrun : run.record? stage with
    | none => simp [hrun] at same
    | some r' =>
      have hhistory : r.history = r'.history := by simpa [hrun] using same
      simp only [StageRecord.history, Prod.mk.injEq] at hhistory
      simp [hrun, hhistory.1]

/-! ### Stopping at any moment -/

/-- The stage of a command that is out is found interrupted. -/
theorem Trace.interrupted {tree : FileTree} {start : Run} {stage : String}
    (h : Trace p env (.ready start) past phase) (opened : p.Opened tree env start)
    (few : p.attemptsOnRecord tree env.params.dataset stage < Text.maxWord32) {s : Stage}
    (hs : phase.inFlight? = some s) (hname : s.name = stage) :
    ∃ r, phase.run.recover.InterruptedAt stage
      (p.attemptsOnRecord tree env.params.dataset stage + 1) r := by
  subst hname
  have sound := h.sound opened.atRest.sound
  obtain ⟨before, record, after, stand, running⟩ := exists_standing_of_inFlight sound hs
  obtain ⟨-, r, now, hstart, hrun⟩ :=
    launchedSince_of_inFlight (h.continues opened.atRest.sound) hs
  have hrecovered : phase.run.recover.record? s.name = some (r.launch now).recover := by
    rw [Run.record?_recover, hrun]
    rfl
  have first : phase.run.recover.firstIncomplete? = phase.run.recover.position? s.name := by
    rw [Run.firstIncomplete?_recover, Run.position?_recover, stand.firstIncomplete?,
      ← stand.name_eq, stand.toFront.position?_eq]
  refine ⟨_, hrecovered, first, rfl, rfl, rfl, ?_⟩
  have hattempts := opened.attempts_eq hstart
  change (r.attempts + 1).toNat = _
  unfold Text.maxWord32 at few
  rw [UInt32.toNat_add, hattempts]
  simp only [UInt32.toNat_one]
  omega

theorem committed_cons_saved {start : Run} {stage : String} {result : Except LaunchError Outcome} :
    Committed (.saved start :: past) stage result ↔ Committed past stage result := by
  constructor
  · rintro ⟨run, hrun⟩
    rcases List.infix_cons_iff.mp hrun with hfirst | hrest
    · simp at hfirst
    · exact ⟨run, hrest⟩
  · rintro ⟨run, hrun⟩
    exact ⟨run, hrun.trans (List.infix_cons (List.infix_refl past))⟩

/-- What loads depends on the snapshot only. -/
theorem load_congr {tree tree' : FileTree} {dataset : String}
    (h : tree.readText (p.ledger.snapshotPath dataset) =
      tree'.readText (p.ledger.snapshotPath dataset)) :
    p.load tree dataset = p.load tree' dataset := by
  unfold load Ledger.load
  rw [h]

/-- An invocation is stopped after any of its entries, and anything may happen to the files but to
the snapshot of the dataset. If there is one, it loads. The loaded run shows every outcome that was
committed. A stage whose command was handed over, without an outcome that was committed, is found
interrupted: it is the first incomplete one, and the launch is counted. -/
theorem recovery_after_crash {σ : Type} (p : Pipeline) (executor : Executor σ) (d : Drive)
    (w : World σ) {env : Snapshot} (henv : d.env? p w.files = some env)
    (few : ∀ run, p.load w.files env.params.dataset = .ok run →
      ∀ r ∈ run.stages, r.attempts.toNat < Text.maxWord32)
    {past : List Event} (hpast : past <+: ((d.act p executor).perform w).2.since w)
    {tree : FileTree}
    (left : tree.readText (p.ledger.snapshotPath env.params.dataset) =
      snapshotAfter env.params.dataset
        (w.files.readText (p.ledger.snapshotPath env.params.dataset)) past)
    (recorded : (∃ run, .saved run ∈ past) ∨ ∃ run, p.load w.files env.params.dataset = .ok run) :
    ∃ run, p.load tree env.params.dataset = .ok run ∧
      (∀ stage result, Committed past stage result →
        ∃ r, run.record? stage = some r ∧ r.Shows result) ∧
      ∀ l, .launched l ∈ past → (∀ result, ¬ Committed past l.stage result) →
        ∃ r, run.InterruptedAt l.stage
          (p.attemptsOnRecord w.files env.params.dataset l.stage + 1) r := by
  have notTooMany : ∀ stage,
      p.attemptsOnRecord w.files env.params.dataset stage < Text.maxWord32 := by
    intro stage
    unfold attemptsOnRecord
    cases hload : p.load w.files env.params.dataset with
    | error e => simp [Text.maxWord32]
    | ok run =>
      cases hr : run.record? stage with
      | none => simp [hr, Text.maxWord32]
      | some r => simpa [hr] using few run hload r (Run.mem_of_record?_eq_some hr).1
  cases (d.story p executor w).2.stopped hpast with
  | early =>
    obtain ⟨run, hrun⟩ := recorded.resolve_left (by simp)
    exact ⟨run, (load_congr left).trans hrun, by simp [Committed], by simp⟩
  | refused =>
    obtain ⟨run, hrun⟩ := recorded.resolve_left (by simp)
    refine ⟨run, (load_congr left).trans hrun, ?_, by simp⟩
    rintro stage result ⟨saved, hsaved⟩
    simpa using hsaved.length_le
  | @driving env' start past phase henv' opened trace =>
    obtain rfl := Option.some.inj (henv.symm.trans henv')
    have sound := opened.atRest.sound
    refine ⟨phase.run.recover, trace.load_eq opened left, ?_, ?_⟩
    · intro stage result committed
      obtain ⟨r, hr, shows, -⟩ := trace.shows sound (committed_cons_saved.mp committed)
      refine ⟨r, ?_, shows⟩
      rw [Run.record?_recover, hr, Option.map_some,
        StageRecord.recover_of_ne_running shows.status_ne_running]
    · intro l launched notCommitted
      have hmem : .launched l ∈ past := by simpa using launched
      rcases trace.inFlight sound rfl hmem with ⟨result, hresult⟩ | ⟨s, hs, hname⟩
      · exact absurd (committed_cons_saved.mpr hresult) (notCommitted result)
      · exact trace.interrupted opened (notTooMany _) hs hname

/-! The program stops while the command of the first stage is running. -/

namespace Sample

/-- The entries up to the launch of the first stage. -/
def cutOff : List Event :=
  ((((Drive.execute [] (.usual "cubes")).act pipeline (executor "train")).perform world).2.since
    world).take 4

def isSaved : Event → Bool
  | .saved _ => true
  | _ => false

def isReturned : Event → Bool
  | .returned .. => true
  | _ => false

end Sample

theorem recovery_of_sample :
    ∃ (tree : FileTree) (run : Run) (r : StageRecord),
      Sample.pipeline.load tree "cubes" = .ok run ∧ run.InterruptedAt "record" 1 r := by
  have henv : (Drive.execute [] (.usual "cubes")).env? Sample.pipeline Sample.world.files =
      some (Snapshot.take (.usual "cubes") Sample.pipeline.settings []) := rfl
  have fresh : Sample.pipeline.load Sample.world.files "cubes" =
      .error (.ledger (.notFound "cubes")) := by decide +kernel
  have few : ∀ run, Sample.pipeline.load Sample.world.files "cubes" = .ok run →
      ∀ r ∈ run.stages, r.attempts.toNat < Text.maxWord32 := by simp [fresh]
  have saved : Sample.cutOff.any Sample.isSaved = true := by decide +kernel
  have out : Sample.cutOff.any (Sample.isLaunchOf "record") = true := by decide +kernel
  have noReturn : Sample.cutOff.any Sample.isReturned = false := by decide +kernel
  have isSnapshot : (snapshotAfter "cubes" (.error .notFound) Sample.cutOff).isOk = true := by
    decide +kernel
  cases htext : snapshotAfter "cubes" (.error .notFound) Sample.cutOff with
  | error cause => simp [htext, Except.isOk, Except.toBool] at isSnapshot
  | ok text =>
    have left : (Sample.recorded text).readText (Sample.pipeline.ledger.snapshotPath "cubes") =
        snapshotAfter "cubes" (.error .notFound) Sample.cutOff := htext.symm
    have recorded : ∃ run, .saved run ∈ Sample.cutOff := by
      obtain ⟨e, hmem, he⟩ := List.any_eq_true.mp saved
      cases e with
      | saved run => exact ⟨run, hmem⟩
      | _ => simp [Sample.isSaved] at he
    obtain ⟨run, hrun, -, interrupted⟩ := recovery_after_crash Sample.pipeline
      (Sample.executor "train") (.execute [] (.usual "cubes")) Sample.world henv few
      (List.take_prefix 4 _) left (.inl recorded)
    obtain ⟨e, hmem, he⟩ := List.any_eq_true.mp out
    cases e with
    | launched l =>
      have hstage : l.stage = "record" := by simpa [Sample.isLaunchOf] using he
      have notCommitted : ∀ result, ¬ Committed Sample.cutOff l.stage result := by
        rintro result ⟨run', hinfix⟩
        have hreturned := hinfix.subset List.mem_cons_self
        simpa [Sample.isReturned] using List.any_eq_false.mp noReturn _ hreturned
      obtain ⟨r, hr⟩ := interrupted l hmem notCommitted
      rw [hstage] at hr
      exact ⟨_, run, r, hrun, hr⟩
    | _ => simp [Sample.isLaunchOf] at he

end Pipeline

end RobotPipeline
