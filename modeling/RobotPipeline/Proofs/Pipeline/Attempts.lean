/-
  RobotPipeline/Proofs/Pipeline/Attempts.lean
  ===========================================
  **A run that trusts a stage is right to do so.**

  The attempts of an invocation are read off its journal. An attempt counts
  when its process was started, and it is trusted when it came back with a
  success and that was committed. A record that is not marked unreliable is a
  promise: the last attempt of the stage that counts, if there is one, was
  such a success (`Reliable`).

  The promise is kept by every step of a drive (`Step.tally`). While a command
  is out its stage is running, and what is found running is marked when it is
  loaded, so it also holds of what a stopped drive leaves behind.
-/
import RobotPipeline.Proofs.Pipeline.Standing

namespace RobotPipeline

/-! ### Attempts in the journal -/

/-- How far an attempt has come. -/
inductive Attempt where
  /-- The command was handed over. -/
  | out
  /-- It came back. -/
  | back (result : Except LaunchError Outcome)
  /-- It came back, and the run was committed after that. -/
  | recorded (result : Except LaunchError Outcome)

namespace Attempt

/-- Whether the process of an attempt that came back was started. -/
def hasRun : Except LaunchError Outcome → Bool
  | .ok _ => true
  | .error e => e.processRan

/-- Whether the process was started; one that never came back may have been. -/
def ran : Attempt → Bool
  | out => true
  | back result => hasRun result
  | recorded result => hasRun result

def isRecordedSuccess : Attempt → Bool
  | recorded (.ok o) => o.isSuccess
  | _ => false

end Attempt

/-- Attempts with their stages, the latest first. -/
abbrev Attempts : Type := List (String × Attempt)

def note : Attempts → Event → Attempts
  | as, .launched l => (l.stage, .out) :: as
  | (stage, .out) :: as, .returned _ result => (stage, .back result) :: as
  | (stage, .back result) :: as, .saved _ => (stage, .recorded result) :: as
  | as, _ => as

/-- The attempts of an invocation. -/
def attemptsIn (events : List Event) : Attempts := events.foldl note []

/-- The last attempt of a stage whose process was started, if there is one, is on record as a
success. -/
def Trusted (as : Attempts) (stage : String) : Prop :=
  ∀ a ∈ as.find? (fun a => a.1 = stage && a.2.ran), a.2.isRecordedSuccess = true

theorem attemptsIn_snoc (past : List Event) (e : Event) :
    attemptsIn (past ++ [e]) = note (attemptsIn past) e := by
  simp [attemptsIn, List.foldl_append]

theorem trusted_cons_other {as : Attempts} {stage other : String} (hne : other ≠ stage)
    (a : Attempt) : Trusted ((stage, a) :: as) other ↔ Trusted as other := by
  simp [Trusted, hne.symm]

theorem trusted_cons_of_recordedSuccess (as : Attempts) (stage : String) {a : Attempt}
    (h : a.isRecordedSuccess = true) (hran : a.ran = true) : Trusted ((stage, a) :: as) stage := by
  simp [Trusted, h, hran]

theorem trusted_cons_of_not_ran {as : Attempts} {stage : String} {a : Attempt}
    (hran : a.ran = false) : Trusted ((stage, a) :: as) stage ↔ Trusted as stage := by
  simp [Trusted, hran]

def Settled (as : Attempts) : Prop := ∀ a ∈ as, ∃ result, a.2 = .recorded result

theorem note_saved_of_settled {as : Attempts} (h : Settled as) (run : Run) :
    note as (.saved run) = as := by
  cases as with
  | nil => rfl
  | cons a as =>
    obtain ⟨stage, a⟩ := a
    obtain ⟨result, rfl⟩ := h _ List.mem_cons_self
    rfl

theorem Settled.cons {as : Attempts} (h : Settled as) (stage : String)
    (result : Except LaunchError Outcome) : Settled ((stage, .recorded result) :: as) := by
  intro a ha
  rcases List.mem_cons.mp ha with rfl | ha
  · exact ⟨result, rfl⟩
  · exact h a ha

/-! ### Records that are not marked -/

/-- The stages that a run does not mark unreliable are trusted. -/
def Reliable (run : Run) (as : Attempts) : Prop :=
  ∀ stage, (run.record? stage).map (·.unreliable) = some false → Trusted as stage

section Reliable

variable {run : Run} {as : Attempts} {f : StageRecord → StageRecord}

theorem Reliable.change_of_unreliable_eq (h : Reliable run as) (hf : ∀ r, (f r).name = r.name)
    (same : ∀ r, (f r).unreliable = r.unreliable) (name : String) :
    Reliable (run.change name f) as := by
  intro stage hstage
  apply h stage
  by_cases hname : stage = name
  · subst hname
    rw [Run.record?_change_self hf, Option.map_map] at hstage
    simpa [Function.comp_def, same] using hstage
  · rwa [Run.record?_change_other hf run hname] at hstage

/-- Nothing is unreliable of which nothing was tried. -/
theorem reliable_nil (run : Run) : Reliable run [] := by
  intro stage _
  simp [Trusted]

theorem Reliable.of_history?_eq {run' : Run} (h : Reliable run as)
    (same : ∀ stage, run'.history? stage = run.history? stage) : Reliable run' as := by
  intro stage hstage
  apply h stage
  have hsame := congrArg (Option.map fun h => h.2.2) (same stage)
  simp only [Run.history?, Option.map_map] at hsame
  exact hsame.symm.trans hstage

/-- A change of a record keeps the promise, if it does so for the stage of the record. -/
theorem Reliable.change (h : Reliable run as) (hf : ∀ r, (f r).name = r.name) {name : String}
    {a : Attempt}
    (self : ∀ r, run.record? name = some r → (f r).unreliable = false →
      Trusted ((name, a) :: as) name) :
    Reliable (run.change name f) ((name, a) :: as) := by
  intro stage hstage
  by_cases hname : stage = name
  · subst hname
    rw [Run.record?_change_self hf] at hstage
    cases hr : run.record? stage with
    | none => simp [hr] at hstage
    | some r => exact self r hr (by simpa [hr] using hstage)
  · rw [Run.record?_change_other hf run hname] at hstage
    exact (trusted_cons_other hname a).mpr (h stage hstage)

theorem StageRecord.unreliable_recover_eq_false {r : StageRecord}
    (h : r.recover.unreliable = false) : r.status ≠ .running ∧ r.unreliable = false := by
  unfold recover at h
  split at h
  · cases h
  · exact ⟨‹_›, h⟩

/-- Loading marks what is running, and takes no mark away. -/
theorem Reliable.recover (h : Reliable run as) : Reliable run.recover as := by
  intro stage hstage
  apply h stage
  rw [Run.record?_recover] at hstage
  cases hr : run.record? stage with
  | none => simp [hr] at hstage
  | some r =>
    have hfalse : r.recover.unreliable = false := by simpa [hr] using hstage
    simp [StageRecord.unreliable_recover_eq_false hfalse]

/-- A running stage is marked when it is loaded, so it may have been tried in any way. -/
theorem Reliable.recover_cons (h : Reliable run as) {name : String} {r : StageRecord}
    (hr : run.record? name = some r) (running : r.status = .running) (a : Attempt) :
    Reliable run.recover ((name, a) :: as) := by
  intro stage hstage
  have hne : stage ≠ name := by
    rintro rfl
    rw [Run.record?_recover, hr] at hstage
    have hfalse : r.recover.unreliable = false := by simpa using hstage
    exact (StageRecord.unreliable_recover_eq_false hfalse).1 running
  exact (trusted_cons_other hne a).mpr (h.recover stage hstage)

end Reliable

/-! ### The promise is kept by a drive -/

/-- The run of a phase keeps the promise for the attempts of before the drive and those of the drive,
except for the one that is not recorded yet. -/
def Phase.Tally (old : Attempts) : Phase → Attempts → Prop
  | launched run s, as =>
    ∃ done, as = (s.name, .out) :: done ∧ Settled done ∧ Reliable run (done ++ old)
  | returned run s result, as =>
    ∃ done, as = (s.name, .back result) :: done ∧ Settled done ∧ Reliable run (done ++ old)
  | unsaved before _, as => before.Tally old as
  | ready run, as => Settled as ∧ Reliable run (as ++ old)
  | checked run _ _, as => Settled as ∧ Reliable run (as ++ old)
  | unready run _ _, as => Settled as ∧ Reliable run (as ++ old)
  | marked run _ _, as => Settled as ∧ Reliable run (as ++ old)
  | lost run _ _, as => Settled as ∧ Reliable run (as ++ old)
  | failed run _ _, as => Settled as ∧ Reliable run (as ++ old)

namespace Pipeline

variable {p : Pipeline} {env : Snapshot} {phase next : Phase} {old as : Attempts}

theorem Commits.tally {run : Run} (h : Commits p env phase run next)
    (tally : phase.Tally old as) : next.Tally old (note as (.saved run)) := by
  cases h with
  | @unready run s failed _ =>
    obtain ⟨settled, reliable⟩ := tally
    have noted : ∀ r : StageRecord, ({ r with note := some (unreadyNote failed) }).name = r.name :=
      fun _ => rfl
    rw [note_saved_of_settled settled]
    constructor
    · exact settled
    · exact reliable.change_of_unreliable_eq noted (fun _ => rfl) s.name
  | @running run s now =>
    obtain ⟨settled, reliable⟩ := tally
    rw [note_saved_of_settled settled]
    constructor
    · exact settled
    · exact reliable.change_of_unreliable_eq (StageRecord.name_launch now) (fun _ => rfl) s.name
  | @succeeded run s o now ho =>
    obtain ⟨done, rfl, settled, reliable⟩ := tally
    constructor
    · exact settled.cons s.name (.ok o)
    · apply reliable.change (StageRecord.name_settle o)
      intro r _ _
      exact trusted_cons_of_recordedSuccess _ s.name ho rfl
  | @failed run s o now ho =>
    obtain ⟨done, rfl, settled, reliable⟩ := tally
    constructor
    · exact settled.cons s.name (.ok o)
    · -- the record is marked, so nothing is promised of the stage
      apply reliable.change (StageRecord.name_settle o)
      intro r _ hfalse
      simp [StageRecord.settle, ho] at hfalse
  | @lost run s e now =>
    obtain ⟨done, rfl, settled, reliable⟩ := tally
    constructor
    · exact settled.cons s.name (.error e)
    · apply reliable.change (StageRecord.name_fail now _ _)
      intro r hr hfalse
      -- the process was not started, so what was before counts
      obtain ⟨unmarked, notRan⟩ : r.unreliable = false ∧ e.processRan = false := by
        simpa [StageRecord.fail] using hfalse
      have hran : (Attempt.recorded (.error e)).ran = false := notRan
      rw [trusted_cons_of_not_ran hran]
      apply reliable s.name
      simp [hr, unmarked]

theorem Step.tally {e : Event} (step : Step p env phase e next) (sound : phase.Sound p)
    (tally : phase.Tally old as) : next.Tally old (note as e) := by
  cases step with
  | checked _ _ _ =>
    have same : ∀ stage env files failed, note as (.checked stage env files failed) = as := by
      intro stage env files failed
      rcases as with _ | ⟨⟨_, _ | _ | _⟩, as⟩ <;> rfl
    rw [same]
    exact tally
  | saved h _ => exact h.tally tally
  | @refused _ _ run cause _ _ =>
    have same : note as (.refused run cause) = as := by
      rcases as with _ | ⟨⟨_, _ | _ | _⟩, as⟩ <;> rfl
    rw [same]
    exact tally
  | @launched run s l =>
    obtain ⟨settled, reliable⟩ := tally
    have hl := sound.stands.1
    refine ⟨as, ?_, settled, reliable⟩
    rw [← hl]
    rcases as with _ | ⟨⟨_, _ | _ | _⟩, as⟩ <;> rfl
  | returned result =>
    obtain ⟨done, rfl, settled, reliable⟩ := tally
    exact ⟨done, rfl, settled, reliable⟩

/-- The promise is kept at every moment of a drive. -/
theorem Trace.tally {start : Run} {past : List Event} (h : Trace p env (.ready start) past phase)
    (sound : (Phase.ready start).Sound p) (reliable : Reliable start old) :
    phase.Tally old (attemptsIn past) := by
  induction h with
  | nil => exact ⟨by simp [Settled, attemptsIn], reliable⟩
  | snoc h step ih =>
    rw [attemptsIn_snoc]
    exact step.tally (h.sound sound) ih

/-- What a stopped drive leaves behind keeps the promise when it is loaded. -/
theorem reliable_recover_of_tally (sound : phase.Sound p) (tally : phase.Tally old as) :
    Reliable phase.run.recover (as ++ old) := by
  induction phase with
  | launched run s =>
    obtain ⟨done, rfl, -, reliable⟩ := tally
    obtain ⟨before, record, after, stand, running⟩ := sound.stands
    exact reliable.recover_cons stand.record?_eq running _
  | returned run s result =>
    obtain ⟨done, rfl, -, reliable⟩ := tally
    obtain ⟨before, record, after, stand, running⟩ := sound.stands
    exact reliable.recover_cons stand.record?_eq running _
  | unsaved before cause ih => exact ih ⟨sound.names_eq, sound.ordered, sound.stands⟩ tally
  | _ => exact tally.2.recover

end Pipeline

end RobotPipeline
