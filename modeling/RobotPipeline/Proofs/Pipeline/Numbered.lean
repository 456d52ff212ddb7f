/-
  RobotPipeline/Proofs/Pipeline/Numbered.lean
  ===========================================
  **Every launch has a number, and a log that is named for it.**

  The number of a launch is taken from the record of its stage before the run
  that counts it is committed. Only the commit right before a launch raises
  it. So at every moment of a drive the record of a stage shows how often the
  stage was launched (`Run.Counts`), one more while a launch is still to be
  made; and the entries of a drive fit the launches before them (`Numbered`).

  A log is named for the stage and the number of the launch. No digit is a
  dash, so the last dash of a name tells the one from the other.
-/
import RobotPipeline.Proofs.Ledger.Archive
import RobotPipeline.Proofs.Pipeline.Report
import RobotPipeline.Proofs.Pipeline.Validity

namespace RobotPipeline

/-! ### Names of logs -/

/-- The name of the log of a launch of a stage. -/
def logName (stage : String) (number : Nat) : String :=
  stage ++ "-" ++ Text.decimal number ++ ".log"

/-- Where an element occurs last, a list is cut in one way. -/
theorem cut_at_last {α : Type} {a : α} {x y x' y' : List α} (h : x ++ a :: y = x' ++ a :: y')
    (hy : a ∉ y) (hy' : a ∉ y') : x = x' ∧ y = y' := by
  rcases List.append_eq_append_iff.mp h with ⟨c, rfl, hc⟩ | ⟨c, rfl, hc⟩
  · cases c with
    | nil => exact ⟨(List.append_nil x).symm, (List.cons.inj hc).2⟩
    | cons b c =>
      obtain ⟨-, rfl⟩ := List.cons.inj hc
      simp at hy
  · cases c with
    | nil => exact ⟨List.append_nil x', (List.cons.inj hc).2.symm⟩
    | cons b c =>
      obtain ⟨-, rfl⟩ := List.cons.inj hc
      simp at hy'

theorem logName_inj {stage other : String} {n m : Nat} (h : logName stage n = logName other m) :
    stage = other ∧ n = m := by
  have hlist : stage.toList ++ '-' :: (Text.digits n ++ ".log".toList) =
      other.toList ++ '-' :: (Text.digits m ++ ".log".toList) := by
    simpa [logName, Text.decimal] using congrArg String.toList h
  rw [← List.cons_append, ← List.append_assoc, ← List.cons_append, ← List.append_assoc] at hlist
  obtain ⟨hstage, hnumber⟩ := cut_at_last (List.append_cancel_right hlist)
    (Text.not_mem_digits (by decide) n) (Text.not_mem_digits (by decide) m)
  refine ⟨String.toList_injective hstage, Text.decimal_inj ?_⟩
  rw [Text.decimal, Text.decimal, hnumber]

theorem isName_of_dash {name : String} (h : '/' ∉ name.toList) (dash : '-' ∈ name.toList) :
    Path.IsName name := by
  refine ⟨h, ?_, ?_, ?_⟩
  all_goals
    rintro rfl
    revert dash
    decide

theorem isName_logName {stage : String} (h : '/' ∉ stage.toList) (n : Nat) :
    Path.IsName (logName stage n) := by
  have hlist : (logName stage n).toList =
      stage.toList ++ ('-' :: Text.digits n ++ ".log".toList) := by
    simp [logName, Text.decimal]
  apply isName_of_dash
  · rw [hlist]
    simp only [List.mem_append, List.mem_cons, not_or]
    refine ⟨h, ⟨by decide, ?_⟩, by decide⟩
    intro slash
    exact (Path.isSafe_decimal n '/' (by simpa [Text.decimal] using slash)).1 rfl
  · simp [hlist]

/-- The identifier of a new run of a dataset with a valid name is a name. -/
theorem isName_runId {dataset : String} (valid : Parameters.isDatasetName dataset = true)
    (now : Instant) : Path.IsName (dataset ++ "-" ++ now.stamp) := by
  have safe := ((Path.isSafe_of_isDatasetName valid).append (by decide : Path.IsSafe "-")).append
    (Path.isSafe_stamp now)
  apply isName_of_dash
  · intro slash
    exact (safe '/' slash).1 rfl
  · simp

/-! ### Records that count launches -/

/-- The records of a run show how often each stage was launched, as far as their numbers go. -/
def Run.Counts (run : Run) (n : String → Nat) : Prop :=
  ∀ name r, run.record? name = some r → r.attempts = UInt32.ofNat (n name)

section Counts

variable {run run' : Run} {n : String → Nat}

theorem Run.Counts.of_history?_eq (h : run.Counts n)
    (same : ∀ name, run'.history? name = run.history? name) : run'.Counts n := by
  intro name r hr
  have hhistory : (run.record? name).map StageRecord.history = some r.history := by
    rw [← Run.history?, ← same name, Run.history?, hr, Option.map_some]
  obtain ⟨r', hr', heq⟩ := Option.map_eq_some_iff.mp hhistory
  rw [← h name r' hr']
  exact congrArg (·.1) heq.symm

theorem Run.Counts.recover (h : run.Counts n) : run.recover.Counts n := by
  intro name r hr
  rw [Run.record?_recover] at hr
  obtain ⟨r', hr', rfl⟩ := Option.map_eq_some_iff.mp hr
  rw [← h name r' hr']
  unfold StageRecord.recover
  split <;> rfl

/-- A change that raises the number of one stage. -/
theorem Run.Counts.change (h : run.Counts n) {f : StageRecord → StageRecord} (stage : String)
    (hf : ∀ r, (f r).name = r.name) (more : Nat)
    (raised : ∀ r, (f r).attempts = r.attempts + UInt32.ofNat more) :
    (run.change stage f).Counts fun name => n name + if stage = name then more else 0 := by
  intro name r hr
  by_cases hname : stage = name
  · subst hname
    rw [Run.record?_change_self hf] at hr
    obtain ⟨r', hr', rfl⟩ := Option.map_eq_some_iff.mp hr
    simp [raised, h stage r' hr']
  · rw [Run.record?_change_other hf run (Ne.symm hname)] at hr
    simp [h name r hr, hname]

theorem Run.Counts.change_same (h : run.Counts n) {f : StageRecord → StageRecord} {stage : String}
    (hf : ∀ r, (f r).name = r.name) (same : ∀ r, (f r).attempts = r.attempts) :
    (run.change stage f).Counts n := by
  have changed := h.change stage hf 0 (by simp [same])
  simpa using changed

end Counts

/-- The stage that is marked as running while its command is still to be handed over. -/
def Phase.marked? : Phase → Option String
  | marked _ s _ => some s.name
  | _ => none

/-- The launches that the run of a phase shows, given those that were made. -/
def Phase.shown (phase : Phase) (n : String → Nat) (name : String) : Nat :=
  n name + if phase.marked? = some name then 1 else 0

namespace Pipeline

variable {σ : Type} {p : Pipeline} {env : Snapshot} {phase next : Phase} {start : Run}
  {past events : List Event} {n : String → Nat} {runId dataset : String}

theorem Commits.counts {run : Run} (h : Commits p env phase run next)
    (counts : phase.run.Counts (phase.shown n)) : next.run.Counts (next.shown n) := by
  cases h with
  | unready _ => exact counts.change_same (fun _ => rfl) (fun _ => rfl)
  | succeeded now _ => exact counts.change_same (StageRecord.name_settle _) (fun _ => rfl)
  | failed now _ => exact counts.change_same (StageRecord.name_settle _) (fun _ => rfl)
  | lost now => exact counts.change_same (StageRecord.name_fail now _ _) (fun _ => rfl)
  | @running run s now =>
    intro name r hr
    have raised := counts.change s.name (StageRecord.name_launch now) 1 (fun _ => rfl) name r hr
    simpa [Phase.shown, Phase.marked?] using raised

theorem Step.counts {e : Event} (step : Step p env phase e next) (sound : phase.Sound p)
    (counts : phase.run.Counts (phase.shown n)) :
    next.run.Counts (next.shown fun name => n name + (launches [e]).count name) := by
  cases step with
  | checked _ _ _ => exact counts
  | saved hc _ => exact hc.counts counts
  | refused hc _ => cases hc <;> exact counts
  | @launched run s l =>
    have hstage : l.stage = s.name := sound.stands.1
    intro name r hr
    rw [counts name r hr]
    simp [Phase.shown, Phase.marked?, launches, hstage, List.count_singleton]
  | returned _ => exact counts

/-- At every moment of a drive the run that was committed last shows the launches so far. -/
theorem Trace.counts (h : Trace p env (.ready start) past phase)
    (sound : (Phase.ready start).Sound p) (counts : start.Counts n) :
    phase.run.Counts (phase.shown fun name => n name + (launches past).count name) := by
  induction h with
  | nil => simpa [Phase.shown, Phase.marked?, launches, Phase.run, Run.Counts] using counts
  | snoc h step ih =>
    have counts := step.counts (h.sound sound) ih
    simpa [launches_append, Nat.add_assoc, Run.Counts] using counts

/-! ### Entries that fit the launches before them -/

/-- An entry of a run fits the launches that were made before it: a commit shows them, with one more
where a stage is marked as running, and a launch has the log with the next number. -/
def Fits (p : Pipeline) (runId : String) (n : String → Nat) : Event → Prop
  | .saved run =>
    run.runId = runId ∧ run.names = p.registry.names ∧
      run.Counts fun name => n name + if run.status? name = some .running then 1 else 0
  | .launched l =>
    l.stage ∈ p.registry.names ∧
      l.logPath = some (Path.join (Path.join p.settings.logsDir runId)
        (logName l.stage (UInt32.ofNat (n l.stage + 1)).toNat))
  | _ => True

/-- All entries fit the launches that were made before them. -/
def Numbered (p : Pipeline) (runId : String) (n : String → Nat) (events : List Event) : Prop :=
  ∀ past e future, events = past ++ e :: future →
    p.Fits runId (fun name => n name + (launches past).count name) e

theorem numbered_nil : p.Numbered runId n [] := by
  intro past e future h
  simp at h

theorem numbered_append {future : List Event} (hpast : p.Numbered runId n past)
    (hfuture : p.Numbered runId (fun name => n name + (launches past).count name) future) :
    p.Numbered runId n (past ++ future) := by
  intro before e after hsplit
  rcases cut_append hsplit with ⟨rest, hbefore, -⟩ | ⟨rest, rfl, hrest⟩
  · exact hpast before e rest hbefore
  · have fits := hfuture rest e after hrest
    simpa [launches_append, Nat.add_assoc] using fits

theorem numbered_singleton {e : Event} (h : p.Fits runId n e) : p.Numbered runId n [e] := by
  intro past e' future hsplit
  cases past with
  | nil =>
    obtain ⟨rfl, -⟩ := List.cons.inj hsplit
    simpa [launches] using h
  | cons _ past => simp at hsplit

theorem status?_ne_running {run : Run} (idle : ∀ r ∈ run.stages, r.status ≠ .running)
    (name : String) : run.status? name ≠ some .running := by
  intro running
  obtain ⟨r, hr, hstatus⟩ := Option.map_eq_some_iff.mp running
  exact idle r (Run.mem_of_record?_eq_some hr).1 hstatus

/-- When a run is committed, a stage is running just if it is marked there. -/
theorem Commits.running_iff {run : Run} (h : Commits p env phase run next) (sound : next.Sound p)
    (name : String) : run.status? name = some .running ↔ next.marked? = some name := by
  have idle (rest : ∀ r ∈ run.stages, r.status ≠ .running) := status?_ne_running rest name
  obtain ⟨-, ordered, stands⟩ := sound
  cases h with
  | unready _ =>
    obtain ⟨before, record, after, stand, hrecord⟩ := stands
    simpa [Phase.marked?] using idle (stand.not_running ordered hrecord)
  | succeeded now _ => simpa [Phase.marked?] using idle stands
  | failed now _ =>
    obtain ⟨-, before, record, after, stand, hrecord⟩ := stands
    simpa [Phase.marked?] using idle (stand.not_running ordered (by simp [hrecord]))
  | lost now =>
    obtain ⟨before, record, after, stand, hrecord⟩ := stands
    simpa [Phase.marked?] using idle (stand.not_running ordered (by simp [hrecord]))
  | @running run s now =>
    obtain ⟨-, before, record, after, stand, hrecord⟩ := stands
    constructor
    · intro running
      obtain ⟨r, hr, hstatus⟩ := Option.map_eq_some_iff.mp running
      obtain ⟨hmem, rfl⟩ := Run.mem_of_record?_eq_some hr
      rw [stand.stages_eq, List.mem_append, List.mem_cons] at hmem
      rcases hmem with hmem | rfl | hmem
      · exact absurd hstatus (stand.idle ordered r (List.mem_append_left after hmem))
      · rw [stand.name_eq]
        rfl
      · exact absurd hstatus (stand.idle ordered r (List.mem_append_right before hmem))
    · intro hname
      obtain rfl : s.name = name := by simpa [Phase.marked?] using hname
      rw [Run.status?, stand.record?_eq, Option.map_some, hrecord]

theorem Step.fits {e : Event} (step : Step p env phase e next)
    (trace : Trace p env (.ready start) past phase) (sound : (Phase.ready start).Sound p)
    (runId_eq : phase.run.runId = runId) (counts : phase.run.Counts (phase.shown n)) :
    p.Fits runId n e ∧ next.run.runId = runId := by
  have sound' := trace.sound sound
  cases step with
  | checked _ _ _ => exact ⟨trivial, runId_eq⟩
  | @saved _ _ run hc _ =>
    have sound'' := hc.sound sound'
    have counts' := hc.counts counts
    have hrun := hc.run_eq
    have hid : next.run.runId = runId := by
      rw [← runId_eq]
      cases hc <;> rfl
    rw [hrun] at counts' hid
    refine ⟨⟨hid, hrun ▸ sound''.names_eq, ?_⟩, by rw [hrun, hid]⟩
    intro name r hr
    simpa only [Phase.shown, hc.running_iff sound''] using counts' name r hr
  | refused _ _ => exact ⟨trivial, runId_eq⟩
  | returned _ => exact ⟨trivial, runId_eq⟩
  | @launched run s l =>
    refine ⟨?_, runId_eq⟩
    -- the number of the log is the one that the commit before the launch has put on record
    obtain ⟨hstage, before, record, after, stand, -⟩ := sound'.stands
    obtain ⟨earlier, now, rfl, rfl⟩ := trace.launch_eq
    have number := counts s.name record stand.record?_eq
    have hrecord : (earlier.record? s.name).map (StageRecord.launch now) = some record := by
      rw [← Run.record?_change_self (StageRecord.name_launch now)]
      exact stand.record?_eq
    obtain ⟨r, hr, rfl⟩ := Option.map_eq_some_iff.mp hrecord
    have hnumber : r.attempts + 1 = UInt32.ofNat (n s.name + 1) := by
      simpa [Phase.shown, Phase.marked?, StageRecord.launch] using number
    have hid : earlier.runId = runId := runId_eq
    refine ⟨stand.mem_names, ?_⟩
    simp only [launchOf, logPath, hr, hid, Option.map_some, Option.getD_some, hnumber]
    rfl

theorem Trace.numbered (h : Trace p env (.ready start) past phase)
    (sound : (Phase.ready start).Sound p) (counts : start.Counts n) :
    p.Numbered start.runId n past ∧ phase.run.runId = start.runId := by
  induction h with
  | nil => exact ⟨numbered_nil, rfl⟩
  | snoc h step ih =>
    obtain ⟨numbered, runId_eq⟩ := ih
    obtain ⟨fits, runId_eq'⟩ := step.fits h sound runId_eq (h.counts sound counts)
    exact ⟨numbered_append numbered (numbered_singleton fits), runId_eq'⟩

/-! ### Commits that a launch follows -/

/-- Where a commit shows a stage as running, its launch is the next entry. -/
def Followed (events : List Event) : Prop :=
  ∀ past run future name, events = past ++ .saved run :: future →
    run.status? name = some .running → ∃ l rest, future = .launched l :: rest ∧ l.stage = name

theorem followed_nil : Followed [] := by
  intro past run future name h
  simp at h

theorem followed_append {future : List Event} (hpast : Followed past) (hfuture : Followed future) :
    Followed (past ++ future) := by
  intro before run after name hsplit running
  rcases cut_append hsplit with ⟨rest, hbefore, rfl⟩ | ⟨rest, -, hrest⟩
  · obtain ⟨l, more, rfl, hstage⟩ := hpast before run rest name hbefore running
    exact ⟨l, more ++ future, rfl, hstage⟩
  · exact hfuture rest run after name hrest running

theorem followed_idle {run : Run} (idle : ∀ r ∈ run.stages, r.status ≠ .running) :
    Followed [.saved run] := by
  intro past run' future name hsplit running
  rcases List.singleton_eq_append_iff.mp hsplit with ⟨-, h⟩ | ⟨-, h⟩
  · obtain ⟨hrun, -⟩ := List.cons.inj h
    obtain rfl : run' = run := by simpa using hrun
    exact absurd running (status?_ne_running idle name)
  · simp at h

theorem Followed.tail {e : Event} (h : Followed (e :: events)) : Followed events := by
  rintro before run after name rfl running
  exact h (e :: before) run after name rfl running

/-- A drive that has no launch ahead has launched every stage that it has marked as running. -/
theorem Trace.followed (h : Trace p env (.ready start) events phase)
    (sound : (Phase.ready start).Sound p) (unmarked : phase.marked? = none) : Followed events := by
  rintro past run future name rfl running
  obtain ⟨before, trace, rest⟩ := h.of_append
  obtain ⟨next, step, rest⟩ := rest.of_cons
  have sound' := step.sound (trace.sound sound)
  cases step with
  | saved hc _ =>
    have marked := (hc.running_iff sound' name).mp running
    cases hc with
    | @running _ s now =>
      cases future with
      | nil =>
        obtain rfl := rest.of_nil
        simp [Phase.marked?] at unmarked
      | cons e future =>
        obtain ⟨_, step, -⟩ := rest.of_cons
        cases step with
        | saved hc _ => cases hc
        | refused hc _ => cases hc
        | launched => exact ⟨_, future, rfl, sound'.stands.1.trans (Option.some.inj marked)⟩
    | _ => simp [Phase.marked?] at marked

/-- A drive that has launched every stage that it has marked as running has no launch ahead. -/
theorem Trace.unmarked (h : Trace p env (.ready start) events phase)
    (sound : (Phase.ready start).Sound p) (followed : Followed events) : phase.marked? = none := by
  cases phase with
  | marked run s l =>
    cases h with
    | @snoc past _ _ _ h step =>
      have sound' := step.sound (h.sound sound)
      cases step with
      | @saved _ _ committed hc _ =>
        have running := (hc.running_iff sound' s.name).mpr rfl
        obtain ⟨l, rest, hnone, -⟩ := followed past committed [] s.name rfl running
        cases hnone
  | _ => rfl

theorem followed_refused (run : Run) (cause : LedgerError) : Followed [.refused run cause] := by
  intro past run' future name hsplit
  simp [List.cons_eq_append_iff] at hsplit

/-- An invocation that is over has launched every stage that it has marked as running. -/
theorem Request.Story.followed {r : Request} {tree : FileTree}
    (h : Request.Story p tree r events) : Followed events := by
  cases h with
  | drive story =>
    cases story with
    | rejected _ => exact followed_nil
    | refused _ _ _ => exact followed_refused _ _
    | @driven env start events phase result henv opened trace ends =>
      have unmarked : phase.marked? = none := by cases ends <;> rfl
      exact followed_append (followed_idle opened.atRest.idle)
        (trace.followed opened.atRest.sound unmarked)
  | skip story =>
    cases story with
    | rejected => exact followed_nil
    | refused _ _ _ _ _ => exact followed_refused _ _
    | skipped made now hrun _ _ =>
      exact followed_idle (not_running_markSkipped (atRest_runToSkip hrun).idle now _ _)
  | restart => exact followed_nil
  | status => exact followed_nil

end Pipeline

end RobotPipeline
