/-
  RobotPipeline/Proofs/Pipeline/Cancelled.lean
  ============================================
  **Nothing is launched once the operator wants the end.**

  An invocation asks once for each stage whether the operator wants it to end,
  right before it makes the checks of the stage. So no checks are made any more
  from the moment on at which the operator comes to want that: before the
  invocation, between two entries of its journal, or while a command is out
  that passes the wish on. What is left of the drive is at most the stage whose
  checks were made before, and its trace says how that ends.
-/
import RobotPipeline.Proofs.Pipeline.Again
import RobotPipeline.Proofs.Pipeline.Report

namespace RobotPipeline

/-- The entry tells of checks. -/
def Event.isCheck : Event → Bool
  | .checked .. => true
  | _ => false

namespace Pipeline

open RobotPipeline.Action

variable {σ : Type} {p : Pipeline} {executor other : Executor σ} {env : Snapshot}

/-! ### No command is called when the wish was passed on -/

/-- Executors that differ at most in what they do when the operator wants the end. -/
def AlikeBefore (executor other : Executor σ) : Prop :=
  ∀ (l : Launch) (w : World σ), w.cancelled = false → (executor l).perform w = (other l).perform w

theorem launchStage_congr (alike : AlikeBefore executor other) (place : Nat) (s : Stage) (run : Run)
    {w : World σ} (goesOn : w.cancelled = false) :
    (p.launchStage executor env place s run).perform w =
      (p.launchStage other env place s run).perform w := by
  unfold launchStage
  simp only [perform_bind, perform_now, perform_save, perform_tell]
  generalize commit p.ledger _ _ = committed
  cases committed with
  | error cause => rfl
  | ok files =>
    dsimp only
    rw [perform_launch, perform_launch, alike]
    rw [cancelled_told]
    exact goesOn

theorem runStage_congr (alike : AlikeBefore executor other) (place : Nat) (s : Stage) (run : Run)
    (w : World σ) :
    (p.runStage executor env place s run).perform w =
      (p.runStage other env place s run).perform w := by
  unfold runStage
  rw [perform_bind, perform_bind, perform_get]
  dsimp only
  split
  · rfl
  · rename_i goesOn
    rw [perform_bind, perform_bind, perform_record]
    dsimp only
    split
    · apply launchStage_congr alike
      simp only [World.wantsEnd, Bool.not_eq_true, Bool.or_eq_false_iff] at goesOn
      exact goesOn.1
    · rfl

theorem driveFrom_congr (alike : AlikeBefore executor other) (place : Nat) (stages : List Stage)
    (run : Run) (w : World σ) :
    (p.driveFrom executor env place stages run).perform w =
      (p.driveFrom other env place stages run).perform w := by
  induction stages generalizing place run w with
  | nil => rfl
  | cons s rest ih =>
    unfold driveFrom
    split
    · rw [perform_bind, perform_bind, runStage_congr alike]
      split
      · exact ih _ _ _
      · rfl
    · exact ih _ _ _

/-- What a command would do that is launched after the wish was passed on makes no difference. -/
theorem Drive.act_congr (alike : AlikeBefore executor other) (d : Drive) (w : World σ) :
    (d.act p executor).perform w = (d.act p other).perform w := by
  rw [d.act_eq p executor, d.act_eq p other, perform_bind, perform_bind]
  split
  · exact driveFrom_congr alike _ _ _ _
  · rfl

/-! ### No checks are made when the operator wants the end -/

/-- All checks that were made since an earlier world were made before the operator wanted the end:
at the start, by an interrupt, or by a command that has passed the wish on. -/
structure Looks (earlier w : World σ) : Prop where
  interrupt_eq : w.interrupt = earlier.interrupt
  cancelled : earlier.cancelled = true → w.cancelled = true
  checked : ∀ {later before : List Event} {e : Event}, w.journal = later ++ e :: before →
    e.isCheck = true → earlier.journal.length ≤ before.length →
      earlier.cancelled = false ∧
      (∀ moment, earlier.interrupt = some moment → before.length < moment) ∧
      (w.cancelled = true → ∃ l, .launched l ∈ later)

section Looks

variable {earlier w w' : World σ}

theorem looks_self (w : World σ) : Looks w w where
  interrupt_eq := rfl
  cancelled := id
  checked hjournal _ hlength := by
    have := congrArg List.length hjournal
    simp at this
    omega

/-- Entries that tell of no checks are made at any time. -/
theorem Looks.append (h : Looks earlier w) (entries : List Event)
    (journal : w'.journal = entries ++ w.journal) (unchecked : ∀ e ∈ entries, e.isCheck = false)
    (interrupt : w'.interrupt = w.interrupt) (kept : w.cancelled = true → w'.cancelled = true)
    (passedOn : w'.cancelled = true → w.cancelled = true ∨ ∃ l, .launched l ∈ entries) :
    Looks earlier w' := by
  constructor
  · exact interrupt.trans h.interrupt_eq
  · exact fun cancelled => kept (h.cancelled cancelled)
  · intro later before e hjournal he hlength
    rw [journal] at hjournal
    -- the entry of checks is none of the new ones
    rcases cut_append hjournal with ⟨rest, hnew, -⟩ | ⟨older, rfl, hold⟩
    · simp [unchecked e (by simp [hnew])] at he
    obtain ⟨hstart, hmoment, hpassed⟩ := h.checked hold he hlength
    refine ⟨hstart, hmoment, ?_⟩
    intro cancelled
    rcases passedOn cancelled with cancelled | ⟨l, hl⟩
    · obtain ⟨l, hl⟩ := hpassed cancelled
      exact ⟨l, List.mem_append_right entries hl⟩
    · exact ⟨l, List.mem_append_left older hl⟩

/-- Checks are made when the operator does not want the end. -/
theorem Looks.check (h : Looks earlier w) (goesOn : w.wantsEnd = false) (e : Event) :
    Looks earlier { w with journal := e :: w.journal } := by
  simp only [World.wantsEnd, Bool.or_eq_false_iff] at goesOn
  obtain ⟨running, uninterrupted⟩ := goesOn
  constructor
  · exact h.interrupt_eq
  · exact h.cancelled
  · intro later before e' hjournal he hlength
    cases later with
    | nil =>
      obtain ⟨-, rfl⟩ := List.cons.inj hjournal
      refine ⟨?_, ?_, ?_⟩
      · exact Bool.eq_false_iff.mpr fun cancelled => by simp [h.cancelled cancelled] at running
      · intro moment hmoment
        simpa [h.interrupt_eq, hmoment] using uninterrupted
      · intro cancelled
        simp [running] at cancelled
    | cons e'' later =>
      obtain ⟨-, hold⟩ := List.cons.inj hjournal
      obtain ⟨hstart, hmoment, -⟩ := h.checked hold he hlength
      refine ⟨hstart, hmoment, ?_⟩
      intro cancelled
      simp [running] at cancelled

theorem kept_looks (p : Pipeline) (executor : Executor σ) (dataset : String) (earlier : World σ) :
    p.Kept executor dataset (Looks earlier) := by
  constructor
  · intro w readings h
    exact h.append [] rfl (by simp) rfl id .inl
  · intro w line h
    exact h.append [] (by simp) (by simp) (by simp) (by simp) (by simp)
  · intro w stage env files failed goesOn h
    exact h.check goesOn _
  · intro w run _ h
    rw [perform_save]
    cases commit p.ledger run w with
    | ok files => exact h.append [.saved run] rfl (by simp [Event.isCheck]) rfl id .inl
    | error cause =>
      exact h.append [.refused run cause] rfl (by simp [Event.isCheck]) rfl id .inl
  · intro w l h
    rw [perform_launch]
    refine h.append [.returned l.stage _, .launched l] rfl
      (by simp [Event.isCheck]) rfl ?_ ?_
    · intro cancelled
      simp [cancelled]
    · exact fun _ => .inr ⟨l, by simp⟩

end Looks

/-! ### The files are as the last commit has left them -/

/-- When the latest entry that was made since an earlier world is a commit, the files are as that
commit has left them. -/
def Leads (p : Pipeline) (earlier w : World σ) : Prop :=
  ∀ run before, w.journal = .saved run :: before → earlier.journal.length ≤ before.length →
    p.Written run w.files

theorem kept_leads (p : Pipeline) (executor : Executor σ) (dataset : String) (earlier : World σ) :
    p.Kept executor dataset (Leads p earlier) := by
  constructor
  · exact fun _ h => h
  · intro w line h
    simpa [Leads] using h
  · rintro w stage env files failed _ _ run before ⟨⟩
  · rintro w run _ _ run' before hjournal _
    rw [perform_save] at hjournal ⊢
    cases hc : commit p.ledger run w with
    | ok files =>
      simp only [hc, List.cons.injEq, Event.saved.injEq] at hjournal
      obtain ⟨rfl, -⟩ := hjournal
      exact ⟨w.files, (of_commit_eq_ok hc).2⟩
    | error cause => simp [hc] at hjournal
  · rintro w l _ run before ⟨⟩

/-! ### What is left of the invocation -/

/-- By the time that an invocation has made its past entries and not yet its future ones the
operator wants it to end: from the start, by an interrupt, or because a command has passed the wish
on, and none is launched any more. -/
inductive EndWanted (w after : World σ) (past future : List Event) : Prop where
  | start (h : w.cancelled = true)
  | interrupt {moment : Nat} (h : w.interrupt = some moment)
      (le : moment ≤ w.journal.length + past.length)
  | passedOn (h : after.cancelled = true) (last : ∀ l, .launched l ∉ future)

/-- What an invocation comes to that looks for the next stage and finds that the operator wants the
end, when the run that it has opened and the one that it has committed last are given. -/
structure Halts (p : Pipeline) (start run : Run) (after : World σ)
    (answer : Except Failure Run) : Prop where
  /-- The snapshot is left as the commit has made it. -/
  written : p.Written run after.files
  /-- The next stage is named, and has the record that the invocation has found. -/
  answer_eq : (run.next? = none ∧ answer = .ok run) ∨
    ∃ r, run.next? = some r ∧ start.record? r.name = some r ∧ answer = .error (.cancelled r.name)

/-- What is made of the command of a stage that comes back when the operator wants the end: the
entries after its return, and the answer of the invocation. -/
inductive Settles (p : Pipeline) (start : Run) (after : World σ) (stage : String) :
    Except LaunchError Outcome → List Event → Except Failure Run → Prop where
  /-- The system refuses the commit of it. -/
  | refused {result : Except LaunchError Outcome} {run : Run} (cause : IoError) :
      Settles p start after stage result [.refused run (.io cause)] (.error (.ledger (.io cause)))
  | cancelled {o : Outcome} {run : Run} {r : StageRecord} (h : o.cancelled = true)
      (record : run.record? stage = some r) (status : r.status = .failed)
      (unreliable : r.unreliable = true) (note : r.note = some "cancelled") :
      Settles p start after stage (.ok o) [.saved run] (.error (.cancelled stage))
  | failed {o : Outcome} {run : Run} {r : StageRecord} (h : o.isSuccess = false)
      (own : o.cancelled = false) (record : run.record? stage = some r) (status : r.status = .failed) :
      Settles p start after stage (.ok o) [.saved run]
        (.error (.stageFailed stage o.exitCode o.timedOut))
  | lost {e : LaunchError} {run : Run} {r : StageRecord}
      (record : run.record? stage = some r) (status : r.status = .failed) :
      Settles p start after stage (.error e) [.saved run] (.error (.launch e))
  | succeeded {o : Outcome} {run : Run} {r : StageRecord} {answer : Except Failure Run}
      (h : o.isSuccess = true) (record : run.record? stage = some r) (status : r.status = .succeeded)
      (halts : Halts p start run after answer) :
      Settles p start after stage (.ok o) [.saved run] answer

section Left

variable {start run : Run} {s : Stage} {phase last : Phase} {past rest events : List Event}
  {answer : Except Failure Run} {result : Except LaunchError Outcome} {after : World σ}

/-- Without checks a drive that looks for the next stage does nothing. -/
theorem Trace.eq_nil_of_unchecked (h : Trace p env (.ready run) events last)
    (unchecked : ∀ e ∈ events, e.isCheck = false) : events = [] := by
  cases events with
  | nil => rfl
  | cons e rest =>
    obtain ⟨next, step, -⟩ := h.of_cons
    cases step with
    | checked _ _ _ => simp [Event.isCheck] at unchecked
    | saved hc _ => cases hc
    | refused hc _ => cases hc

theorem Trace.eq_nil_of_isOver (h : Trace p env phase events last) (done : phase.isOver = true) :
    events = [] := by
  cases events with
  | nil => rfl
  | cons e rest =>
    obtain ⟨next, step, -⟩ := h.of_cons
    simp [step.isOver_eq] at done

theorem Ends.halts (ends : Ends p (.ready run) answer)
    (trace : Trace p env (.ready start) past (.ready run)) (sound : (Phase.ready start).Sound p)
    (written : p.Written run after.files) : Halts p start run after answer := by
  refine ⟨written, ?_⟩
  cases ends with
  | complete h =>
    refine .inl ⟨?_, rfl⟩
    simpa [Run.next?, Run.firstIncomplete?, List.findIdx?_eq_none_iff] using h
  | @cancelled _ place s first hs =>
    obtain ⟨before, record, later, stand⟩ := exists_standing (trace.sound sound).names_eq first hs
    have same := trace.continues sound s.name (by simp) record stand.record?_eq stand.incomplete
    rw [← stand.name_eq] at same ⊢
    exact .inr ⟨record, stand.next?_eq, same, rfl⟩

/-- A drive whose command has come back commits the outcome, and makes no further checks. -/
theorem Ends.settles (ends : Ends p last answer)
    (trace : Trace p env (.ready start) past (.returned run s result))
    (future : Trace p env (.returned run s result) rest last) (sound : (Phase.ready start).Sound p)
    (unchecked : ∀ e ∈ rest.tail, e.isCheck = false)
    (written : ∀ run', rest = [.saved run'] → p.Written run' after.files) :
    Settles p start after s.name result rest answer := by
  have returned := trace.sound sound
  obtain ⟨before, record, later, stand, -⟩ := returned.stands
  cases rest with
  | nil =>
    obtain rfl := future.of_nil
    cases ends
  | cons e rest =>
    obtain ⟨next, step, future⟩ := future.of_cons
    have trace' := trace.snoc step
    have inOrder := step.inOrder returned
    cases step with
    | refused hc _ =>
      obtain rfl := future.eq_nil_of_isOver rfl
      obtain rfl := future.of_nil
      obtain ⟨cause, rfl⟩ := inOrder
      cases ends
      exact .refused cause
    | saved hc _ =>
      cases hc with
      | @succeeded _ _ o now ho =>
        obtain rfl := future.eq_nil_of_unchecked unchecked
        obtain rfl := future.of_nil
        refine .succeeded ho (stand.record?_change (StageRecord.name_settle o)) ?_
          (ends.halts trace' sound (written _ rfl))
        simp [StageRecord.settle, ho]
      | @failed _ _ o now ho =>
        obtain rfl := future.eq_nil_of_isOver rfl
        obtain rfl := future.of_nil
        have hrecord := stand.record?_change (StageRecord.name_settle o)
        have hstatus : (record.settle o).status = .failed := by simp [StageRecord.settle, ho]
        cases ends
        unfold failureOf
        cases hc : o.cancelled with
        | true =>
          refine .cancelled hc hrecord hstatus ?_ ?_
          · simp [StageRecord.settle, ho]
          · simp [StageRecord.settle, ho, Outcome.summary, hc]
        | false => exact .failed ho hc hrecord hstatus
      | @lost _ _ e now =>
        obtain rfl := future.eq_nil_of_isOver rfl
        obtain rfl := future.of_nil
        cases ends
        exact .lost (stand.record?_change (StageRecord.name_fail now e.message e.processRan)) rfl

end Left

section EndWanted

variable {w after : World σ} {past future : List Event}

/-- No checks are made when the operator wants the end. -/
theorem EndWanted.unchecked (h : EndWanted w after past future) (looks : Looks w after)
    (journal : after.journal = (past ++ future).reverse ++ w.journal) :
    ∀ e ∈ future, e.isCheck = false := by
  intro e he
  obtain ⟨before, later, rfl⟩ := List.append_of_mem he
  by_contra check
  have split : after.journal = later.reverse ++ e :: ((past ++ before).reverse ++ w.journal) := by
    simp [journal]
  obtain ⟨started, moments, passed⟩ := looks.checked split (by simpa using check) (by simp; omega)
  cases h with
  | start h => simp [started] at h
  | interrupt h le =>
    have later := moments _ h
    simp only [List.length_append, List.length_reverse] at later
    omega
  | passedOn h last =>
    obtain ⟨l, hl⟩ := passed h
    exact last l (by simp [List.mem_reverse.mp hl])

end EndWanted

/-- How an invocation ends once the operator wants it to, given the entries that it has made before
and after it has come to that. -/
structure CalledOff (p : Pipeline) (done : Except Failure Run × World σ)
    (past future : List Event) : Prop where
  /-- No command is launched but the one whose stage was checked before. -/
  launched : ∀ before l rest, future = before ++ .launched l :: rest →
    ∃ earlier env files run,
      past ++ before = earlier ++ [.checked l.stage env files [], .saved run] ∧
      earlier.length < past.length
  /-- A command that is out is waited for. -/
  awaited : ∀ before l rest, past ++ future = before ++ .launched l :: rest →
    ∃ result later, rest = .returned l.stage result :: later
  /-- The outcome of a command that is out, or is committed just now, is the last commit. -/
  settled : ∀ before stage result rest, past ++ future = before ++ .returned stage result :: rest →
    past.length ≤ before.length + 2 →
    ∃ start earlier, before = .saved start :: earlier ∧
      Settles p start done.2 stage result rest done.1
  /-- When nothing was checked so far, the run is left as it was opened. -/
  unbegun : ∀ start rest, past ++ future = .saved start :: rest → past.length ≤ 1 →
    rest = [] ∧ Halts p start start done.2 done.1

section CalledOff

variable {start : Run} {phase last : Phase} {past future events : List Event} {w : World σ}
  {done : Except Failure Run × World σ}

/-- An invocation that has committed nothing is over in any case. -/
theorem calledOff_of_refused
    (refused : ∀ e ∈ past ++ future, ∃ run cause, e = .refused run cause) :
    CalledOff p done past future := by
  constructor
  · rintro before l rest rfl
    obtain ⟨run, cause, he⟩ := refused (.launched l) (by simp)
    cases he
  · intro before l rest hsplit
    obtain ⟨run, cause, he⟩ := refused (.launched l) (by simp [hsplit])
    cases he
  · intro before stage result rest hsplit
    obtain ⟨run, cause, he⟩ := refused (.returned stage result) (by simp [hsplit])
    cases he
  · intro start rest hsplit
    obtain ⟨run, cause, he⟩ := refused (.saved start) (by simp [hsplit])
    cases he

theorem Trace.exists_launched {before rest : List Event} {l : Launch}
    (h : Trace p env (.ready start) (before ++ .launched l :: rest) last)
    (sound : (Phase.ready start).Sound p) :
    ∃ run s, Trace p env (.ready start) before (.marked run s l) ∧ l.stage = s.name ∧
      Trace p env (.launched run s) rest last := by
  obtain ⟨phase, trace, rest⟩ := h.of_append
  obtain ⟨next, step, rest⟩ := rest.of_cons
  cases step with
  | @launched run s l => exact ⟨run, s, trace, (trace.sound sound).stands.1, rest⟩

/-- What comes after the first entries, and more of them, is in the future. -/
theorem mem_of_mem_drop {n : Nat} (le : past.length ≤ n) :
    ∀ e ∈ (past ++ future).drop n, e ∈ future := by
  intro e he
  rw [List.drop_append, List.drop_eq_nil_of_le le, List.nil_append] at he
  exact List.mem_of_mem_drop he

theorem exists_of_saved_cons {before rest : List Event} {e : Event}
    (h : before ++ e :: rest = .saved start :: events) (unsaved : e ≠ .saved start) :
    ∃ sofar, before = .saved start :: sofar ∧ events = sofar ++ e :: rest := by
  rcases List.append_eq_cons_iff.mp h with ⟨-, h⟩ | h
  · exact absurd (List.cons.inj h).1 unsaved
  · exact h

/-- A drive that makes no checks after some of its entries is called off there. -/
theorem Trace.calledOff (trace : Trace p env (.ready start) events last)
    (sound : (Phase.ready start).Sound p) (ends : Ends p last done.1)
    (hsplit : past ++ future = .saved start :: events)
    (unchecked : ∀ e ∈ future, e.isCheck = false)
    (written : ∀ run before, past ++ future = before ++ [.saved run] →
      p.Written run done.2.files) :
    CalledOff p done past future := by
  constructor
  · rintro before l rest rfl
    rw [← List.append_assoc] at hsplit
    obtain ⟨sofar, hbefore, rfl⟩ := exists_of_saved_cons hsplit (by simp)
    obtain ⟨run, s, marked, hstage, -⟩ := trace.exists_launched sound
    obtain ⟨sofar, files, -, -, rfl, -, -⟩ := marked.exists_checks
    rw [← List.cons_append] at hbefore
    refine ⟨.saved start :: sofar, env, files, run, by rw [hbefore, hstage], ?_⟩
    -- otherwise the checks are among the later entries
    by_contra late
    obtain ⟨more, hmore⟩ : past <+: .saved start :: sofar :=
      List.prefix_of_prefix_length_le ⟨before, rfl⟩ ⟨_, hbefore.symm⟩ (by omega)
    rw [← hmore, List.append_assoc] at hbefore
    have hnew := List.append_cancel_left hbefore
    have := unchecked (.checked s.name env files []) (by simp [hnew])
    simp [Event.isCheck] at this
  · intro before l rest hrest
    obtain ⟨sofar, rfl, rfl⟩ := exists_of_saved_cons (hrest.symm.trans hsplit) (by simp)
    obtain ⟨run, s, -, hstage, out⟩ := trace.exists_launched sound
    cases rest with
    | nil =>
      obtain rfl := out.of_nil
      cases ends
    | cons e rest =>
      obtain ⟨next, step, -⟩ := out.of_cons
      cases step with
      | saved hc _ => cases hc
      | refused hc _ => cases hc
      | returned result => exact ⟨result, rest, by rw [hstage]⟩
  · intro before stage result rest hrest le
    obtain ⟨sofar, rfl, rfl⟩ := exists_of_saved_cons (hrest.symm.trans hsplit) (by simp)
    refine ⟨start, sofar, rfl, ?_⟩
    rw [List.append_cons] at trace
    obtain ⟨phase, returned, later⟩ := trace.of_append
    obtain ⟨run, s, rfl, rfl⟩ := returned.eq_returned
    apply ends.settles returned later sound
    · intro e he
      refine unchecked e (mem_of_mem_drop le e ?_)
      rw [hrest]
      simpa [List.drop_append, List.drop_eq_nil_of_le] using he
    · rintro run' rfl
      exact written run' (.saved start :: sofar ++ [.returned s.name result]) (by simp [hrest])
  · intro start' rest hrest le
    obtain ⟨hstart, rfl⟩ := List.cons.inj (hsplit.symm.trans hrest)
    obtain rfl : start = start' := by simpa using hstart
    have unchecked' : ∀ e ∈ events, e.isCheck = false := by
      intro e he
      refine unchecked e (mem_of_mem_drop le e ?_)
      rw [hrest]
      simpa using he
    obtain rfl := trace.eq_nil_of_unchecked unchecked'
    obtain rfl := trace.of_nil
    exact ⟨rfl, ends.halts trace sound (written start [] (by simp [hrest]))⟩

end CalledOff

/-- Whatever the moment at which the operator comes to want the end, an invocation is called off
there; and no command is ever called when the wish was passed on. -/
theorem calledOff_of_endWanted (p : Pipeline) (executor : Executor σ) (d : Drive) (w : World σ) :
    (∀ other, AlikeBefore executor other →
      (d.act p executor).perform w = (d.act p other).perform w) ∧
    ∀ past future, ((d.act p executor).perform w).2.since w = past ++ future →
      EndWanted w ((d.act p executor).perform w).2 past future →
      CalledOff p ((d.act p executor).perform w) past future := by
  refine ⟨fun other alike => Drive.act_congr alike d w, ?_⟩
  intro past future hsplit wanted
  obtain ⟨journal, story⟩ := Drive.story p executor d w
  rw [hsplit] at journal story
  have looks : Looks w ((d.act p executor).perform w).2 :=
    Drive.keeps_of_all (fun dataset => kept_looks p executor dataset w) d (looks_self w)
  have leads : Leads p w ((d.act p executor).perform w).2 := by
    apply Drive.keeps_of_all (fun dataset => kept_leads p executor dataset w) d
    intro run before hjournal hlength
    rw [hjournal, List.length_cons] at hlength
    omega
  generalize hevents : past ++ future = events at story
  generalize hanswer : ((d.act p executor).perform w).1 = answer at story
  cases story with
  | rejected _ => exact calledOff_of_refused (by simp [hevents])
  | refused _ _ _ => exact calledOff_of_refused (by simp [hevents])
  | @driven env start events last _ henv opened trace ends =>
    rw [← hanswer] at ends
    refine trace.calledOff opened.atRest.sound ends hevents (wanted.unchecked looks journal) ?_
    intro run before hlast
    rw [hlast, List.reverse_append] at journal
    exact leads run _ journal (by simp)

/-! ### A sample -/

namespace Sample

/-- The operator interrupts the invocation while its first command is out. -/
def interrupted : World Unit := { world with interrupt := some 4 }

/-- No command is launched once the wish to end was passed on. -/
def obedient : Executor Unit := fun l => do
  if (← get).cancelled then throw (.emptyCommand l.stage) else Sample.executor "none" l

end Sample

/-- The command that is out succeeds, and the invocation ends before the next stage. -/
theorem calledOff_of_sample :
    AlikeBefore (Sample.executor "none") Sample.obedient ∧
    ((Drive.execute [] (.usual "cubes")).act Sample.pipeline (Sample.executor "none")).perform
        Sample.interrupted =
      ((Drive.execute [] (.usual "cubes")).act Sample.pipeline Sample.obedient).perform
        Sample.interrupted ∧
    (((Drive.execute [] (.usual "cubes")).act Sample.pipeline (Sample.executor "none")).perform
        Sample.interrupted).1 = .error (.cancelled "train") ∧
    ∃ past future,
      (((Drive.execute [] (.usual "cubes")).act Sample.pipeline (Sample.executor "none")).perform
        Sample.interrupted).2.since Sample.interrupted = past ++ future ∧ past.length = 4 ∧
      CalledOff Sample.pipeline
        (((Drive.execute [] (.usual "cubes")).act Sample.pipeline (Sample.executor "none")).perform
          Sample.interrupted) past future := by
  have alike : AlikeBefore (Sample.executor "none") Sample.obedient := by
    intro l w running
    simp [Sample.obedient, perform_bind, running]
  obtain ⟨same, calledOff⟩ := calledOff_of_endWanted Sample.pipeline (Sample.executor "none")
    (.execute [] (.usual "cubes")) Sample.interrupted
  refine ⟨alike, same _ alike, by decide +kernel, _, _, (List.take_append_drop 4 _).symm,
    by decide +kernel, ?_⟩
  exact calledOff _ _ (List.take_append_drop 4 _).symm (.interrupt rfl (by decide +kernel))

end Pipeline

end RobotPipeline
