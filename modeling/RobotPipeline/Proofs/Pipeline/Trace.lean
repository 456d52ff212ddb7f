/-
  RobotPipeline/Proofs/Pipeline/Trace.lean
  ========================================
  **A drive as the entries that it makes in the journal.**

  Between two entries a drive stands at a `Phase`: it looks for the next
  stage, it has made the checks of one, it has committed that one is running,
  and so on. `Step` says which entry may come next and where the drive stands
  after it, and `Ends` says which phases a drive may end at, and how.

  `drive_trace` says that every drive, whatever the executor does, makes the
  entries of a trace and ends as its last phase says. What is claimed of all
  drives, and of all moments of a drive at which the program may stop, is then
  shown of each step once. A trace that is cut off is a trace.
-/
import RobotPipeline.Proofs.Pipeline.Perform
import RobotPipeline.Proofs.Registry.Backward
import RobotPipeline.Proofs.Run.Order

namespace RobotPipeline

/-- Where a drive stands after an entry in its journal. The run is the one that was committed
last. -/
inductive Phase where
  /-- The next stage is looked for. -/
  | ready (run : Run)
  /-- The checks of a stage were made. -/
  | checked (run : Run) (s : Stage) (failed : List String)
  /-- That a stage is not ready is committed: the drive is over. -/
  | unready (run : Run) (s : Stage) (failed : List String)
  /-- That a stage is running is committed. -/
  | marked (run : Run) (s : Stage) (l : Launch)
  /-- The command of a stage was handed over. -/
  | launched (run : Run) (s : Stage)
  /-- The command of a stage came back. -/
  | returned (run : Run) (s : Stage) (result : Except LaunchError Outcome)
  /-- That a stage has no outcome is committed: the drive is over. -/
  | lost (run : Run) (s : Stage) (e : LaunchError)
  /-- That a stage has failed is committed: the drive is over. -/
  | failed (run : Run) (s : Stage) (o : Outcome)
  /-- A commit was refused: the drive is over. -/
  | unsaved (before : Phase) (cause : LedgerError)

namespace Phase

/-- The run that was committed last. -/
def run : Phase → Run
  | ready run => run
  | checked run _ _ => run
  | unready run _ _ => run
  | marked run _ _ => run
  | launched run _ => run
  | returned run _ _ => run
  | lost run _ _ => run
  | failed run _ _ => run
  | unsaved before _ => before.run

end Phase

namespace Pipeline

/-! ### Steps -/

/-- What is said of a stage whose checks do not hold. -/
def unreadyNote (failed : List String) : String := "not ready: " ++ ", ".intercalate failed

/-- At a phase the given run is to be committed, and the drive then stands at the next phase. -/
inductive Commits (p : Pipeline) (env : Snapshot) : Phase → Run → Phase → Prop where
  | unready {run : Run} {s : Stage} {failed : List String} (h : failed ≠ []) :
      Commits p env (.checked run s failed) (run.setNote s.name (unreadyNote failed))
        (.unready (run.setNote s.name (unreadyNote failed)) s failed)
  | running {run : Run} {s : Stage} (now : Instant) :
      Commits p env (.checked run s []) (run.markRunning now s.name)
        (.marked (run.markRunning now s.name) s (p.launchOf env run s))
  | succeeded {run : Run} {s : Stage} {o : Outcome} (now : Instant) (h : o.isSuccess = true) :
      Commits p env (.returned run s (.ok o)) (run.applyOutcome now s.name o)
        (.ready (run.applyOutcome now s.name o))
  | failed {run : Run} {s : Stage} {o : Outcome} (now : Instant) (h : o.isSuccess = false) :
      Commits p env (.returned run s (.ok o)) (run.applyOutcome now s.name o)
        (.failed (run.applyOutcome now s.name o) s o)
  | lost {run : Run} {s : Stage} {e : LaunchError} (now : Instant) :
      Commits p env (.returned run s (.error e))
        (run.markFailed now s.name e.message e.processRan)
        (.lost (run.markFailed now s.name e.message e.processRan) s e)

theorem Commits.run_eq {p : Pipeline} {env : Snapshot} {phase next : Phase} {run : Run}
    (h : Commits p env phase run next) : next.run = run := by
  cases h <;> rfl

/-- Why a commit of a run may be refused: the run is out of order, or the system refuses. -/
inductive Refusal (run : Run) : LedgerError → Prop where
  | order {v : OrderViolation} (h : run.orderViolation? = some v) : Refusal run (.stageOrder v)
  | system (cause : IoError) : Refusal run (.io cause)

/-- A commit that the system has refused. -/
def refusedBySystem : Event → Bool
  | .refused _ (.io _) => true
  | _ => false

theorem refusal_of_commit_eq_error {σ : Type} {ledger : Ledger} {run : Run} {w : World σ}
    {cause : LedgerError} (h : Action.commit ledger run w = .error cause) : Refusal run cause := by
  rcases Action.of_commit_eq_error h with ⟨v, hv, rfl⟩ | ⟨e, rfl⟩
  · exact .order hv
  · exact .system e

/-- At a phase the given entry may be made, and the drive then stands at the next phase. -/
inductive Step (p : Pipeline) (env : Snapshot) : Phase → Event → Phase → Prop where
  | checked {run : Run} {place : Nat} {s : Stage} (files : FileTree)
      (first : run.firstIncomplete? = some place) (hs : p.registry.stages[place]? = some s) :
      Step p env (.ready run)
        (.checked s.name env files (Readiness.check p.registry env run files s))
        (.checked run s (Readiness.check p.registry env run files s))
  | saved {phase next : Phase} {run : Run} (h : Commits p env phase run next)
      (ordered : run.Ordered) :
      Step p env phase (.saved run) next
  | refused {phase next : Phase} {run : Run} {cause : LedgerError} (h : Commits p env phase run next)
      (why : Refusal run cause) :
      Step p env phase (.refused run cause) (.unsaved phase cause)
  | launched {run : Run} {s : Stage} {l : Launch} :
      Step p env (.marked run s l) (.launched l) (.launched run s)
  | returned {run : Run} {s : Stage} (result : Except LaunchError Outcome) :
      Step p env (.launched run s) (.returned s.name result) (.returned run s result)

/-- The failure that an unsuccessful attempt ends a drive with. -/
def failureOf (s : Stage) (o : Outcome) : Failure :=
  if o.cancelled then .cancelled s.name else .stageFailed s.name o.exitCode o.timedOut

/-- How a drive may end at a phase. -/
inductive Ends (p : Pipeline) : Phase → Except Failure Run → Prop where
  | complete {run : Run} (h : run.firstIncomplete? = none) : Ends p (.ready run) (.ok run)
  | cancelled {run : Run} {place : Nat} {s : Stage} (first : run.firstIncomplete? = some place)
      (hs : p.registry.stages[place]? = some s) : Ends p (.ready run) (.error (.cancelled s.name))
  | unready {run : Run} {s : Stage} {failed : List String} :
      Ends p (.unready run s failed) (.error (.notReady s.name failed))
  | lost {run : Run} {s : Stage} {e : LaunchError} : Ends p (.lost run s e) (.error (.launch e))
  | failed {run : Run} {s : Stage} {o : Outcome} :
      Ends p (.failed run s o) (.error (failureOf s o))
  | unsaved {before : Phase} {cause : LedgerError} :
      Ends p (.unsaved before cause) (.error (.ledger cause))

/-- An entry of two lists together is one of the first or one of the second. -/
theorem cut_append {before after past more : List Event} {e : Event}
    (h : before ++ after = past ++ e :: more) :
    (∃ rest, before = past ++ e :: rest ∧ more = rest ++ after) ∨
      ∃ rest, past = before ++ rest ∧ after = rest ++ e :: more := by
  rcases List.append_eq_append_iff.mp h with ⟨rest, hpast, hafter⟩ | ⟨rest, hbefore, hmore⟩
  · exact .inr ⟨rest, hpast, hafter⟩
  · cases rest with
    | nil => exact .inr ⟨[], by simpa using hbefore.symm, hmore.symm⟩
    | cons e' rest =>
      obtain ⟨rfl, rfl⟩ := List.cons.inj hmore
      exact .inl ⟨rest, hbefore, rfl⟩

/-- Entries that a drive may make one after another, and where it stands after them. -/
inductive Trace (p : Pipeline) (env : Snapshot) (start : Phase) : List Event → Phase → Prop where
  | nil : Trace p env start [] start
  | snoc {past : List Event} {phase next : Phase} {e : Event} (h : Trace p env start past phase)
      (step : Step p env phase e next) : Trace p env start (past ++ [e]) next

namespace Trace

variable {p : Pipeline} {env : Snapshot} {start phase next : Phase}

theorem single {e : Event} (step : Step p env start e next) : Trace p env start [e] next :=
  snoc nil step

theorem trans {past future : List Event} (h : Trace p env start past phase)
    (h' : Trace p env phase future next) : Trace p env start (past ++ future) next := by
  induction h' with
  | nil => simpa using h
  | snoc _ step ih =>
    rw [← List.append_assoc]
    exact snoc ih step

theorem of_append {past future : List Event} (h : Trace p env start (past ++ future) next) :
    ∃ phase, Trace p env start past phase ∧ Trace p env phase future next := by
  generalize hall : past ++ future = all at h
  induction h generalizing future with
  | nil =>
    obtain ⟨rfl, rfl⟩ := List.append_eq_nil_iff.mp hall
    exact ⟨start, nil, nil⟩
  | @snoc before phase next e h step ih =>
    rcases List.eq_nil_or_concat future with rfl | ⟨future', e', rfl⟩
    · rw [List.append_nil] at hall
      subst hall
      exact ⟨next, snoc h step, nil⟩
    · rw [List.concat_eq_append, ← List.append_assoc] at hall
      obtain ⟨hbefore, he⟩ := List.append_inj' hall rfl
      obtain rfl := List.singleton_inj.mp he
      obtain ⟨middle, hpast, hfuture⟩ := ih hbefore
      exact ⟨middle, hpast, by rw [List.concat_eq_append]; exact snoc hfuture step⟩

theorem of_nil (h : Trace p env start [] next) : next = start := by
  generalize hnone : ([] : List Event) = none at h
  cases h with
  | nil => rfl
  | snoc _ _ => simp at hnone

/-- The first entry of a trace is made by a step, and the others follow. -/
theorem of_cons {e : Event} {future : List Event} (h : Trace p env start (e :: future) next) :
    ∃ phase, Step p env start e phase ∧ Trace p env phase future next := by
  obtain ⟨phase, hfirst, hfuture⟩ := of_append (show Trace p env start ([e] ++ future) next from h)
  generalize hall : [e] = all at hfirst
  cases hfirst with
  | nil => cases hall
  | snoc hpast step =>
    rw [← List.nil_append [e]] at hall
    obtain ⟨rfl, he⟩ := List.append_inj' hall rfl
    obtain rfl := List.singleton_inj.mp he
    obtain rfl := hpast.of_nil
    exact ⟨phase, step, hfuture⟩

/-- A run that a trace has committed is the last one that was committed at some moment. -/
theorem exists_of_saved {past : List Event} {run : Run} (h : Trace p env start past phase)
    (hmem : .saved run ∈ past) :
    ∃ earlier middle, Trace p env start earlier middle ∧ middle.run = run := by
  induction h with
  | nil => cases hmem
  | @snoc past phase next e h step ih =>
    rcases List.mem_append.mp hmem with hmem | hmem
    · exact ih hmem
    · obtain rfl := List.mem_singleton.mp hmem
      refine ⟨past ++ [.saved run], next, snoc h step, ?_⟩
      cases step with
      | saved h _ => exact h.run_eq

end Trace

end Pipeline

end RobotPipeline
