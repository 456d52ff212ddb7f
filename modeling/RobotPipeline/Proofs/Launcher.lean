/-
  RobotPipeline/Proofs/Launcher.lean
  ==================================
  **A launch that comes back, step by step.**

  The log is begun, a process is started on the files with this log and with
  the limits of the launch, and what it printed is relayed to the files that it
  left. The outcome tells how the process ended (`of_run`).
-/
import RobotPipeline.Launcher
import RobotPipeline.Proofs.Pipeline.Perform

namespace RobotPipeline.Launcher

open RobotPipeline.Action

theorem perform_changeFiles {σ : Type} (change : FileTree → Except IoError FileTree) (w : World σ) :
    (changeFiles change : Action σ LaunchError Unit).perform w =
      match change w.files with
      | .ok files => (.ok (), { w with files := files })
      | .error cause => (.error (.io cause), w) := rfl

variable {r : Launcher} {l : Launch}

theorem machine_of_start {s : Start} {course : Course} (h : r.start l s = .ok course) :
    r.machine s = .ok course := by
  unfold start at h
  split at h
  · split at h
    · obtain rfl := Except.ok.inj h
      assumption
    · cases h
  · cases h

/-- The files after a process, with what it printed in the log. -/
def relayed (l : Launch) (course : Course) : FileTree :=
  match l.interactive, l.logPath with
  | false, some path => addToLog course.files path (Relay.lines [] [] course.arrivals)
  | _, _ => course.files

theorem files_relay {σ : Type} (r : Launcher) (l : Launch) (course : Course) (w : World σ) :
    (r.relay l course w).files = relayed l course := by
  unfold relay relayed
  cases l.interactive <;> cases l.logPath <;> cases r.quiet <;> rfl

/-- What a process is started with in a world. -/
structure StartedIn (w : World (Option Span)) (l : Launch) (s : Start) : Prop where
  arguments : s.program :: s.arguments = l.arguments
  timeLimit : s.timeLimit = l.timeLimit
  cancelAfter : s.cancelAfter = if w.wantsEnd then some Span.zero else w.tool
  begun : beginLog w.files l (w.clock w.readings) = .ok s.files

/-- What a launch has done that came back. -/
theorem of_run {w : World (Option Span)} {outcome : Outcome}
    (h : ((r.run l).perform w).1 = .ok outcome) :
    ∃ s course, StartedIn w l s ∧ r.machine s = .ok course ∧
      ((r.run l).perform w).2.files = relayed l course ∧
      (outcome.timedOut = true → course.ending = .timedOut) ∧
      (outcome.cancelled = true → course.ending = .cancelled) := by
  unfold run at h ⊢
  cases harguments : l.arguments with
  | nil => simp [harguments] at h
  | cons program arguments =>
    simp only [harguments, perform_bind, perform_now, perform_get, perform_changeFiles] at h ⊢
    cases hbegun : beginLog w.files l (w.clock w.readings) with
    | error cause => simp [hbegun] at h
    | ok files =>
      simp only [hbegun] at h ⊢
      cases hinput : r.operatorAnswers files l with
      | error cause => simp [hinput] at h
      | ok input =>
        simp only [hinput, perform_bind, perform_now, perform_ofExcept] at h ⊢
        generalize hs : Start.mk program arguments _ _ _ _ _ _ = s at h ⊢
        cases hstart : r.start l s with
        | error e => simp [hstart] at h
        | ok course =>
          simp only [hstart, perform_modify] at h ⊢
          have started : StartedIn w l s := by
            subst hs
            exact ⟨harguments.symm, rfl, rfl, hbegun⟩
          refine ⟨s, course, started, machine_of_start hstart, ?_⟩
          cases hcode : exitCode? course.ending with
          | error cause => simp [hcode] at h
          | ok code =>
            simp only [hcode, perform_bind, perform_now, perform_pure, Except.ok.injEq] at h ⊢
            subst h
            exact ⟨files_relay r l course _, of_decide_eq_true, of_decide_eq_true⟩

end RobotPipeline.Launcher
