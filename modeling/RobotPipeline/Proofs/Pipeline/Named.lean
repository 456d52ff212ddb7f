/-
  RobotPipeline/Proofs/Pipeline/Named.lean
  ========================================
  **A failure names the stage that has stopped the invocation.**

  Which stage that is can be told from the latest entries in the journal
  (`culprit?`): its checks do not hold, its command has come back without a
  success, or it is the next one when the operator wants the end. A drive that
  fails has come to one of these exits, or a commit was refused.

  The failure of each exit carries the name of the stage and has it in its
  message. The exception is a launch that fails for a file that the system
  refuses: nothing but the cause is passed on then.
-/
import RobotPipeline.Proofs.Launcher
import RobotPipeline.Proofs.Pipeline.Report

namespace RobotPipeline

/-! ### Texts that mention a name -/

/-- A text has a name in it. -/
def Mentions (text name : String) : Prop := name.toList <:+: text.toList

instance (text name : String) : Decidable (Mentions text name) :=
  inferInstanceAs (Decidable (name.toList <:+: text.toList))

section Mentions

variable {text name : String}

theorem mentions_self (name : String) : Mentions name name := List.infix_rfl

theorem Mentions.append (h : Mentions text name) (after : String) : Mentions (text ++ after) name := by
  unfold Mentions
  rw [String.toList_append]
  exact h.trans (List.prefix_append _ _).isInfix

theorem Mentions.prepend (h : Mentions text name) (before : String) :
    Mentions (before ++ text) name := by
  unfold Mentions
  rw [String.toList_append]
  exact h.trans (List.suffix_append _ _).isInfix

end Mentions

/-- The stage that the error of a launch carries. -/
def LaunchError.stage? : LaunchError → Option String
  | .emptyCommand stage => some stage
  | .notStarted stage _ _ => some stage
  | .lost stage _ => some stage
  | .io _ => none

theorem LaunchError.mentions_message {e : LaunchError} {stage : String} (h : e.stage? = some stage) :
    Mentions e.message stage := by
  cases e with
  | emptyCommand name =>
    obtain rfl := Option.some.inj h
    exact ((mentions_self name).prepend _).append _
  | notStarted name program cause =>
    obtain rfl := Option.some.inj h
    exact (((mentions_self name).prepend _).append _).append _
  | lost name cause =>
    obtain rfl := Option.some.inj h
    exact (((mentions_self name).prepend _).append _).append _
  | io cause => cases h

/-- The message of a failure mentions the stage that the failure carries. -/
theorem Failure.mentions_message {e : Failure} {stage : String} (h : e.stage? = some stage) :
    Mentions e.message stage := by
  cases e with
  | notReady name failed =>
    obtain rfl := Option.some.inj h
    exact (((mentions_self name).prepend _).append _).append _
  | stageFailed name code timedOut =>
    obtain rfl := Option.some.inj h
    cases timedOut with
    | true => exact ((((mentions_self name).prepend _).append _).append _).append _
    | false => exact (((mentions_self name).prepend _).append _).append _
  | cancelled name =>
    obtain rfl := Option.some.inj h
    exact ((mentions_self name).prepend _).append _
  | blocked name blocking status =>
    obtain rfl := Option.some.inj h
    exact (((((mentions_self name).prepend _).append _).append _).append _).append _ |>.append _
  | notSkippable name =>
    obtain rfl := Option.some.inj h
    exact ((mentions_self name).prepend _).append _
  | invalidSkip name status =>
    obtain rfl := Option.some.inj h
    exact (((mentions_self name).prepend _).append _).append _
  | needsForce name =>
    obtain rfl := Option.some.inj h
    exact ((mentions_self name).prepend _).append _
  | _ => cases h

/-! ### What the launcher says -/

namespace Launcher

open RobotPipeline.Action

theorem stage?_of_start {r : Launcher} {l : Launch} {s : Start} {e : LaunchError}
    (h : r.start l s = .error e) : e.stage? = some l.stage := by
  unfold start at h
  split at h
  · split at h
    · cases h
    · obtain rfl := Except.error.inj h
      rfl
  · obtain rfl := Except.error.inj h
    rfl

/-- The launcher names the stage, unless a file of the launch is refused. -/
theorem stage?_of_run {r : Launcher} {l : Launch} {w : World (Option Span)}
    {e : LaunchError} (h : ((r.run l).perform w).1 = .error e) :
    e.stage? = some l.stage ∨ ∃ cause, e = .io cause := by
  unfold run at h
  split at h
  · simp only [perform_throw, Except.error.injEq] at h
    exact .inl (by rw [← h]; rfl)
  · simp only [perform_bind, perform_now, perform_get, perform_changeFiles] at h
    generalize beginLog _ _ _ = begun at h
    cases begun with
    | error cause => exact .inr ⟨cause, by simpa using h.symm⟩
    | ok files =>
      dsimp only at h
      generalize r.operatorAnswers _ l = answers at h
      cases answers with
      | error cause => exact .inr ⟨cause, by simpa using h.symm⟩
      | ok input =>
        simp only [perform_bind, perform_now, perform_ofExcept] at h
        generalize hstart : r.start l _ = started at h
        cases started with
        | error e' =>
          obtain rfl : e' = e := by simpa using h
          exact .inl (stage?_of_start hstart)
        | ok course =>
          simp only [perform_modify] at h
          generalize exitCode? course.ending = code at h
          cases code with
          | error cause =>
            obtain rfl : LaunchError.lost l.stage cause = e := by simpa using h
            exact .inl rfl
          | ok code => cases h

end Launcher

namespace Pipeline

variable {σ : Type} {p : Pipeline} {env : Snapshot} {phase : Phase} {start run : Run} {s : Stage}
  {past : List Event} {e : Failure}

/-! ### The stage that has stopped an invocation -/

/-- The stage that has stopped an invocation, by its entries, the latest first: checks of it do not
hold, its command has come back without a success, or it is next. -/
def culprit? : List Event → Option String
  | .saved _ :: .checked stage _ _ (_ :: _) :: _ => some stage
  | .saved _ :: .returned stage (.error _) :: _ => some stage
  | .saved run :: .returned stage (.ok o) :: _ =>
    if o.isSuccess then run.next?.map (·.name) else some stage
  | .saved run :: _ => run.next?.map (·.name)
  | _ => none

theorem Trace.exists_checked {failed : List String}
    (h : Trace p env (.ready start) past (.checked run s failed)) :
    ∃ sofar files, past = sofar ++ [.checked s.name env files failed] := by
  cases h with
  | snoc h step =>
    cases step with
    | checked files _ _ => exact ⟨_, files, rfl⟩
    | saved hc _ => cases hc

theorem Trace.exists_returned {result : Except LaunchError Outcome}
    (h : Trace p env (.ready start) past (.returned run s result)) :
    ∃ sofar, past = sofar ++ [.returned s.name result] := by
  cases h with
  | snoc h step =>
    cases step with
    | returned => exact ⟨_, rfl⟩
    | saved hc _ => cases hc

/-- When a drive looks for the next stage, that stage is to blame. -/
theorem Trace.culprit?_eq (h : Trace p env (.ready start) past (.ready run)) :
    culprit? (.saved start :: past).reverse = run.next?.map (·.name) := by
  cases h with
  | nil => rfl
  | snoc h step =>
    cases step with
    | saved hc _ =>
      cases hc with
      | succeeded now ho =>
        obtain ⟨sofar, rfl⟩ := h.exists_returned
        simp [culprit?, ho]

/-- A drive that fails has come to a stage, whose name the failure carries if it is not that of a
launch; or the system has refused a commit. -/
theorem Ends.blames (ends : Ends p phase (.error e)) (h : Trace p env (.ready start) past phase)
    (sound : (Phase.ready start).Sound p) :
    (∃ stage ∈ p.registry.names, culprit? (.saved start :: past).reverse = some stage ∧
      (e.stage? = some stage ∨ ∃ cause, e = .launch cause)) ∨
    ∃ sofar run cause, .saved start :: past = sofar ++ [.refused run (.io cause)] := by
  have sound' := h.sound sound
  cases ends with
  | @cancelled run place s first hs =>
    obtain ⟨before, record, after, stand⟩ := exists_standing sound'.names_eq first hs
    refine .inl ⟨s.name, stand.mem_names, ?_, .inl rfl⟩
    rw [h.culprit?_eq, ← stand.name_eq]
    exact congrArg (Option.map (·.name)) stand.next?_eq
  | @unready run s failed =>
    obtain ⟨before, record, after, stand, -⟩ := sound'.stands
    refine .inl ⟨s.name, stand.mem_names, ?_, .inl rfl⟩
    cases h with
    | snoc h step =>
      cases step with
      | saved hc _ =>
        cases hc with
        | unready unmet =>
          obtain ⟨sofar, files, rfl⟩ := h.exists_checked
          obtain ⟨name, rest, rfl⟩ := List.exists_cons_of_ne_nil unmet
          simp [culprit?]
  | @lost run s cause =>
    obtain ⟨before, record, after, stand, -⟩ := sound'.stands
    refine .inl ⟨s.name, stand.mem_names, ?_, .inr ⟨cause, rfl⟩⟩
    cases h with
    | snoc h step =>
      cases step with
      | saved hc _ =>
        cases hc with
        | lost now =>
          obtain ⟨sofar, rfl⟩ := h.exists_returned
          simp [culprit?]
  | @failed run s o =>
    obtain ⟨unsuccessful, before, record, after, stand, -⟩ := sound'.stands
    refine .inl ⟨s.name, stand.mem_names, ?_, .inl ?_⟩
    · cases h with
      | snoc h step =>
        cases step with
        | saved hc _ =>
          cases hc with
          | failed now ho =>
            obtain ⟨sofar, rfl⟩ := h.exists_returned
            simp [culprit?, ho]
    · unfold failureOf
      split <;> rfl
  | @unsaved before cause =>
    have inOrder := h.inOrder sound
    cases h with
    | @snoc sofar _ _ _ h step =>
      cases step with
      | saved hc _ => cases hc
      | @refused _ _ run _ hc _ =>
        obtain ⟨io, rfl⟩ := inOrder (.refused run cause) (by simp)
        exact .inr ⟨.saved start :: sofar, run, io, rfl⟩

/-- The failure of an invocation mentions the stage that has stopped it, unless it is that of a
launch which does not carry the stage. From the moment on at which the run was opened there is such
a stage, or the system has refused a commit. -/
theorem mentions_of_failed (p : Pipeline) (executor : Executor σ) (d : Drive) (w : World σ)
    (failed : ((d.act p executor).perform w).1 = .error e) :
    (∀ stage, culprit? (((d.act p executor).perform w).2.since w).reverse = some stage →
      (∀ cause, e = .launch cause → cause.stage? = some stage) → Mentions e.message stage) ∧
    ∀ start rest, ((d.act p executor).perform w).2.since w = .saved start :: rest →
      (∃ stage ∈ p.registry.names,
        culprit? (((d.act p executor).perform w).2.since w).reverse = some stage) ∨
      ∃ sofar run cause,
        ((d.act p executor).perform w).2.since w = sofar ++ [.refused run (.io cause)] := by
  have story := (Drive.story p executor d w).2
  rw [failed] at story
  generalize ((d.act p executor).perform w).2.since w = events at story ⊢
  cases story with
  | rejected _ => simp [culprit?]
  | refused _ _ _ => simp [culprit?]
  | driven henv opened trace ends =>
    rcases ends.blames trace opened.atRest.sound with ⟨stage, hstage, culprit, carried⟩ | refused
    · refine ⟨?_, fun _ _ _ => .inl ⟨stage, hstage, culprit⟩⟩
      intro stage' culprit' told
      obtain rfl := Option.some.inj (culprit.symm.trans culprit')
      rcases carried with carried | ⟨cause, rfl⟩
      · exact Failure.mentions_message carried
      · exact (LaunchError.mentions_message (told cause rfl)).prepend _
    · refine ⟨?_, fun _ _ _ => .inr refused⟩
      obtain ⟨sofar, run, cause, hevents⟩ := refused
      simp [hevents, culprit?]

/-- The second stage of a pipeline fails, and is named. -/
theorem mentions_of_sample :
    ∃ e, (((Drive.execute [] (.usual "cubes")).act Sample.pipeline
        (Sample.executor "train")).perform Sample.world).1 = .error e ∧
      Mentions e.message "train" := by
  have failed : (((Drive.execute [] (.usual "cubes")).act Sample.pipeline
      (Sample.executor "train")).perform Sample.world).1 = .error (.stageFailed "train" 1 false) := by
    decide +kernel
  have culprit : culprit? ((((Drive.execute [] (.usual "cubes")).act Sample.pipeline
      (Sample.executor "train")).perform Sample.world).2.since Sample.world).reverse =
        some "train" := by
    decide +kernel
  exact ⟨_, failed, (mentions_of_failed _ _ _ _ failed).1 _ culprit (by simp)⟩

namespace Sample

/-- A launcher on a machine that starts nothing. -/
def launcher : Launcher where
  machine := fun _ => .error .notFound
  grace := Span.zero

/-- A file is in the place of the directory of logs. -/
def logless : World (Option Span) where
  files := {
    entries := [(["state"], .directory),
      (["state", "logs"], .file (.text "") FileTree.privateMode)]
    here := [] }
  clock := fun _ => noon
  tool := none

end Sample

/-- A stage whose log cannot be made stops the invocation, and is not named. -/
theorem not_mentioned :
    ∃ e, (((Drive.execute [] (.usual "cubes")).act Sample.pipeline
        Sample.launcher.run).perform Sample.logless).1 = .error e ∧
      culprit? ((((Drive.execute [] (.usual "cubes")).act Sample.pipeline
        Sample.launcher.run).perform Sample.logless).2.since Sample.logless).reverse =
          some "record" ∧
      ¬ Mentions e.message "record" := by
  refine ⟨.launch (.io .notADirectory), ?_, ?_, ?_⟩
  · decide +kernel
  · decide +kernel
  · decide +kernel

end Pipeline

end RobotPipeline
