/-
  RobotPipeline/Proofs/Pipeline/Session.lean
  ==========================================
  **Invocations one after another.**

  A session is a list of turns. In each turn one request is answered, with an
  executor of its own; before it, the world may have changed in any way: time
  has passed, files came and went, the program was stopped.

  The run of a skip and the run of an opening are at rest and in order, and a
  drive keeps its run in order. So the check that every commit makes never
  fails, however the turns follow one another.
-/
import RobotPipeline.Proofs.Pipeline.Invocation

namespace RobotPipeline

namespace Pipeline

variable {σ : Type}

/-! ### Requests -/

/-- What may be asked of a pipeline. -/
inductive Request where
  | drive (d : Drive)
  | skip (dataset stage : String)
  | restart (dataset : String)
  | status (dataset : String)

def Request.answer (p : Pipeline) (executor : Executor σ) (w : World σ) : Request → World σ
  | drive d => ((d.act p executor).perform w).2
  | skip dataset stage => ((p.skip dataset stage).perform w).2
  | restart dataset => ((p.restart dataset).perform w).2
  | status dataset => ((p.status dataset).perform w).2

/-- What a skip may do, seen from the files that it finds: its entries in the journal. -/
inductive SkipStory (p : Pipeline) (dataset stage : String) (tree : FileTree) :
    List Event → Prop where
  /-- It is not accepted, and does nothing. -/
  | rejected : SkipStory p dataset stage tree []
  /-- The run with the stage skipped is not committed. -/
  | refused {run : Run} {status : Status} {cause : LedgerError} (made now : Instant)
      (hrun : p.runToSkip made tree dataset = .ok run) (hs : run.status? stage = some status)
      (hstatus : status = .failed ∨ status = .pending)
      (why : Refusal (run.markSkipped now stage skippedNote) cause) :
      SkipStory p dataset stage tree [.refused (run.markSkipped now stage skippedNote) cause]
  /-- The run with the stage skipped is committed. -/
  | skipped {run : Run} {status : Status} (made now : Instant)
      (hrun : p.runToSkip made tree dataset = .ok run) (hs : run.status? stage = some status)
      (hstatus : status = .failed ∨ status = .pending) :
      SkipStory p dataset stage tree [.saved (run.markSkipped now stage skippedNote)]

theorem skip_story (p : Pipeline) (dataset stage : String) (w : World σ) :
    ∃ events, ((p.skip dataset stage).perform w).2.journal = events.reverse ++ w.journal ∧
      SkipStory p dataset stage w.files events := by
  unfold skip
  cases p.registry.stage? stage with
  | none => exact ⟨[], rfl, .rejected⟩
  | some s =>
    dsimp only
    cases s.skippable with
    | false => exact ⟨[], rfl, .rejected⟩
    | true =>
      simp only [Bool.not_true, Bool.false_eq_true, if_false, Action.perform_bind,
        Action.perform_now, Action.perform_get, Action.perform_ofExcept]
      cases hrun : p.runToSkip (w.clock w.readings) w.files dataset with
      | error e => exact ⟨[], rfl, .rejected⟩
      | ok run =>
        dsimp only
        cases hs : run.status? stage with
        | none => exact ⟨[], rfl, .rejected⟩
        | some status =>
          dsimp only
          split
          · rename_i hstatus
            simp only [Action.perform_bind, Action.perform_now, Action.perform_save]
            generalize hc : Action.commit p.ledger _ _ = committed
            cases committed with
            | ok files => exact ⟨[_], rfl, .skipped _ _ hrun hs hstatus⟩
            | error cause =>
              exact ⟨[_], rfl, .refused _ _ hrun hs hstatus (refusal_of_commit_eq_error hc)⟩
          · exact ⟨[], rfl, .rejected⟩

theorem journal_restart (p : Pipeline) (dataset : String) (w : World σ) :
    ((p.restart dataset).perform w).2.journal = w.journal := by
  unfold restart
  simp only [Action.perform_bind, Action.perform_now, Action.perform_get]
  cases p.ledger.archive w.files (w.clock w.readings) dataset with
  | error e => rfl
  | ok archived => rfl

/-- What the answer to a request may do, seen from the files that it finds: its entries in the
journal. -/
inductive Request.Story (p : Pipeline) (tree : FileTree) : Request → List Event → Prop where
  | drive {d : Drive} {events : List Event} {result : Except Failure Run}
      (h : p.Story d tree events result) : Story p tree (.drive d) events
  | skip {dataset stage : String} {events : List Event}
      (h : p.SkipStory dataset stage tree events) : Story p tree (.skip dataset stage) events
  | restart {dataset : String} : Story p tree (.restart dataset) []
  | status {dataset : String} : Story p tree (.status dataset) []

theorem Request.story (p : Pipeline) (executor : Executor σ) (r : Request) (w : World σ) :
    Story p w.files r ((r.answer p executor w).since w) := by
  cases r with
  | drive d => exact .drive (d.story p executor w).2
  | skip dataset stage =>
    obtain ⟨events, hjournal, h⟩ := p.skip_story dataset stage w
    rw [answer, World.since_eq hjournal]
    exact .skip h
  | restart dataset =>
    rw [answer, World.since_eq_nil (p.journal_restart dataset w)]
    exact .restart
  | status dataset =>
    have quiet : ((p.status dataset).perform w).2.journal = w.journal := rfl
    rw [answer, World.since_eq_nil quiet]
    exact .status

/-! ### Commits in order -/

theorem atRest_runToSkip {p : Pipeline} {now : Instant} {tree : FileTree} {dataset : String}
    {run : Run} (h : p.runToSkip now tree dataset = .ok run) : p.AtRest dataset run := by
  unfold runToSkip at h
  split at h
  · rename_i hload
    cases h
    exact atRest_of_load hload
  · cases hv : validate (.usual dataset) with
    | error e => simp [hv, Except.map] at h
    | ok _ =>
      obtain rfl : Run.forRegistry now p.registry (.usual dataset) = run := by
        simpa [hv, Except.map] using h
      exact atRest_forRegistry p now (.usual dataset)
  · cases h

/-- Whatever is asked, and whatever the files are like. -/
theorem Request.Story.inOrder {p : Pipeline} {tree : FileTree} {r : Request} {events : List Event}
    (h : Story p tree r events) : ∀ e ∈ events, InOrder e := by
  cases h with
  | restart => simp
  | status => simp
  | skip h =>
    cases h with
    | rejected => simp
    | refused made now hrun hs hstatus why =>
      intro e he
      rw [List.mem_singleton.mp he]
      exact why.system_of_ordered ((atRest_runToSkip hrun).ordered.markSkipped now _ _)
    | skipped made now hrun hs hstatus =>
      intro e he
      rw [List.mem_singleton.mp he]
      exact (atRest_runToSkip hrun).ordered.markSkipped now _ _
  | drive h =>
    cases h with
    | rejected h => simp
    | refused henv h why =>
      intro e he
      rw [List.mem_singleton.mp he]
      exact why.system_of_ordered h.atRest.ordered
    | driven henv h trace ends =>
      intro e he
      rcases List.mem_cons.mp he with rfl | he
      · exact h.atRest.ordered
      · exact trace.inOrder h.atRest.sound e he

/-! ### Sessions -/

/-- One turn of a session. -/
structure Turn (σ : Type) where
  request : Request
  executor : Executor σ
  /-- What happens to the world before the request. -/
  before : World σ → World σ

/-- The entries that the turns of a session make in the journal. -/
def session (p : Pipeline) : List (Turn σ) → World σ → List Event
  | [], _ => []
  | turn :: turns, w =>
    let found := turn.before w
    let left := turn.request.answer p turn.executor found
    left.since found ++ session p turns left

/-- In no session is a commit refused because a stage has got ahead of an incomplete one, and after
every commit no stage that has succeeded or is running comes after one that is neither succeeded
nor skipped. -/
theorem session_commits_in_order (p : Pipeline) (turns : List (Turn σ)) (w : World σ) :
    (∀ run violation, .refused run (.stageOrder violation) ∉ p.session turns w) ∧
      ∀ run, .saved run ∈ p.session turns w → run.Ordered := by
  have inOrder : ∀ e ∈ p.session turns w, InOrder e := by
    induction turns generalizing w with
    | nil => simp [session]
    | cons turn turns ih =>
      intro e he
      rcases List.mem_append.mp he with he | he
      · exact (turn.request.story p turn.executor (turn.before w)).inOrder e he
      · exact ih _ e he
  constructor
  · intro run violation hmem
    obtain ⟨e, he⟩ := inOrder _ hmem
    cases he
  · intro run hmem
    exact inOrder _ hmem

end Pipeline

end RobotPipeline
