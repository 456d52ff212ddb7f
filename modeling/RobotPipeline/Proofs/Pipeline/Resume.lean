/-
  RobotPipeline/Proofs/Pipeline/Resume.lean
  =========================================
  **A resumed run does what is left to do, and nothing else.**

  At every phase of a drive, the stages launched so far and those that are
  still to be launched are, in this order, the stages that were incomplete at
  the start. So the launches are a prefix of them; the drive goes on exactly
  while its stages succeed; and it is through when nothing is left.
-/
import RobotPipeline.Proofs.Pipeline.Invocation

namespace RobotPipeline

/-! ### Launches in the journal -/

/-- The stages that were launched, in this order. -/
def launches : List Event → List String
  | [] => []
  | .launched l :: rest => l.stage :: launches rest
  | _ :: rest => launches rest

/-- The launches that came back, with what came back. -/
def answers : List Event → List (String × Except LaunchError Outcome)
  | [] => []
  | .returned stage result :: rest => (stage, result) :: answers rest
  | _ :: rest => answers rest

def succeeds : Except LaunchError Outcome → Bool
  | .ok o => o.isSuccess
  | .error _ => false

theorem launches_append (past future : List Event) :
    launches (past ++ future) = launches past ++ launches future := by
  induction past with
  | nil => rfl
  | cons e past ih => cases e <;> simp [launches, ih]

theorem answers_append (past future : List Event) :
    answers (past ++ future) = answers past ++ answers future := by
  induction past with
  | nil => rfl
  | cons e past ih => cases e <;> simp [answers, ih]

/-! ### What is left at a phase -/

namespace Phase

/-- The stages that are still to be launched. -/
def ahead : Phase → List String
  | ready run => run.incomplete
  | checked run _ _ => run.incomplete
  | unready run _ _ => run.incomplete
  | marked run _ _ => run.incomplete
  | launched run _ => run.incomplete.tail
  | returned run _ _ => run.incomplete.tail
  | lost run _ _ => run.incomplete.tail
  | failed run _ _ => run.incomplete.tail
  | unsaved before _ => before.ahead

/-- The stage whose command is out. -/
def out : Phase → List String
  | launched _ s => [s.name]
  | unsaved before _ => before.out
  | _ => []

/-- What the last command came back with, while the drive has not gone on from it. -/
def answer : Phase → List (Except LaunchError Outcome)
  | returned _ _ result => [result]
  | lost _ _ e => [.error e]
  | failed _ _ o => [.ok o]
  | unsaved before _ => before.answer
  | _ => []

theorem length_answer_le (phase : Phase) : phase.answer.length ≤ 1 := by
  induction phase with
  | unsaved before _ ih => exact ih
  | _ => simp [answer]

end Phase

namespace Pipeline

variable {σ : Type} {p : Pipeline} {env : Snapshot} {start phase next : Phase}
  {events : List Event}

/-- Where a drive stands, its own stage is the first of those that are incomplete. -/
theorem Standing.incomplete_eq {run : Run} {s : Stage} {before after : List StageRecord}
    {record : StageRecord} (h : p.Standing run s before record after) :
    run.incomplete = s.name :: (after.filter (fun r => !r.status.isComplete)).map (·.name) := by
  rw [Run.incomplete_of_stages_eq h.stages_eq h.complete, ← h.name_eq]
  simp [h.incomplete]

/-! ### The launches of a drive -/

/-- A commit launches nothing, and takes nothing off what is still to be launched. -/
theorem Commits.ahead_eq {run : Run} (h : Commits p env phase run next) (sound : phase.Sound p) :
    next.ahead = phase.ahead := by
  have stands := sound.stands
  cases h with
  | @unready run s failed _ =>
    obtain ⟨before, record, after, stand, -⟩ := stands
    exact (stand.setNote (unreadyNote failed)).incomplete_eq.trans stand.incomplete_eq.symm
  | @running run s now =>
    obtain ⟨before, record, after, stand, -⟩ := stands
    exact (stand.markRunning now).incomplete_eq.trans stand.incomplete_eq.symm
  | @succeeded run s o now ho =>
    obtain ⟨before, record, after, stand, -⟩ := stands
    have settled := Run.incomplete_of_stages_eq (stand.stages_applyOutcome now o) stand.complete
    change (run.applyOutcome now s.name o).incomplete = run.incomplete.tail
    rw [settled, stand.incomplete_eq]
    simp [StageRecord.settle, ho, Status.isComplete]
  | @failed run s o now ho =>
    obtain ⟨before, record, after, stand, -⟩ := stands
    change (run.applyOutcome now s.name o).incomplete.tail = run.incomplete.tail
    rw [(stand.applyOutcome now ho).incomplete_eq, stand.incomplete_eq]
  | @lost run s e now =>
    obtain ⟨before, record, after, stand, -⟩ := stands
    change (run.markFailed now s.name e.message e.processRan).incomplete.tail = run.incomplete.tail
    rw [(stand.markFailed now e.message e.processRan).incomplete_eq, stand.incomplete_eq]

theorem Step.launches_append_ahead {e : Event} (step : Step p env phase e next)
    (sound : phase.Sound p) : launches [e] ++ next.ahead = phase.ahead := by
  cases step with
  | checked _ _ _ => rfl
  | saved h _ => exact h.ahead_eq sound
  | refused _ _ => rfl
  | @launched run s l =>
    obtain ⟨hl, before, record, after, stand, -⟩ := sound.stands
    change l.stage :: run.incomplete.tail = run.incomplete
    rw [stand.incomplete_eq, hl, List.tail_cons]
  | returned _ => rfl

/-- The stages launched so far, and then those still to be launched, are the stages that were
incomplete at the start. -/
theorem Trace.launches_append_ahead (h : Trace p env start events phase) (sound : start.Sound p) :
    launches events ++ phase.ahead = start.ahead := by
  induction h with
  | nil => rfl
  | snoc past step ih =>
    rw [launches_append, List.append_assoc, step.launches_append_ahead (past.sound sound), ih]

/-- Every launch but the one that is out came back. -/
theorem Trace.launches_eq (h : Trace p env start events phase) (hstart : start.out = [])
    (sound : start.Sound p) :
    launches events = (answers events).map (·.1) ++ phase.out := by
  induction h with
  | nil => simp [launches, answers, hstart]
  | snoc past step ih =>
    rw [launches_append, answers_append, ih]
    cases step with
    | checked _ _ _ => simp [launches, answers, Phase.out]
    | saved h _ => cases h <;> simp [launches, answers, Phase.out]
    | refused h _ => simp [launches, answers, Phase.out]
    | @launched run s l =>
      have hl := (past.sound sound).stands.1
      simp [launches, answers, Phase.out, hl]
    | returned _ => simp [launches, answers, Phase.out]

/-- A commit goes on from what came back only if that was a success. -/
theorem Commits.answer_eq {run : Run} (h : Commits p env phase run next) :
    next.answer = phase.answer ∨
      ∃ result, succeeds result = true ∧ phase.answer = [result] ∧ next.answer = [] := by
  cases h with
  | unready _ => exact .inl rfl
  | running _ => exact .inl rfl
  | @succeeded _ _ o _ ho => exact .inr ⟨.ok o, ho, rfl, rfl⟩
  | failed _ _ => exact .inl rfl
  | lost _ => exact .inl rfl

/-- Every launch that the drive has gone on from has succeeded. -/
theorem Trace.answers_eq (h : Trace p env start events phase) (hstart : start.answer = []) :
    ∃ good, (answers events).map (·.2) = good ++ phase.answer ∧
      ∀ result ∈ good, succeeds result = true := by
  induction h with
  | nil => exact ⟨[], by simp [answers, hstart], by simp⟩
  | snoc past step ih =>
    obtain ⟨good, hgood, hsucceeds⟩ := ih
    rw [answers_append, List.map_append, hgood]
    cases step with
    | checked _ _ _ => exact ⟨good, by simp [answers, Phase.answer], hsucceeds⟩
    | saved h _ =>
      rcases h.answer_eq with hsame | ⟨result, hresult, hphase, hnext⟩
      · exact ⟨good, by simp [answers, hsame], hsucceeds⟩
      · refine ⟨good ++ [result], by simp [answers, hphase, hnext], ?_⟩
        intro r hr
        rcases List.mem_append.mp hr with hr | hr
        · exact hsucceeds r hr
        · rw [List.mem_singleton.mp hr]
          exact hresult
    | refused _ _ => exact ⟨good, by simp [answers, Phase.answer], hsucceeds⟩
    | launched => exact ⟨good, by simp [answers, Phase.answer], hsucceeds⟩
    | returned result => exact ⟨good, by simp [answers, Phase.answer], hsucceeds⟩

/-! ### What a drive leaves alone -/

/-- A commit leaves the record of a complete stage as it is. -/
theorem Commits.kept {run : Run} (h : Commits p env phase run next) (sound : phase.Sound p)
    {i : Nat} {r : StageRecord} (hr : phase.run.stages[i]? = some r)
    (complete : r.status.isComplete = true) : run.stages[i]? = some r := by
  obtain ⟨s, before, record, after, f, stand, -, stages_eq⟩ := h.exists_change sound.stands
  rw [← h.run_eq, stages_eq, stand.stages_change]
  rw [stand.stages_eq] at hr
  rcases Nat.lt_trichotomy i before.length with hi | rfl | hi
  · rw [List.getElem?_append_left hi] at hr ⊢
    exact hr
  · -- the record that is changed is not complete
    obtain rfl : record = r := by simpa using hr
    simp [stand.incomplete] at complete
  · obtain ⟨k, rfl⟩ := Nat.exists_eq_add_of_lt hi
    rw [List.getElem?_append_right (by omega)] at hr ⊢
    simpa [Nat.add_assoc, Nat.add_sub_cancel_left] using hr

theorem Trace.kept (h : Trace p env start events phase) (sound : start.Sound p) {i : Nat}
    {r : StageRecord} (hr : start.run.stages[i]? = some r) (complete : r.status.isComplete = true) :
    phase.run.stages[i]? = some r := by
  induction h with
  | nil => exact hr
  | snoc past step ih =>
    cases step with
    | checked _ _ _ => exact ih
    | saved h _ =>
      rw [h.run_eq]
      exact h.kept (past.sound sound) ih complete
    | refused _ _ => exact ih
    | launched => exact ih
    | returned _ => exact ih

/-! ### The end of a drive -/

/-- A drive that a refused commit has ended was refused by the system. -/
theorem Trace.exists_refused {before : Phase} {cause : LedgerError} {run : Run}
    (h : Trace p env (.ready run) events (.unsaved before cause))
    (sound : (Phase.ready run).Sound p) : ∃ e ∈ events, refusedBySystem e = true := by
  have inOrder := h.inOrder sound
  cases h with
  | snoc past step =>
    cases step with
    | saved h _ => cases h
    | @refused _ _ run' _ h why =>
      obtain ⟨e, rfl⟩ := inOrder (.refused run' cause) (by simp)
      exact ⟨.refused run' (.io e), by simp, rfl⟩

/-- What a drive does with the run that it starts with. -/
structure Resumption (p : Pipeline) (start : Run) (events : List Event)
    (result : Except Failure Run) : Prop where
  /-- It launches incomplete stages, in pipeline order, without leaving one out. -/
  launches_incomplete : launches events <+: start.incomplete
  /-- It launches nothing twice. -/
  nodup : (launches events).Nodup
  /-- It waits for each command to come back. -/
  answered : (answers events).map (·.1) = launches events
  /-- Only the last launch may fail. -/
  success : ∀ answer ∈ (answers events).dropLast, succeeds answer.2 = true
  /-- It gets through exactly when every incomplete stage was launched and has succeeded. -/
  ok_iff : (∃ run, result = .ok run) ↔
    launches events = start.incomplete ∧ ∀ answer ∈ answers events, succeeds answer.2 = true
  length_le : (launches events).length ≤ p.size
  /-- It leaves the records of complete stages alone. -/
  kept : ∀ run, .saved run ∈ events ∨ result = .ok run →
    ∀ (i : Nat) (r : StageRecord), start.stages[i]? = some r → r.status.isComplete = true →
      run.stages[i]? = some r

theorem Trace.ok_iff {run : Run} {result : Except Failure Run}
    (h : Trace p env (.ready run) events phase) (ends : Ends p phase result)
    (sound : (Phase.ready run).Sound p) (saves : ∀ e ∈ events, refusedBySystem e = false) :
    (∃ run, result = .ok run) ↔
      launches events = run.incomplete ∧ ∀ answer ∈ answers events, succeeds answer.2 = true := by
  have hahead : launches events ++ phase.ahead = run.incomplete := h.launches_append_ahead sound
  obtain ⟨good, hgood, hsucceeds⟩ := h.answers_eq rfl
  -- a drive that stops early leaves a stage ahead, or the last answer is no success
  have stopped : phase.ahead ≠ [] →
      ¬ (launches events = run.incomplete ∧ ∀ answer ∈ answers events, succeeds answer.2 = true) := by
    rintro hne ⟨hall, -⟩
    rw [← hall] at hahead
    exact hne (by simpa using hahead)
  have failed : ∀ result ∈ phase.answer, succeeds result = false →
      ¬ (launches events = run.incomplete ∧ ∀ answer ∈ answers events, succeeds answer.2 = true) := by
    rintro result hresult hfalse ⟨-, hall⟩
    have hmem : result ∈ (answers events).map (·.2) := by
      rw [hgood]
      exact List.mem_append_right good hresult
    obtain ⟨answer, hanswer, rfl⟩ := List.mem_map.mp hmem
    simp [hall answer hanswer] at hfalse
  have stands := (h.sound sound).stands
  cases ends with
  | @complete last hnone =>
    have hnil : last.incomplete = [] := Run.incomplete_eq_nil_iff.mpr hnone
    constructor
    · intro _
      constructor
      · rw [← hahead]
        simp [Phase.ahead, hnil]
      · intro answer hanswer
        apply hsucceeds answer.2
        have hmem := List.mem_map_of_mem (f := (·.2)) hanswer
        simpa [hgood, Phase.answer] using hmem
    · intro _
      exact ⟨last, rfl⟩
  | @cancelled last place s first hs =>
    refine iff_of_false (by simp) (stopped ?_)
    change last.incomplete ≠ []
    rw [Ne, Run.incomplete_eq_nil_iff, first]
    simp
  | unready =>
    obtain ⟨before, record, after, stand, -⟩ := stands
    refine iff_of_false (by simp) (stopped ?_)
    exact ne_of_eq_of_ne stand.incomplete_eq (by simp)
  | @lost last s e => exact iff_of_false (by simp) (failed (.error e) (by simp [Phase.answer]) rfl)
  | @failed last s o =>
    exact iff_of_false (by simp) (failed (.ok o) (by simp [Phase.answer]) stands.1)
  | unsaved =>
    obtain ⟨e, hmem, he⟩ := h.exists_refused sound
    simp [saves e hmem] at he

theorem Ends.out_eq {result : Except Failure Run} (h : Ends p phase result)
    (htrace : Trace p env (.ready run) events phase) : phase.out = [] := by
  cases h with
  | unsaved =>
    cases htrace with
    | snoc past step =>
      cases step with
      | saved h _ => cases h
      | refused h _ => cases h <;> rfl
  | _ => rfl

/-- The launches of a drive follow the pipeline. -/
theorem Trace.launches_sublist {run : Run} (h : Trace p env (.ready run) events phase)
    (sound : (Phase.ready run).Sound p) : (launches events).Sublist p.registry.names := by
  have hlaunches : launches events <+: run.incomplete :=
    ⟨phase.ahead, h.launches_append_ahead sound⟩
  rw [← sound.names_eq]
  exact hlaunches.sublist.trans run.incomplete_sublist

/-- The drive of a run, if no commit is refused by the system. -/
theorem Trace.resumption {run : Run} {result : Except Failure Run}
    (h : Trace p env (.ready run) events phase) (ends : Ends p phase result)
    (sound : (Phase.ready run).Sound p) (saves : ∀ e ∈ events, refusedBySystem e = false) :
    Resumption p run events result := by
  have hlaunches : launches events <+: run.incomplete :=
    ⟨phase.ahead, h.launches_append_ahead sound⟩
  have hsublist := h.launches_sublist sound
  obtain ⟨good, hgood, hsucceeds⟩ := h.answers_eq rfl
  constructor
  · exact hlaunches
  · exact hsublist.nodup p.registry.nodup_names
  · rw [h.launches_eq rfl sound, ends.out_eq h, List.append_nil]
  · intro answer hanswer
    apply hsucceeds answer.2
    have hmem := List.mem_map_of_mem (f := (·.2)) hanswer
    rw [List.map_dropLast, hgood] at hmem
    -- at most one answer is not among the good ones, and it is the last
    rcases hanswers : phase.answer with _ | ⟨last, more⟩
    · rw [hanswers, List.append_nil] at hmem
      exact List.dropLast_subset good hmem
    · have hlen := phase.length_answer_le
      obtain rfl : more = [] := by simpa [hanswers] using hlen
      simpa [hanswers] using hmem
  · exact h.ok_iff ends sound saves
  · simpa [Registry.names, size] using hsublist.length_le
  · intro run' hrun' i r hr complete
    rcases hrun' with hsaved | rfl
    · obtain ⟨earlier, middle, htrace, rfl⟩ := h.exists_of_saved hsaved
      exact htrace.kept sound hr complete
    · cases ends with
      | complete _ => exact h.kept sound hr complete

/-! ### The drive as a loop -/

/-- The loop that looks for the first incomplete stage again after every stage: from a run and a
world, it takes some rounds and then ends with a result and a world. -/
inductive Rounds (p : Pipeline) (executor : Executor σ) (env : Snapshot) :
    Nat → Run → World σ → Except Failure Run × World σ → Prop where
  | through {run : Run} {w : World σ} (h : run.firstIncomplete? = none) :
      Rounds p executor env 0 run w (.ok run, p.told (Progress.finished run) w)
  | stops {run : Run} {w w' : World σ} {place : Nat} {s : Stage} {e : Failure}
      (first : run.firstIncomplete? = some place) (hs : p.registry.stages[place]? = some s)
      (h : (p.runStage executor env place s run).perform w = (.error e, w')) :
      Rounds p executor env 1 run w (.error e, w')
  | goesOn {n : Nat} {run run' : Run} {w w' : World σ} {place : Nat} {s : Stage}
      {done : Except Failure Run × World σ}
      (first : run.firstIncomplete? = some place) (hs : p.registry.stages[place]? = some s)
      (h : (p.runStage executor env place s run).perform w = (.ok run', w'))
      (rest : Rounds p executor env n run' w' done) : Rounds p executor env (n + 1) run w done

/-- The loop ends in one way only. -/
theorem Rounds.unique {executor : Executor σ} {n m : Nat} {run : Run} {w : World σ}
    {done done' : Except Failure Run × World σ} (h : Rounds p executor env n run w done)
    (h' : Rounds p executor env m run w done') : n = m ∧ done = done' := by
  induction h generalizing m done' with
  | through hnone =>
    cases h' with
    | through _ => exact ⟨rfl, rfl⟩
    | stops first _ _ => simp [hnone] at first
    | goesOn first _ _ _ => simp [hnone] at first
  | stops first hs h =>
    cases h' with
    | through hnone => simp [hnone] at first
    | stops first' hs' h' =>
      obtain rfl := Option.some.inj (first.symm.trans first')
      obtain rfl := Option.some.inj (hs.symm.trans hs')
      exact ⟨rfl, h.symm.trans h'⟩
    | goesOn first' hs' h' _ =>
      obtain rfl := Option.some.inj (first.symm.trans first')
      obtain rfl := Option.some.inj (hs.symm.trans hs')
      simp [h] at h'
  | goesOn first hs h _ ih =>
    cases h' with
    | through hnone => simp [hnone] at first
    | stops first' hs' h' =>
      obtain rfl := Option.some.inj (first.symm.trans first')
      obtain rfl := Option.some.inj (hs.symm.trans hs')
      simp [h] at h'
    | goesOn first' hs' h' rest =>
      obtain rfl := Option.some.inj (first.symm.trans first')
      obtain rfl := Option.some.inj (hs.symm.trans hs')
      obtain ⟨hrun, rfl⟩ := Prod.mk.inj (h.symm.trans h')
      obtain rfl := Except.ok.inj hrun
      obtain ⟨rfl, rfl⟩ := ih rest
      exact ⟨rfl, rfl⟩

theorem rounds_driveFrom (p : Pipeline) (executor : Executor σ) (env : Snapshot) {place : Nat}
    {stages : List Stage} {run : Run} (hstages : p.registry.stages.drop place = stages)
    (hn : run.names = p.registry.names)
    (hdone : ∀ r ∈ run.stages.take place, r.status.isComplete = true) (w : World σ) :
    ∃ n ≤ stages.length,
      Rounds p executor env n run w ((p.driveFrom executor env place stages run).perform w) := by
  induction stages generalizing place run w with
  | nil =>
    refine ⟨0, Nat.le_refl 0, ?_⟩
    unfold driveFrom
    rw [Action.perform_bind, perform_tell]
    exact .through (complete_of_drop_eq_nil hstages hn hdone)
  | cons s rest ih =>
    obtain ⟨hs, hrest⟩ := of_drop_eq_cons hstages
    unfold driveFrom
    split
    · rename_i first
      obtain ⟨before, record, after, stand⟩ := exists_standing hn first hs
      obtain rfl : before.length = place := by simpa [stand.firstIncomplete?] using first
      obtain ⟨_, _, -, -, hdone'⟩ := follows_runStage p executor env first hs w
      rw [Action.perform_bind]
      cases hp : (p.runStage executor env before.length s run).perform w with
      | mk result w' =>
        cases result with
        | error e => exact ⟨1, by simp, .stops first hs hp⟩
        | ok run' =>
          have passed : Passed s run run' := by
            rw [hp] at hdone'
            exact hdone'.2
          obtain ⟨n, hle, rounds⟩ := ih hrest (passed.names.trans hn) (passed.complete stand) w'
          exact ⟨n + 1, by simpa using hle, .goesOn first hs hp rounds⟩
    · rename_i first
      obtain ⟨n, hle, rounds⟩ := ih hrest hn (Run.complete_take_succ hdone first) w
      exact ⟨n, by simp; omega, rounds⟩

/-- A drive is the loop, and takes at most one round for each stage of the pipeline. -/
theorem drive_rounds (p : Pipeline) (executor : Executor σ) (env : Snapshot) {run : Run}
    (hn : run.names = p.registry.names) (w : World σ) :
    ∃ n ≤ p.size, Rounds p executor env n run w ((p.drive executor env run).perform w) :=
  rounds_driveFrom p executor env List.drop_zero hn (by simp) w

/-! ### Resuming -/

/-- An invocation that is accepted, and of which the system refuses no commit, opens a run, commits
it, and does with it what a resumption does, in no more rounds than there are stages. -/
theorem resumption_of_accepted (p : Pipeline) (executor : Executor σ) (d : Drive) (w : World σ)
    (accepted : d.Accepted p w.files)
    (saves : ∀ e ∈ ((d.act p executor).perform w).2.since w, refusedBySystem e = false) :
    ∃ env start opened, (d.opening p).perform w = (.ok (env, start), opened) ∧
      p.Opened w.files env start ∧ opened.journal = .saved start :: w.journal ∧
      (∃ n ≤ p.size, Rounds p executor env n start opened ((d.act p executor).perform w)) ∧
      Resumption p start (((d.act p executor).perform w).2.since opened)
        ((d.act p executor).perform w).1 := by
  obtain ⟨env, henv, haccepts⟩ := accepted
  have hopens := opens_opening (p := p) d w
  rw [henv] at hopens
  dsimp only at hopens
  have hact := Action.perform_bind (d.opening p)
    (fun opened => p.drive executor opened.1 opened.2) w
  rw [← d.act_eq p executor] at hact
  generalize (d.opening p).perform w = opened at hopens hact
  cases hopens with
  | rejected hnot hj => exact absurd haccepts hnot
  | @refused run cause w' hopened why hj =>
    obtain ⟨e, rfl⟩ := why.system_of_ordered hopened.atRest.ordered
    have hsince : w'.since w = [.refused run (.io e)] := World.since_eq hj
    simpa [refusedBySystem] using saves (.refused run (.io e)) (by simp [hact, hsince])
  | @opened start w' hopened hj =>
    have hn := hopened.atRest.names_eq
    obtain ⟨events, phase, hjournal, htrace, hends⟩ := drive_trace p executor env hn w'
    have rounds := drive_rounds p executor env hn w'
    dsimp only at hact
    rw [hact] at saves ⊢
    have hsince := World.since_eq hjournal
    have hall : ((p.drive executor env start).perform w').2.journal =
        (.saved start :: events).reverse ++ w.journal := by
      rw [hjournal, hj, List.reverse_cons, List.append_assoc]
      rfl
    rw [World.since_eq hall] at saves
    refine ⟨env, start, w', rfl, hopened, hj, rounds, ?_⟩
    rw [hsince]
    exact htrace.resumption hends hopened.atRest.sound fun e he => saves e (by simp [he])

/-- The first of two stages succeeds, the second does not. -/
theorem resumption_of_sample :
    ∃ start events result, launches events = ["record", "train"] ∧
      Resumption Sample.pipeline start events result := by
  have accepted : (Drive.execute [] (.usual "cubes")).Accepted Sample.pipeline Sample.world.files :=
    ⟨_, rfl, rfl, .inr ⟨"cubes", by decide +kernel⟩⟩
  obtain ⟨env, start, opened, -, -, hj, -, h⟩ :=
    resumption_of_accepted Sample.pipeline (Sample.executor "train")
      (.execute [] (.usual "cubes")) Sample.world accepted (by decide +kernel)
  refine ⟨start, _, _, ?_, h⟩
  have hopened : opened.journal = [.saved start] := by simpa [Sample.world] using hj
  rw [World.since, hopened, List.length_singleton]
  decide +kernel

end Pipeline

end RobotPipeline
