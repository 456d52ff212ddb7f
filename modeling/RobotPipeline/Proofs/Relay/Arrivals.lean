/-
  RobotPipeline/Proofs/Relay/Arrivals.lean
  ========================================
  **The lines that arrivals make are those that readers and writer leave.**

  An order of arrivals stands for all orders of steps in which the lines are
  sent in the same order. Each step of a reader is an arrival
  (`exists_arrivals`), and arrivals are steps of the readers (`exists_steps`),
  so that both come to the same logs.
-/
import RobotPipeline.Proofs.Relay.Tasks

namespace RobotPipeline.Relay

open Launcher (logText)
open Text (Bytes newline lineOfSegment)

/-! ### Arrivals -/

/-- A stream comes to its end, and nothing comes in on it after that. -/
def ends (s : Stream) : List Arrival → Bool
  | [] => false
  | .bytes _ _ :: rest => ends s rest
  | .ended s' :: rest => if s' = s then (bytesOf s rest).isEmpty else ends s rest

def streamOf : Arrival → Stream
  | .bytes s _ => s
  | .ended s => s

/-- The lines that arrivals make, with what is open on each stream. -/
def linesFrom (open_ : Stream → Bytes) (arrivals : List Arrival) : List (Stream × String) :=
  lines (open_ .out) (open_ .err) arrivals

variable {open_ : Stream → Bytes} {s : Stream} {bytes : Bytes} {arrivals rest : List Arrival}

theorem linesFrom_bytes : linesFrom open_ (.bytes s bytes :: rest) =
    linesOf s (feed (open_ s) bytes).1 ++
      linesFrom (Function.update open_ s (feed (open_ s) bytes).2) rest := by
  cases s <;> simp [linesFrom, lines]

theorem linesFrom_ended : linesFrom open_ (.ended s :: rest) =
    lastLine s (open_ s) ++ linesFrom (Function.update open_ s []) rest := by
  cases s <;> simp [linesFrom, lines]

/-- What a reader holds, in reverse. -/
def Reader.held : Reader → Bytes
  | .reading held _ => held.reverse
  | .done => []

/-- Arrivals bring a reader what it has still to read, and the end of its stream. -/
def Reader.Gets (s : Stream) (arrivals : List Arrival) : Reader → Prop
  | .reading _ unread => bytesOf s arrivals = unread ∧ ends s arrivals = true
  | .done => bytesOf s arrivals = []

def Tasks.held (t : Tasks) : Stream → Bytes := fun s => (t.readers s).held

/-- All readers get what they have still to read. -/
def Tasks.Get (t : Tasks) (arrivals : List Arrival) : Prop :=
  ∀ s, (t.readers s).Gets s arrivals

theorem held_of_readers {t t' : Tasks} {r : Reader}
    (h : t'.readers = Function.update t.readers s r) :
    t'.held = Function.update t.held s r.held := by
  funext s'
  rw [Tasks.held, h]
  by_cases hs : s' = s
  · rw [hs, Function.update_self, Function.update_self]
  · rw [Function.update_of_ne hs, Function.update_of_ne hs, Tasks.held]

/-- What arrives on one stream is nothing to the reader of another. -/
theorem gets_cons_other {r : Reader} {a : Arrival} (other : streamOf a ≠ s) :
    r.Gets s (a :: arrivals) ↔ r.Gets s arrivals := by
  have same : bytesOf s (a :: arrivals) = bytesOf s arrivals ∧
      ends s (a :: arrivals) = ends s arrivals := by
    cases a with
    | bytes s' bytes => exact ⟨if_neg other, rfl⟩
    | ended s' => exact ⟨rfl, if_neg other⟩
  cases r <;> simp only [Reader.Gets, same.1, same.2]

/-! ### From steps to arrivals -/

/-- A step of a reader is an arrival. -/
theorem Reader.Step.exists_arrival {r r' : Reader} {sent : List String} (h : r.Step sent r')
    (gets : r'.Gets s arrivals) (held : open_ s = r.held) :
    ∃ a : Arrival, streamOf a = s ∧ r.Gets s (a :: arrivals) ∧
      linesFrom open_ (a :: arrivals) = sent.map (fun line => (s, line)) ++
        linesFrom (Function.update open_ s r'.held) arrivals := by
  cases h with
  | @hold held rest b inside =>
    refine ⟨.bytes s [b], rfl, ?_, ?_⟩
    · simpa [Gets, bytesOf, ends] using gets
    · simp [linesFrom_bytes, held, Reader.held, feed, inside, linesOf]
  | @send held rest =>
    refine ⟨.bytes s [newline], rfl, ?_, ?_⟩
    · simpa [Gets, bytesOf, ends] using gets
    · simp [linesFrom_bytes, held, Reader.held, feed, linesOf]
  | @sendLast held nonempty =>
    refine ⟨.ended s, rfl, ?_, ?_⟩
    · simpa [Gets, bytesOf, ends] using gets.1
    · simp [linesFrom_ended, held, Reader.held, lastLine, nonempty]
  | finish =>
    refine ⟨.ended s, rfl, ?_, ?_⟩
    · simpa [Gets, bytesOf, ends] using gets
    · simp [linesFrom_ended, held, Reader.held, lastLine]

variable {t t' : Tasks}

/-- The steps of the readers are arrivals, which make the lines that are sent. -/
theorem exists_arrivals (steps : Steps t t') (finished : t'.Finished) :
    ∃ arrivals, t.Get arrivals ∧ t'.text = t.text ++ logText (linesFrom t.held arrivals) := by
  -- the induction goes from the last step to the first, as arrivals do
  induction steps using Relation.ReflTransGen.head_induction_on with
  | refl =>
    have closed : ∀ s, t'.held s = [] := fun s => by
      rw [Tasks.held, finished.readers s, Reader.held]
    refine ⟨[], fun s => ?_, ?_⟩
    · rw [finished.readers s]
      rfl
    · simp [linesFrom, lines, lastLine, closed, logText]
  | @head before after step _ ih =>
    obtain ⟨arrivals, get, text⟩ := ih
    rcases step.cases with ⟨sameReaders, sameText⟩ | ⟨s, sent, r, hstep, readers, more⟩
    · have sameHeld : after.held = before.held := by
        funext s
        rw [Tasks.held, Tasks.held, sameReaders]
      exact ⟨arrivals, fun s => sameReaders ▸ get s, by rw [text, sameText, sameHeld]⟩
    · have gets : r.Gets s arrivals := by simpa [readers] using get s
      have held : before.held s = (before.readers s).held := rfl
      obtain ⟨a, hstream, hgets, hlines⟩ := hstep.exists_arrival gets held
      refine ⟨a :: arrivals, fun s' => ?_, ?_⟩
      · by_cases hs : s' = s
        · exact hs ▸ hgets
        · have gets' := get s'
          rw [readers, Function.update_of_ne hs] at gets'
          exact (gets_cons_other (by rw [hstream]; exact Ne.symm hs)).mpr gets'
      · rw [text, more, held_of_readers readers, hlines, logText_append, String.append_assoc]

/-! ### From arrivals to steps -/

/-- A step of a reader is a step of the tasks. -/
theorem exists_step {r r' : Reader} {sent : List String} (at_ : t.readers s = r)
    (h : r.Step sent r') : ∃ t', Step t t' ∧ t'.readers = Function.update t.readers s r' ∧
      t'.text = t.text ++ logText (sent.map fun line => (s, line)) := by
  refine ⟨_, .read (at_ ▸ h), rfl, ?_⟩
  simp only [Tasks.text, logText_append, String.append_assoc]

/-- Bytes that arrive are read one after another. -/
theorem exists_steps_bytes (bytes : Bytes) {held rest : Bytes}
    (h : t.readers s = .reading held (bytes ++ rest)) :
    ∃ t', Steps t t' ∧
      t'.readers = Function.update t.readers s (.reading (feed held.reverse bytes).2.reverse rest) ∧
      t'.text = t.text ++ logText (linesOf s (feed held.reverse bytes).1) := by
  induction bytes generalizing t held with
  | nil =>
    refine ⟨t, .refl, ?_, ?_⟩
    · simp only [feed, List.reverse_reverse]
      rw [← List.nil_append rest, ← h, Function.update_eq_self]
    · simp [feed, linesOf, logText]
  | cons b bytes ih =>
    by_cases hb : b = newline
    · have step : Reader.Step (.reading held (newline :: (bytes ++ rest))) [lineOfSegment held]
          (.reading [] (bytes ++ rest)) := .send
      obtain ⟨t₁, step₁, readers₁, text₁⟩ := exists_step (hb ▸ h) step
      have at₁ : t₁.readers s = .reading [] (bytes ++ rest) := by simp [readers₁]
      obtain ⟨t₂, steps₂, readers₂, text₂⟩ := ih at₁
      refine ⟨t₂, .head step₁ steps₂, ?_, ?_⟩
      · rw [readers₂, readers₁, Function.update_idem]
        simp [feed, hb]
      · rw [text₂, text₁, String.append_assoc, ← logText_append]
        simp [feed, hb, linesOf]
    · obtain ⟨t₁, step₁, readers₁, text₁⟩ := exists_step h (.hold hb)
      have at₁ : t₁.readers s = .reading (held ++ [b]) (bytes ++ rest) := by simp [readers₁]
      obtain ⟨t₂, steps₂, readers₂, text₂⟩ := ih at₁
      refine ⟨t₂, .head step₁ steps₂, ?_, ?_⟩
      · rw [readers₂, readers₁, Function.update_idem]
        simp [feed, hb]
      · rw [text₂, text₁]
        simp [feed, hb, logText]

/-- The end of a stream that arrives is read, and what is held is sent. -/
theorem exists_steps_ended {held : Bytes} (h : t.readers s = .reading held []) :
    ∃ t', Steps t t' ∧ t'.readers = Function.update t.readers s .done ∧
      t'.text = t.text ++ logText (lastLine s held.reverse) := by
  cases held with
  | nil =>
    obtain ⟨t₁, step₁, readers₁, text₁⟩ := exists_step h .finish
    exact ⟨t₁, .single step₁, readers₁, text₁⟩
  | cons b held =>
    obtain ⟨t₁, step₁, readers₁, text₁⟩ := exists_step h (.sendLast (List.cons_ne_nil b held))
    have at₁ : t₁.readers s = .reading [] [] := by simp [readers₁]
    obtain ⟨t₂, step₂, readers₂, text₂⟩ := exists_step at₁ .finish
    refine ⟨t₂, .head step₁ (.single step₂), ?_, ?_⟩
    · rw [readers₂, readers₁, Function.update_idem]
    · rw [text₂, text₁]
      simp [lastLine, logText]

/-- The readers that have seen one arrival get the others. -/
theorem get_tail {a : Arrival} {r : Reader} (get : t.Get (a :: rest))
    (readers : t'.readers = Function.update t.readers (streamOf a) r)
    (gets : r.Gets (streamOf a) rest) : t'.Get rest := by
  intro s
  rw [readers]
  by_cases hs : s = streamOf a
  · rw [hs, Function.update_self]
    exact gets
  · rw [Function.update_of_ne hs]
    exact (gets_cons_other (Ne.symm hs)).mp (get s)

/-- An arrival is steps of the reader of its stream, if there are any to be made. -/
theorem exists_steps_arrival {a : Arrival} (get : t.Get (a :: rest)) :
    ∃ t', Steps t t' ∧ t'.Get rest ∧ t'.text ++ logText (linesFrom t'.held rest) =
      t.text ++ logText (linesFrom t.held (a :: rest)) := by
  have gets := get (streamOf a)
  cases a with
  | bytes s bytes =>
    rw [streamOf] at gets
    rw [linesFrom_bytes, logText_append, ← String.append_assoc]
    cases hr : t.readers s with
    | done =>
      simp only [hr, Reader.Gets, bytesOf, if_true, List.append_eq_nil_iff] at gets
      have closed : t.held s = [] := by rw [Tasks.held, hr, Reader.held]
      refine ⟨t, .refl, get_tail get (r := .done) ?_ gets.2, ?_⟩
      · rw [streamOf, ← hr, Function.update_eq_self]
      · simp [gets.1, feed, linesOf, logText]
    | reading held unread =>
      simp only [hr, Reader.Gets, bytesOf, if_true, ends] at gets
      obtain ⟨t', steps, readers, text⟩ := exists_steps_bytes bytes (gets.1 ▸ hr)
      refine ⟨t', steps, get_tail get readers ⟨rfl, gets.2⟩, ?_⟩
      have now : t.held s = held.reverse := by rw [Tasks.held, hr, Reader.held]
      rw [text, held_of_readers readers, Reader.held, List.reverse_reverse, now]
  | ended s =>
    rw [streamOf] at gets
    rw [linesFrom_ended, logText_append, ← String.append_assoc]
    cases hr : t.readers s with
    | done =>
      simp only [hr, Reader.Gets, bytesOf] at gets
      have closed : t.held s = [] := by rw [Tasks.held, hr, Reader.held]
      refine ⟨t, .refl, get_tail get (r := .done) ?_ gets, ?_⟩
      · rw [streamOf, ← hr, Function.update_eq_self]
      · rw [← closed, Function.update_eq_self, closed]
        simp [lastLine, logText]
    | reading held unread =>
      simp only [hr, Reader.Gets, bytesOf, ends, if_true, List.isEmpty_iff] at gets
      obtain ⟨rfl, hend⟩ := gets
      obtain ⟨t', steps, readers, text⟩ := exists_steps_ended (hend ▸ hr)
      refine ⟨t', steps, get_tail get readers hend, ?_⟩
      have now : t.held s = held.reverse := by rw [Tasks.held, hr, Reader.held]
      rw [text, held_of_readers readers, Reader.held, now]

/-- Arrivals are steps of the readers, which send the lines that the arrivals make. -/
theorem exists_steps (arrivals : List Arrival) (get : t.Get arrivals) :
    ∃ t', Steps t t' ∧ (∀ s, t'.readers s = .done) ∧
      t'.text = t.text ++ logText (linesFrom t.held arrivals) := by
  induction arrivals generalizing t with
  | nil =>
    have done : ∀ s, t.readers s = .done := by
      intro s
      have gets := get s
      cases h : t.readers s with
      | done => rfl
      | reading held unread =>
        rw [h] at gets
        cases gets.2
    refine ⟨t, .refl, done, ?_⟩
    simp [linesFrom, lines, lastLine, Tasks.held, done, Reader.held, logText]
  | cons a rest ih =>
    obtain ⟨t₁, steps₁, get₁, text₁⟩ := exists_steps_arrival get
    obtain ⟨t₂, steps₂, done, text₂⟩ := ih get₁
    exact ⟨t₂, steps₁.trans steps₂, done, text₂.trans text₁⟩

/-- With the readers done, only the writer goes on. -/
theorem Steps.text_of_done (steps : Steps t t') (done : ∀ s, t.readers s = .done) :
    t'.text = t.text := by
  induction steps using Relation.ReflTransGen.head_induction_on with
  | refl => rfl
  | @head before after step _ ih =>
    rcases step.cases with ⟨readers, text⟩ | ⟨s, sent, r, hstep, -, -⟩
    · exact (ih (readers ▸ done)).trans text
    · rw [done s] at hstep
      cases hstep

/-! ### The same logs -/

/-- The logs that tasks come to rest with are those that arrivals of the same bytes make. -/
theorem exists_still_iff {header log : String} {streams : Stream → Bytes} :
    (∃ t, Steps (.start header streams) t ∧ t.Still ∧ t.log = log) ↔
      ∃ arrivals, (∀ s, bytesOf s arrivals = streams s ∧ ends s arrivals = true) ∧
        log = header ++ logText (lines [] [] arrivals) := by
  have begun : (Tasks.start header streams).text = header := by
    simp [Tasks.text, Tasks.start, logText]
  constructor
  · rintro ⟨t, steps, still, rfl⟩
    have finished := Tasks.finished_of_still still
    obtain ⟨arrivals, get, text⟩ := exists_arrivals steps finished
    rw [finished.text_eq, begun] at text
    exact ⟨arrivals, get, text⟩
  · rintro ⟨arrivals, get, rfl⟩
    obtain ⟨t₁, steps₁, done, text₁⟩ := exists_steps (t := .start header streams) arrivals get
    obtain ⟨t₂, steps₂, finished⟩ := exists_finished t₁
    refine ⟨t₂, steps₁.trans steps₂, Tasks.still_of_finished finished, ?_⟩
    rw [← finished.text_eq, steps₂.text_of_done done, text₁, begun]
    rfl

end RobotPipeline.Relay
