/-
  RobotPipeline/Proofs/Relay/Tasks.lean
  =====================================
  **Two readers and a writer, in any order.**

  Each stream of a command has a reader, which cuts what comes in into lines
  and sends them into a channel; a writer takes them out of it and puts them
  into the log. The three go on in any order, a byte or a piece of text at a
  time.

  Lines are on their way, in the channel or written, and a step only moves
  them on (`Step.kept`). So what stands in the log when nothing can go on is a
  shuffle of the lines of the two streams (`merged_of_still`), and it comes to
  that in the end, whatever the order (`wellFounded_step`).
-/
import Mathlib.Logic.Function.Basic
import Mathlib.Logic.Relation
import RobotPipeline.Launcher
import RobotPipeline.Proofs.Text.Line

namespace RobotPipeline.Relay

open Launcher (logText)
open Text (Bytes newline lineOfSegment segmentsFrom)

/-! ### Readers -/

/-- The reader of a stream. -/
inductive Reader where
  /-- It holds the segment that it has begun, and has the rest of the stream before it. -/
  | reading (held unread : Bytes)
  | done

/-- What a reader does next, with the lines that it sends. -/
inductive Reader.Step : Reader → List String → Reader → Prop where
  | hold {held rest : Bytes} {b : UInt8} (inside : b ≠ newline) :
      Step (.reading held (b :: rest)) [] (.reading (held ++ [b]) rest)
  | send {held rest : Bytes} :
      Step (.reading held (newline :: rest)) [lineOfSegment held] (.reading [] rest)
  | sendLast {held : Bytes} (nonempty : held ≠ []) :
      Step (.reading held []) [lineOfSegment held] (.reading [] [])
  | finish : Step (.reading [] []) [] .done

/-- The lines that a reader has still to send. -/
def Reader.left : Reader → List String
  | .reading held unread => (segmentsFrom held unread).map lineOfSegment
  | .done => []

theorem Reader.Step.left_eq {r r' : Reader} {sent : List String} (h : r.Step sent r') :
    r.left = sent ++ r'.left := by
  cases h with
  | hold inside => simp only [left, segmentsFrom, if_neg inside, List.nil_append]
  | send => simp only [left, segmentsFrom, if_true, List.map_cons, List.singleton_append]
  | sendLast nonempty => simp [left, segmentsFrom, nonempty]
  | finish => rfl

theorem Reader.exists_step {r : Reader} (h : r ≠ .done) : ∃ sent r', r.Step sent r' := by
  cases r with
  | done => exact absurd rfl h
  | reading held unread =>
    cases unread with
    | nil =>
      cases held with
      | nil => exact ⟨_, _, .finish⟩
      | cons b held => exact ⟨_, _, .sendLast (List.cons_ne_nil b held)⟩
    | cons b rest =>
      by_cases hb : b = newline
      · rw [hb]
        exact ⟨_, _, .send⟩
      · exact ⟨_, _, .hold hb⟩

/-- How much a reader has still to do: a line that is sent has still to be received and written. -/
def Reader.load : Reader → Nat
  | .reading held unread => 5 * unread.length + (if held = [] then 0 else 4) + 1
  | .done => 0

theorem Reader.Step.load_lt {r r' : Reader} {sent : List String} (h : r.Step sent r') :
    r'.load + 3 * sent.length < r.load := by
  cases h with
  | @hold held rest b inside =>
    simp only [load, List.length_cons, List.length_nil]
    split <;> split <;> omega
  | @send held rest =>
    simp only [load, List.length_cons, List.length_nil, if_true]
    split <;> omega
  | sendLast nonempty => simp [load, nonempty]
  | finish => simp [load]

/-! ### Readers, channel and writer -/

/-- The tasks that relay the output of a command. -/
structure Tasks where
  readers : Stream → Reader
  /-- The lines in the channel, the oldest first. -/
  queue : List (Stream × String)
  /-- What the writer has still to write of the line that it has received. -/
  writing : List String
  log : String

/-- One task goes on. -/
inductive Step : Tasks → Tasks → Prop where
  | read {t : Tasks} {s : Stream} {sent : List String} {r : Reader}
      (h : (t.readers s).Step sent r) :
      Step t { t with
        readers := Function.update t.readers s r
        queue := t.queue ++ sent.map fun line => (s, line) }
  | receive {t : Tasks} {line : Stream × String} {rest : List (Stream × String)}
      (idle : t.writing = []) (next : t.queue = line :: rest) :
      Step t { t with queue := rest, writing := [line.2, "\n"] }
  | write {t : Tasks} {text : String} {rest : List String} (next : t.writing = text :: rest) :
      Step t { t with writing := rest, log := t.log ++ text }

abbrev Steps : Tasks → Tasks → Prop := Relation.ReflTransGen Step

namespace Tasks

/-- The tasks at their start, with a log that has a header only. -/
def start (header : String) (streams : Stream → Bytes) : Tasks where
  readers := fun s => .reading [] (streams s)
  queue := []
  writing := []
  log := header

/-- No task can go on. -/
def Still (t : Tasks) : Prop := ∀ t', ¬ Step t t'

/-- Both streams have ended, and their lines are written. -/
structure Finished (t : Tasks) : Prop where
  readers : ∀ s, t.readers s = .done
  queue : t.queue = []
  writing : t.writing = []

/-- No task waits for another for ever. -/
theorem finished_of_still {t : Tasks} (still : t.Still) : t.Finished := by
  have written : t.writing = [] := by
    cases h : t.writing with
    | nil => rfl
    | cons text rest => exact absurd (.write h) (still _)
  refine ⟨fun s => ?_, ?_, written⟩
  · by_contra reading
    obtain ⟨sent, r, h⟩ := Reader.exists_step reading
    exact still _ (.read h)
  · cases h : t.queue with
    | nil => rfl
    | cons line rest => exact absurd (.receive written h) (still _)

theorem still_of_finished {t : Tasks} (h : t.Finished) : t.Still := by
  intro t' step
  cases step with
  | @read s sent r hread =>
    rw [h.readers s] at hread
    cases hread
  | receive idle next => simp [h.queue] at next
  | write next => simp [h.writing] at next

def load (t : Tasks) : Nat :=
  (t.readers .out).load + (t.readers .err).load + 3 * t.queue.length + t.writing.length

end Tasks

theorem Step.load_lt {t t' : Tasks} (h : Step t t') : t'.load < t.load := by
  cases h with
  | @read s sent r h =>
    have less := h.load_lt
    unfold Tasks.load
    cases s <;>
      simp only [Function.update_self, ne_eq, reduceCtorEq, not_false_eq_true,
        Function.update_of_ne, List.length_append, List.length_map] <;> omega
  | receive idle next =>
    simp only [Tasks.load, idle, next, List.length_cons, List.length_nil]
    omega
  | write next =>
    simp only [Tasks.load, next, List.length_cons]
    omega

/-- Whatever is done first, the tasks come to rest. -/
theorem wellFounded_step : WellFounded fun t' t : Tasks => Step t t' :=
  Subrelation.wf Step.load_lt (measure Tasks.load).wf

/-- In the end everything is done. -/
theorem exists_finished (t : Tasks) : ∃ t', Steps t t' ∧ t'.Finished := by
  induction t using wellFounded_step.induction with
  | h t ih =>
    by_cases still : t.Still
    · exact ⟨t, .refl, Tasks.finished_of_still still⟩
    · obtain ⟨next, step⟩ : ∃ next, Step t next := by simpa [Tasks.Still] using still
      obtain ⟨t', steps, finished⟩ := ih next step
      exact ⟨t', .head step steps, finished⟩

/-! ### What is sent and what is written -/

/-- The lines of one stream among those of both. -/
def on (s : Stream) (lines : List (Stream × String)) : List String :=
  (lines.filter fun line => line.1 = s).map (·.2)

theorem on_append (s : Stream) (lines more : List (Stream × String)) :
    on s (lines ++ more) = on s lines ++ on s more := by
  simp [on]

theorem on_sent (s s' : Stream) (sent : List String) :
    on s (sent.map fun line => (s', line)) = if s' = s then sent else [] := by
  by_cases h : s' = s <;> simp [on, h, List.filter_map, Function.comp_def]

theorem logText_append (lines more : List (Stream × String)) :
    logText (lines ++ more) = logText lines ++ logText more := by
  simp [logText, String.join_append]

theorem logText_cons (line : Stream × String) (rest : List (Stream × String)) :
    logText (line :: rest) = String.join [line.2, "\n"] ++ logText rest := by
  simp [logText, String.join_cons]

/-- What stands in the log once the lines that are on their way are written. -/
def Tasks.text (t : Tasks) : String := t.log ++ String.join t.writing ++ logText t.queue

theorem Tasks.Finished.text_eq {t : Tasks} (h : t.Finished) : t.text = t.log := by
  simp [text, h.queue, h.writing, logText]

/-- A step moves lines on, unless a reader goes on and sends more of them. -/
theorem Step.cases {t t' : Tasks} (h : Step t t') :
    (t'.readers = t.readers ∧ t'.text = t.text) ∨
      ∃ s sent r, (t.readers s).Step sent r ∧ t'.readers = Function.update t.readers s r ∧
        t'.text = t.text ++ logText (sent.map fun line => (s, line)) := by
  cases h with
  | @read s sent r h =>
    refine .inr ⟨s, sent, r, h, rfl, ?_⟩
    simp only [Tasks.text, logText_append, String.append_assoc]
  | receive idle next =>
    refine .inl ⟨rfl, ?_⟩
    simp only [Tasks.text, idle, next, logText_cons]
    simp [String.append_assoc]
  | write next =>
    refine .inl ⟨rfl, ?_⟩
    simp only [Tasks.text, next]
    simp [String.join_cons, String.append_assoc]

/-- With those that the readers have still to send, the lines that were sent are the lines of the
streams. -/
def Kept (header : String) (streams : Stream → Bytes) (t : Tasks) : Prop :=
  ∃ sent, t.text = header ++ logText sent ∧
    ∀ s, on s sent ++ (t.readers s).left = Text.lines (streams s)

variable {header : String} {streams : Stream → Bytes} {t t' : Tasks}

theorem kept_start : Kept header streams (.start header streams) :=
  ⟨[], by simp [Tasks.start, Tasks.text, logText], fun _ => rfl⟩

theorem Step.kept (h : Step t t') (kept : Kept header streams t) : Kept header streams t' := by
  obtain ⟨sent, text, lines⟩ := kept
  rcases h.cases with ⟨sameReaders, sameText⟩ | ⟨s, new, r, step, readers, more⟩
  · exact ⟨sent, sameText.trans text, sameReaders ▸ lines⟩
  · refine ⟨sent ++ new.map fun line => (s, line), ?_, fun s' => ?_⟩
    · rw [more, text, logText_append, String.append_assoc]
    · rw [readers, on_append, on_sent, List.append_assoc, ← lines s']
      by_cases hs : s = s'
      · subst hs
        rw [Function.update_self, if_pos rfl, step.left_eq]
      · rw [Function.update_of_ne (Ne.symm hs), if_neg hs, List.nil_append]

theorem Steps.kept (h : Steps t t') (kept : Kept header streams t) : Kept header streams t' := by
  induction h with
  | refl => exact kept
  | tail _ step ih => exact step.kept ih

/-! ### Shuffles -/

/-- Two lists put together so that each stays in its order. -/
inductive Shuffle {α : Type} : List α → List α → List α → Prop where
  | nil : Shuffle [] [] []
  | left {a : α} {as bs cs : List α} (more : Shuffle as bs cs) : Shuffle (a :: as) bs (a :: cs)
  | right {b : α} {as bs cs : List α} (more : Shuffle as bs cs) : Shuffle as (b :: bs) (b :: cs)

theorem Shuffle.mem_or_mem {α : Type} {as bs cs : List α} (h : Shuffle as bs cs) {c : α}
    (mem : c ∈ cs) : c ∈ as ∨ c ∈ bs := by
  induction h with
  | nil => exact .inl mem
  | left more ih =>
    rcases List.mem_cons.mp mem with rfl | later
    · exact .inl List.mem_cons_self
    · exact (ih later).imp_left (List.mem_cons_of_mem _)
  | right more ih =>
    rcases List.mem_cons.mp mem with rfl | later
    · exact .inr List.mem_cons_self
    · exact (ih later).imp_right (List.mem_cons_of_mem _)

/-- Lines of two streams are a shuffle of those of the one and those of the other. -/
theorem shuffle_on (lines : List (Stream × String)) :
    Shuffle (on .out lines) (on .err lines) (lines.map (·.2)) := by
  induction lines with
  | nil => exact .nil
  | cons line rest ih =>
    obtain ⟨s, line⟩ := line
    cases s with
    | out => simpa [on] using ih.left
    | err => simpa [on] using ih.right

/-- A log that has, after its header, the lines of two streams, each line once and closed by a
newline, and those of one stream in their order. -/
inductive Merged (header : String) (streams : Stream → Bytes) (log : String) : Prop where
  | mk (outs errs lines : List String) (ofOut : Text.LinesOf (streams .out) outs)
      (ofErr : Text.LinesOf (streams .err) errs) (shuffle : Shuffle outs errs lines)
      (whole : ∀ line ∈ lines, '\n' ∉ line.toList)
      (log_eq : log = header ++ String.join (lines.map fun line => line ++ "\n"))

theorem Kept.merged (kept : Kept header streams t) (finished : t.Finished) :
    Merged header streams t.log := by
  obtain ⟨sent, text, lines⟩ := kept
  have ofStream : ∀ s, Text.LinesOf (streams s) (on s sent) := by
    intro s
    rw [Text.linesOf_iff, ← lines s, finished.readers s, Reader.left, List.append_nil]
  have shuffle := shuffle_on sent
  refine .mk _ _ _ (ofStream .out) (ofStream .err) shuffle (fun line mem => ?_) ?_
  · rcases shuffle.mem_or_mem mem with out | err
    · exact (ofStream .out).newline_not_mem out
    · exact (ofStream .err).newline_not_mem err
  · rw [← finished.text_eq, text, List.map_map]
    rfl

/-- Where the tasks come to rest, the log has the lines of both streams. -/
theorem merged_of_still (steps : Steps (.start header streams) t) (still : t.Still) :
    Merged header streams t.log :=
  (steps.kept kept_start).merged (Tasks.finished_of_still still)

end RobotPipeline.Relay
