/-
  RobotPipeline/Text/Line.lean
  ============================
  **The lines of a byte stream.**

  A line ends at a newline or at the end of the stream; the end of the stream
  closes a line only if something was written after the last newline. A line
  is decoded with U+FFFD for broken pieces and loses every carriage return at
  its end.
-/
import RobotPipeline.Text.Utf8

namespace RobotPipeline.Text

def newline : UInt8 := 10

/-- The segments between newlines; `open_` is the segment read so far, in order. -/
def segmentsFrom (open_ : Bytes) : Bytes → List Bytes
  | [] => if open_.isEmpty then [] else [open_]
  | b :: rest =>
    if b = newline then open_ :: segmentsFrom [] rest else segmentsFrom (open_ ++ [b]) rest

/-- The segments of a stream: between newlines, and after the last one unless empty. -/
def segments (bytes : Bytes) : List Bytes := segmentsFrom [] bytes

/-- A list of characters without the carriage returns at its end. -/
def withoutReturns (cs : List Char) : List Char :=
  (cs.reverse.dropWhile (· = '\r')).reverse

/-- The text of one segment. -/
def lineOfSegment (segment : Bytes) : String :=
  String.ofList (withoutReturns (decodeLossy segment))

def lines (bytes : Bytes) : List String := (segments bytes).map lineOfSegment

end RobotPipeline.Text
