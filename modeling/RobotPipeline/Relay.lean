/-
  RobotPipeline/Relay.lean
  ========================
  **The lines of a command's output, in the order in which they come in.**

  A command writes to two streams. Their bytes come in pieces of any size, the
  pieces of the two streams in any order. A line is passed on when its newline
  has come in, or when its stream has ended with something behind the last
  newline.
-/
import RobotPipeline.Text.Line

namespace RobotPipeline

/-- A stream that a command writes to. -/
inductive Stream where
  | out
  | err
deriving DecidableEq, Repr

/-- Something that comes in. -/
inductive Arrival where
  | bytes (stream : Stream) (bytes : Text.Bytes)
  | ended (stream : Stream)
deriving DecidableEq, Repr

namespace Relay

/-- The segments that bytes complete, and what is left open behind them; what is open is kept in
reverse. -/
def feed (open_ : Text.Bytes) : Text.Bytes → List Text.Bytes × Text.Bytes
  | [] => ([], open_)
  | b :: rest =>
    if b = Text.newline then
      let (complete, left) := feed [] rest
      (open_.reverse :: complete, left)
    else feed (b :: open_) rest

/-- The last line of a stream that ends with `open_` behind its last newline. -/
def lastLine (stream : Stream) (open_ : Text.Bytes) : List (Stream × String) :=
  if open_.isEmpty then [] else [(stream, Text.lineOfSegment open_.reverse)]

def linesOf (stream : Stream) (segments : List Text.Bytes) : List (Stream × String) :=
  segments.map fun segment => (stream, Text.lineOfSegment segment)

/-- The lines that arrivals make, with what is open on either stream. -/
def lines (out err : Text.Bytes) : List Arrival → List (Stream × String)
  | [] => lastLine .out out ++ lastLine .err err
  | .bytes .out bytes :: rest =>
    linesOf .out (feed out bytes).1 ++ lines (feed out bytes).2 err rest
  | .bytes .err bytes :: rest =>
    linesOf .err (feed err bytes).1 ++ lines out (feed err bytes).2 rest
  | .ended .out :: rest => lastLine .out out ++ lines [] err rest
  | .ended .err :: rest => lastLine .err err ++ lines out [] rest

def bytesOf (stream : Stream) : List Arrival → Text.Bytes
  | [] => []
  | .bytes s bytes :: rest =>
    if s = stream then bytes ++ bytesOf stream rest else bytesOf stream rest
  | .ended _ :: rest => bytesOf stream rest

end Relay

end RobotPipeline
