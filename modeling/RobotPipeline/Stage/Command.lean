/-
  RobotPipeline/Stage/Command.lean
  ================================
  **The external command of a stage.**

  A command is a program and its arguments, each a template of its own, so a
  value can never split into several arguments.
-/
import RobotPipeline.Template
import RobotPipeline.Source

namespace RobotPipeline

/-- A program with argument templates. -/
structure Command where
  program : String
  args : List String
deriving DecidableEq, Repr

namespace Command

/-- All templates of a command, the program first. -/
def parts (c : Command) : List String := c.program :: c.args

def holes (c : Command) : List String := c.parts.flatMap Template.holes

/-- The argument list, the program first. -/
def render (values : Values) (c : Command) : List String := c.parts.map (Template.render values)

/-- The command on one line, as declared. -/
def text (c : Command) : String := " ".intercalate c.parts

/-! ### Written form -/

def fieldNames : List String := ["program", "args"]

def toDatum (c : Command) : Datum :=
  .fields [("program", .text c.program), ("args", .texts c.args)]

def read? {δ : Type} [Source δ] (d : δ) : Option Command := do
  let p ← Source.record? fieldNames d
  some {
    program := ← p.required "program" Source.text?
    args := ← p.orDefault "args" [] (Source.listOf? Source.text?) }

end Command

end RobotPipeline
