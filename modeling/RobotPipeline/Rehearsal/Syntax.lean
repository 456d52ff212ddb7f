/-
  RobotPipeline/Rehearsal/Syntax.lean
  ===================================
  **The shell scripts that a rehearsal can follow.**

  In a rehearsal the pipeline runs on a model of the machine, and the programs
  of its stages are shell scripts. This is what such a script may consist of:
  the common part of the POSIX shell language.
-/

namespace RobotPipeline.Rehearsal

mutual

/-- A part of a word. -/
inductive Part where
  | text (s : String) (quoted : Bool)
  /-- The value of a parameter. -/
  | value (name : String) (use : Use) (quoted : Bool)
  /-- The number that an expression comes to. -/
  | number (expression : List Part) (quoted : Bool)
  /-- The output of a script. -/
  | output (script : List Command) (quoted : Bool)

/-- What is made of the value of a parameter. In the first four, `colon` says that an empty value
counts as none. -/
inductive Use where
  | plain
  | length
  /-- A word in its absence. -/
  | orElse (colon : Bool) (word : List Part)
  /-- A word in its absence, which becomes its value. -/
  | orSet (colon : Bool) (word : List Part)
  /-- A word in its presence. -/
  | insteadOf (colon : Bool) (word : List Part)
  /-- A failure in its absence. -/
  | orFail (colon : Bool) (word : List Part)
  /-- The value without what matches a pattern at its start or end. -/
  | trim (atEnd longest : Bool) (pattern : List Part)

/-- A redirection. -/
inductive Redirect where
  | input (word : List Part)
  | output (descriptor : Nat) (appending : Bool) (word : List Part)
  /-- One descriptor as another, or closed. -/
  | copy (descriptor : Nat) (target : List Part)

inductive Command where
  /-- A line with assignments, words and redirections. -/
  | simple (line : Nat) (assigned : List (String × List Part)) (words : List (List Part))
      (redirects : List Redirect)
  | block (body : List Command) (redirects : List Redirect)
  /-- A body that cannot change the shell around it. -/
  | apart (body : List Command) (redirects : List Redirect)
  | choice (branches : List (List Command × List Command)) (otherwise : List Command)
      (redirects : List Redirect)
  | loop (test body : List Command) (redirects : List Redirect)
  | each (name : String) (words : Option (List (List Part))) (body : List Command)
      (redirects : List Redirect)
  | cases (word : List Part) (arms : List (List (List Part) × List Command))
      (redirects : List Redirect)
  | define (name : String) (body : Command)
  | pipe (commands : List Command)
  | negate (command : Command)
  | andThen (first second : Command)
  | orElse (first second : Command)
  | background (command : Command)

end

abbrev Word : Type := List Part
abbrev Script : Type := List Command

end RobotPipeline.Rehearsal
