/-
  RobotPipeline/CommandLine/Flag.lean
  ===================================
  **The flags among arguments, and what is wrong with arguments.**

  A flag has a long name, and perhaps a letter. Its value follows it as the
  next argument, or stands behind an equals sign, or right behind its letter.
  Letters of flags without a value may be put together.

  A value that follows as the next argument is looked at only when the next
  flag comes or the arguments end; until then a worse mistake may be reported
  first.
-/
import RobotPipeline.Camera
import RobotPipeline.Text.Numeral

namespace RobotPipeline.CommandLine

/-! ### Errors -/

/-- Why arguments do not say what to do. The first two are asked for. -/
inductive UsageError where
  | help
  | version
  | noArguments
  | noTask
  | unknownTask (arg : String)
  | missing (flags : List String)
  | unknownArgument (arg : String)
  | noValue (flag : String)
  | invalidValue (flag value : String)
  | repeated (flag : String)
  /-- A flag without a value got one. -/
  | unwantedValue (flag : String)
deriving DecidableEq, Repr

namespace UsageError

def exitCode : UsageError → Nat
  | .help => 0
  | .version => 0
  | _ => 2

def quoted (s : String) : String := "'" ++ s ++ "'"

def message : UsageError → String
  | .help => "usage: run | status | retry | skip | stages, each with its flags"
  | .version => "0.1.0"
  | .noArguments => "usage: run | status | retry | skip | stages, each with its flags"
  | .noTask => "a task is required: run, status, retry, skip or stages"
  | .unknownTask arg => "unknown task " ++ quoted arg
  | .missing flags => "required but missing: " ++ ", ".intercalate (flags.map ("--" ++ ·))
  | .unknownArgument arg => "unexpected argument " ++ quoted arg
  | .noValue flag => "a value is required for --" ++ flag
  | .invalidValue flag value => "invalid value " ++ quoted value ++ " for --" ++ flag
  | .repeated flag => "--" ++ flag ++ " cannot be given more than once"
  | .unwantedValue flag => "--" ++ flag ++ " takes no value"

end UsageError

/-! ### Flags -/

/-- What a flag takes. -/
inductive Value where
  | text
  | path
  | word32
  | word64
  | camera
deriving DecidableEq, Repr

def word32? (s : String) : Option UInt32 :=
  match s.toList with
  | '-' :: d :: ds => if (d :: ds).all (· = '0') then some 0 else none
  | cs => (Text.readWord32 cs).toOption

def word64? (s : String) : Option UInt64 := (Text.readWord64 s.toList).toOption

def Value.admits (s : String) : Value → Bool
  | .text => true
  | .path => s ≠ ""
  | .word32 => (word32? s).isSome
  | .word64 => (word64? s).isSome
  | .camera => (Camera.parse s).isOk

/-- A flag. -/
structure Flag where
  name : String
  letter : Option Char := none
  /-- What it takes; `none` if it takes nothing. -/
  value : Option Value := none
  /-- It may be given more than once. -/
  repeatable : Bool := false
deriving DecidableEq, Repr

namespace Flag

def help : Flag := { name := "help", letter := some 'h' }
def version : Flag := { name := "version", letter := some 'V' }

def complaint? (f : Flag) (value : String) : Option UsageError :=
  match f.value with
  | none => none
  | some v =>
    if v.admits value then none
    else if v = .path then some (.noValue f.name)
    else some (.invalidValue f.name value)

end Flag

/-! ### Reading -/

/-- Flags with their values, in order; a flag without a value has an empty one. -/
abbrev Given : Type := List (String × String)

namespace Given

def has (given : Given) (name : String) : Bool := given.any (fun g => g.1 = name)

def get? (given : Given) (name : String) : Option String :=
  (given.find? (fun g => g.1 = name)).map (·.2)

/-- The values of a flag that may be given more than once. -/
def all (given : Given) (name : String) : List String :=
  (given.filter (fun g => g.1 = name)).map (·.2)

end Given

/-- How far arguments have been read. -/
structure Scan where
  given : Given := []
  /-- The last flag, if it takes a value that has not been looked at, and that value. -/
  pending : Option (Flag × Option String) := none

namespace Scan

def add (s : Scan) (f : Flag) (value : String) : Except UsageError Scan :=
  if f = Flag.help then .error .help
  else if f = Flag.version then .error .version
  else if !f.repeatable && s.given.has f.name then .error (.repeated f.name)
  else
    match f.complaint? value with
    | some e => .error e
    | none => .ok { given := s.given ++ [(f.name, value)] }

/-- Looks at the value of the last flag. -/
def settle (s : Scan) : Except UsageError Scan :=
  match s.pending with
  | none => .ok s
  | some (f, none) => .error (.noValue f.name)
  | some (f, some value) => { s with pending := none }.add f value

/-- Whether the next argument is the value of the last flag. -/
def isWaiting (s : Scan) : Bool :=
  match s.pending with
  | some (_, none) => true
  | _ => false

/-- Takes a flag with a value behind it, or without one. -/
def take (s : Scan) (f : Flag) (attached : Option String) : Except UsageError Scan := do
  match f.value, attached with
  | none, some _ => .error (.unwantedValue f.name)
  | none, none => (← s.settle).add f ""
  | some _, some value => (← s.settle).add f value
  | some _, none => .ok { ← s.settle with pending := some (f, none) }

/-- Takes a long name, with its value behind an equals sign. -/
def takeLong (s : Scan) (flags : List Flag) (cs : List Char) : Except UsageError Scan :=
  let name := String.ofList (cs.takeWhile (· ≠ '='))
  let attached := match cs.dropWhile (· ≠ '=') with
    | _ :: value => some (String.ofList value)
    | [] => none
  match flags.find? (fun f => f.name = name) with
  | some f => s.take f attached
  | none => .error (.unknownArgument ("--" ++ name))

/-- Takes letters, the last of which may have its value behind it. -/
def takeLetters (flags : List Flag) : Scan → List Char → Except UsageError Scan
  | s, [] => .ok s
  | s, c :: rest =>
    match flags.find? (fun f => f.letter = some c) with
    | none => .error (.unknownArgument (String.ofList ['-', c]))
    | some f =>
      if f.value.isNone then do
        takeLetters flags (← s.take f none) rest
      else
        match rest with
        | [] => s.take f none
        | '=' :: value => s.take f (some (String.ofList value))
        | value => s.take f (some (String.ofList value))

end Scan

/-- What may be given at a place: flags, and perhaps the name of a task. -/
structure Level where
  flags : List Flag
  tasks : List String := []

def Level.stray (level : Level) (arg : String) : UsageError :=
  if level.tasks.isEmpty then .unknownArgument arg else .unknownTask arg

def scan (level : Level) : Scan → List String →
    Except UsageError (Scan × Option (String × List String))
  | s, [] => .ok (s, none)
  | s, arg :: rest =>
    if !s.isWaiting && arg ∈ level.tasks then .ok (s, some (arg, rest))
    else if arg = "--" then
      match rest with
      | [] => .ok (s, none)
      | next :: _ =>
        .error (if next ∈ level.tasks then .unknownArgument next else level.stray next)
    else
      match arg.toList with
      | '-' :: '-' :: cs => do scan level (← s.takeLong level.flags cs) rest
      | '-' :: c :: cs => do scan level (← Scan.takeLetters level.flags s (c :: cs)) rest
      | _ =>
        match s.pending with
        | some (f, none) => scan level { s with pending := some (f, some arg) } rest
        | _ => .error (level.stray arg)

end RobotPipeline.CommandLine
