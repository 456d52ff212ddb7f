/-
  RobotPipeline/Variable.lean
  ===========================
  **Process variables, by name.**

  Ports and account are read from these variables unless the operator names
  them; the rest configures the program.
-/

namespace RobotPipeline

/-- Variables and their values; of several with one name the last counts. -/
abbrev Variables := List (String × String)

namespace Variables

def get? (vars : Variables) (name : String) : Option String :=
  (vars.reverse.find? (fun v => v.1 = name)).map (·.2)

def set (vars : Variables) (name value : String) : Variables :=
  vars.filter (fun v => v.1 ≠ name) ++ [(name, value)]

/-- The variables by increasing name, each once. -/
def sorted (vars : Variables) : Variables :=
  let names := (vars.map (·.1)).eraseDups.mergeSort (fun a b => decide (a ≤ b))
  names.filterMap fun name => (vars.get? name).map fun value => (name, value)

/-! ### Names -/

def followerPort : String := "FOLLOWER_PORT"

def leaderPort : String := "LEADER_PORT"

/-- The account that receives datasets and policies. -/
def hubUser : String := "HF_USER"

/-- The directories that programs are looked up in. -/
def searchPath : String := "PATH"

end Variables

end RobotPipeline
