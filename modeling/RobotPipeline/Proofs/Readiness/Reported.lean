/-
  RobotPipeline/Proofs/Readiness/Reported.lean
  ============================================
  **A check reports all that fails, by name, and nothing else.**

  `Holds` says when a precondition holds, one kind at a time, without a word on
  how it is checked. One that does not hold reports its own text, with its path
  rendered; that of the cameras reports each camera that is missing.

  Every precondition is checked by itself, so what it reports on its own stands
  in the report of every stage that has it, whatever else the stage checks.
-/
import Mathlib.Data.List.Basic
import RobotPipeline.Proofs.Registry.Wellformed
import RobotPipeline.Proofs.Text.Blank
import RobotPipeline.Readiness

namespace RobotPipeline.Readiness

variable {registry : Registry} {env : Snapshot} {run : Run} {tree : FileTree} {s : Stage}
variable {var value path program artifact : String} {dirs : List String}

/-! ### What has to hold -/

/-- A variable is set, to something other than blanks. -/
structure IsSet (env : Snapshot) (var value : String) : Prop where
  value_eq : env.vars.get? var = some value
  visible : ∃ c ∈ value.toList, Text.isBlank c = false

/-- A path leads to something. -/
def Leads (tree : FileTree) (path : String) : Prop := ∃ node, tree.node? path = some node

/-- A path leads to a directory that can be listed, and there is something in it. -/
def LeadsToFilled (tree : FileTree) (path : String) : Prop :=
  ∃ dir name node, tree.locate true path = .ok (.present dir .directory) ∧
    dir ∉ tree.unreadable ∧ tree.get? (dir ++ [name]) = some node

/-- A path leads to a file that someone may execute. -/
def LeadsToProgram (tree : FileTree) (path : String) : Prop :=
  ∃ content mode, tree.node? path = some (.file content mode) ∧ mode &&& 0o111 ≠ 0

/-- A path leads to something, and not to a directory that is empty or cannot be listed. -/
structure Usable (tree : FileTree) (path : String) : Prop where
  leads : Leads tree path
  filled : tree.node? path = some .directory → LeadsToFilled tree path

/-- An artifact is there: it lies on disk or, if it has no path, its producer has succeeded; and no
attempt of the producer has left it half done. -/
inductive Available (registry : Registry) (env : Snapshot) (run : Run) (tree : FileTree)
    (artifact : String) : Prop where
  | onDisk {producer : Stage} {template : String} (mem : producer ∈ registry.stages)
      (produced : ⟨artifact, some template⟩ ∈ producer.produces)
      (reliable : ∀ record, run.record? producer.name = some record → record.unreliable = false)
      (usable : Usable tree (env.render template))
  | logical {producer : Stage} {record : StageRecord} (mem : producer ∈ registry.stages)
      (produced : ⟨artifact, none⟩ ∈ producer.produces)
      (recorded : run.record? producer.name = some record) (reliable : record.unreliable = false)
      (succeeded : record.status = .succeeded)

/-- The directories of a search path, with colons between them. -/
structure Lists (searchPath : String) (dirs : List String) : Prop where
  nonempty : dirs ≠ []
  noColon : ∀ dir ∈ dirs, ':' ∉ dir.toList
  joined : searchPath = ":".intercalate dirs

/-- A program is found: by its path if it is one, else in a directory of the search path. -/
inductive Found (env : Snapshot) (tree : FileTree) (program : String) : Prop where
  | byPath (slash : '/' ∈ program.toList) (leads : LeadsToProgram tree program)
  | searched {searchPath dir : String} {dirs : List String} (noSlash : '/' ∉ program.toList)
      (set : IsSet env Variables.searchPath searchPath) (lists : Lists searchPath dirs)
      (mem : dir ∈ dirs) (leads : LeadsToProgram tree (Path.join dir program))

/-- When a precondition holds. -/
inductive Holds (registry : Registry) (env : Snapshot) (run : Run) (tree : FileTree) :
    Precondition → Prop where
  | variableSet {var value : String} (set : IsSet env var value) :
      Holds registry env run tree (.variableSet var)
  | devicePresent {var device : String} (set : IsSet env var device) (leads : Leads tree device) :
      Holds registry env run tree (.devicePresent var)
  | pathExists {path : String} (leads : Leads tree (env.render path)) :
      Holds registry env run tree (.pathExists path)
  | directoryNotEmpty {path : String} (filled : LeadsToFilled tree (env.render path)) :
      Holds registry env run tree (.directoryNotEmpty path)
  | artifact {name : String} (available : Available registry env run tree name) :
      Holds registry env run tree (.artifact name)
  | camerasPresent (leads : ∀ camera ∈ env.params.cameras, Leads tree camera.devicePath) :
      Holds registry env run tree .camerasPresent
  | commandAvailable {program : String} (found : Found env tree program) :
      Holds registry env run tree (.commandAvailable program)

/-! ### What is reported -/

/-- A precondition with its path rendered. -/
def rendered (env : Snapshot) : Precondition → Precondition
  | .pathExists path => .pathExists (env.render path)
  | .directoryNotEmpty path => .directoryNotEmpty (env.render path)
  | pre => pre

/-- The names that stand for a precondition that does not hold: its own text, or a name for each
camera whose device is missing, in the order of the cameras. -/
def namesOf (env : Snapshot) (tree : FileTree) : Precondition → List String
  | .camerasPresent =>
    (env.params.cameras.filter fun camera => (tree.node? camera.devicePath).isNone).map
      fun camera => "camera:" ++ camera.name
  | pre => [(rendered env pre).text]

/-- Nothing is reported of a precondition that holds, and its names of one that does not. -/
inductive Reports (registry : Registry) (env : Snapshot) (run : Run) (tree : FileTree)
    (pre : Precondition) : List String → Prop where
  | nothing (holds : Holds registry env run tree pre) : Reports registry env run tree pre []
  | names (fails : ¬ Holds registry env run tree pre) :
      Reports registry env run tree pre (namesOf env tree pre)

/-- The report on a stage if this were its only precondition. -/
def checkAlone (registry : Registry) (env : Snapshot) (run : Run) (tree : FileTree) (s : Stage)
    (pre : Precondition) : List String :=
  check registry env run tree { s with preconditions := [pre] }

/-! ### Variables and paths -/

theorem var?_eq_some_iff : env.var? var = some value ↔ IsSet env var value := by
  rw [Snapshot.var?, Option.filter_eq_some_iff]
  constructor
  · rintro ⟨hget, visible⟩
    exact ⟨hget, by simpa [Text.isBlankText] using visible⟩
  · rintro ⟨hget, visible⟩
    exact ⟨hget, by simpa [Text.isBlankText] using visible⟩

theorem IsSet.trimText_ne_empty (h : IsSet env var value) : Text.trimText value ≠ "" := by
  obtain ⟨c, hc, visible⟩ := h.visible
  apply Text.trimText_ne_empty
  rw [Text.isBlankText, List.all_eq_false]
  exact ⟨c, hc, by simp [visible]⟩

theorem pathExists_iff : tree.pathExists path = true ↔ Leads tree path :=
  Option.isSome_iff_exists

theorem isNonEmptyDirectory_iff :
    tree.isNonEmptyDirectory path = true ↔ LeadsToFilled tree path := by
  unfold FileTree.isNonEmptyDirectory FileTree.list? LeadsToFilled
  rcases tree.locate true path with _ | ⟨loc, node⟩ | _
  · simp
  · cases node with
    | directory =>
      by_cases unreadable : loc ∈ tree.unreadable
      · simp [unreadable]
      · simp [unreadable, ← FileTree.mem_children_iff, List.eq_nil_iff_forall_not_mem]
    | _ => simp
  · simp

theorem isExecutable_iff : tree.isExecutable path = true ↔ LeadsToProgram tree path := by
  rw [FileTree.isExecutable, LeadsToProgram]
  rcases tree.node? path with _ | _ | _ | _ | _ <;> simp

theorem isUsable_iff : isUsable tree path = true ↔ Usable tree path := by
  rw [isUsable]
  by_cases dir : tree.node? path = some .directory
  · rw [if_pos (by simpa [FileTree.isDirectory] using dir), isNonEmptyDirectory_iff]
    constructor
    · exact fun filled => ⟨⟨_, dir⟩, fun _ => filled⟩
    · exact fun usable => usable.filled dir
  · rw [if_neg (by simpa [FileTree.isDirectory] using dir), pathExists_iff]
    constructor
    · exact fun leads => ⟨leads, fun h => absurd h dir⟩
    · exact fun usable => usable.leads

/-! ### Artifacts -/

/-- What is asked of an artifact, once its producer is known. -/
theorem hasArtifact_of_produced {producer : Stage} {a : Artifact} (mem : producer ∈ registry.stages)
    (produced : a ∈ producer.produces) :
    hasArtifact registry env run tree a.name = true ↔
      (∀ record, run.record? producer.name = some record → record.unreliable = false) ∧
        match a.path with
        | some template => Usable tree (env.render template)
        | none => ∃ record, run.record? producer.name = some record ∧
            record.status = .succeeded := by
  have hproducer : registry.producer? a.name = some producer :=
    registry.producer?_eq_some_iff.mpr ⟨mem, a, produced, rfl⟩
  have hartifact : registry.artifact? a.name = some a :=
    registry.artifact?_eq_some_iff.mpr ⟨rfl, producer, mem, produced⟩
  simp only [hasArtifact, hproducer, hartifact, Option.bind_some, Bool.if_false_left,
    Bool.and_eq_true, Bool.not_eq_true', Option.any_eq_false, decide_eq_false_iff_not,
    Bool.not_eq_true]
  cases a.path with
  | some template => simp only [isUsable_iff]
  | none => simp [Option.any_eq_true]

theorem hasArtifact_iff :
    hasArtifact registry env run tree artifact = true ↔
      Available registry env run tree artifact := by
  constructor
  · intro h
    cases hproducer : registry.producer? artifact with
    | none => simp [hasArtifact, hproducer] at h
    | some producer =>
      obtain ⟨mem, ⟨name, path⟩, produced, rfl⟩ := registry.producer?_eq_some_iff.mp hproducer
      obtain ⟨reliable, there⟩ := (hasArtifact_of_produced mem produced).mp h
      cases path with
      | some template => exact .onDisk mem produced reliable there
      | none =>
        obtain ⟨record, recorded, succeeded⟩ := there
        exact .logical mem produced recorded (reliable record recorded) succeeded
  · rintro (⟨mem, produced, reliable, usable⟩ | ⟨mem, produced, recorded, reliable, succeeded⟩)
    · exact (hasArtifact_of_produced mem produced).mpr ⟨reliable, usable⟩
    · refine (hasArtifact_of_produced mem produced).mpr ⟨?_, _, recorded, succeeded⟩
      intro record hrecord
      obtain rfl := Option.some.inj (recorded.symm.trans hrecord)
      exact reliable

/-! ### Programs -/

theorem splitColons_eq (cs : List Char) : splitColons cs = cs.splitOn ':' := by
  induction cs with
  | nil => rfl
  | cons c rest ih =>
    rw [splitColons, ih, List.splitOn_eq_splitOnP, List.splitOn_eq_splitOnP,
      List.splitOnP_cons_eq_if_modifyHead]
    cases hrest : rest.splitOnP (· == ':') with
    | nil => exact absurd hrest (List.splitOnP_ne_nil _ _)
    | cons part parts => simp

theorem not_mem_of_mem_splitColons {cs part : List Char} (h : part ∈ splitColons cs) :
    ':' ∉ part := by
  induction cs generalizing part with
  | nil => simp_all [splitColons]
  | cons c rest ih =>
    rw [splitColons] at h
    split at h
    · rcases List.mem_cons.mp h with rfl | h
      · exact List.not_mem_nil
      · exact ih h
    · rename_i hc
      split at h
      · rw [List.mem_singleton.mp h, List.mem_singleton]
        exact Ne.symm hc
      · rename_i first parts hsplit
        rw [hsplit, List.forall_mem_cons] at ih
        rcases List.mem_cons.mp h with rfl | h
        · rw [List.mem_cons, not_or]
          exact ⟨Ne.symm hc, ih.1⟩
        · exact ih.2 _ h

theorem searchDirs_eq_iff {searchPath : String} :
    searchDirs searchPath = dirs ↔ Lists searchPath dirs := by
  constructor
  · rintro rfl
    refine ⟨?_, ?_, ?_⟩
    · simp [searchDirs, splitColons_eq, List.splitOn_ne_nil]
    · intro dir hdir
      obtain ⟨part, hpart, rfl⟩ := List.mem_map.mp hdir
      simpa using not_mem_of_mem_splitColons hpart
    · apply String.toList_injective
      simp [String.toList_intercalate, searchDirs, splitColons_eq, List.intercalate_splitOn]
  · rintro ⟨nonempty, noColon, rfl⟩
    have split : (":".intercalate dirs).toList.splitOn ':' = dirs.map String.toList := by
      rw [String.toList_intercalate]
      apply List.splitOn_intercalate
      · simpa using noColon
      · simpa using nonempty
    rw [searchDirs, splitColons_eq, split, List.map_map]
    simp

theorem isAvailable_iff :
    isAvailable tree (env.var? Variables.searchPath) program = true ↔ Found env tree program := by
  unfold isAvailable
  by_cases slash : '/' ∈ program.toList
  · rw [if_pos slash, isExecutable_iff]
    constructor
    · exact .byPath slash
    · rintro (⟨-, leads⟩ | ⟨noSlash⟩)
      · exact leads
      · exact absurd slash noSlash
  · rw [if_neg slash]
    constructor
    · intro h
      split at h
      · rename_i searchPath hset
        obtain ⟨dir, hdir, leads⟩ := List.any_eq_true.mp h
        exact .searched slash (var?_eq_some_iff.mp hset) (searchDirs_eq_iff.mp rfl) hdir
          (isExecutable_iff.mp leads)
      · cases h
    · rintro (⟨slash', -⟩ | ⟨-, set, lists, hdir, leads⟩)
      · exact absurd slash' slash
      · rw [var?_eq_some_iff.mpr set]
        refine List.any_eq_true.mpr ⟨_, ?_, isExecutable_iff.mpr leads⟩
        rwa [searchDirs_eq_iff.mpr lists]

/-! ### Each precondition -/

theorem flatMap_nameUnless {α : Type} (holds : α → Bool) (name : α → String) (as : List α) :
    (as.flatMap fun a => nameUnless (holds a) (name a)) =
      (as.filter fun a => !holds a).map name := by
  induction as with
  | nil => rfl
  | cons a as ih =>
    rw [List.flatMap_cons, ih]
    cases h : holds a <;> simp [h, nameUnless]

theorem namesOf_camerasPresent_eq_nil_iff :
    namesOf env tree .camerasPresent = [] ↔ Holds registry env run tree .camerasPresent := by
  simp only [namesOf, List.map_eq_nil_iff, List.filter_eq_nil_iff, Option.isNone_iff_eq_none,
    ← ne_eq, Option.ne_none_iff_exists']
  constructor
  · exact .camerasPresent
  · intro h
    cases h with
    | camerasPresent leads => exact leads

theorem failures_camerasPresent :
    failures registry env run tree .camerasPresent = namesOf env tree .camerasPresent := by
  rw [failures, flatMap_nameUnless, namesOf]
  simp [FileTree.pathExists]

/-- What is reported of a precondition tells whether it holds. -/
theorem Reports.eq_nil_iff {pre : Precondition} {names : List String}
    (h : Reports registry env run tree pre names) :
    names = [] ↔ Holds registry env run tree pre := by
  cases h with
  | nothing holds => simp [holds]
  | names fails =>
    cases pre with
    | camerasPresent => exact namesOf_camerasPresent_eq_nil_iff
    | _ => simp [namesOf, fails]

theorem Reports.eq_namesOf {pre : Precondition} {names : List String}
    (h : Reports registry env run tree pre names) (fails : ¬ Holds registry env run tree pre) :
    names = namesOf env tree pre := by
  cases h with
  | nothing holds => exact absurd holds fails
  | names _ => rfl

/-- A precondition with one name reports it unless it is found to hold. -/
theorem reports_nameUnless {pre : Precondition} {holds : Bool} {name : String}
    (decides : holds = true ↔ Holds registry env run tree pre)
    (named : namesOf env tree pre = [name]) :
    Reports registry env run tree pre (nameUnless holds name) := by
  cases h : holds with
  | true => exact .nothing (decides.mp h)
  | false =>
    rw [nameUnless, if_neg (by decide), ← named]
    exact .names fun hold => by simp [decides.mpr hold] at h

theorem reports_failures (pre : Precondition) :
    Reports registry env run tree pre (failures registry env run tree pre) := by
  cases pre with
  | variableSet var =>
    refine reports_nameUnless ?_ rfl
    rw [Option.isSome_iff_exists]
    constructor
    · rintro ⟨value, hvalue⟩
      exact .variableSet (var?_eq_some_iff.mp hvalue)
    · intro h
      cases h with
      | variableSet set => exact ⟨_, var?_eq_some_iff.mpr set⟩
  | devicePresent var =>
    refine reports_nameUnless ?_ rfl
    rw [Option.any_eq_true]
    constructor
    · rintro ⟨device, hdevice, leads⟩
      exact .devicePresent (var?_eq_some_iff.mp hdevice) (pathExists_iff.mp leads)
    · intro h
      cases h with
      | devicePresent set leads =>
        exact ⟨_, var?_eq_some_iff.mpr set, pathExists_iff.mpr leads⟩
  | pathExists path =>
    refine reports_nameUnless ?_ rfl
    rw [pathExists_iff]
    constructor
    · exact .pathExists
    · intro h
      cases h with
      | pathExists leads => exact leads
  | directoryNotEmpty path =>
    refine reports_nameUnless ?_ rfl
    rw [isNonEmptyDirectory_iff]
    constructor
    · exact .directoryNotEmpty
    · intro h
      cases h with
      | directoryNotEmpty filled => exact filled
  | artifact name =>
    refine reports_nameUnless ?_ rfl
    rw [hasArtifact_iff]
    constructor
    · exact .artifact
    · intro h
      cases h with
      | artifact available => exact available
  | camerasPresent =>
    -- each camera reports for itself, so the whole may report anything from nothing to all of them
    rw [failures_camerasPresent]
    by_cases holds : Holds registry env run tree .camerasPresent
    · rw [namesOf_camerasPresent_eq_nil_iff.mpr holds]
      exact .nothing holds
    · exact .names holds
  | commandAvailable program =>
    refine reports_nameUnless ?_ rfl
    rw [isAvailable_iff]
    constructor
    · exact .commandAvailable
    · intro h
      cases h with
      | commandAvailable found => exact found

/-! ### The whole report -/

theorem checkAlone_eq (pre : Precondition) :
    checkAlone registry env run tree s pre = failures registry env run tree pre :=
  List.flatMap_singleton ..

theorem check_eq_nil_iff :
    check registry env run tree s = [] ↔
      ∀ pre ∈ s.preconditions, Holds registry env run tree pre := by
  rw [check, List.flatMap_eq_nil_iff]
  constructor
  · exact fun h pre hpre => (reports_failures pre).eq_nil_iff.mp (h pre hpre)
  · exact fun h pre hpre => (reports_failures pre).eq_nil_iff.mpr (h pre hpre)

/-- A stage reports, in the order of its preconditions, what each of them reports alone: nothing
if it holds, else its names. So it reports nothing exactly if all of them hold; and what one reports
is in the report of every stage that has it. -/
theorem check_reports_each (registry : Registry) (env : Snapshot) (run : Run) (tree : FileTree)
    (s : Stage) :
    check registry env run tree s =
        s.preconditions.flatMap (checkAlone registry env run tree s) ∧
      (∀ pre, Reports registry env run tree pre (checkAlone registry env run tree s pre)) ∧
      (check registry env run tree s = [] ↔
        ∀ pre ∈ s.preconditions, Holds registry env run tree pre) ∧
      ∀ other : Stage, ∀ pre ∈ other.preconditions,
        checkAlone registry env run tree s pre <:+: check registry env run tree other := by
  have alone : checkAlone registry env run tree s = failures registry env run tree :=
    funext checkAlone_eq
  rw [alone]
  refine ⟨rfl, reports_failures, check_eq_nil_iff, ?_⟩
  intro other pre hpre
  obtain ⟨before, after, hsplit⟩ := List.append_of_mem hpre
  rw [check, hsplit, List.flatMap_append, List.flatMap_cons, ← List.append_assoc]
  exact List.infix_append ..

/-! ### A sample -/

namespace Sample

/-- Of the two cameras one is there, and the calibration cannot be listed. -/
def files : FileTree where
  entries := [(["cam0"], .device), (["calibration"], .directory),
    (["calibration", "arm.json"], .file (.text "") 0o644), (["bin"], .directory),
    (["bin", "survey"], .file (.text "") 0o755)]
  here := []
  unreadable := [["calibration"]]

def settings : Settings where
  stateDir := "/state"
  defaultTimeLimit := none
  killGrace := Span.zero
  calibrationDir := "/calibration"
  workflowFile := none

def snapshot : Snapshot :=
  Snapshot.take { Parameters.usual "cubes" with
      cameras := [.usual "front" "/cam0", .usual "top" "/cam1"] }
    settings [("HF_USER", " "), ("PATH", "/usr/bin:/bin")]

def cubes : Run where
  runId := "cubes-1"
  dataset := "cubes"
  stages := [{ name := "gather" }, { name := "fit" }]
  currentIndex := 0
  startedAt := { date := { year := 2024, month := 6, day := 3 }, second := 36000, nanos := 0 }

def survey : Stage where
  name := "survey"
  ordinal := 30
  preconditions := [.variableSet "HF_USER", .camerasPresent, .commandAvailable "survey",
    .directoryNotEmpty "{calibration_dir}", .pathExists "{calibration_dir}", .artifact "scans"]
  command := ⟨"survey", []⟩

end Sample

/-- The missing camera and the directory that cannot be listed are reported by the stage that checks
them among other things, and the path of this directory is not. -/
theorem check_reports_each_survey :
    .camerasPresent ∈ Sample.survey.preconditions ∧
      ["camera:top"] <:+:
        check Registry.Sample.registry Sample.snapshot Sample.cubes Sample.files Sample.survey ∧
    .directoryNotEmpty "{calibration_dir}" ∈ Sample.survey.preconditions ∧
      ["dir:/calibration"] <:+:
        check Registry.Sample.registry Sample.snapshot Sample.cubes Sample.files Sample.survey ∧
    Reports Registry.Sample.registry Sample.snapshot Sample.cubes Sample.files
      (.pathExists "{calibration_dir}") [] := by
  have cameras : .camerasPresent ∈ Sample.survey.preconditions := by decide
  have calibration : .directoryNotEmpty "{calibration_dir}" ∈ Sample.survey.preconditions := by
    decide
  have alone : [Precondition.camerasPresent, .directoryNotEmpty "{calibration_dir}",
      .pathExists "{calibration_dir}"].map (checkAlone Registry.Sample.registry Sample.snapshot
        Sample.cubes Sample.files Registry.Sample.fit) =
          [["camera:top"], ["dir:/calibration"], []] := by decide +kernel
  simp only [List.map_cons, List.map_nil, List.cons.injEq, and_true] at alone
  obtain ⟨hcameras, hcalibration, hpath⟩ := alone
  obtain ⟨-, reports, -, stands⟩ := check_reports_each Registry.Sample.registry Sample.snapshot
    Sample.cubes Sample.files Registry.Sample.fit
  refine ⟨cameras, ?_, calibration, ?_, ?_⟩
  · exact hcameras ▸ stands Sample.survey _ cameras
  · exact hcalibration ▸ stands Sample.survey _ calibration
  · exact hpath ▸ reports _

example :
    check Registry.Sample.registry Sample.snapshot Sample.cubes Sample.files Sample.survey =
      ["env:HF_USER", "camera:top", "dir:/calibration", "artifact:scans"] := by
  decide +kernel

end RobotPipeline.Readiness
