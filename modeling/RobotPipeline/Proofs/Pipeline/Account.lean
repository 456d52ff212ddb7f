/-
  RobotPipeline/Proofs/Pipeline/Account.lean
  ==========================================
  **What is pushed to the hub is qualified by the account.**

  The account is the trimmed value of a variable. With one, the identifiers of
  datasets and policies are qualified by it, and without one they stay bare.
  A stage that checks the variable is not launched without an account.

  Of the two stages of the built-in pipeline that push to the hub only
  `upload` checks it. `train` relies on what was uploaded before, and the
  account may be gone by then.
-/
import RobotPipeline.Proofs.Pipeline.Trust
import RobotPipeline.Proofs.Pipeline.Validity
import RobotPipeline.Proofs.Readiness.Reported
import RobotPipeline.Proofs.Registry.Wellformed
import RobotPipeline.Registry.BuiltIn

namespace RobotPipeline

/-! ### Templates -/

namespace Template

variable {values : Values} {name value : String}

/-- A template without a hole renders to itself. -/
theorem render_plain (template : String) (h : pieces template.toList = template.toList.map .plain) :
    render values template = template := by
  rw [render, h]
  simp [List.flatMap_map, Piece.rendered]

/-- A template that ends in a hole renders to what is before it, and the value of the hole. -/
theorem render_hole (template before : String)
    (h : pieces template.toList = before.toList.map .plain ++ [.hole name.toList])
    (hvalue : values.get? name = some value) : render values template = before ++ value := by
  rw [render, h]
  apply String.toList_injective
  simp [List.flatMap_append, List.flatMap_map, Piece.rendered, hvalue]

end Template

/-! ### The account -/

/-- The account that receives datasets and policies; empty if there is none. -/
def Snapshot.account (env : Snapshot) : String := trimmedVar env.vars Variables.hubUser

/-- A snapshot that was taken of parameters, settings and variables. -/
def Snapshot.IsTaken (env : Snapshot) : Prop :=
  ∃ params settings vars, env = take params settings vars

section Snapshot

variable {env : Snapshot}

theorem Snapshot.IsTaken.repo_id (taken : env.IsTaken) :
    env.values.get? "repo_id" = some (qualified env.account env.params.dataset) := by
  obtain ⟨params, settings, vars, rfl⟩ := taken
  simp [take, derive, Values.get?, account]

theorem Snapshot.IsTaken.policy_repo_id (taken : env.IsTaken) :
    env.values.get? "policy_repo_id" =
      some (qualified env.account (env.params.dataset ++ "-" ++ env.params.policy)) := by
  obtain ⟨params, settings, vars, rfl⟩ := taken
  simp [take, derive, Values.get?, account]

theorem Snapshot.IsTaken.dataset_dir (taken : env.IsTaken) :
    env.values.get? "dataset_dir" = some env.datasetDir := by
  obtain ⟨params, settings, vars, rfl⟩ := taken
  simp [take, derive, Values.get?, datasetDir]

/-- A stage that checks the variable of the account is ready only if there is an account. -/
theorem Readiness.account_ne_empty {registry : Registry} {run : Run} {tree : FileTree} {s : Stage}
    (h : check registry env run tree s = [])
    (checks : .variableSet Variables.hubUser ∈ s.preconditions) : env.account ≠ "" := by
  cases check_eq_nil_iff.mp h _ checks with
  | variableSet set =>
    rw [Snapshot.account, Snapshot.trimmedVar, set.value_eq]
    exact set.trimText_ne_empty

end Snapshot

/-! ### The stages that push to the hub -/

namespace Registry

theorem stages_builtIn {r : Registry} (h : builtIn = .ok r) : r.stages = BuiltIn.stages := by
  have sorted : BuiltIn.stages.Pairwise (fun a b => before a b = true) := by decide
  rw [stages_of_ofStages h, List.mergeSort_of_pairwise sorted]

end Registry

section Arguments

variable {env : Snapshot}

theorem Snapshot.IsTaken.arguments_upload (taken : env.IsTaken) :
    env.arguments Registry.BuiltIn.upload =
      ["huggingface-cli", "upload", qualified env.account env.params.dataset, env.datasetDir,
        "--repo-type=dataset"] := by
  have repoId : Template.render env.values "{repo_id}" =
      "" ++ qualified env.account env.params.dataset :=
    Template.render_hole _ _ (by decide +kernel) taken.repo_id
  have datasetDir : Template.render env.values "{dataset_dir}" = "" ++ env.datasetDir :=
    Template.render_hole _ _ (by decide +kernel) taken.dataset_dir
  have program : Template.render env.values "huggingface-cli" = "huggingface-cli" :=
    Template.render_plain _ (by decide +kernel)
  have upload : Template.render env.values "upload" = "upload" :=
    Template.render_plain _ (by decide +kernel)
  have repoType : Template.render env.values "--repo-type=dataset" = "--repo-type=dataset" :=
    Template.render_plain _ (by decide +kernel)
  simp [arguments, Registry.BuiltIn.upload, Command.render, Command.parts, repoId, datasetDir,
    program, upload, repoType]

theorem Snapshot.IsTaken.getLast?_arguments_train (taken : env.IsTaken) :
    (env.arguments Registry.BuiltIn.train).getLast? =
      some ("--policy.repo_id=" ++
        qualified env.account (env.params.dataset ++ "-" ++ env.params.policy)) := by
  have repoId := Template.render_hole "--policy.repo_id={policy_repo_id}" "--policy.repo_id="
    (by decide +kernel) taken.policy_repo_id
  simp [arguments, Registry.BuiltIn.train, Command.render, Command.parts, repoId]

end Arguments

namespace Pipeline

variable {σ : Type} {p : Pipeline} {executor : Executor σ} {w : World σ} {d : Drive}
  {env : Snapshot} {past future : List Event} {l : Launch}

/-- The environment of an invocation is taken of variables, also where it is given. -/
def Drive.Takes : Drive → Prop
  | executeWith env => env.IsTaken
  | retryWith env _ _ => env.IsTaken
  | _ => True

theorem Drive.Takes.isTaken {tree : FileTree} (takes : d.Takes) (henv : d.env? p tree = some env) :
    env.IsTaken := by
  cases d with
  | execute vars params =>
    cases henv
    exact ⟨_, _, _, rfl⟩
  | executeWith env' =>
    cases henv
    exact takes
  | retry vars dataset stage force =>
    cases hload : p.load tree dataset with
    | error e => simp [env?, hload] at henv
    | ok run =>
      obtain rfl := Option.some.inj ((env?_retry hload vars stage force).symm.trans henv)
      exact ⟨_, _, _, rfl⟩
  | retryWith env' stage force =>
    cases henv
    exact takes

/-- A stage that an invocation launches is one of the pipeline that has passed its checks. -/
theorem Drive.exists_ready
    (h : ((d.act p executor).perform w).2.since w = past ++ .launched l :: future) :
    ∃ env s run files, d.env? p w.files = some env ∧ s ∈ p.registry.stages ∧
      Readiness.check p.registry env run files s = [] ∧ l.stage = s.name ∧
      l.arguments = env.arguments s := by
  have cut : past ++ [.launched l] <+: ((d.act p executor).perform w).2.since w := by
    rw [h]
    exact ⟨future, by simp⟩
  obtain ⟨d', env, start, sofar, run, s, hd, henv, opened, rfl, trace⟩ :=
    (Request.story p executor (.drive d) w).exists_marked cut
  cases hd
  obtain ⟨-, before, record, after, stand, -⟩ := (trace.sound opened.atRest.sound).stands
  obtain ⟨-, files, earlier, -, -, ready, -⟩ := trace.exists_checks
  obtain ⟨_, _, -, rfl⟩ := trace.launch_eq
  exact ⟨env, s, earlier, files, henv, List.mem_of_getElem? stand.stage, ready, rfl, rfl⟩

/-- A dataset is uploaded under an account, always. A policy is trained under an account if there is
one. -/
theorem qualified_of_launched (builtIn : Registry.builtIn = .ok p.registry) (takes : d.Takes)
    (h : ((d.act p executor).perform w).2.since w = past ++ .launched l :: future) :
    ∃ env, d.env? p w.files = some env ∧
      (l.stage = "upload" → env.account ≠ "" ∧
        l.arguments = ["huggingface-cli", "upload", env.account ++ "/" ++ env.params.dataset,
          env.datasetDir, "--repo-type=dataset"]) ∧
      (l.stage = "train" → env.account ≠ "" →
        l.arguments.getLast? = some ("--policy.repo_id=" ++
          (env.account ++ "/" ++ (env.params.dataset ++ "-" ++ env.params.policy)))) := by
  obtain ⟨env, s, run, files, henv, hs, ready, hstage, harguments⟩ := Drive.exists_ready h
  have taken := takes.isTaken henv
  rw [Registry.stages_builtIn builtIn] at hs
  refine ⟨env, henv, ?_, ?_⟩
  · intro hname
    have only : ∀ s ∈ Registry.BuiltIn.stages, s.name = "upload" → s = Registry.BuiltIn.upload := by
      decide
    obtain rfl := only s hs (hstage.symm.trans hname)
    have account := Readiness.account_ne_empty ready (by decide)
    refine ⟨account, ?_⟩
    rw [harguments, taken.arguments_upload, Snapshot.qualified, if_neg account]
  · intro hname account
    have only : ∀ s ∈ Registry.BuiltIn.stages, s.name = "train" → s = Registry.BuiltIn.train := by
      decide
    obtain rfl := only s hs (hstage.symm.trans hname)
    rw [harguments, taken.getLast?_arguments_train, Snapshot.qualified, if_neg account]

/-! ### Samples -/

namespace Sample

def hubPipeline : Pipeline where
  registry := {
    stages := Registry.BuiltIn.stages
    nonempty := by decide
    sorted := by decide
    checked := by decide +kernel }
  settings := pipeline.settings

def hubParams (included : List String) : Parameters :=
  { Parameters.usual "cubes" with included := included }

/-- A run with the stages before a place done. -/
def advance (place : Nat) (run : Run) : Run :=
  { run with
    stages := (run.stages.take place).map (fun r => { r with status := .succeeded }) ++
      run.stages.drop place }

def doneTo (place : Nat) (included : List String) : Run :=
  advance place (Run.forRegistry noon hubPipeline.registry (hubParams included))

/-- A disk with tools, a dataset and the record of a run. -/
def hubWorld (run : Run) : World Unit :=
  { world with files := {
      entries := [
        (["bin"], .directory), (["bin", "huggingface-cli"], .file (.text "") 0o755),
        (["bin", "lerobot-train"], .file (.text "") 0o755),
        (["state"], .directory), (["state", "datasets"], .directory),
        (["state", "datasets", "cubes"], .directory),
        (["state", "datasets", "cubes", "episode"], .file (.text "") FileTree.privateMode),
        (["state", "runs"], .directory),
        (["state", "runs", "cubes.json"], .file (.text (Ledger.encode run)) FileTree.privateMode)]
      here := [] } }

/-- The environment of an invocation that finds the tools, with other variables. -/
def hubEnv (included : List String) (vars : Variables) : Snapshot :=
  Snapshot.take (hubParams included) hubPipeline.settings (("PATH", "/bin") :: vars)

/-- The last argument that a stage is launched with. -/
def lastArgument? (stage : String) (events : List Event) : Option String :=
  events.findSome? fun
    | .launched l => if l.stage = stage then l.arguments.getLast? else none
    | _ => none

end Sample

theorem builtIn_eq_ok : Registry.builtIn = .ok Sample.hubPipeline.registry := by
  obtain ⟨r, hr⟩ := Registry.exists_ofStages_iff.mpr Sample.hubPipeline.registry.wellformed
  have same : r = Sample.hubPipeline.registry :=
    Registry.eq_of_perm (by rw [Registry.stages_builtIn hr]; exact List.Perm.refl _)
  rw [← same]
  exact hr

theorem names_advance (place : Nat) (run : Run) : (Sample.advance place run).names = run.names := by
  simp only [Run.names, Sample.advance, List.map_append, List.map_map, Function.comp_def]
  rw [← List.map_append, List.take_append_drop]

theorem load_doneTo {place : Nat} {included : List String} (vars : Variables)
    (unviolated : (Sample.doneTo place included).orderViolation? = none) :
    Sample.hubPipeline.load (Sample.hubWorld (Sample.doneTo place included)).files
        (Sample.hubEnv included vars).params.dataset =
      .ok (Sample.doneTo place included).recover := by
  change Sample.hubPipeline.load _ "cubes" = _
  have rest := atRest_forRegistry Sample.hubPipeline Sample.noon (Sample.hubParams included)
  have names_eq : (Sample.doneTo place included).names = Sample.hubPipeline.registry.names :=
    (names_advance place _).trans rest.names_eq
  have dataset_eq : (Sample.doneTo place included).dataset = "cubes" := rest.dataset_eq
  have indexed : (Sample.doneTo place included).currentIndex ≤
      (Sample.doneTo place included).stages.length := by
    have same := congrArg List.length (names_advance place
      (Run.forRegistry Sample.noon Sample.hubPipeline.registry (Sample.hubParams included)))
    simp only [Run.names, List.length_map] at same
    rw [Sample.doneTo, same]
    exact Run.currentIndex_refresh_le _ _
  have ordered := (Run.orderViolation?_eq_none_iff _).mp unviolated
  generalize Sample.doneTo place included = run at dataset_eq names_eq indexed ordered ⊢
  have reads : (Sample.hubWorld run).files.readText
      (Sample.hubPipeline.ledger.snapshotPath "cubes") = .ok (Ledger.encode run) := rfl
  rw [← dataset_eq] at reads ⊢
  exact load_of_encode reads names_eq ordered indexed

/-- With an account the dataset is uploaded, and later the policy is trained, under it. -/
theorem qualified_of_sample :
    ∃ upload train : Launch,
      upload.arguments = ["huggingface-cli", "upload", "lab/cubes", "/state/datasets/cubes",
        "--repo-type=dataset"] ∧
      train.arguments.getLast? = some "--policy.repo_id=lab/cubes-act" := by
  have takes : ∀ included stage, (Drive.retryWith
      (Sample.hubEnv included [("HF_USER", " lab ")]) stage false).Takes :=
    fun _ _ => ⟨_, _, _, rfl⟩
  have uploads : (((Sample.hubPipeline.retryWith (Sample.executor "none")
      (Sample.hubEnv [] [("HF_USER", " lab ")]) "upload" false).perform
        (Sample.hubWorld (Sample.doneTo 6 []))).2.since (Sample.hubWorld (Sample.doneTo 6 []))).any
          (Sample.isLaunchOf "upload") = true := by
    rw [retryWith_of_load (load_doneTo _ (by decide +kernel))]
    decide +kernel
  have trains : (((Sample.hubPipeline.retryWith (Sample.executor "none")
      (Sample.hubEnv ["train"] [("HF_USER", " lab ")]) "train" false).perform
        (Sample.hubWorld (Sample.doneTo 8 ["train"]))).2.since
          (Sample.hubWorld (Sample.doneTo 8 ["train"]))).any (Sample.isLaunchOf "train") = true := by
    rw [retryWith_of_load (load_doneTo _ (by decide +kernel))]
    decide +kernel
  obtain ⟨past, upload, future, hsplit, hupload⟩ := exists_launch uploads
  obtain ⟨past', train, future', hsplit', htrain⟩ := exists_launch trains
  obtain ⟨env, henv, uploaded, -⟩ := qualified_of_launched builtIn_eq_ok (takes _ _) hsplit
  obtain ⟨env', henv', -, trained⟩ := qualified_of_launched builtIn_eq_ok (takes _ _) hsplit'
  obtain rfl := Option.some.inj henv
  obtain rfl := Option.some.inj henv'
  refine ⟨upload, train, ?_, ?_⟩
  · rw [(uploaded hupload).2]
    decide +kernel
  · rw [trained htrain (by decide +kernel)]
    decide +kernel

/-- Without an account a policy is still trained, and pushed under its bare name. -/
theorem not_qualified :
    Registry.builtIn = .ok Sample.hubPipeline.registry ∧ (Sample.hubParams ["train"]).Valid ∧
      Sample.lastArgument? "train" (((Drive.retryWith (Sample.hubEnv ["train"] []) "train" false).act
        Sample.hubPipeline (Sample.executor "none")).perform
          (Sample.hubWorld (Sample.doneTo 8 ["train"]))).2.journal =
            some "--policy.repo_id=cubes-act" := by
  refine ⟨builtIn_eq_ok, by decide, ?_⟩
  rw [Drive.act, retryWith_of_load (load_doneTo [] (by decide +kernel))]
  decide +kernel

end Pipeline

end RobotPipeline
