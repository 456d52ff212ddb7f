/-
  RobotPipeline/Proofs/Pipeline/Confined.lean
  ===========================================
  **Which snapshot a request comes near.**

  A request looks up, writes and moves the snapshot at one path, the one that
  the ledger makes of the name it is given: what it does and gives can be told
  from any files that read the same there, and the files that it leaves come
  from those that it found by steps that touch no other snapshot.

  With a valid name this path is that of a file in the directory of the ledger.
  An execution makes sure that the name is valid. The other requests do not,
  and a name like `../escape` takes them out of the directory.
-/
import RobotPipeline.Proofs.Pipeline.Refused
import RobotPipeline.Proofs.Pipeline.Report

namespace RobotPipeline

namespace Ledger

variable {σ : Type} {l : Ledger} {tree : FileTree} {dataset : String}

/-! ### The path of a snapshot -/

/-- The path of the snapshot of a dataset is that of a name in the directory of the ledger, and on
no disk does it lead to anything else. -/
structure IsChild (l : Ledger) (dataset : String) : Prop where
  valid : Parameters.isDatasetName dataset = true
  parts_eq : Path.parts (l.snapshotPath dataset) = Path.above l.dir ++ [dataset ++ ".json"]
  leads : ∀ (tree : FileTree) (spot : FileTree.Spot),
    tree.locate false (l.snapshotPath dataset) = .ok spot →
      ∃ loc, tree.IsAt l.dir loc ∧ spot = tree.spotAt (loc ++ [dataset ++ ".json"])

theorem isChild_of_isDatasetName (valid : Parameters.isDatasetName dataset = true) :
    l.IsChild dataset := by
  have hname := Path.isName_json (Path.isSafe_of_isDatasetName valid)
  refine ⟨valid, Path.parts_join hname l.dir, ?_⟩
  intro tree spot hspot
  obtain ⟨loc, isAt, hlen, hpath⟩ := FileTree.exists_isAt hname hspot
  exact ⟨loc, isAt, Except.ok.inj (hspot.symm.trans (isAt.locate_join hname hlen hpath))⟩

/-! ### Writing and moving -/

/-- Files that others become while the snapshot at one path is written or moved to the archive, and
commands are run. -/
inductive Touched (l : Ledger) (executor : Executor σ) (path : String) (tree : FileTree) :
    FileTree → Prop where
  | found : Touched l executor path tree tree
  | made {files after : FileTree} {dir : String} (h : Touched l executor path tree files)
      (hdir : dir = l.dir ∨ dir = l.archiveDir) (hmade : files.makeDirectories dir = .ok after) :
      Touched l executor path tree after
  | replaced {files after : FileTree} {content : Content} (h : Touched l executor path tree files)
      (hreplaced : files.replace path content = .ok after) : Touched l executor path tree after
  | moved {files after : FileTree} {name : String} (h : Touched l executor path tree files)
      (hmoved : files.rename path (Path.join l.archiveDir name) = .ok after) :
      Touched l executor path tree after
  | launched {w : World σ} (h : Touched l executor path tree w.files) (launch : Launch) :
      Touched l executor path tree ((executor launch).perform w).2.files

theorem Touched.write {executor : Executor σ} {files after : FileTree} {run : Run}
    (h : l.Touched executor (l.snapshotPath run.dataset) tree files)
    (hwrite : l.write files run = .ok after) :
    l.Touched executor (l.snapshotPath run.dataset) tree after := by
  unfold Ledger.write at hwrite
  cases hmade : files.makeDirectories l.dir with
  | error cause => simp [hmade, bind, Except.bind] at hwrite
  | ok made =>
    simp only [hmade, bind, Except.bind] at hwrite
    exact (h.made (.inl rfl) hmade).replaced hwrite

/-! ### Looking -/

/-- Two disks look the same at the path of a snapshot. -/
structure LooksLike (l : Ledger) (dataset : String) (tree tree' : FileTree) : Prop where
  present : l.hasSnapshot tree dataset = l.hasSnapshot tree' dataset
  text : tree.readText (l.snapshotPath dataset) = tree'.readText (l.snapshotPath dataset)

theorem LooksLike.archiveName_eq {tree' : FileTree} (h : l.LooksLike dataset tree tree')
    (now : Instant) : l.archiveName tree now dataset = l.archiveName tree' now dataset := by
  unfold archiveName load
  rw [h.text]

end Ledger

namespace Pipeline

open RobotPipeline.Action

variable {σ : Type} {p : Pipeline} {executor : Executor σ} {dataset : String} {env : Snapshot}
  {tree tree' : FileTree} {w : World σ}

/-! ### What is made of a record -/

/-- What a restart may give, seen from files in which the snapshot may be. -/
inductive RestartStory (p : Pipeline) (dataset : String) (tree : FileTree) (now : Instant) :
    Except Failure (Option String) → Prop where
  | nothing (absent : p.ledger.hasSnapshot tree dataset = false) :
      RestartStory p dataset tree now (.ok none)
  | unnamed {e : LedgerError} (present : p.ledger.hasSnapshot tree dataset = true)
      (h : p.ledger.archiveName tree now dataset = .error e) :
      RestartStory p dataset tree now (.error (.ledger e))
  | unmoved {name : String} {cause : IoError}
      (present : p.ledger.hasSnapshot tree dataset = true)
      (h : p.ledger.archiveName tree now dataset = .ok name) :
      RestartStory p dataset tree now (.error (.ledger (.io cause)))
  | moved {name target : String} {last : Nat}
      (present : p.ledger.hasSnapshot tree dataset = true)
      (h : p.ledger.archiveName tree now dataset = .ok name)
      (tried : Ledger.IsTried name last target) :
      RestartStory p dataset tree now (.ok (some (Path.join p.ledger.archiveDir target)))

/-- What a request does and gives in a world is told by some files: with the record that they hold
it might have done and given the same. -/
def Request.ToldBy (p : Pipeline) (executor : Executor σ) (w : World σ) (tree : FileTree) :
    Request → Prop
  | drive d =>
    p.Story d tree (((d.act p executor).perform w).2.since w) ((d.act p executor).perform w).1
  | skip dataset stage =>
    p.SkipStory dataset stage tree (((p.skip dataset stage).perform w).2.since w) ∧
      ∀ run, ((p.skip dataset stage).perform w).1 = .ok run →
        ((p.skip dataset stage).perform w).2.since w = [.saved run]
  | restart dataset =>
    p.RestartStory dataset tree (w.clock w.readings) ((p.restart dataset).perform w).1
  | status dataset => ((p.status dataset).perform w).1 = p.load tree dataset

theorem perform_restart (dataset : String) (w : World σ) :
    (p.restart dataset).perform w =
      match p.ledger.archive w.files (w.clock w.readings) dataset with
      | .error e => (.error (.ledger e), { w with readings := w.readings + 1 })
      | .ok (path, files) => (.ok path, { w with readings := w.readings + 1, files := files }) := by
  simp only [restart, perform_bind, perform_now, perform_get]
  cases p.ledger.archive w.files (w.clock w.readings) dataset <;> rfl

/-- A request is told by the files that it finds. -/
theorem Request.toldBy_files (p : Pipeline) (executor : Executor σ) (w : World σ) (r : Request) :
    r.ToldBy p executor w w.files := by
  cases r with
  | drive d => exact (d.story p executor w).2
  | skip dataset stage =>
    constructor
    · obtain ⟨events, hjournal, story⟩ := p.skip_story dataset stage w
      rwa [World.since_eq hjournal]
    · intro run hrun
      obtain ⟨-, -, -, -, -, hsince⟩ := skip_eq_ok p dataset stage w run hrun
      exact hsince
  | restart dataset =>
    have archives := p.ledger.archives_archive w.files (w.clock w.readings) dataset
    rw [ToldBy, perform_restart]
    generalize p.ledger.archive w.files (w.clock w.readings) dataset = archived at archives ⊢
    cases archives with
    | nothing absent => exact .nothing absent
    | unnamed present h => exact .unnamed present h
    | unmoved present h => exact .unmoved present h
    | moved present h tried _ _ => exact .moved present h tried
  | status dataset => rfl

theorem Drive.env?_congr {d : Drive} (h : p.load tree d.dataset = p.load tree' d.dataset) :
    d.env? p tree' = d.env? p tree := by
  cases d with
  | execute vars params => rfl
  | executeWith env => rfl
  | retryWith env stage force => rfl
  | retry vars asked stage force =>
    have hload : p.load tree asked = p.load tree' asked := h
    simp only [env?, hload]

theorem Opened.congr {run : Run} (opened : p.Opened tree env run)
    (h : p.load tree env.params.dataset = p.load tree' env.params.dataset) :
    p.Opened tree' env run := by
  cases opened with
  | resumed now hload => exact .resumed now (h.symm.trans hload)
  | started now hload => exact .started now (h.symm.trans hload)
  | reset now hload hreset => exact .reset now (h.symm.trans hload) hreset

theorem Drive.Accepts.congr {retried : Option (String × Bool)}
    (accepts : Drive.Accepts p tree env retried)
    (h : p.load tree env.params.dataset = p.load tree' env.params.dataset) :
    Drive.Accepts p tree' env retried := by
  cases retried with
  | none => simpa only [Accepts, h] using accepts
  | some stage => simpa only [Accepts, h] using accepts

/-- An invocation that keeps to its dataset goes by the record of the dataset only. -/
theorem Story.congr {d : Drive} {events : List Event} {result : Except Failure Run}
    (story : p.Story d tree events result)
    (own : ∀ env, d.env? p tree = some env → env.params.dataset = d.dataset)
    (h : p.load tree d.dataset = p.load tree' d.dataset) : p.Story d tree' events result := by
  have henv' := Drive.env?_congr h
  cases story with
  | rejected rejects =>
    -- with the same record it would be accepted in both or in none
    apply Story.rejected
    rintro ⟨env, henv, accepts⟩
    rw [henv'] at henv
    rw [← own env henv] at h
    exact rejects ⟨env, henv, accepts.congr h.symm⟩
  | refused henv opened why =>
    rw [← own _ henv] at h
    exact .refused (henv'.trans henv) (opened.congr h) why
  | driven henv opened trace ends =>
    rw [← own _ henv] at h
    exact .driven (henv'.trans henv) (opened.congr h) trace ends

theorem SkipStory.congr {stage : String} {events : List Event}
    (story : p.SkipStory dataset stage tree events)
    (h : p.load tree dataset = p.load tree' dataset) : p.SkipStory dataset stage tree' events := by
  have hrun : ∀ made, p.runToSkip made tree' dataset = p.runToSkip made tree dataset := by
    intro made
    unfold runToSkip
    rw [h]
  cases story with
  | rejected => exact .rejected
  | refused made now hfound hs hstatus why =>
    exact .refused made now ((hrun made).trans hfound) hs hstatus why
  | skipped made now hfound hs hstatus =>
    exact .skipped made now ((hrun made).trans hfound) hs hstatus

theorem RestartStory.congr {now : Instant} {result : Except Failure (Option String)}
    (story : p.RestartStory dataset tree now result) (h : p.ledger.LooksLike dataset tree tree') :
    p.RestartStory dataset tree' now result := by
  have hpresent := h.present
  have hname := h.archiveName_eq now
  cases story with
  | nothing absent => exact .nothing (hpresent.symm.trans absent)
  | unnamed present named => exact .unnamed (hpresent.symm.trans present) (hname.symm.trans named)
  | unmoved present named => exact .unmoved (hpresent.symm.trans present) (hname.symm.trans named)
  | moved present named tried =>
    exact .moved (hpresent.symm.trans present) (hname.symm.trans named) tried

/-! ### Confinement -/

/-- What a request has to do with snapshots is confined to the one of a dataset. -/
structure Confined (p : Pipeline) (executor : Executor σ) (dataset : String) (r : Request)
    (w : World σ) : Prop where
  looks : ∀ tree : FileTree, p.ledger.LooksLike dataset w.files tree → r.ToldBy p executor w tree
  touches : p.ledger.Touched executor (p.ledger.snapshotPath dataset) w.files
    (r.answer p executor w).files

theorem kept_touched (tree : FileTree) :
    p.Kept executor dataset (fun w : World σ =>
      p.ledger.Touched executor (p.ledger.snapshotPath dataset) tree w.files) := by
  apply Kept.of_files
  · rintro run files after rfl touched hwrite
    exact touched.write hwrite
  · exact fun l w touched => touched.launched l

theorem touched_restart : p.ledger.Touched executor (p.ledger.snapshotPath dataset) w.files
    ((p.restart dataset).perform w).2.files := by
  have archives := p.ledger.archives_archive w.files (w.clock w.readings) dataset
  rw [perform_restart]
  generalize p.ledger.archive w.files (w.clock w.readings) dataset = archived at archives ⊢
  cases archives with
  | nothing _ => exact .found
  | unnamed _ _ => exact .found
  | unmoved _ _ => exact .found
  | moved _ _ _ hmade hmoved => exact (Ledger.Touched.found.made (.inr rfl) hmade).moved hmoved

/-- A request that names a dataset is confined to its snapshot, unless what is on record leads it to
another dataset. -/
theorem Request.confined {r : Request} (names : r.Names dataset)
    (keeps : ∀ d, r = .drive d → d.KeepsTo p w.files) : p.Confined executor dataset r w := by
  have told := r.toldBy_files p executor w
  constructor
  · intro tree same
    have hload := load_congr same.text
    -- only a retry takes its dataset off the record, so only a drive has to keep to it
    rcases names with about | rfl
    · cases about with
      | @drive d about =>
        subst about
        exact Story.congr told (keeps d rfl).own hload
      | skip => exact ⟨told.1.congr hload, told.2⟩
      | status => exact Eq.trans told hload
    · exact RestartStory.congr told same
  · rcases names with about | rfl
    · cases about with
      | @drive d about =>
        subst about
        exact Drive.keeps (kept_touched w.files) (keeps d rfl).own .found
      | @skip stage => exact (keeps_skip (kept_touched w.files) stage w .found).1
      | status => exact .found
    · exact touched_restart

/-! ### Names that are checked -/

/-- A request checks the name of its dataset before it does anything else. -/
def Request.ChecksName : Request → Prop
  | .drive d => d.retried? = none
  | _ => False

/-- An execution under a name that is not valid is refused, whatever the world is like. -/
theorem Drive.perform_of_badName {d : Drive} (executor : Executor σ) (fresh : d.retried? = none)
    (bad : Parameters.isDatasetName d.dataset = false) (w : World σ) :
    (d.act p executor).perform w =
      (.error (.invalidParameter (Parameters.Invalid.datasetName d.dataset).message), w) := by
  cases d with
  | execute vars params =>
    have bad : Parameters.isDatasetName params.dataset = false := bad
    simp [act, Pipeline.execute, perform_bind, validate, Parameters.validate, bad, dataset]
  | executeWith env =>
    have bad : Parameters.isDatasetName env.params.dataset = false := bad
    simp [act, Pipeline.executeWith, perform_bind, validate, Parameters.validate, bad, dataset]
  | retry vars asked stage force => cases fresh
  | retryWith env stage force => cases fresh

/-- A request that checks the name of its dataset, or is given a valid one, is refused for that name
in every world, or it is confined to the snapshot of the dataset, and this is a file in the
directory of the ledger; unless what is on record leads it to another dataset. -/
theorem refused_or_confined (executor : Executor σ) (w : World σ) {r : Request}
    (names : r.Names dataset)
    (checked : r.ChecksName ∨ Parameters.isDatasetName dataset = true)
    (keeps : ∀ d, r = .drive d → d.KeepsTo p w.files) :
    (∃ d, r = .drive d ∧ ∀ w' : World σ, (d.act p executor).perform w' =
      (.error (.invalidParameter (Parameters.Invalid.datasetName dataset).message), w')) ∨
    (p.ledger.IsChild dataset ∧ p.Confined executor dataset r w) := by
  cases hvalid : Parameters.isDatasetName dataset with
  | true => exact .inr ⟨Ledger.isChild_of_isDatasetName hvalid, Request.confined names keeps⟩
  | false =>
    have checks : r.ChecksName := checked.resolve_right (by simp [hvalid])
    rcases names with about | rfl
    · cases about with
      | @drive d about =>
        subst about
        exact .inl ⟨d, rfl, Drive.perform_of_badName executor checks hvalid⟩
      | skip => cases checks
      | status => cases checks
    · cases checks

/-! ### Samples -/

/-- An execution under a name that leads out is refused, and a restart under a valid name is
confined. -/
theorem confined_of_sample :
    (∀ w : World Unit, (Sample.pipeline.execute (Sample.executor "none") []
      (.usual "../escape")).perform w =
        (.error (.invalidParameter (Parameters.Invalid.datasetName "../escape").message), w)) ∧
    Sample.pipeline.Confined (Sample.executor "none") "cubes" (.restart "cubes")
      { Sample.world with files := Sample.recorded "nothing" } := by
  constructor
  · intro w
    rcases refused_or_confined (p := Sample.pipeline) (Sample.executor "none") w
      (r := .drive (.execute [] (.usual "../escape"))) (.inl (.drive rfl)) (.inl rfl)
      (by rintro d ⟨⟩; trivial) with ⟨d, hd, refused⟩ | ⟨child, -⟩
    · cases hd
      exact refused w
    · exact absurd child.valid (by decide)
  · rcases refused_or_confined (p := Sample.pipeline) (Sample.executor "none")
      { Sample.world with files := Sample.recorded "nothing" } (r := .restart "cubes") (.inr rfl)
      (.inr (by decide)) (by simp) with ⟨d, hd, -⟩ | ⟨-, confined⟩
    · cases hd
    · exact confined

namespace Sample

/-- A world with a file beside the directory of the ledger. -/
def outside (text : String) : World Unit :=
  { world with
    files := {
      entries := [(["state"], .directory), (["state", "runs"], .directory),
        (["state", "escape.json"], .file (.text text) FileTree.privateMode)]
      here := [] } }

end Sample

theorem readText_outside (text : String) : (Sample.outside text).files.readText
    (Sample.pipeline.ledger.snapshotPath "../escape") = .ok text := rfl

/-- Under a name that leads out of the directory of the ledger a run is shown that is recorded
outside, and a file outside is moved; and under a valid name a retry looks outside for a run, when
the parameters on record say so. -/
theorem not_confined :
    ¬ Sample.pipeline.ledger.IsChild "../escape" ∧
    ((Sample.pipeline.status "../escape").perform (Sample.outside
      (Ledger.encode (Sample.lostRun "../escape" "../escape")))).1 =
        .ok (Sample.lostRun "../escape" "../escape") ∧
    (Sample.outside "nothing").files.get? ["state", "escape.json"] ≠ none ∧
    ((Sample.pipeline.restart "../escape").perform (Sample.outside "nothing")).2.files.get?
      ["state", "escape.json"] = none ∧
    ((Sample.pipeline.retry (Sample.executor "none") [] "alpha" "record" false).perform
      (Sample.bothRecorded "../escape" false)).1 = .error (.ledger (.notFound "../escape")) := by
  refine ⟨?_, ?_, by decide +kernel, by decide +kernel, ?_⟩
  · intro child
    exact absurd child.valid (by decide)
  · have hload := load_lostRun (readText_outside (Ledger.encode
      (Sample.lostRun "../escape" "../escape")))
    rw [perform_status, hload]
  · have halpha : Sample.pipeline.load (Sample.bothRecorded "../escape" false).files "alpha" =
        .ok (Sample.lostRun "alpha" "../escape") := load_lostRun (readText_shelf _ _).1
    rw [retry_of_load halpha]
    have hload : Sample.pipeline.load (Sample.bothRecorded "../escape" false).files "../escape" =
        .error (.ledger (.notFound "../escape")) := load_eq_notFound_iff.mpr ⟨rfl, rfl⟩
    have hdataset : (Snapshot.take (((Sample.lostRun "alpha" "../escape").parameters.getD
      (.usual "alpha")).withoutPorts) Sample.pipeline.settings []).params.dataset =
        "../escape" := rfl
    unfold retryWith
    rw [perform_bind, perform_status, hdataset, hload]

end Pipeline

end RobotPipeline
