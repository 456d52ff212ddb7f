/-
  RobotPipeline/Proofs/Stage/Written.lean
  =======================================
  **Declarations read back from their JSON text, and make the same registry.**

  A check and a time limit are written with a tag and the fields of their kind
  in one record. The tag is taken out of it by name, and what is left has the
  fields of that kind only (`tagged?_fields`); so every kind reads back as
  itself. A registry lists its stages in pipeline order, and sorting and
  checking them again changes nothing.
-/
import RobotPipeline.CommandLine.Listing
import RobotPipeline.Proofs.Run.Written

namespace RobotPipeline

open Source Parts

/-! ### Tags -/

namespace Datum

/-- The tag of a choice is found beside its fields, and the fields without it. -/
theorem tagged?_fields {tag : String} {fs : List (String × Datum)} (h : ∀ f ∈ fs, f.1 ≠ tag)
    (name : String) :
    tagged? tag (Datum.fields ((tag, .text name) :: fs)) = some (name, Datum.fields fs) := by
  have found : (((tag, Datum.text name) :: fs).map fun f => (Key.named f.1, f.2)).filter
      (fun f => f.1 = .named tag) = [(.named tag, .text name)] := by
    rw [List.map_cons, List.filter_cons_of_pos (by simp), List.cons.injEq, List.filter_eq_nil_iff,
      List.forall_mem_map]
    exact ⟨rfl, fun f hf => by simpa using h f hf⟩
  have rest : (((tag, Datum.text name) :: fs).map fun f => (Key.named f.1, f.2)).filter
      (fun f => f.1 ≠ .named tag) = fs.map fun f => (Key.named f.1, f.2) := by
    rw [List.map_cons, List.filter_cons_of_neg (by simp), List.filter_eq_self, List.forall_mem_map]
    exact fun f hf => by simpa using h f hf
  change taggedParts? tag (Datum.fields ((tag, .text name) :: fs)) = _
  simp only [taggedParts?, Datum.fields, found, rest]

theorem record?_field (name : String) (d : Datum) :
    record? [name] (Datum.fields [(name, d)]) = some ⟨[(name, d)], false⟩ :=
  record?_fields rfl (by simp)

end Datum

/-! ### Parts of a declaration -/

namespace Precondition

/-- A check with one field is read as the kind that its tag stands for. -/
theorem read?_only {tag name : String} {make : String → Precondition} (hname : name ≠ tagName)
    (kind : ∀ d, ofTag? tag d = only? name make d) (s : String) :
    read? (Datum.fields [(tagName, .text tag), (name, .text s)]) = some (make s) := by
  have get : (Parts.mk [(name, Datum.text s)] false).get? name = some (.text s) := by simp [get?]
  have text : text? (Datum.text s) = some s := rfl
  rw [read?, Datum.tagged?_fields (List.forall_mem_singleton.mpr hname)]
  simp only [kind]
  rw [only?, bind_of_eq_some (Datum.record?_field name _), required_eq get text]
  rfl

theorem read?_toDatum (c : Precondition) : read? c.toDatum = some c := by
  cases c with
  | variableSet var => exact read?_only (by decide) (fun _ => rfl) var
  | devicePresent var => exact read?_only (by decide) (fun _ => rfl) var
  | pathExists path => exact read?_only (by decide) (fun _ => rfl) path
  | directoryNotEmpty path => exact read?_only (by decide) (fun _ => rfl) path
  | artifact name => exact read?_only (by decide) (fun _ => rfl) name
  | camerasPresent =>
    rw [read?, toDatum, Datum.tagged?_fields (List.forall_mem_nil _)]
    rfl
  | commandAvailable program => exact read?_only (by decide) (fun _ => rfl) program

end Precondition

namespace TimeLimit

theorem read?_only {tag name : String} {make : UInt64 → TimeLimit} (hname : name ≠ tagName)
    (kind : ∀ d, ofTag? tag d = only? name make d) (n : UInt64) :
    read? (Datum.fields [(tagName, .text tag), (name, .natural n.toNat)]) = some (make n) := by
  have get : (Parts.mk [(name, Datum.natural n.toNat)] false).get? name =
      some (.natural n.toNat) := by
    simp [get?]
  rw [read?, Datum.tagged?_fields (List.forall_mem_singleton.mpr hname)]
  simp only [kind]
  rw [only?, bind_of_eq_some (Datum.record?_field name _), required_eq get (word64?_toNat n)]
  rfl

theorem read?_toDatum (t : TimeLimit) : read? t.toDatum = some t := by
  cases t with
  | fixed s => exact read?_only (by decide) (fun _ => rfl) s
  | recording margin => exact read?_only (by decide) (fun _ => rfl) margin
  | teleoperation margin => exact read?_only (by decide) (fun _ => rfl) margin

theorem toDatum_ne_null (t : TimeLimit) : t.toDatum ≠ .null := by
  cases t <;> nofun

end TimeLimit

theorem read?_artifact (a : Artifact) : Artifact.read? a.toDatum = some a := by
  obtain ⟨p, record, name, path⟩ :
      ∃ p, record? Artifact.fieldNames a.toDatum = some p ∧
        p.required "name" text? = some a.name ∧
        p.optionalOrDefault "path" text? = some a.path :=
    ⟨_, Datum.record?_fields rfl (by decide), rfl,
      optionalOrDefault_eq rfl (orAbsent?_textOrNull _)⟩
  rw [Artifact.read?, bind_of_eq_some record, bind_of_eq_some name, bind_of_eq_some path]

theorem read?_command (c : Command) : Command.read? c.toDatum = some c := by
  obtain ⟨p, record, program, args⟩ :
      ∃ p, record? Command.fieldNames c.toDatum = some p ∧
        p.required "program" text? = some c.program ∧
        p.orDefault "args" [] (listOf? text?) = some c.args :=
    ⟨_, Datum.record?_fields rfl (by decide), rfl, orDefault_eq rfl (listOf?_texts _) _⟩
  rw [Command.read?, bind_of_eq_some record, bind_of_eq_some program, bind_of_eq_some args]

/-! ### Declarations -/

theorem read?_stage (s : Stage) : Stage.read? s.toDatum = some s := by
  obtain ⟨p, record, name, ordinal, description, preconditions, command, produces, skippable,
      optional, interactive, timeLimit⟩ :
      ∃ p, record? Stage.fieldNames s.toDatum = some p ∧
        p.required "name" text? = some s.name ∧
        p.required "ordinal" word32? = some s.ordinal ∧
        p.orDefault "description" "" text? = some s.description ∧
        p.orDefault "preconditions" [] (listOf? Precondition.read?) = some s.preconditions ∧
        p.required "command" Command.read? = some s.command ∧
        p.orDefault "produces" [] (listOf? Artifact.read?) = some s.produces ∧
        p.orDefault "skippable" false flag? = some s.skippable ∧
        p.orDefault "optional" false flag? = some s.optional ∧
        p.orDefault "interactive" false flag? = some s.interactive ∧
        p.optionalOrDefault "timeout" TimeLimit.read? = some s.timeLimit := by
    refine ⟨_, Datum.record?_fields rfl (by decide), rfl, required_eq rfl (word32?_toNat _), rfl,
      orDefault_eq rfl (listOf?_list Precondition.read?_toDatum _) _,
      required_eq rfl (read?_command _), orDefault_eq rfl (listOf?_list read?_artifact _) _,
      rfl, rfl, rfl, optionalOrDefault_eq rfl ?_⟩
    have orNull := orAbsent?_orNull TimeLimit.read?_toDatum TimeLimit.toDatum_ne_null s.timeLimit
    cases h : s.timeLimit with
    | none => rfl
    | some t => rwa [h] at orNull
  rw [Stage.read?, bind_of_eq_some record, bind_of_eq_some name, bind_of_eq_some ordinal,
    bind_of_eq_some description, bind_of_eq_some preconditions, bind_of_eq_some command,
    bind_of_eq_some produces, bind_of_eq_some skippable, bind_of_eq_some optional,
    bind_of_eq_some interactive, bind_of_eq_some timeLimit]

namespace Json

theorem plain_precondition (c : Precondition) : plain c.toDatum = true := by
  cases c <;> rfl

theorem plain_timeLimit (t : TimeLimit) : plain t.toDatum = true := by
  cases t <;> rfl

theorem plain_artifact (a : Artifact) : plain a.toDatum = true := by
  apply plain_fields
  simp [plain, plain_textOrNull]

theorem plain_command (c : Command) : plain c.toDatum = true := by
  apply plain_fields
  simp [plain, plain_texts]

theorem plain_stage (s : Stage) : plain s.toDatum = true := by
  apply plain_fields
  simp only [List.forall_mem_cons, List.not_mem_nil, false_implies, implies_true, and_true]
  refine ⟨rfl, rfl, rfl, plainItems_map plain_precondition _, plain_command _,
    plainItems_map plain_artifact _, rfl, rfl, rfl, ?_⟩
  cases s.timeLimit with
  | none => rfl
  | some t => exact plain_timeLimit t

end Json

/-! ### Lists of declarations -/

namespace Stage

/-- The written form of a list of declarations. -/
def listDatum (stages : List Stage) : Datum := .list (stages.map toDatum)

/-- The declarations that a JSON text lists. -/
def ofJson? (text : String) : Option (List Stage) := (Json.read? text).bind (listOf? read?)

/-- The declarations that a listing of a pipeline shows. -/
def ofListing? (text : String) : Option (List Stage) :=
  ((Json.read? text).bind (Datum.field? "stages")).bind (listOf? read?)

theorem plain_listDatum (stages : List Stage) : Json.plain (listDatum stages) = true := by
  rw [listDatum, Json.plain]
  exact Json.plainItems_map Json.plain_stage stages

theorem listOf?_listDatum (stages : List Stage) : listOf? read? (listDatum stages) = some stages :=
  listOf?_list read?_stage stages

end Stage

namespace Registry

/-- The stages of a registry make the same registry. -/
theorem ofStages_stages (r : Registry) : ofStages r.stages = .ok r := by
  have sorted : r.stages.mergeSort before = r.stages := List.mergeSort_of_pairwise r.sorted
  have checked : check (r.stages.mergeSort before) = .ok () := by
    rw [sorted]
    exact r.checked
  unfold ofStages
  rw [dif_neg r.nonempty]
  split
  · rename_i e h
    rw [checked] at h
    cases h
  · obtain ⟨stages, nonempty, hsorted, hchecked⟩ := r
    simpa using sorted

end Registry

/-- Declarations read back as they are, in the same order, from both forms of their JSON text. The
listing of a pipeline shows the stages of its registry, and they make the same registry again. -/
theorem declarations_read_back (stages : List Stage) (r : Registry) :
    Stage.ofJson? (Json.compact (Stage.listDatum stages)) = some stages ∧
      Stage.ofJson? (Json.pretty (Stage.listDatum stages) ++ "\n") = some stages ∧
      (Stage.ofListing? (CommandLine.pipelineJson r ++ "\n")).map Registry.ofStages =
        some (.ok r) := by
  have plain := Stage.plain_listDatum stages
  refine ⟨?_, ?_, ?_⟩
  · rw [Stage.ofJson?, Json.read?_compact plain, Option.bind_some, Stage.listOf?_listDatum]
  · rw [Stage.ofJson?, Json.read?_pretty plain, Option.bind_some, Stage.listOf?_listDatum]
  · have listing : CommandLine.pipelineJson r =
        Json.pretty (.fields [("stages", Stage.listDatum r.stages)]) := rfl
    have plainListing : Json.plain (.fields [("stages", Stage.listDatum r.stages)]) = true :=
      Json.plain_fields (by simp [Stage.plain_listDatum])
    have shown : Stage.ofListing? (CommandLine.pipelineJson r ++ "\n") = some r.stages := by
      rw [Stage.ofListing?, listing, Json.read?_pretty plainListing, Option.bind_some]
      exact Stage.listOf?_listDatum r.stages
    rw [shown, Option.map_some, Registry.ofStages_stages]

end RobotPipeline
