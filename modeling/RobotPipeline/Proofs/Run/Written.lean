/-
  RobotPipeline/Proofs/Run/Written.lean
  =====================================
  **A run reads back from its written form.**

  Every record is written with exactly its known fields, each once, so reading
  it finds them all by name (`record?_fields`). What is left is that each value
  reads back, from the numbers up to the whole run.

  The index of a run is kept in 64 bits; a run whose index needs more does not
  read back.
-/
import RobotPipeline.Ledger.Basic
import RobotPipeline.Proofs.Json.RoundTrip
import RobotPipeline.Proofs.Time.Instant

namespace RobotPipeline

open Source

/-! ### Records -/

namespace Datum

theorem knownFields?_named {names : List String} {fs : List (String × Datum)}
    (h : ∀ f ∈ fs, f.1 ∈ names) :
    knownFields? names (fs.map fun f => (Key.named f.1, f.2)) = some fs := by
  induction fs with
  | nil => rfl
  | cons f fs ih =>
    have hf : f.1 ∈ names := h f (by simp)
    simp [knownFields?, keyName?, hf, ih fun g hg => h g (by simp [hg])]

/-- A record that is written with its known fields is read with them. -/
theorem record?_fields {names : List String} {fs : List (String × Datum)}
    (h : fs.map (·.1) = names) (hn : names.Nodup) :
    record? names (Datum.fields fs) = some ⟨fs, false⟩ := by
  have known : knownFields? names (fs.map fun f => (Key.named f.1, f.2)) = some fs :=
    knownFields?_named fun f hf => h ▸ List.mem_map_of_mem hf
  have parts : recordParts? names (Datum.fields fs) = some (fs, false) := by
    simp only [Datum.fields, recordParts?, known, h, hn, if_true]
  change (recordParts? names (Datum.fields fs)).map _ = _
  rw [parts]
  rfl

end Datum

namespace Parts

variable {δ α : Type} {p : Parts δ} {name : String} {d : δ} {read : δ → Option α}

theorem required_eq (hget : p.get? name = some d) {a : α} (hread : read d = some a) :
    p.required name read = some a := by
  rw [required, hget]
  exact hread

theorem orDefault_eq (hget : p.get? name = some d) {a : α} (hread : read d = some a)
    (default : α) : p.orDefault name default read = some a := by
  rw [orDefault, hget]
  exact hread

theorem optional_eq [Source δ] (hget : p.get? name = some d) {o : Option α}
    (hread : orAbsent? read d = some o) : p.optional name read = some o := by
  rw [optional, hget]
  exact hread

theorem optionalOrDefault_eq [Source δ] (hget : p.get? name = some d) {o : Option α}
    (hread : orAbsent? read d = some o) : p.optionalOrDefault name read = some o :=
  orDefault_eq hget hread none

end Parts

/-! ### Values -/

theorem word32?_natural {n : Nat} (h : n ≤ Text.maxWord32) :
    word32? (Datum.natural n) = some (UInt32.ofNat n) :=
  if_pos h

theorem word32?_toNat (n : UInt32) : word32? (Datum.natural n.toNat) = some n := by
  have hle : n.toNat ≤ Text.maxWord32 := by
    have := n.toNat_lt
    unfold Text.maxWord32
    omega
  rw [word32?_natural hle, UInt32.ofNat_toNat]

theorem word64?_natural {n : Nat} (h : n ≤ Text.maxWord64) :
    word64? (Datum.natural n) = some (UInt64.ofNat n) :=
  if_pos h

theorem word64?_toNat (n : UInt64) : word64? (Datum.natural n.toNat) = some n := by
  have hle : n.toNat ≤ Text.maxWord64 := by
    have := n.toNat_lt
    unfold Text.maxWord64
    omega
  rw [word64?_natural hle, UInt64.ofNat_toNat]

theorem signed32?_integer (n : Int32) : signed32? (Datum.integer n.toInt) = some n := by
  have hlow := n.le_toInt
  have hhigh := n.toInt_lt
  change (if -2147483648 ≤ n.toInt ∧ n.toInt ≤ 2147483647 then some (Int32.ofInt n.toInt)
    else none) = some n
  rw [if_pos (by omega), Int32.ofInt_toInt]

theorem absent?_of_ne_null {d : Datum} (h : d ≠ .null) : absent? d = some false := by
  cases d with
  | null => exact absurd rfl h
  | _ => rfl

/-- A value that may be missing is read as one that may be absent. -/
theorem orAbsent?_orNull {α : Type} {read : Datum → Option α} {write : α → Datum}
    (hread : ∀ a, read (write a) = some a) (hnull : ∀ a, write a ≠ .null) (o : Option α) :
    orAbsent? read (StageRecord.orNull write o) = some o := by
  cases o with
  | none => rfl
  | some a =>
    rw [StageRecord.orNull, orAbsent?, absent?_of_ne_null (hnull a), hread a]
    rfl

theorem orAbsent?_textOrNull (o : Option String) :
    orAbsent? text? (Datum.textOrNull o) = some o := by
  cases o <;> rfl

theorem listOf?_list {α : Type} {read : Datum → Option α} {write : α → Datum}
    (hread : ∀ a, read (write a) = some a) (as : List α) :
    listOf? read (Datum.list (as.map write)) = some as := by
  change (as.map write).mapM read = some as
  induction as with
  | nil => rfl
  | cons a as ih => simp [hread a, ih]

theorem listOf?_texts (xs : List String) : listOf? text? (Datum.texts xs) = some xs :=
  have hread : ∀ s : String, text? (Datum.text s) = some s := fun _ => rfl
  listOf?_list hread xs

/-! ### Parts of a run -/

theorem ofParts?_self (d : Span) : Span.ofParts? d.seconds d.nanos = some d := by
  have hlt := d.nanos_lt
  have hdiv : (d.seconds.toNat * 1000000000 + d.nanos) / 1000000000 = d.seconds.toNat := by omega
  have hmod : (d.seconds.toNat * 1000000000 + d.nanos) % 1000000000 = d.nanos := by omega
  have hw : d.seconds.toNat ≤ Text.maxWord64 := by
    have := d.seconds.toNat_lt
    unfold Text.maxWord64
    omega
  simp only [Span.ofParts?, Span.ofNanos?, hdiv, hmod, hw, if_true, UInt64.ofNat_toNat]

theorem make_eq (s n : Datum) :
    Outcome.readSpan?.make s n =
      (word64? s).bind fun seconds => (word32? n).bind fun nanos =>
        Span.ofParts? seconds nanos.toNat :=
  rfl

theorem readSpan?_spanDatum (d : Span) : Outcome.readSpan? (Outcome.spanDatum d) = some d := by
  have hlt := d.nanos_lt
  have hle : d.nanos ≤ Text.maxWord32 := by
    unfold Text.maxWord32
    omega
  have hback : (UInt32.ofNat d.nanos).toNat = d.nanos := by
    rw [UInt32.toNat_ofNat']
    omega
  have read : Outcome.readSpan? (Outcome.spanDatum d) =
      Outcome.readSpan?.make (Datum.natural d.seconds.toNat) (Datum.natural d.nanos) := rfl
  rw [read, make_eq, word64?_toNat, Option.bind_some, word32?_natural hle, Option.bind_some, hback,
    ofParts?_self]

theorem readInstant?_instantDatum (i : Instant) :
    Outcome.readInstant? (Outcome.instantDatum i) = some i :=
  Instant.read?_text i


/-! ### Records of a run -/

open Parts

theorem read?_outcome (o : Outcome) : Outcome.read? o.toDatum = some o := by
  obtain ⟨p, record, stage, exitCode, timedOut, cancelled, duration, logPath, startedAt, finishedAt⟩ :
      ∃ p, record? Outcome.fieldNames o.toDatum = some p ∧
        p.required "stage" text? = some o.stage ∧
        p.required "exit_code" signed32? = some o.exitCode ∧
        p.required "timed_out" flag? = some o.timedOut ∧
        p.orDefault "cancelled" false flag? = some o.cancelled ∧
        p.required "duration" Outcome.readSpan? = some o.duration ∧
        p.optionalOrDefault "log_path" text? = some o.logPath ∧
        p.required "started_at" Outcome.readInstant? = some o.startedAt ∧
        p.required "finished_at" Outcome.readInstant? = some o.finishedAt :=
    ⟨_, Datum.record?_fields rfl (by decide), rfl, required_eq rfl (signed32?_integer _), rfl, rfl,
      required_eq rfl (readSpan?_spanDatum _), optionalOrDefault_eq rfl (orAbsent?_textOrNull _),
      required_eq rfl (readInstant?_instantDatum _), required_eq rfl (readInstant?_instantDatum _)⟩
  rw [Outcome.read?, bind_of_eq_some record, bind_of_eq_some stage, bind_of_eq_some exitCode,
    bind_of_eq_some timedOut, bind_of_eq_some cancelled, bind_of_eq_some duration,
    bind_of_eq_some logPath, bind_of_eq_some startedAt, bind_of_eq_some finishedAt]

theorem read?_camera (c : Camera) : Camera.read? c.toDatum = some c := by
  obtain ⟨p, record, name, source, width, height, fps⟩ :
      ∃ p, record? Camera.fieldNames c.toDatum = some p ∧
        p.required "name" text? = some c.name ∧
        p.required "source" text? = some c.source ∧
        p.required "width" word32? = some c.width ∧
        p.required "height" word32? = some c.height ∧
        p.required "fps" word32? = some c.fps :=
    ⟨_, Datum.record?_fields rfl (by decide), rfl, rfl, required_eq rfl (word32?_toNat _),
      required_eq rfl (word32?_toNat _), required_eq rfl (word32?_toNat _)⟩
  rw [Camera.read?, bind_of_eq_some record, bind_of_eq_some name, bind_of_eq_some source,
    bind_of_eq_some width, bind_of_eq_some height, bind_of_eq_some fps]

theorem read?_parameters (r : Parameters) : Parameters.read? r.toDatum = some r := by
  obtain ⟨p, record, dataset, episodes, episodeSeconds, resetSeconds, teleopSeconds, task, cameras,
      followerPort, leaderPort, hubUser, followerId, leaderId, policy, device, steps, batchSize,
      evalEnv, datasetRoot, included⟩ :
      ∃ p, record? Parameters.fieldNames r.toDatum = some p ∧
        p.required "dataset" text? = some r.dataset ∧
        p.required "episodes" word32? = some r.episodes ∧
        p.required "episode_seconds" word64? = some r.episodeSeconds ∧
        p.required "reset_seconds" word64? = some r.resetSeconds ∧
        p.required "teleop_seconds" word64? = some r.teleopSeconds ∧
        p.required "task" text? = some r.task ∧
        p.required "cameras" (listOf? Camera.read?) = some r.cameras ∧
        p.optional "follower_port" text? = some r.followerPort ∧
        p.optional "leader_port" text? = some r.leaderPort ∧
        p.optional "hf_user" text? = some r.hubUser ∧
        p.required "follower_id" text? = some r.followerId ∧
        p.required "leader_id" text? = some r.leaderId ∧
        p.required "policy" text? = some r.policy ∧
        p.required "device" text? = some r.device ∧
        p.orDefault "steps" 10000 word64? = some r.steps ∧
        p.orDefault "batch_size" 8 word32? = some r.batchSize ∧
        p.orDefault "eval_env" "simxarm" text? = some r.evalEnv ∧
        p.optional "dataset_root" text? = some r.datasetRoot ∧
        p.required "include" (listOf? text?) = some r.included :=
    ⟨_, Datum.record?_fields rfl (by decide), rfl, required_eq rfl (word32?_toNat _),
      required_eq rfl (word64?_toNat _), required_eq rfl (word64?_toNat _),
      required_eq rfl (word64?_toNat _), rfl, required_eq rfl (listOf?_list read?_camera _),
      optional_eq rfl (orAbsent?_textOrNull _), optional_eq rfl (orAbsent?_textOrNull _),
      optional_eq rfl (orAbsent?_textOrNull _), rfl, rfl, rfl, rfl,
      orDefault_eq rfl (word64?_toNat _) _, orDefault_eq rfl (word32?_toNat _) _, rfl,
      optional_eq rfl (orAbsent?_textOrNull _), required_eq rfl (listOf?_texts _)⟩
  rw [Parameters.read?, bind_of_eq_some record, bind_of_eq_some dataset, bind_of_eq_some episodes,
    bind_of_eq_some episodeSeconds, bind_of_eq_some resetSeconds, bind_of_eq_some teleopSeconds,
    bind_of_eq_some task, bind_of_eq_some cameras, bind_of_eq_some followerPort,
    bind_of_eq_some leaderPort, bind_of_eq_some hubUser, bind_of_eq_some followerId,
    bind_of_eq_some leaderId, bind_of_eq_some policy, bind_of_eq_some device, bind_of_eq_some steps,
    bind_of_eq_some batchSize, bind_of_eq_some evalEnv, bind_of_eq_some datasetRoot,
    bind_of_eq_some included]

theorem read?_status (s : Status) : Status.read? (.text s.text) = some s := by
  cases s <;> decide

theorem read?_stageRecord (r : StageRecord) : StageRecord.read? r.toDatum = some r := by
  obtain ⟨p, record, name, status, attempts, lastOutcome, unreliable, startedAt, finishedAt, note⟩ :
      ∃ p, record? StageRecord.fieldNames r.toDatum = some p ∧
        p.required "name" text? = some r.name ∧
        p.required "status" Status.read? = some r.status ∧
        p.orDefault "attempts" 0 word32? = some r.attempts ∧
        p.optionalOrDefault "last_result" Outcome.read? = some r.lastOutcome ∧
        p.orDefault "artifacts_unreliable" false flag? = some r.unreliable ∧
        p.optionalOrDefault "started_at" Outcome.readInstant? = some r.startedAt ∧
        p.optionalOrDefault "finished_at" Outcome.readInstant? = some r.finishedAt ∧
        p.optionalOrDefault "note" text? = some r.note :=
    ⟨_, Datum.record?_fields rfl (by decide), rfl, required_eq rfl (read?_status _),
      orDefault_eq rfl (word32?_toNat _) _,
      optionalOrDefault_eq rfl (orAbsent?_orNull read?_outcome (fun _ => nofun) _), rfl,
      optionalOrDefault_eq rfl (orAbsent?_orNull readInstant?_instantDatum (fun _ => nofun) _),
      optionalOrDefault_eq rfl (orAbsent?_orNull readInstant?_instantDatum (fun _ => nofun) _),
      optionalOrDefault_eq rfl (orAbsent?_textOrNull _)⟩
  rw [StageRecord.read?, bind_of_eq_some record, bind_of_eq_some name, bind_of_eq_some status,
    bind_of_eq_some attempts, bind_of_eq_some lastOutcome, bind_of_eq_some unreliable,
    bind_of_eq_some startedAt, bind_of_eq_some finishedAt, bind_of_eq_some note]

/-- A run reads back from its written form, unless its index is beyond 64 bits. -/
theorem read?_run (run : Run) (h : run.currentIndex ≤ Text.maxWord64) :
    Run.read? run.toDatum = some run := by
  have index : (UInt64.ofNat run.currentIndex).toNat = run.currentIndex := by
    rw [UInt64.toNat_ofNat']
    unfold Text.maxWord64 at h
    omega
  obtain ⟨p, record, runId, dataset, stages, currentIndex, startedAt, finishedAt, parameters⟩ :
      ∃ p, record? Run.fieldNames run.toDatum = some p ∧
        p.required "run_id" text? = some run.runId ∧
        p.required "dataset" text? = some run.dataset ∧
        p.required "stages" (listOf? StageRecord.read?) = some run.stages ∧
        p.required "current_index" word64? = some (UInt64.ofNat run.currentIndex) ∧
        p.required "started_at" Outcome.readInstant? = some run.startedAt ∧
        p.optionalOrDefault "finished_at" Outcome.readInstant? = some run.finishedAt ∧
        p.optionalOrDefault "parameters" Parameters.read? = some run.parameters :=
    ⟨_, Datum.record?_fields rfl (by decide), rfl, rfl,
      required_eq rfl (listOf?_list read?_stageRecord _), required_eq rfl (word64?_natural h),
      required_eq rfl (readInstant?_instantDatum _),
      optionalOrDefault_eq rfl (orAbsent?_orNull readInstant?_instantDatum (fun _ => nofun) _),
      optionalOrDefault_eq rfl (orAbsent?_orNull read?_parameters (fun _ => nofun) _)⟩
  rw [Run.read?, bind_of_eq_some record, bind_of_eq_some runId, bind_of_eq_some dataset,
    bind_of_eq_some stages, bind_of_eq_some currentIndex, bind_of_eq_some startedAt,
    bind_of_eq_some finishedAt, bind_of_eq_some parameters, index]

/-! ### The text of a snapshot -/

namespace Json

theorem plain_fields {fs : List (String × Datum)} (h : ∀ f ∈ fs, plain f.2 = true) :
    plain (Datum.fields fs) = true := by
  unfold Datum.fields plain
  induction fs with
  | nil => rfl
  | cons f fs ih => simp [plainFields, h f (by simp), ih fun g hg => h g (by simp [hg])]

theorem plainItems_map {α : Type} {write : α → Datum} (h : ∀ a, plain (write a) = true)
    (as : List α) : plainItems (as.map write) = true := by
  induction as with
  | nil => rfl
  | cons a as ih => simp [plainItems, h a, ih]

theorem plain_orNull {α : Type} {write : α → Datum} (h : ∀ a, plain (write a) = true)
    (o : Option α) : plain (StageRecord.orNull write o) = true := by
  cases o with
  | none => rfl
  | some a => exact h a

theorem plain_textOrNull (o : Option String) : plain (Datum.textOrNull o) = true := by
  cases o <;> rfl

theorem plain_texts (xs : List String) : plain (Datum.texts xs) = true := by
  rw [Datum.texts, plain]
  exact plainItems_map (fun _ => rfl) xs

theorem plain_outcome (o : Outcome) : plain o.toDatum = true := by
  have duration : plain (Outcome.spanDatum o.duration) = true := rfl
  apply plain_fields
  simp [plain, duration, plain_textOrNull, Outcome.instantDatum]

theorem plain_camera (c : Camera) : plain c.toDatum = true := rfl

theorem plain_parameters (r : Parameters) : plain r.toDatum = true := by
  apply plain_fields
  simp [plain, Datum.natural, plainItems_map plain_camera, plain_textOrNull, plain_texts]

theorem plain_stageRecord (r : StageRecord) : plain r.toDatum = true := by
  have instant : ∀ i, plain (Outcome.instantDatum i) = true := fun _ => rfl
  apply plain_fields
  simp [plain, Datum.natural, plain_orNull plain_outcome, plain_orNull instant, plain_textOrNull]

theorem plain_run (run : Run) : plain run.toDatum = true := by
  have instant : ∀ i, plain (Outcome.instantDatum i) = true := fun _ => rfl
  apply plain_fields
  simp [plain, Datum.natural, plainItems_map plain_stageRecord, instant, plain_orNull instant,
    plain_orNull plain_parameters]

end Json

/-- A run reads back from the text of its snapshot. -/
theorem Ledger.decode?_encode {run : Run} (h : run.currentIndex ≤ Text.maxWord64) :
    decode? (encode run) = some run := by
  unfold decode? encode
  rw [Json.read?_pretty (Json.plain_run run), Option.bind_some, read?_run run h]

end RobotPipeline
