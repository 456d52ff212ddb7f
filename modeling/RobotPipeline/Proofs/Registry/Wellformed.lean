/-
  RobotPipeline/Proofs/Registry/Wellformed.lean
  =============================================
  **A registry accepts exactly the well-formed pipelines.**

  The check goes over the sorted stages three times, and stops at the first
  thing that is wrong. `Wellformed` says what has to hold of the stages as
  they were declared, in any order. Each pass is shown to succeed exactly when
  its part of that holds (`checkStages_of_wellformed`, `checkProducts_eq_ok_iff`,
  `checkDependencies_eq_ok_iff`); what holds of the stages as a collection
  holds of them in any order, so nothing is lost by the sorting.
-/
import RobotPipeline.Proofs.Registry.Backward
import Mathlib.Data.List.Nodup
import Mathlib.Data.List.Pairwise
import Mathlib.Data.List.Perm.Lattice

namespace RobotPipeline

/-! ### Well-formed pipelines -/

/-- A text of a stage that may have holes: a part of its command, the path of one of its checks,
or the path of an artifact. -/
def Stage.IsTemplate (s : Stage) (template : String) : Prop :=
  template = s.command.program ∨ template ∈ s.command.args ∨
    .pathExists template ∈ s.preconditions ∨ .directoryNotEmpty template ∈ s.preconditions ∨
    ∃ a ∈ s.produces, a.path = some template

/-- A stage declares an artifact of a name. -/
def Stage.Declares (s : Stage) (artifact : String) : Prop := ∃ a ∈ s.produces, a.name = artifact

namespace Registry

/-- What a pipeline has to be, in whatever order its stages are declared. -/
structure Wellformed (declared : List Stage) : Prop where
  nonempty : declared ≠ []
  names : (declared.map (·.name)).Nodup
  ordinals : (declared.map (·.ordinal)).Nodup
  programs : ∀ s ∈ declared, ∃ c ∈ s.command.program.toList, Text.isBlank c = false
  holes : ∀ s ∈ declared, ∀ template, s.IsTemplate template →
    ∀ hole ∈ Template.holes template, hole ∈ holeNames
  artifacts : (declared.flatMap fun s => s.produces.map (·.name)).Nodup
  producers : ∀ s ∈ declared, ∀ artifact, .artifact artifact ∈ s.preconditions →
    ∃ producer ∈ declared, producer.Declares artifact ∧ producer.ordinal < s.ordinal

theorem Wellformed.perm {declared permuted : List Stage} (h : Wellformed declared)
    (hp : permuted.Perm declared) : Wellformed permuted where
  nonempty := by
    intro hnil
    rw [hnil] at hp
    exact h.nonempty hp.nil_eq.symm
  names := (hp.map _).nodup_iff.mpr h.names
  ordinals := (hp.map _).nodup_iff.mpr h.ordinals
  programs := fun s hs => h.programs s (hp.mem_iff.mp hs)
  holes := fun s hs => h.holes s (hp.mem_iff.mp hs)
  artifacts := (hp.flatMap_right _).nodup_iff.mpr h.artifacts
  producers := by
    intro s hs artifact ha
    obtain ⟨producer, hmem, hprod⟩ := h.producers s (hp.mem_iff.mp hs) artifact ha
    exact ⟨producer, hp.mem_iff.mpr hmem, hprod⟩

/-! ### What a stage says of itself -/

theorem mem_dependencies {s : Stage} {artifact : String} :
    artifact ∈ s.dependencies ↔ .artifact artifact ∈ s.preconditions := by
  unfold Stage.dependencies
  rw [List.mem_filterMap]
  constructor
  · rintro ⟨p, hp, ha⟩
    cases p <;> simp_all [Precondition.artifact?]
  · intro h
    exact ⟨_, h, rfl⟩

theorem pathTemplate?_eq_some {p : Precondition} {template : String} :
    p.pathTemplate? = some template ↔
      p = .pathExists template ∨ p = .directoryNotEmpty template := by
  cases p <;> simp [Precondition.pathTemplate?]

theorem mem_holes {s : Stage} {hole : String} :
    hole ∈ s.holes ↔ ∃ template, s.IsTemplate template ∧ hole ∈ Template.holes template := by
  simp only [Stage.holes, Command.holes, Command.parts, Stage.IsTemplate, List.mem_append,
    List.mem_flatMap, List.mem_cons, List.mem_filterMap, pathTemplate?_eq_some]
  constructor
  · rintro ((⟨t, ht, hh⟩ | ⟨t, ⟨p, hp, ht⟩, hh⟩) | ⟨t, ⟨a, ha, ht⟩, hh⟩)
    · exact ⟨t, by tauto, hh⟩
    · refine ⟨t, ?_, hh⟩
      rcases ht with rfl | rfl <;> tauto
    · exact ⟨t, .inr (.inr (.inr (.inr ⟨a, ha, ht⟩))), hh⟩
  · rintro ⟨t, ht | ht | ht | ht | ⟨a, ha, ht⟩, hh⟩
    · exact .inl (.inl ⟨t, .inl ht, hh⟩)
    · exact .inl (.inl ⟨t, .inr ht, hh⟩)
    · exact .inl (.inr ⟨t, ⟨_, ht, .inl rfl⟩, hh⟩)
    · exact .inl (.inr ⟨t, ⟨_, ht, .inr rfl⟩, hh⟩)
    · exact .inr ⟨t, ⟨a, ha, ht⟩, hh⟩

theorem produces_eq_true {s : Stage} {artifact : String} :
    produces s artifact = true ↔ s.Declares artifact := by
  simp [produces, Stage.Declares]

/-- A stage passes by itself: it names a program, and its holes are known. -/
def IsSound (s : Stage) : Prop :=
  Text.isBlankText s.command.program = false ∧ ∀ hole ∈ s.holes, hole ∈ holeNames

theorem Wellformed.isSound {declared : List Stage} (h : Wellformed declared) {s : Stage}
    (hs : s ∈ declared) : IsSound s := by
  constructor
  · obtain ⟨c, hc, hblank⟩ := h.programs s hs
    rw [Text.isBlankText, List.all_eq_false]
    exact ⟨c, hc, by simp [hblank]⟩
  · intro hole hmem
    obtain ⟨template, ht, hh⟩ := mem_holes.mp hmem
    exact h.holes s hs template ht hole hh

/-! ### The first pass -/

theorem checkStage_eq_ok_iff {before : List Stage} {s : Stage} :
    checkStage before s = .ok () ↔
      (∀ b ∈ before, b.name ≠ s.name) ∧ (∀ b ∈ before.head?, b.ordinal ≠ s.ordinal) ∧
        IsSound s := by
  constructor
  · intro h
    obtain ⟨hnames, hord⟩ := checkStage_eq_ok h
    refine ⟨hnames, hord, ?_⟩
    have hany : before.any (fun b => b.name = s.name) = false := by simpa using hnames
    have hfilter : before.head?.filter (fun b => b.ordinal = s.ordinal) = none := by
      rw [Option.filter_eq_none_iff]
      simpa using hord
    rw [checkStage, hany, hfilter] at h
    unfold IsSound
    cases hblank : Text.isBlankText s.command.program with
    | true => simp [hblank] at h
    | false =>
      cases hfind : s.holes.find? (fun hole => hole ∉ holeNames) with
      | some hole => simp only [hblank, hfind, Bool.false_eq_true, if_false, reduceCtorEq] at h
      | none => exact ⟨rfl, by simpa using hfind⟩
  · rintro ⟨hnames, hord, hprogram, hholes⟩
    have hany : before.any (fun b => b.name = s.name) = false := by simpa using hnames
    have hfilter : before.head?.filter (fun b => b.ordinal = s.ordinal) = none := by
      rw [Option.filter_eq_none_iff]
      simpa using hord
    have hfind : s.holes.find? (fun hole => hole ∉ holeNames) = none := by simpa using hholes
    simp only [checkStage, hany, hfilter, hprogram, hfind, Bool.false_eq_true, if_false]

theorem isSound_of_checkStages {before stages : List Stage}
    (h : checkStages before stages = .ok ()) : ∀ s ∈ stages, IsSound s := by
  induction stages generalizing before with
  | nil => simp
  | cons s rest ih =>
    obtain ⟨hs, hrest⟩ := checkStages_cons h
    intro t ht
    rcases List.mem_cons.mp ht with rfl | ht
    · exact (checkStage_eq_ok_iff.mp hs).2.2
    · exact ih hrest t ht

theorem checkStages_eq_ok {before stages : List Stage} (names : (stages.map (·.name)).Nodup)
    (new : ∀ s ∈ stages, ∀ b ∈ before, b.name ≠ s.name)
    (incr : stages.Pairwise (fun a b => a.ordinal < b.ordinal))
    (next : ∀ b ∈ before.head?, ∀ s ∈ stages, b.ordinal ≠ s.ordinal)
    (sound : ∀ s ∈ stages, IsSound s) : checkStages before stages = .ok () := by
  induction stages generalizing before with
  | nil => rfl
  | cons s rest ih =>
    rw [List.map_cons, List.nodup_cons] at names
    rw [List.pairwise_cons] at incr
    have hs : checkStage before s = .ok () :=
      checkStage_eq_ok_iff.mpr
        ⟨new s (by simp), fun b hb => next b hb s (by simp), sound s (by simp)⟩
    have hrest : checkStages (s :: before) rest = .ok () := by
      refine ih names.2 ?_ incr.2 ?_ fun t ht => sound t (by simp [ht])
      · intro t ht b hb
        rcases List.mem_cons.mp hb with rfl | hb
        · exact fun heq => names.1 (heq ▸ List.mem_map_of_mem ht)
        · exact new t (by simp [ht]) b hb
      · -- only the ordinal of the stage right before is looked at
        intro b hb t ht
        obtain rfl : s = b := by simpa using hb
        exact UInt32.ne_of_lt (incr.1 t ht)
    simp [checkStages, hs, hrest, bind, Except.bind]

/-! ### The second pass -/

theorem checkArtifacts_eq_ok_iff {made : List (String × String)} {stage : String}
    {artifacts : List Artifact} {made' : List (String × String)} :
    checkArtifacts made stage artifacts = .ok made' ↔
      (artifacts.map (·.name)).Nodup ∧ (made.map (·.1)).Disjoint (artifacts.map (·.name)) ∧
        made' = (artifacts.map fun a => (a.name, stage)).reverse ++ made := by
  -- what is made grows with every artifact, and the next one is looked up in it
  induction artifacts generalizing made with
  | nil => simp [checkArtifacts, eq_comm]
  | cons a rest ih =>
    unfold checkArtifacts
    cases hfind : made.find? (fun m => m.1 = a.name) with
    | some m =>
      have hmem : a.name ∈ made.map (·.1) := by
        have hname : m.1 = a.name := by simpa using List.find?_some hfind
        exact hname ▸ List.mem_map_of_mem (List.mem_of_find?_eq_some hfind)
      simp only [reduceCtorEq, false_iff]
      rintro ⟨-, hdisj, -⟩
      exact hdisj hmem (by simp)
    | none =>
      have hnew : a.name ∉ made.map (·.1) := by
        intro hmem
        obtain ⟨m, hm, hname⟩ := List.mem_map.mp hmem
        exact (List.find?_eq_none.mp hfind) m hm (by simpa using hname)
      simp only [ih, List.map_cons, List.nodup_cons, List.disjoint_cons_left,
        List.disjoint_cons_right, List.reverse_cons, List.append_assoc, List.singleton_append]
      tauto

theorem checkProducts_eq_ok_iff {made : List (String × String)} {stages : List Stage} :
    checkProducts made stages = .ok () ↔
      (stages.flatMap fun s => s.produces.map (·.name)).Nodup ∧
        (made.map (·.1)).Disjoint (stages.flatMap fun s => s.produces.map (·.name)) := by
  induction stages generalizing made with
  | nil => simp [checkProducts]
  | cons s rest ih =>
    rw [List.flatMap_cons, List.nodup_append', List.disjoint_append_right]
    unfold checkProducts
    cases hs : checkArtifacts made s.name s.produces with
    | error e =>
      have hno : ¬((s.produces.map (·.name)).Nodup ∧
          (made.map (·.1)).Disjoint (s.produces.map (·.name))) := by
        rintro ⟨hnodup, hdisj⟩
        rw [checkArtifacts_eq_ok_iff.mpr ⟨hnodup, hdisj, rfl⟩] at hs
        cases hs
      simp only [bind, Except.bind, reduceCtorEq, false_iff]
      tauto
    | ok made' =>
      obtain ⟨hnodup, hdisj, rfl⟩ := checkArtifacts_eq_ok_iff.mp hs
      have hnames : (((s.produces.map fun a => (a.name, s.name)).reverse ++ made).map (·.1)) =
          (s.produces.map (·.name)).reverse ++ made.map (·.1) := by
        simp [List.map_reverse, Function.comp_def]
      simp only [bind, Except.bind, ih, hnames, List.disjoint_append_left,
        List.disjoint_reverse_left]
      tauto

/-! ### The third pass -/

theorem checkDependency_eq_ok_iff {before after : List Stage} {s : Stage} {artifact : String} :
    checkDependency before s after artifact = .ok () ↔
      ∃ producer ∈ before, producer.Declares artifact := by
  have hany : before.any (produces · artifact) = true ↔
      ∃ producer ∈ before, producer.Declares artifact := by
    simp [List.any_eq_true, produces_eq_true]
  rw [← hany]
  constructor
  · exact checkDependency_eq_ok
  · intro h
    simp [checkDependency, h]

theorem forM_checkDependency_eq_ok {before after : List Stage} {s : Stage}
    {artifacts : List String}
    (h : ∀ artifact ∈ artifacts, checkDependency before s after artifact = .ok ()) :
    artifacts.forM (checkDependency before s after) = .ok () := by
  induction artifacts with
  | nil => rfl
  | cons a rest ih =>
    change (checkDependency before s after a >>= fun _ =>
      rest.forM (checkDependency before s after)) = .ok ()
    rw [h a (by simp)]
    exact ih fun artifact hmem => h artifact (by simp [hmem])

/-- In increasing order, what stands before a stage is what has a smaller ordinal. -/
theorem mem_take_iff {stages : List Stage}
    (incr : stages.Pairwise (fun a b => a.ordinal < b.ordinal)) {place : Nat} {s t : Stage}
    (hs : stages[place]? = some s) :
    t ∈ stages.take place ↔ t ∈ stages ∧ t.ordinal < s.ordinal := by
  obtain ⟨hlt, rfl⟩ := List.getElem?_eq_some_iff.mp hs
  rw [List.pairwise_iff_getElem] at incr
  constructor
  · intro ht
    obtain ⟨i, hi, rfl⟩ := List.mem_take_iff_getElem.mp ht
    exact ⟨List.getElem_mem _, incr i place (by omega) hlt (by omega)⟩
  · rintro ⟨ht, hord⟩
    obtain ⟨i, hi, rfl⟩ := List.getElem_of_mem ht
    refine List.mem_take_iff_getElem.mpr ⟨i, ?_, rfl⟩
    by_contra hge
    rcases Nat.lt_or_eq_of_le (show place ≤ i by omega) with hlater | rfl
    · exact UInt32.lt_asymm hord (incr place i hlt hi hlater)
    · exact UInt32.lt_irrefl _ hord

theorem checkDependencies_eq_ok {before stages : List Stage}
    (h : ∀ place s, stages[place]? = some s → ∀ artifact ∈ s.dependencies,
      ∃ producer ∈ before ++ stages.take place, producer.Declares artifact) :
    checkDependencies before stages = .ok () := by
  induction stages generalizing before with
  | nil => rfl
  | cons s rest ih =>
    have hs : s.dependencies.forM (checkDependency before s rest) = .ok () := by
      refine forM_checkDependency_eq_ok fun artifact ha => checkDependency_eq_ok_iff.mpr ?_
      simpa using h 0 s rfl artifact ha
    have hrest : checkDependencies (before ++ [s]) rest = .ok () := by
      refine ih fun place t ht artifact ha => ?_
      simpa using h (place + 1) t (by simpa using ht) artifact ha
    simp [checkDependencies, hs, hrest, bind, Except.bind]

/-! ### All passes -/

/-- In increasing order, the check succeeds on well-formed stages and on no others. -/
theorem check_eq_ok_iff {stages : List Stage} (hne : stages ≠ [])
    (hsorted : stages.Pairwise (fun a b => before a b = true)) :
    check stages = .ok () ↔ Wellformed stages := by
  constructor
  · intro h
    obtain ⟨hstages, hproducts, hdeps⟩ := check_eq_ok h
    have incr := (ordinals_increase hstages hsorted (by simp)).1
    have sound := isSound_of_checkStages hstages
    constructor
    · exact hne
    · exact (nodup_of_checkStages hstages).1
    · exact List.pairwise_map.mpr (incr.imp UInt32.ne_of_lt)
    · intro s hs
      have hblank := (sound s hs).1
      rw [Text.isBlankText, List.all_eq_false] at hblank
      simpa using hblank
    · intro s hs template ht hole hh
      exact (sound s hs).2 hole (mem_holes.mpr ⟨template, ht, hh⟩)
    · exact (checkProducts_eq_ok_iff.mp hproducts).1
    · intro s hs artifact ha
      obtain ⟨place, hlt, heq⟩ := List.getElem_of_mem hs
      have hplace : stages[place]? = some s := by rw [List.getElem?_eq_getElem hlt, heq]
      have hany := producer_of_checkDependencies hdeps hplace (mem_dependencies.mpr ha)
      obtain ⟨producer, hmem, hprod⟩ := List.any_eq_true.mp hany
      obtain ⟨hin, hord⟩ := (mem_take_iff incr hplace).mp hmem
      exact ⟨producer, hin, produces_eq_true.mp hprod, hord⟩
  · intro h
    -- sorted by ordinals that are all different
    have incr : stages.Pairwise (fun a b => a.ordinal < b.ordinal) := by
      have hne := List.pairwise_map.mp h.ordinals
      refine (hsorted.and hne).imp ?_
      rintro a b ⟨hle, hne⟩
      exact UInt32.lt_of_le_of_ne (by simpa [before] using hle) hne
    have hstages : checkStages [] stages = .ok () :=
      checkStages_eq_ok h.names (by simp) incr (by simp) fun s hs => h.isSound hs
    have hproducts : checkProducts [] stages = .ok () :=
      checkProducts_eq_ok_iff.mpr ⟨h.artifacts, by simp⟩
    have hdeps : checkDependencies [] stages = .ok () := by
      refine checkDependencies_eq_ok fun place s hs artifact ha => ?_
      obtain ⟨producer, hin, hprod, hord⟩ :=
        h.producers s (List.mem_of_getElem? hs) artifact (mem_dependencies.mp ha)
      exact ⟨producer, by simpa using (mem_take_iff incr hs).mpr ⟨hin, hord⟩, hprod⟩
    simp [check, hstages, hproducts, hdeps, bind, Except.bind]

/-! ### The registry of declared stages -/

theorem stages_of_ofStages {declared : List Stage} {r : Registry} (h : ofStages declared = .ok r) :
    r.stages = declared.mergeSort before := by
  unfold ofStages at h
  split at h
  · cases h
  · split at h
    · cases h
    · cases h
      rfl

theorem exists_ofStages {declared : List Stage} (hne : declared ≠ [])
    (h : check (declared.mergeSort before) = .ok ()) : ∃ r, ofStages declared = .ok r := by
  unfold ofStages
  split
  · contradiction
  · split
    · rename_i e he
      rw [h] at he
      cases he
    · exact ⟨_, rfl⟩

theorem wellformed (r : Registry) : Wellformed r.stages :=
  (check_eq_ok_iff r.nonempty r.sorted).mp r.checked

theorem exists_ofStages_iff {declared : List Stage} :
    (∃ r, ofStages declared = .ok r) ↔ Wellformed declared := by
  have hperm := List.mergeSort_perm declared before
  constructor
  · rintro ⟨r, hr⟩
    have hwell := r.wellformed
    rw [stages_of_ofStages hr] at hwell
    exact hwell.perm hperm.symm
  · intro h
    have hsorted := h.perm hperm
    exact exists_ofStages h.nonempty
      ((check_eq_ok_iff hsorted.nonempty (pairwise_mergeSort declared)).mpr hsorted)

theorem increasing (r : Registry) : r.stages.Pairwise (fun a b => a.ordinal < b.ordinal) :=
  (ordinals_increase (check_eq_ok r.checked).1 r.sorted (by simp)).1

/-- Two registries of the same stages are the same. -/
theorem eq_of_perm {r r' : Registry} (h : r.stages.Perm r'.stages) : r = r' := by
  have heq : r.stages = r'.stages :=
    h.eq_of_pairwise (fun _ _ _ _ hab hba => absurd hba (UInt32.lt_asymm hab)) r.increasing
      r'.increasing
  cases r
  cases r'
  simpa using heq

/-! ### Who makes an artifact -/

theorem Wellformed.artifact_unique {declared : List Stage} (h : Wellformed declared)
    {s t : Stage} (hs : s ∈ declared) (ht : t ∈ declared) {a b : Artifact} (ha : a ∈ s.produces)
    (hb : b ∈ t.produces) (hname : a.name = b.name) : s = t ∧ a = b := by
  obtain ⟨hinner, houter⟩ := List.nodup_flatMap.mp h.artifacts
  obtain rfl : s = t := by
    by_contra hne
    have : Std.Symm (Function.onFun List.Disjoint fun s : Stage => s.produces.map (·.name)) :=
      ⟨fun _ _ hd => hd.symm⟩
    have hdisj := houter.forall hs ht hne
    exact hdisj (List.mem_map_of_mem ha) (hname ▸ List.mem_map_of_mem hb)
  exact ⟨rfl, List.inj_on_of_nodup_map (hinner s hs) ha hb hname⟩

theorem producer?_eq_some_iff (r : Registry) {artifact : String} {s : Stage} :
    r.producer? artifact = some s ↔ s ∈ r.stages ∧ s.Declares artifact := by
  unfold producer?
  constructor
  · intro h
    have hmakes : produces s artifact = true := by simpa using List.find?_some h
    exact ⟨List.mem_of_find?_eq_some h, produces_eq_true.mp hmakes⟩
  · rintro ⟨hs, a, ha, hname⟩
    cases hfind : r.stages.find? (produces · artifact) with
    | none =>
      exact absurd (produces_eq_true.mpr ⟨a, ha, hname⟩) (List.find?_eq_none.mp hfind s hs)
    | some t =>
      have hmakes : produces t artifact = true := by simpa using List.find?_some hfind
      obtain ⟨b, hb, hbname⟩ := produces_eq_true.mp hmakes
      have ht : t ∈ r.stages := List.mem_of_find?_eq_some hfind
      rw [(r.wellformed.artifact_unique ht hs hb ha (hbname.trans hname.symm)).1]

theorem artifact?_eq_some_iff (r : Registry) {artifact : String} {a : Artifact} :
    r.artifact? artifact = some a ↔ a.name = artifact ∧ ∃ s ∈ r.stages, a ∈ s.produces := by
  unfold artifact?
  rw [Option.bind_eq_some_iff]
  constructor
  · rintro ⟨s, hs, hfind⟩
    have hname : a.name = artifact := by simpa using List.find?_some hfind
    exact ⟨hname, s, (r.producer?_eq_some_iff.mp hs).1, List.mem_of_find?_eq_some hfind⟩
  · rintro ⟨hname, s, hs, ha⟩
    refine ⟨s, r.producer?_eq_some_iff.mpr ⟨hs, a, ha, hname⟩, ?_⟩
    cases hfind : s.produces.find? (fun b => b.name = artifact) with
    | none => exact absurd (by simpa using hname) (List.find?_eq_none.mp hfind a ha)
    | some b =>
      have hb : b.name = artifact := by simpa using List.find?_some hfind
      rw [(r.wellformed.artifact_unique hs hs (List.mem_of_find?_eq_some hfind) ha
        (hb.trans hname.symm)).2]

/-! ### Acceptance -/

/-- Declared stages make a registry exactly when they are well-formed, in whatever order they are
declared. The registry has those stages in increasing order and no others, it knows the one stage
that makes an artifact, and it does not depend on the order of the declaration. -/
theorem accepts_wellformed (declared : List Stage) :
    ((∃ r, ofStages declared = .ok r) ↔ Wellformed declared) ∧
    (∀ r, ofStages declared = .ok r →
      r.stages.Perm declared ∧ r.stages.Pairwise (fun a b => a.ordinal < b.ordinal) ∧
      (∀ artifact s,
        r.producer? artifact = some s ↔ s ∈ declared ∧ s.Declares artifact) ∧
      (∀ artifact a,
        r.artifact? artifact = some a ↔ a.name = artifact ∧ ∃ s ∈ declared, a ∈ s.produces) ∧
      (∀ artifact, (∀ s ∈ declared, ¬s.Declares artifact) →
        r.producer? artifact = none ∧ r.artifact? artifact = none) ∧
      ∀ permuted : List Stage, permuted.Perm declared → ofStages permuted = .ok r) ∧
    ∀ permuted : List Stage, permuted.Perm declared →
      ((∃ r, ofStages permuted = .ok r) ↔ ∃ r, ofStages declared = .ok r) := by
  have horder : ∀ permuted : List Stage, permuted.Perm declared →
      ((∃ r, ofStages permuted = .ok r) ↔ ∃ r, ofStages declared = .ok r) := by
    intro permuted hp
    rw [exists_ofStages_iff, exists_ofStages_iff]
    exact ⟨fun h => h.perm hp.symm, fun h => h.perm hp⟩
  refine ⟨exists_ofStages_iff, ?_, horder⟩
  intro r hr
  have hperm : r.stages.Perm declared := by
    rw [stages_of_ofStages hr]
    exact List.mergeSort_perm declared before
  refine ⟨hperm, r.increasing, ?_, ?_, ?_, ?_⟩
  · intro artifact s
    rw [r.producer?_eq_some_iff, hperm.mem_iff]
  · intro artifact a
    simp only [r.artifact?_eq_some_iff, hperm.mem_iff]
  · intro artifact hno
    have hnone : r.producer? artifact = none := by
      rw [Option.eq_none_iff_forall_ne_some]
      intro s hs
      obtain ⟨hmem, hdecl⟩ := r.producer?_eq_some_iff.mp hs
      exact hno s (hperm.mem_iff.mp hmem) hdecl
    exact ⟨hnone, by simp [artifact?, hnone]⟩
  · intro permuted hp
    obtain ⟨r', hr'⟩ := (horder permuted hp).mpr ⟨r, hr⟩
    have heq : r' = r := by
      refine eq_of_perm (List.Perm.trans ?_ (hp.trans hperm.symm))
      rw [stages_of_ofStages hr']
      exact List.mergeSort_perm permuted before
    rw [hr', heq]

namespace Sample

def gather : Stage where
  name := "gather"
  ordinal := 10
  command := ⟨"gather-scans", ["--task={task}"]⟩
  produces := [⟨"scans", some "{dataset_dir}/scans"⟩]

def fit : Stage where
  name := "fit"
  ordinal := 20
  preconditions := [.artifact "scans", .pathExists "{calibration_dir}"]
  command := ⟨"fit-model", ["--steps={steps}"]⟩

def registry : Registry where
  stages := [gather, fit]
  nonempty := by simp
  sorted := by decide
  checked := by decide +kernel

end Sample

theorem accepts_wellformed_reversed :
    ofStages [Sample.fit, Sample.gather] = .ok Sample.registry ∧
    ofStages [Sample.gather, Sample.fit] = .ok Sample.registry ∧
    Sample.registry.producer? "scans" = some Sample.gather ∧
    Sample.registry.artifact? "model" = none := by
  have hswap : [Sample.fit, Sample.gather].Perm [Sample.gather, Sample.fit] := List.Perm.swap ..
  obtain ⟨haccept, hof, -⟩ := accepts_wellformed [Sample.fit, Sample.gather]
  obtain ⟨r, hr⟩ := haccept.mpr (Sample.registry.wellformed.perm hswap)
  obtain ⟨hperm, -, hproducer, -, hnone, hpermuted⟩ := hof r hr
  obtain rfl : r = Sample.registry := eq_of_perm (hperm.trans hswap)
  have hundeclared : ∀ s ∈ [Sample.fit, Sample.gather], ¬s.Declares "model" := by
    simp [Stage.Declares, Sample.fit, Sample.gather]
  refine ⟨hr, hpermuted _ hswap.symm, ?_, (hnone _ hundeclared).2⟩
  exact (hproducer _ _).mpr ⟨by simp, ⟨"scans", some "{dataset_dir}/scans"⟩, by decide, rfl⟩

end Registry

end RobotPipeline
