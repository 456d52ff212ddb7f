/-
  RobotPipeline/Proofs/Registry/Backward.lean
  ===========================================
  **A registry can be run from front to back.**

  The check that a registry has passed makes the names of its stages and their
  ordinals unique, and puts a producer before every stage that depends on an
  artifact (`Registry.exists_producer_before`). As ordinals are numbers of 32
  bits, a registry has no more stages than there are such numbers.
-/
import RobotPipeline.Registry.Basic

namespace RobotPipeline.Registry

/-! ### What the check of all stages says of one -/

theorem check_eq_ok {stages : List Stage} (h : check stages = .ok ()) :
    checkStages [] stages = .ok () ∧ checkProducts [] stages = .ok () ∧
      checkDependencies [] stages = .ok () := by
  unfold check at h
  cases hs : checkStages [] stages with
  | error e => simp [hs, bind, Except.bind] at h
  | ok _ =>
    cases hp : checkProducts [] stages with
    | error e => simp [hs, hp, bind, Except.bind] at h
    | ok _ => exact ⟨rfl, rfl, by simpa [hs, hp, bind, Except.bind] using h⟩

theorem checkStages_cons {before : List Stage} {s : Stage} {rest : List Stage}
    (h : checkStages before (s :: rest) = .ok ()) :
    checkStage before s = .ok () ∧ checkStages (s :: before) rest = .ok () := by
  unfold checkStages at h
  cases hs : checkStage before s with
  | error e => simp [hs, bind, Except.bind] at h
  | ok _ => exact ⟨rfl, by simpa [hs, bind, Except.bind] using h⟩

theorem checkDependencies_cons {before : List Stage} {s : Stage} {rest : List Stage}
    (h : checkDependencies before (s :: rest) = .ok ()) :
    s.dependencies.forM (checkDependency before s rest) = .ok () ∧
      checkDependencies (before ++ [s]) rest = .ok () := by
  unfold checkDependencies at h
  cases hs : s.dependencies.forM (checkDependency before s rest) with
  | error e => simp [hs, bind, Except.bind] at h
  | ok _ => exact ⟨rfl, by simpa [hs, bind, Except.bind] using h⟩

theorem checkStage_eq_ok {before : List Stage} {s : Stage} (h : checkStage before s = .ok ()) :
    (∀ b ∈ before, b.name ≠ s.name) ∧ ∀ b ∈ before.head?, b.ordinal ≠ s.ordinal := by
  unfold checkStage at h
  split at h
  · cases h
  · rename_i hnames
    split at h
    · cases h
    · rename_i hord
      refine ⟨by simpa using hnames, ?_⟩
      intro b hb heq
      rw [Option.mem_def] at hb
      simp [hb, Option.filter, heq] at hord

/-! ### Unique names -/

theorem nodup_of_checkStages {before stages : List Stage}
    (h : checkStages before stages = .ok ()) :
    (stages.map (·.name)).Nodup ∧ ∀ s ∈ stages, ∀ b ∈ before, b.name ≠ s.name := by
  induction stages generalizing before with
  | nil => simp
  | cons s rest ih =>
    obtain ⟨hs, hrest⟩ := checkStages_cons h
    obtain ⟨hnodup, hbefore⟩ := ih hrest
    refine ⟨?_, ?_⟩
    · rw [List.map_cons, List.nodup_cons]
      refine ⟨?_, hnodup⟩
      intro hmem
      obtain ⟨t, ht, heq⟩ := List.mem_map.mp hmem
      exact hbefore t ht s (by simp) heq.symm
    · intro t ht b hb
      rcases List.mem_cons.mp ht with rfl | ht
      · exact (checkStage_eq_ok hs).1 b hb
      · exact hbefore t ht b (by simp [hb])

theorem nodup_names (r : Registry) : r.names.Nodup :=
  (nodup_of_checkStages (check_eq_ok r.checked).1).1

/-! ### Unique ordinals -/

/-- In pipeline order, each stage has a larger ordinal than the one before it. -/
theorem ordinals_increase {before stages : List Stage} (hc : checkStages before stages = .ok ())
    (hs : stages.Pairwise fun a b => Registry.before a b = true)
    (hb : ∀ b ∈ before.head?, ∀ s ∈ stages, Registry.before b s = true) :
    stages.Pairwise (fun a b => a.ordinal < b.ordinal) ∧
      ∀ b ∈ before.head?, ∀ s ∈ stages, b.ordinal < s.ordinal := by
  induction stages generalizing before with
  | nil => simp
  | cons s rest ih =>
    obtain ⟨hstage, hrest⟩ := checkStages_cons hc
    rw [List.pairwise_cons] at hs
    obtain ⟨hincr, hafter⟩ := ih hrest hs.2 (by simpa using hs.1)
    have hnext : ∀ t ∈ rest, s.ordinal < t.ordinal := hafter s (by simp)
    refine ⟨List.pairwise_cons.mpr ⟨hnext, hincr⟩, ?_⟩
    intro b hmem t ht
    have hne := (checkStage_eq_ok hstage).2 b hmem
    have hle : b.ordinal ≤ s.ordinal := by
      simpa [Registry.before] using hb b hmem s (by simp)
    have hlt : b.ordinal < s.ordinal := by
      rw [UInt32.lt_iff_toNat_lt]
      rw [UInt32.le_iff_toNat_le] at hle
      have : b.ordinal.toNat ≠ s.ordinal.toNat := fun h => hne (UInt32.toNat_inj.mp h)
      omega
    rcases List.mem_cons.mp ht with rfl | ht
    · exact hlt
    · exact UInt32.lt_trans hlt (hnext t ht)

/-- A list that increases below a bound is no longer than the numbers it can use. -/
theorem length_le_of_increasing {ordinals : List Nat} {low bound : Nat}
    (incr : ordinals.Pairwise (· < ·)) (hlow : ∀ n ∈ ordinals, low ≤ n)
    (hbound : ∀ n ∈ ordinals, n < bound) : ordinals.length ≤ bound - low := by
  induction ordinals generalizing low with
  | nil => simp
  | cons n rest ih =>
    rw [List.pairwise_cons] at incr
    have hn : low ≤ n ∧ n < bound := ⟨hlow n (by simp), hbound n (by simp)⟩
    have hlater : ∀ m ∈ rest, n + 1 ≤ m := fun m hm => incr.1 m hm
    have := ih incr.2 hlater fun m hm => hbound m (by simp [hm])
    simp only [List.length_cons]
    omega

/-- There are no more stages than numbers of 32 bits. -/
theorem length_stages_le (r : Registry) : r.stages.length ≤ Text.maxWord32 + 1 := by
  have incr := (ordinals_increase (check_eq_ok r.checked).1 r.sorted (by simp)).1
  have incr' : (r.stages.map (·.ordinal.toNat)).Pairwise (· < ·) :=
    List.pairwise_map.mpr (incr.imp fun h => UInt32.lt_iff_toNat_lt.mp h)
  have hlow : ∀ n ∈ r.stages.map (·.ordinal.toNat), 0 ≤ n := by simp
  have hbound : ∀ n ∈ r.stages.map (·.ordinal.toNat), n < Text.maxWord32 + 1 := by
    intro n hn
    obtain ⟨s, -, rfl⟩ := List.mem_map.mp hn
    have hlt := s.ordinal.toNat_lt
    unfold Text.maxWord32
    omega
  simpa using length_le_of_increasing incr' hlow hbound

/-! ### Producers come first -/

theorem checkDependency_eq_ok {before after : List Stage} {s : Stage} {artifact : String}
    (h : checkDependency before s after artifact = .ok ()) :
    before.any (produces · artifact) = true := by
  unfold checkDependency at h
  split at h
  · assumption
  · split at h <;> cases h

theorem forM_checkDependency {before after : List Stage} {s : Stage} {artifacts : List String}
    (h : artifacts.forM (checkDependency before s after) = .ok ()) :
    ∀ artifact ∈ artifacts, before.any (produces · artifact) = true := by
  induction artifacts with
  | nil => simp
  | cons a rest ih =>
    change (checkDependency before s after a >>= fun _ =>
      rest.forM (checkDependency before s after)) = .ok () at h
    cases ha : checkDependency before s after a with
    | error e => simp [ha, bind, Except.bind] at h
    | ok _ =>
      intro artifact hmem
      rcases List.mem_cons.mp hmem with rfl | hmem
      · exact checkDependency_eq_ok ha
      · exact ih (by simpa [ha, bind, Except.bind] using h) artifact hmem

theorem producer_of_checkDependencies {before stages : List Stage} {place : Nat} {s : Stage}
    (h : checkDependencies before stages = .ok ()) (hs : stages[place]? = some s)
    {artifact : String} (ha : artifact ∈ s.dependencies) :
    (before ++ stages.take place).any (produces · artifact) = true := by
  induction stages generalizing before place with
  | nil => simp at hs
  | cons t rest ih =>
    obtain ⟨ht, hrest⟩ := checkDependencies_cons h
    cases place with
    | zero =>
      simp only [List.getElem?_cons_zero, Option.some.injEq] at hs
      subst hs
      simpa using forM_checkDependency ht artifact ha
    | succ place =>
      simp only [List.getElem?_cons_succ] at hs
      simpa [List.append_assoc] using ih hrest hs

/-- What a stage depends on is produced by a stage before it. -/
theorem exists_producer_before (r : Registry) {place : Nat} {s : Stage}
    (hs : r.stages[place]? = some s) {artifact : String} (ha : artifact ∈ s.dependencies) :
    ∃ i < place, ∃ producer, r.stages[i]? = some producer ∧
      r.producer? artifact = some producer := by
  have hany := producer_of_checkDependencies (check_eq_ok r.checked).2.2 hs ha
  rw [List.nil_append] at hany
  cases hfind : r.producer? artifact with
  | none =>
    rw [producer?, List.find?_eq_none] at hfind
    obtain ⟨t, ht, hp⟩ := List.any_eq_true.mp hany
    exact absurd hp (hfind t (List.mem_of_mem_take ht))
  | some producer =>
    obtain ⟨-, i, hi, heq, hfirst⟩ := List.find?_eq_some_iff_getElem.mp hfind
    refine ⟨i, ?_, producer, by rw [List.getElem?_eq_getElem hi, heq], rfl⟩
    -- the first producer is no later than the one that the check has found
    obtain ⟨t, ht, hp⟩ := List.any_eq_true.mp hany
    obtain ⟨j, hj, rfl⟩ := List.mem_take_iff_getElem.mp ht
    by_cases hij : i ≤ j
    · omega
    · exact absurd hp (by simpa using hfirst j (by omega))

end RobotPipeline.Registry
