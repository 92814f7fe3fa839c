import BrunostJudge.Means
import BrunostJudge.OptimizationRunner
import BrunostJudge.PyCollections

namespace BrunostJudge
open Python
set_option autoImplicit true

/-- The operations whose results floats round. -/
structure ScoreArithmetic (K : Type) where
  divide : K → K → K
  mean : List K → K
  geometricMean : List K → K

/-- Python's, on floats. -/
def OptimizationHost.floatArithmetic (host : OptimizationHost) : ScoreArithmetic ℚ where
  divide x y := toFloat (x / y)
  mean scores := toFloat (floatSum scores / scores.length)
  geometricMean scores := host.power (floatProd scores) (toFloat (1 / scores.length))

/-- The same on real numbers, where nothing is rounded. -/
noncomputable def exactArithmetic : ScoreArithmetic ℝ where
  divide x y := x / y
  mean := Means.arithmetic
  geometricMean := Means.geometric

/-- What a round of the loop over the instances has to score: nothing, where the program did not end
well or its output is not valid, or the fields of an evaluation. -/
inductive InstanceEnd (K : Type) where
  | unscored
  | evaluated (feasible : Bool) (objective score : Option K)

section
variable {K : Type} [LinearOrder K] [Zero K] [One K] (arith : ScoreArithmetic K)

/-- `_baseline_ratio`. -/
def baselineRatioOver (candidate baseline : K) (direction : ObjectiveDirection) :
    Except JudgeException K :=
  if candidate < 0 ∨ baseline < 0 then
    .error (.judge "baseline-ratio scoring requires non-negative objectives")
  else
    match direction with
    | .maximize =>
      if baseline = 0 then .ok (if baseline ≤ candidate then 1 else 0)
      else .ok (max 0 (min 1 (arith.divide candidate baseline)))
    | .minimize =>
      if candidate = 0 then .ok 1
      else if baseline = 0 then .ok (if candidate ≤ baseline then 1 else 0)
      else .ok (max 0 (min 1 (arith.divide baseline candidate)))

/-- `_aggregate`. -/
def aggregateOver (scores : List K) (aggregation : Aggregation) : K :=
  match scores with
  | [] => 0
  | score :: rest =>
    match aggregation with
    | .minimum => rest.foldl min score
    | .geometricMean => if scores.any fun s => s ≤ 0 then 0 else arith.geometricMean scores
    | .mean => arith.mean scores

/-- The score that a round of the loop appends. -/
def instanceScoreOver (config : OptimizationConfig) (baseline : Option K) :
    InstanceEnd K → Except JudgeException K
  | .evaluated true (some objective) score =>
    match config.scoreMode with
    | .baselineRatio =>
      match baseline with
      | none => .error (.judge "baseline objective is missing")
      | some baseline => baselineRatioOver arith objective baseline config.objectiveDirection
    | .checkerScore =>
      match score with
      | some score =>
        if 0 ≤ score ∧ score ≤ 1 then .ok score
        else .error (.judge "checker_score tasks need evaluator score between 0 and 1")
      | none => .error (.judge "checker_score tasks need evaluator score between 0 and 1")
  | _ => .ok 0

/-- The score of a task, from the baseline and the end of each instance. -/
def taskScoreOver (config : OptimizationConfig) (instances : List (Option K × InstanceEnd K)) :
    Except JudgeException K := do
  let scores ← instances.mapM fun i => instanceScoreOver arith config i.1 i.2
  return aggregateOver arith scores config.aggregation

end

namespace OptimizationHost
variable (host : OptimizationHost)

theorem baselineRatio_over (candidate baseline : ℚ) (direction : ObjectiveDirection) :
    baselineRatio candidate baseline direction =
      baselineRatioOver host.floatArithmetic candidate baseline direction := by
  rw [baselineRatio.eq_def, baselineRatioOver.eq_def]
  split
  · rfl
  · next hsign =>
    rw [not_or, not_lt, not_lt] at hsign
    cases direction with
    | maximize =>
      dsimp only
      split
      · next hzero => rw [hzero, if_pos hsign.1]
      · rfl
    | minimize =>
      dsimp only
      split
      · rfl
      · next hcandidate =>
        split
        · next hzero =>
          rw [hzero, if_neg]
          exact fun hle => hcandidate (le_antisymm hle hsign.1)
        · rfl

theorem aggregate_over (scores : List ℚ) (aggregation : Aggregation) :
    host.aggregate scores aggregation = aggregateOver host.floatArithmetic scores aggregation := by
  cases scores with
  | nil => rfl
  | cons score rest => cases aggregation <;> rfl

theorem instanceScore_over (config : OptimizationConfig) (baseline : Option ℚ) (objective : ℚ)
    (score : Option ℚ) : instanceScore config baseline objective score =
      instanceScoreOver host.floatArithmetic config baseline
        (.evaluated true (some objective) score) := by
  rw [instanceScore.eq_def, instanceScoreOver.eq_def]
  dsimp only
  cases config.scoreMode with
  | checkerScore =>
    cases score with
    | none => rfl
    | some score => exact if_congr Iff.rfl rfl rfl
  | baselineRatio =>
    cases baseline with
    | none => rfl
    | some baseline => exact baselineRatio_over host objective baseline _

/-- How an instance ends. -/
def instanceEnd (config : OptimizationConfig) (run : InstanceRun) :
    Except JudgeException (InstanceEnd ℚ) := do
  let outcome := runProcess (some config.outputLimitBytes) run.process
  if outcome.verdict ≠ .ok then
    return .unscored
  let result ← host.evaluate run.evaluator
  match result with
  | .inl _ => return .unscored
  | .inr evaluation =>
    return .evaluated evaluation.feasible evaluation.objective evaluation.score

omit host in
theorem snd_of_bind {α β ε : Type} (x : Except ε β) (g : β → α) :
    (x >>= fun b => (pure (g b, b) : Except ε (α × β))).map Prod.snd = x := by
  cases x <;> rfl

theorem judgeInstance_score (config : OptimizationConfig) (id : PyStr) (baseline : Option ℚ)
    (run : InstanceRun) : (host.judgeInstance config id baseline run).map Prod.snd =
      host.instanceEnd config run >>= instanceScoreOver host.floatArithmetic config baseline := by
  rw [judgeInstance, instanceEnd]
  split
  · rfl
  · cases host.evaluate run.evaluator with
    | error exc => rfl
    | ok result =>
      cases result with
      | inl message => rfl
      | inr evaluation =>
        obtain ⟨feasible, objective, score, message⟩ := evaluation
        cases feasible with
        | false => rfl
        | true =>
          cases objective with
          | none => rfl
          | some objective =>
            exact (snd_of_bind _ _).trans
              (host.instanceScore_over config baseline objective score)

theorem judgeInstances_score {config : OptimizationConfig} {baselines : Nat → Option ℚ}
    {run : Nat → InstanceRun} {ids : List PyStr} {results : List (OptimizationRow × ℚ)}
    (h : host.judgeInstances config baselines run ids = .ok results) :
    ∃ instances, List.Forall₂ (fun (id : PyStr × Nat) (i : Option ℚ × InstanceEnd ℚ) =>
        i.1 = baselines id.2 ∧ host.instanceEnd config (run id.2) = .ok i.2) ids.zipIdx instances ∧
      taskScoreOver host.floatArithmetic config instances =
        .ok (host.aggregate (results.map Prod.snd) config.aggregation) := by
  have hrounds : ∀ (l : List (PyStr × Nat)) (results : List (OptimizationRow × ℚ)),
      List.Forall₂ (fun (id : PyStr × Nat) (result : OptimizationRow × ℚ) =>
        host.judgeInstance config id.1 (baselines id.2) (run id.2) = .ok result) l results →
      ∃ instances, List.Forall₂ (fun (id : PyStr × Nat) (i : Option ℚ × InstanceEnd ℚ) =>
        i.1 = baselines id.2 ∧ host.instanceEnd config (run id.2) = .ok i.2) l instances ∧
      instances.mapM (fun i => instanceScoreOver host.floatArithmetic config i.1 i.2) =
        .ok (results.map Prod.snd) := by
    intro l results hl
    induction hl with
    | nil => exact ⟨[], .nil, rfl⟩
    | @cons id result l results hid _ ih =>
      obtain ⟨instances, hends, hscores⟩ := ih
      have hscore := host.judgeInstance_score config id.1 (baselines id.2) (run id.2)
      rw [hid] at hscore
      obtain ⟨e, hend, hscore⟩ := bind_ok.1 hscore.symm
      refine ⟨(baselines id.2, e) :: instances, .cons ⟨rfl, hend⟩ hends, ?_⟩
      rw [List.mapM_cons]
      exact bind_ok.2 ⟨_, hscore, bind_ok.2 ⟨_, hscores, rfl⟩⟩
  obtain ⟨instances, hends, hscores⟩ := hrounds _ _ (mapM_forall₂ h)
  refine ⟨instances, hends, ?_⟩
  rw [taskScoreOver, hscores, aggregate_over]
  rfl

end OptimizationHost

/-- `direction.asGood x y`: the objective `x` is as good as `y` or better. -/
def ObjectiveDirection.asGood (direction : ObjectiveDirection) (x y : ℝ) : Prop :=
  match direction with
  | .maximize => y ≤ x
  | .minimize => x ≤ y

/-- The ratio as a function of objectives that are not negative. -/
noncomputable def exactRatio (candidate baseline : ℝ) (direction : ObjectiveDirection) : ℝ :=
  match direction with
  | .maximize => if baseline = 0 then 1 else max 0 (min 1 (candidate / baseline))
  | .minimize =>
    if candidate = 0 then 1
    else if baseline = 0 then 0
    else max 0 (min 1 (baseline / candidate))

variable {candidate baseline better : ℝ} {direction : ObjectiveDirection}

theorem baselineRatioOver_exact (hc : 0 ≤ candidate) (hb : 0 ≤ baseline) :
    baselineRatioOver exactArithmetic candidate baseline direction =
      .ok (exactRatio candidate baseline direction) := by
  rw [baselineRatioOver.eq_def, exactRatio.eq_def, if_neg]
  · cases direction with
    | maximize =>
      dsimp only
      split
      · next hzero => rw [hzero, if_pos hc]
      · rfl
    | minimize =>
      dsimp only
      split
      · rfl
      · next hcandidate =>
        split
        · next hzero =>
          rw [hzero, if_neg]
          exact fun hle => hcandidate (le_antisymm hle hc)
        · rfl
  · rw [not_or, not_lt, not_lt]
    exact ⟨hc, hb⟩

theorem baselineRatioOver_ok {ratio : ℝ}
    (h : baselineRatioOver exactArithmetic candidate baseline direction = .ok ratio) :
    0 ≤ candidate ∧ 0 ≤ baseline := by
  rw [baselineRatioOver.eq_def] at h
  split at h
  · cases h
  · next hsign =>
    rw [not_or, not_lt, not_lt] at hsign
    exact hsign

theorem exactRatio_bounds : 0 ≤ exactRatio candidate baseline direction ∧
    exactRatio candidate baseline direction ≤ 1 := by
  have hclamp : ∀ x : ℝ, 0 ≤ max 0 (min 1 x) ∧ max 0 (min 1 x) ≤ 1 :=
    fun x => ⟨le_max_left 0 _, max_le zero_le_one (min_le_left 1 x)⟩
  rw [exactRatio.eq_def]
  cases direction with
  | maximize =>
    dsimp only
    split
    · exact ⟨zero_le_one, le_rfl⟩
    · exact hclamp _
  | minimize =>
    dsimp only
    split
    · exact ⟨zero_le_one, le_rfl⟩
    · split
      · exact ⟨le_rfl, zero_le_one⟩
      · exact hclamp _

theorem clamp_eq_one {x : ℝ} : max 0 (min 1 x) = 1 ↔ 1 ≤ x := by
  constructor
  · intro h
    by_contra hlt
    have hmax : max 0 (min 1 x) < 1 :=
      max_lt zero_lt_one ((min_le_right 1 x).trans_lt (not_le.1 hlt))
    exact hmax.ne h
  · intro h
    rw [min_eq_left h]
    exact max_eq_right zero_le_one

theorem exactRatio_eq_one (hc : 0 ≤ candidate) (hb : 0 ≤ baseline) :
    exactRatio candidate baseline direction = 1 ↔ direction.asGood candidate baseline := by
  rw [exactRatio.eq_def, ObjectiveDirection.asGood.eq_def]
  cases direction with
  | maximize =>
    dsimp only
    split
    · next hzero => exact iff_of_true rfl (hzero ▸ hc)
    · next hzero =>
      rw [clamp_eq_one]
      exact one_le_div (hb.lt_of_ne' hzero)
  | minimize =>
    dsimp only
    split
    · next hzero => exact iff_of_true rfl (hzero ▸ hb)
    · next hcandidate =>
      split
      · next hzero =>
        apply iff_of_false zero_ne_one
        exact fun hle => hcandidate (le_antisymm (hzero ▸ hle) hc)
      · rw [clamp_eq_one]
        exact one_le_div (hc.lt_of_ne' hcandidate)

theorem exactRatio_mono (hb : 0 ≤ baseline) (hbetter : 0 ≤ better)
    (h : direction.asGood better candidate) :
    exactRatio candidate baseline direction ≤ exactRatio better baseline direction := by
  have hclamp : ∀ {x y : ℝ}, x ≤ y → max 0 (min 1 x) ≤ max 0 (min 1 y) :=
    fun hxy => max_le_max le_rfl (min_le_min le_rfl hxy)
  rw [ObjectiveDirection.asGood.eq_def] at h
  cases direction with
  | maximize =>
    rw [exactRatio.eq_def, exactRatio.eq_def]
    dsimp only
    split
    · exact le_rfl
    · exact hclamp (div_le_div_of_nonneg_right h hb)
  | minimize =>
    by_cases hzero : better = 0
    · have hone : exactRatio better baseline .minimize = 1 := by
        rw [exactRatio.eq_def]
        exact if_pos hzero
      rw [hone]
      exact exactRatio_bounds.2
    · have hpos : 0 < better := hbetter.lt_of_ne' hzero
      have hcandidate : candidate ≠ 0 := (hpos.trans_le h).ne'
      rw [exactRatio.eq_def, exactRatio.eq_def]
      dsimp only
      rw [if_neg hcandidate, if_neg hzero]
      split
      · exact le_rfl
      · exact hclamp (div_le_div_of_nonneg_left hb hpos h)

noncomputable abbrev exactAggregate (scores : List ℝ) (aggregation : Aggregation) : ℝ :=
  aggregateOver exactArithmetic scores aggregation

variable {scores scores' : List ℝ} {aggregation : Aggregation} {lo hi : ℝ}

/-- The check for scores that are not positive agrees with the mean of the others. -/
theorem exactAggregate_geometric (hne : scores ≠ []) (h : ∀ s ∈ scores, 0 ≤ s) :
    exactAggregate scores .geometricMean = Means.geometric scores := by
  obtain ⟨score, rest, rfl⟩ := List.exists_cons_of_ne_nil hne
  rw [exactAggregate, aggregateOver.eq_def]
  dsimp only
  split
  · next hsome =>
    obtain ⟨s, hs, hle⟩ := List.any_eq_true.1 hsome
    have hzero : s = 0 := le_antisymm (of_decide_eq_true hle) (h s hs)
    exact (Means.geometric_eq_zero (hzero ▸ hs)).symm
  · rfl

theorem exactAggregate_bounds (hne : scores ≠ []) (h : ∀ s ∈ scores, 0 ≤ s ∧ lo ≤ s ∧ s ≤ hi) :
    lo ≤ exactAggregate scores aggregation ∧ exactAggregate scores aggregation ≤ hi := by
  cases aggregation with
  | mean =>
    obtain ⟨score, rest, rfl⟩ := List.exists_cons_of_ne_nil hne
    exact Means.arithmetic_bounds hne fun s hs => (h s hs).2
  | minimum =>
    obtain ⟨score, rest, rfl⟩ := List.exists_cons_of_ne_nil hne
    obtain ⟨hscore, hrest⟩ := List.forall_mem_cons.1 h
    constructor
    · exact Means.le_foldl_min.2 ⟨hscore.2.1, fun s hs => (hrest s hs).2.1⟩
    · exact (Means.le_foldl_min.1 le_rfl).1.trans hscore.2.2
  | geometricMean =>
    rw [exactAggregate_geometric hne fun s hs => (h s hs).1]
    exact Means.geometric_bounds hne h

theorem exactAggregate_mono (h : List.Forall₂ (fun s s' => 0 ≤ s ∧ s ≤ s') scores scores') :
    exactAggregate scores aggregation ≤ exactAggregate scores' aggregation := by
  have hle : List.Forall₂ (· ≤ ·) scores scores' := h.imp fun _ _ hss => hss.2
  have hleft : ∀ s ∈ scores, 0 ≤ s := by
    intro s hs
    obtain ⟨s', _, hss⟩ := forall₂_mem h.flip hs
    exact hss.1
  have hright : ∀ s' ∈ scores', 0 ≤ s' := by
    intro s' hs
    obtain ⟨s, _, hss⟩ := forall₂_mem h hs
    exact hss.1.trans hss.2
  cases h with
  | nil => exact le_rfl
  | cons hfirst hrest =>
    cases aggregation with
    | mean => exact Means.arithmetic_mono hle
    | minimum => exact Means.foldl_min_mono hfirst.2 (hrest.imp fun _ _ hss => hss.2)
    | geometricMean =>
      rw [exactAggregate_geometric (List.cons_ne_nil _ _) hleft,
        exactAggregate_geometric (List.cons_ne_nil _ _) hright]
      exact Means.geometric_mono (.cons hfirst hrest)

theorem exactAggregate_zero (hmean : aggregation ≠ .mean) (h : ∀ s ∈ scores, 0 ≤ s)
    (hzero : 0 ∈ scores) : exactAggregate scores aggregation = 0 := by
  have hne := List.ne_nil_of_mem hzero
  cases aggregation with
  | mean => exact absurd rfl hmean
  | minimum =>
    obtain ⟨score, rest, rfl⟩ := List.exists_cons_of_ne_nil hne
    have hlow : 0 ≤ exactAggregate (score :: rest) .minimum :=
      Means.le_foldl_min.2 (List.forall_mem_cons.1 h)
    obtain ⟨hscore, hrest⟩ := Means.le_foldl_min.1
      (le_refl (exactAggregate (score :: rest) .minimum))
    rcases List.mem_cons.1 hzero with hfirst | hmem
    · exact le_antisymm (hfirst ▸ hscore) hlow
    · exact le_antisymm (hrest 0 hmem) hlow
  | geometricMean =>
    rw [exactAggregate_geometric hne h]
    exact Means.geometric_eq_zero hzero

theorem instanceScoreOver_range {config : OptimizationConfig} {baseline : Option ℝ}
    {e : InstanceEnd ℝ} {s : ℝ}
    (h : instanceScoreOver exactArithmetic config baseline e = .ok s) : 0 ≤ s ∧ s ≤ 1 := by
  rw [instanceScoreOver.eq_def] at h
  split at h
  · split at h
    · split at h
      · cases h
      · obtain ⟨hc, hb⟩ := baselineRatioOver_ok h
        rw [baselineRatioOver_exact hc hb] at h
        cases h
        exact exactRatio_bounds
    · split at h
      · split at h
        · next hrange =>
          cases h
          exact hrange
        · cases h
      · cases h
  · cases h
    exact ⟨le_rfl, zero_le_one⟩

/-- The feasible evaluations that a task takes. -/
def Scorable (config : OptimizationConfig) (baseline : Option ℝ) (objective : ℝ)
    (score : Option ℝ) : Prop :=
  match config.scoreMode with
  | .baselineRatio => 0 ≤ objective ∧ ∃ b, baseline = some b ∧ 0 ≤ b
  | .checkerScore => ∃ s, score = some s ∧ 0 ≤ s ∧ s ≤ 1

theorem Scorable.score {config : OptimizationConfig} {objective : ℝ} {score baseline : Option ℝ}
    (h : Scorable config baseline objective score) :
    ∃ s, instanceScoreOver exactArithmetic config baseline
      (.evaluated true (some objective) score) = .ok s := by
  rw [Scorable] at h
  rw [instanceScoreOver.eq_def]
  dsimp only
  cases hmode : config.scoreMode with
  | baselineRatio =>
    rw [hmode] at h
    obtain ⟨hobjective, b, rfl, hb⟩ := h
    exact ⟨_, baselineRatioOver_exact hobjective hb⟩
  | checkerScore =>
    rw [hmode] at h
    obtain ⟨s, rfl, hrange⟩ := h
    exact ⟨s, if_pos hrange⟩

/-- One instance that ends the same or better: with a better objective, with a higher score of the
evaluator, or with an evaluation that is feasible now and scored. -/
inductive NoWorse (config : OptimizationConfig) (baseline : Option ℝ) :
    InstanceEnd ℝ → InstanceEnd ℝ → Prop
  | same (e : InstanceEnd ℝ) : NoWorse config baseline e e
  | objective {c c' : ℝ} {s s' : Option ℝ} (hmode : config.scoreMode = .baselineRatio)
      (hc : 0 ≤ c') (h : config.objectiveDirection.asGood c' c) :
      NoWorse config baseline (.evaluated true (some c) s) (.evaluated true (some c') s')
  | score {o o' : ℝ} {s s' : ℝ} (hmode : config.scoreMode = .checkerScore) (h : s ≤ s')
      (hone : s' ≤ 1) :
      NoWorse config baseline (.evaluated true (some o) (some s))
        (.evaluated true (some o') (some s'))
  | unscored {c : ℝ} {s : Option ℝ} (h : Scorable config baseline c s) :
      NoWorse config baseline .unscored (.evaluated true (some c) s)
  | infeasible {o s : Option ℝ} {c : ℝ} {s' : Option ℝ} (h : Scorable config baseline c s') :
      NoWorse config baseline (.evaluated false o s) (.evaluated true (some c) s')

theorem NoWorse.score_le {config : OptimizationConfig} {baseline : Option ℝ}
    {e e' : InstanceEnd ℝ} {s : ℝ} (h : NoWorse config baseline e e')
    (hs : instanceScoreOver exactArithmetic config baseline e = .ok s) :
    ∃ s', instanceScoreOver exactArithmetic config baseline e' = .ok s' ∧ s ≤ s' := by
  have hzero : ∀ {c : ℝ} {score : Option ℝ}, Scorable config baseline c score →
      ∃ s', instanceScoreOver exactArithmetic config baseline
        (.evaluated true (some c) score) = .ok s' ∧ 0 ≤ s' := by
    intro c score hscorable
    obtain ⟨s', hs'⟩ := hscorable.score
    exact ⟨s', hs', (instanceScoreOver_range hs').1⟩
  cases h with
  | same => exact ⟨s, hs, le_rfl⟩
  | objective hmode hc hgood =>
    rw [instanceScoreOver.eq_def] at hs ⊢
    dsimp only at hs ⊢
    rw [hmode] at hs ⊢
    cases baseline with
    | none => cases hs
    | some b =>
      dsimp only at hs ⊢
      obtain ⟨hcandidate, hb⟩ := baselineRatioOver_ok hs
      rw [baselineRatioOver_exact hcandidate hb] at hs
      cases hs
      exact ⟨_, baselineRatioOver_exact hc hb, exactRatio_mono hb hc hgood⟩
  | score hmode hle hone =>
    rw [instanceScoreOver.eq_def] at hs ⊢
    dsimp only at hs ⊢
    rw [hmode] at hs ⊢
    dsimp only at hs ⊢
    split at hs
    · next hrange =>
      cases hs
      exact ⟨_, if_pos ⟨hrange.1.trans hle, hone⟩, hle⟩
    · cases hs
  | unscored hscorable =>
    cases hs
    exact hzero hscorable
  | infeasible hscorable =>
    cases hs
    exact hzero hscorable

theorem taskScoreOver_mono {config : OptimizationConfig}
    {instances instances' : List (Option ℝ × InstanceEnd ℝ)} {score : ℝ}
    (h : List.Forall₂ (fun i i' => i.1 = i'.1 ∧ NoWorse config i.1 i.2 i'.2) instances instances')
    (hscore : taskScoreOver exactArithmetic config instances = .ok score) :
    ∃ score', taskScoreOver exactArithmetic config instances' = .ok score' ∧ score ≤ score' := by
  obtain ⟨scores, hscores, hresult⟩ := bind_ok.1 hscore
  cases pure_ok.1 hresult
  have hpointwise : ∃ scores',
      instances'.mapM (fun i => instanceScoreOver exactArithmetic config i.1 i.2) = .ok scores' ∧
        List.Forall₂ (fun s s' => 0 ≤ s ∧ s ≤ s') scores scores' := by
    have hrounds := mapM_forall₂ hscores
    clear hscores hscore hresult
    induction h generalizing scores with
    | nil =>
      cases hrounds
      exact ⟨[], rfl, .nil⟩
    | @cons i i' instances instances' hi _ ih =>
      cases hrounds with
      | cons hs hrest =>
        obtain ⟨s', hs', hle⟩ := hi.2.score_le hs
        obtain ⟨rest', hrest', hall⟩ := ih _ hrest
        refine ⟨s' :: rest', ?_, .cons ⟨(instanceScoreOver_range hs).1, hle⟩ hall⟩
        rw [List.mapM_cons]
        exact bind_ok.2 ⟨s', hi.1 ▸ hs', bind_ok.2 ⟨rest', hrest', rfl⟩⟩
  obtain ⟨scores', hscores', hle⟩ := hpointwise
  exact ⟨_, bind_ok.2 ⟨scores', hscores', rfl⟩, exactAggregate_mono hle⟩

/-- The ratio to a baseline, the aggregates and the score of a task over exact arithmetic. -/
theorem optimization_scores :
    (∀ (direction : ObjectiveDirection) (candidate baseline : ℝ), 0 ≤ candidate → 0 ≤ baseline →
      ∃ ratio, baselineRatioOver exactArithmetic candidate baseline direction = .ok ratio ∧
        0 ≤ ratio ∧ ratio ≤ 1 ∧ (ratio = 1 ↔ direction.asGood candidate baseline) ∧
        ∀ better, 0 ≤ better → direction.asGood better candidate →
          ∃ ratio', baselineRatioOver exactArithmetic better baseline direction = .ok ratio' ∧
            ratio ≤ ratio') ∧
    (∀ (aggregation : Aggregation) (scores : List ℝ) (lo hi : ℝ), scores ≠ [] →
      (∀ s ∈ scores, 0 ≤ s ∧ lo ≤ s ∧ s ≤ hi) →
        lo ≤ aggregateOver exactArithmetic scores aggregation ∧
          aggregateOver exactArithmetic scores aggregation ≤ hi) ∧
    (∀ (aggregation : Aggregation) (scores scores' : List ℝ),
      List.Forall₂ (fun s s' => 0 ≤ s ∧ s ≤ s') scores scores' →
        aggregateOver exactArithmetic scores aggregation ≤
          aggregateOver exactArithmetic scores' aggregation) ∧
    (∀ (aggregation : Aggregation) (scores : List ℝ), aggregation ≠ .mean →
      (∀ s ∈ scores, 0 ≤ s) → 0 ∈ scores →
        aggregateOver exactArithmetic scores aggregation = 0) ∧
    (∀ (config : OptimizationConfig) (baseline : Option ℝ) (e : InstanceEnd ℝ) (s : ℝ),
      instanceScoreOver exactArithmetic config baseline e = .ok s → 0 ≤ s ∧ s ≤ 1) ∧
    (∀ (config : OptimizationConfig) (instances instances' : List (Option ℝ × InstanceEnd ℝ))
      (score : ℝ),
      List.Forall₂ (fun i i' => i.1 = i'.1 ∧ NoWorse config i.1 i.2 i'.2) instances instances' →
        taskScoreOver exactArithmetic config instances = .ok score →
          ∃ score', taskScoreOver exactArithmetic config instances' = .ok score' ∧
            score ≤ score') := by
  refine ⟨?_, ?_, ?_, ?_, ?_, ?_⟩
  · intro direction candidate baseline hc hb
    refine ⟨_, baselineRatioOver_exact hc hb, exactRatio_bounds.1, exactRatio_bounds.2,
      exactRatio_eq_one hc hb, ?_⟩
    intro better hbetter hgood
    exact ⟨_, baselineRatioOver_exact hbetter hb, exactRatio_mono hb hbetter hgood⟩
  · exact fun aggregation scores lo hi hne h => exactAggregate_bounds hne h
  · exact fun aggregation scores scores' h => exactAggregate_mono h
  · exact fun aggregation scores hmean h hzero => exactAggregate_zero hmean h hzero
  · exact fun config baseline e s h => instanceScoreOver_range h
  · exact fun config instances instances' score h hscore => taskScoreOver_mono h hscore

/-- A candidate of half the objective of the baseline, and three instances. -/
theorem optimization_scores_sample :
    (∃ ratio, baselineRatioOver exactArithmetic 1 2 .maximize = .ok ratio ∧ ratio ≤ 1 ∧
      ratio ≠ 1) ∧
    (1 / 4 ≤ aggregateOver exactArithmetic [1, 1 / 4, 1 / 2] .geometricMean ∧
      aggregateOver exactArithmetic [1, 1 / 4, 1 / 2] .geometricMean ≤ 1) ∧
    aggregateOver exactArithmetic [1, 0, 1 / 2] .minimum = 0 := by
  obtain ⟨hratios, hbounds, -, hzero, -⟩ := optimization_scores
  refine ⟨?_, ?_, ?_⟩
  · obtain ⟨ratio, hratio, -, hle, hone, -⟩ := hratios .maximize 1 2 (by norm_num) (by norm_num)
    refine ⟨ratio, hratio, hle, fun h => ?_⟩
    have hgood : (2 : ℝ) ≤ 1 := hone.1 h
    norm_num at hgood
  · exact hbounds .geometricMean [1, 1 / 4, 1 / 2] (1 / 4) 1 (by simp) (by norm_num)
  · exact hzero .minimum [1, 0, 1 / 2] (by decide) (by norm_num) (by simp)

end BrunostJudge
