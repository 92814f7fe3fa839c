import BrunostJudge.ModelPhases
import Mathlib.Algebra.Order.BigOperators.Group.List

namespace BrunostJudge
open Python Plans
set_option autoImplicit true

namespace ModelTask

section
variable {task : ModelTask} {machine : ModelMachine} {solution : Solution} {phase : SubmissionPhase}
  {split : ModelSplit} {before after : List ModelAction} {action : ModelAction}

theorem runModel_before (h : (task.runModel machine).2 = after ++ action :: before) :
    before.reverse.map ModelAction.step ++ [action.step] <+: task.plan ∧
      action.fits task machine before := by
  obtain ⟨actions, hactions, hsteps, _, hfits, _⟩ := model_lifecycle task machine
  have hsplit : actions = before.reverse ++ action :: after.reverse := by
    rw [← List.reverse_reverse actions, ← hactions, h]
    simp
  constructor
  · apply List.IsPrefix.trans _ hsteps
    rw [hsplit, List.map_append, List.map_cons]
    exact ⟨after.reverse.map ModelAction.step, by simp⟩
  · have hfit := hfits _ _ _ hsplit
    rwa [List.reverse_reverse] at hfit

theorem skip_first {first rest start : List κ} {step : κ} (h : start ++ [step] <+: first ++ rest)
    (hfirst : step ∉ first) : ∃ next, start = first ++ next ∧ next ++ [step] <+: rest := by
  obtain ⟨tail, htail⟩ := h
  rw [List.append_assoc] at htail
  rcases List.append_eq_append_iff.1 htail with ⟨more, hmore, hrest⟩ | ⟨next, hnext, hrest⟩
  · cases more with
    | nil =>
      rw [List.append_nil] at hmore
      exact ⟨[], by rw [hmore, List.append_nil], tail, hrest⟩
    | cons step' more =>
      have heq : step = step' := (List.cons.inj hrest).1
      rw [hmore, heq] at hfirst
      exact absurd (List.mem_append_right _ List.mem_cons_self) hfirst
  · exact ⟨next, hnext, tail, by rw [hrest, List.append_assoc]⟩

theorem before_last {middle last start : List κ} {step : κ} (h : start ++ [step] <+: middle ++ last)
    (hlast : step ∉ last) : start ++ [step] <+: middle := by
  obtain ⟨tail, htail⟩ := h
  rcases List.append_eq_append_iff.1 htail with ⟨more, hmore, _⟩ | ⟨more, hmore, hlast'⟩
  · exact ⟨more, hmore.symm⟩
  · cases more with
    | nil =>
      rw [List.append_nil] at hmore
      exact ⟨[], (List.append_nil _).trans hmore⟩
    | cons step' more =>
      have hends := congrArg List.getLast? hmore
      rw [List.getLast?_concat, List.getLast?_append_of_ne_nil _ (List.cons_ne_nil _ _)] at hends
      rw [hlast'] at hlast
      exact absurd (List.mem_append_left _ (List.mem_of_getLast? hends.symm)) hlast

def copiesLabels (steps : List ModelStep) (split : ModelSplit) : Prop :=
  ∃ workspace, .copy workspace (.labels split) ∈ steps

def copiesTest (steps : List ModelStep) (split : ModelSplit) : Prop :=
  ∃ workspace, .copy workspace (.test split) ∈ steps

theorem participant_before (h : (task.runModel machine).2 = after ++ action :: before)
    (hstep : action.step = .submission .participant phase) :
    ∃ start, before.reverse.map ModelAction.step =
        (if task.baseline then task.solutionPlan .baseline else []) ++ start ∧
      start ++ [.submission .participant phase] <+:
        trainingPlan .participant ++ predictionPlan .participant task.splits := by
  have hbefore := (runModel_before h).1
  rw [hstep, plan] at hbefore
  have hfirst : ModelStep.submission .participant phase ∉
      (if task.baseline then task.solutionPlan .baseline else []) := by
    split
    · simp [solutionPlan, trainingPlan, predictionPlan, evaluationPlan]
    · exact List.not_mem_nil
  obtain ⟨start, heq, hstart⟩ := skip_first hbefore hfirst
  refine ⟨start, heq, before_last hstart ?_⟩
  simp [evaluationPlan]

theorem solutionPlan_labels (task : ModelTask) (solution : Solution) (split : ModelSplit) :
    copiesLabels (task.solutionPlan solution) split ↔ split ∈ task.splits := by
  simp [copiesLabels, solutionPlan, trainingPlan, predictionPlan, evaluationPlan]

theorem solutionPlan_test (task : ModelTask) (solution : Solution) (split : ModelSplit) :
    copiesTest (task.solutionPlan solution) split ↔ split ∈ task.splits := by
  simp [copiesTest, solutionPlan, trainingPlan, predictionPlan, evaluationPlan]

/-- What was copied for the baseline, where nothing like it was copied for the participant. -/
theorem copied_for_baseline {data : ModelData} {start steps : List ModelStep}
    (hmem : ∀ step, step ∈ steps ↔
      step ∈ (if task.baseline then task.solutionPlan .baseline else []) ∨ step ∈ start)
    (hstart : ∀ workspace, ModelStep.copy workspace data ∉ start) :
    (∃ workspace, ModelStep.copy workspace data ∈ steps) ↔
      task.baseline = true ∧
        ∃ workspace, ModelStep.copy workspace data ∈ task.solutionPlan .baseline := by
  constructor
  · rintro ⟨workspace, hcopy⟩
    rcases (hmem _).1 hcopy with hbaseline | hparticipant
    · split at hbaseline
      · next htrue => exact ⟨htrue, workspace, hbaseline⟩
      · cases hbaseline
    · exact absurd hparticipant (hstart workspace)
  · rintro ⟨htrue, workspace, hcopy⟩
    refine ⟨workspace, (hmem _).2 (.inl ?_)⟩
    rwa [if_pos htrue]

theorem plan_limit (task : ModelTask) :
    (task.plan.map task.stepLimitMs).sum + 5000 =
      calculatedBudgetMs task.publicSplit task.baseline task.trainingTimeMs task.predictionTimeMs
        task.evaluatorTimeMs := by
  have hsolution : ∀ solution, ((task.solutionPlan solution).map task.stepLimitMs).sum =
      task.trainingTimeMs + (if task.publicSplit then 2 else 1) * task.predictionTimeMs +
        (if task.publicSplit then 2 else 1) * task.evaluatorTimeMs := by
    intro solution
    cases hpublic : task.publicSplit with
    | true =>
      simp [solutionPlan, trainingPlan, predictionPlan, evaluationPlan, splits, hpublic,
        stepLimitMs, phaseTimeMs]
      omega
    | false =>
      simp [solutionPlan, trainingPlan, predictionPlan, evaluationPlan, splits, hpublic,
        stepLimitMs, phaseTimeMs]
      omega
  rw [plan, List.map_append, List.sum_append, calculatedBudgetMs, hsolution]
  cases task.baseline with
  | true =>
    rw [if_pos rfl, if_pos rfl, hsolution]
    omega
  | false =>
    rw [if_neg Bool.false_ne_true, if_neg Bool.false_ne_true, List.map_nil, List.sum_nil]
    omega

theorem stepLimitMs_nonneg (task : ModelTask) (step : ModelStep) : 0 ≤ task.stepLimitMs step := by
  cases step with
  | copy workspace data => exact le_refl 0
  | submission solution phase => exact le_of_lt (phaseTimeMs_pos task phase)
  | evaluator solution split => exact le_trans Int.one_nonneg task.positive.2.2.2

/-- The time a process is given. -/
def timeoutMs? : ModelAction → Option Int
  | .copy _ _ => none
  | .submission _ _ timeoutMs _ => some timeoutMs
  | .evaluator _ _ timeoutMs _ => some timeoutMs

theorem timeout_fits {timeoutMs : Int} (h : action.fits task machine before)
    (htimeout : timeoutMs? action = some timeoutMs) :
    0 < timeoutMs ∧ timeoutMs =
      min (task.stepLimitMs action.step) ⌊(task.budgetMs : ℚ) - machine.clockMs before⌋ := by
  cases action with
  | copy workspace data => cases htimeout
  | submission solution phase _ outcome =>
    cases htimeout
    exact ⟨h.1, h.2.1⟩
  | evaluator solution split _ outcome =>
    cases htimeout
    exact ⟨h.1, h.2.1⟩

/-- No process is given time beyond the budget of the evaluation. Where the manifest leaves the
budget to the runner, and no more than five seconds pass outside the limits of the processes, every
process is given the limit that the manifest names. -/
theorem model_budget {timeoutMs : Int} (h : (task.runModel machine).2 = after ++ action :: before)
    (htimeout : timeoutMs? action = some timeoutMs) :
    machine.clockMs before + timeoutMs ≤ task.budgetMs ∧
      (calculatedBudgetMs task.publicSplit task.baseline task.trainingTimeMs
          task.predictionTimeMs task.evaluatorTimeMs ≤ task.budgetMs →
        machine.clockMs before ≤
          (((before.map ModelAction.step).map task.stepLimitMs).sum + 5000 : Int) →
        timeoutMs = task.stepLimitMs action.step) := by
  obtain ⟨hsteps, hfits⟩ := runModel_before h
  obtain ⟨_, heq⟩ := timeout_fits hfits htimeout
  constructor
  · have hfloor := Int.floor_le ((task.budgetMs : ℚ) - machine.clockMs before)
    have hmin : (timeoutMs : ℚ) ≤ ⌊(task.budgetMs : ℚ) - machine.clockMs before⌋ := by
      rw [heq]
      exact_mod_cast min_le_right _ _
    linarith
  · intro hbudget hclock
    rw [heq]
    apply min_eq_left
    rw [Int.le_floor]
    have hsum : ((before.map ModelAction.step).map task.stepLimitMs).sum +
        task.stepLimitMs action.step ≤ (task.plan.map task.stepLimitMs).sum := by
      obtain ⟨rest, hrest⟩ := hsteps
      have hrest_nonneg : 0 ≤ (rest.map task.stepLimitMs).sum := by
        apply List.sum_nonneg
        intro limit hlimit
        obtain ⟨step, _, rfl⟩ := List.mem_map.1 hlimit
        exact stepLimitMs_nonneg task step
      rw [← hrest]
      simp only [List.map_append, List.sum_append, List.map_reverse, List.sum_reverse,
        List.map_cons, List.map_nil, List.sum_cons, List.sum_nil, add_zero]
      omega
    have hall := plan_limit task
    have hbound : ((before.map ModelAction.step).map task.stepLimitMs).sum + 5000 +
        task.stepLimitMs action.step ≤ task.budgetMs := by
      omega
    have hcast : (((((before.map ModelAction.step).map task.stepLimitMs).sum + 5000 +
        task.stepLimitMs action.step : Int)) : ℚ) ≤ task.budgetMs := by
      exact_mod_cast hbound
    push_cast at hcast hclock
    linarith

end

end ModelTask

end BrunostJudge
