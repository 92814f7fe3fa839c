import BrunostJudge.ModelRunner

namespace BrunostJudge
open Python Plans
set_option autoImplicit true

/-- A step of the lifecycle, whatever comes of it. -/
inductive ModelStep where
  | copy (workspace : String) (data : ModelData)
  | submission (solution : Solution) (phase : SubmissionPhase)
  | evaluator (solution : Solution) (split : ModelSplit)
deriving DecidableEq

def ModelAction.step : ModelAction → ModelStep
  | .copy workspace data => .copy workspace data
  | .submission solution phase _ _ => .submission solution phase
  | .evaluator solution split _ _ => .evaluator solution split

namespace ModelTask

def trainingPlan (solution : Solution) : List ModelStep :=
  [.copy (trainingWorkspace solution) .training,
    .copy (trainingWorkspace solution) (.code solution),
    .submission solution .training]

def predictionPlan (solution : Solution) (splits : List ModelSplit) : List ModelStep :=
  splits.flatMap fun split =>
    [.copy (predictionWorkspace solution split) (.test split),
      .copy (predictionWorkspace solution split) (.model solution),
      .submission solution (.prediction split)]

def evaluationPlan (solution : Solution) (splits : List ModelSplit) : List ModelStep :=
  splits.flatMap fun split =>
    [.copy (evaluatorWorkspace solution split) .evaluator,
      .copy (evaluatorWorkspace solution split) (.predictions solution split),
      .copy (evaluatorWorkspace solution split) (.labels split),
      .evaluator solution split]

/-- A solution is trained, it predicts each split, and then each split is evaluated. -/
def solutionPlan (task : ModelTask) (solution : Solution) : List ModelStep :=
  trainingPlan solution ++ predictionPlan solution task.splits ++
    evaluationPlan solution task.splits

def plan (task : ModelTask) : List ModelStep :=
  (if task.baseline then task.solutionPlan .baseline else []) ++ task.solutionPlan .participant

def stepLimitMs (task : ModelTask) : ModelStep → Int
  | .copy _ _ => 0
  | .submission _ phase => task.phaseTimeMs phase
  | .evaluator _ _ => task.evaluatorTimeMs

end ModelTask

/-- The score that an evaluator was read to give. -/
def ModelAction.score? (machine : ModelMachine) :
    ModelAction → Option (Solution × ModelSplit × Json)
  | .evaluator solution split _ outcome =>
    ((ModelTask.evaluatorScore machine solution split outcome).toOption).map
      fun score => (solution, split, score)
  | _ => none

def scoresOf (machine : ModelMachine) (actions : List ModelAction) :
    List (Solution × ModelSplit × Json) :=
  actions.filterMap (ModelAction.score? machine)

theorem scoresOf_append (machine : ModelMachine) (actions actions' : List ModelAction) :
    scoresOf machine (actions ++ actions') =
      scoresOf machine actions ++ scoresOf machine actions' :=
  List.filterMap_append

/-- A process ended in time without an error, and it left what it was to leave. -/
def ModelAction.good (task : ModelTask) (machine : ModelMachine) : ModelAction → Prop
  | .copy _ _ => True
  | .submission _ phase _ outcome => ∃ elapsedMs size, outcome = .exited 0 elapsedMs (some size) ∧
      0 < size ∧ (size : Int) ≤ task.artifactLimit phase
  | .evaluator solution split _ outcome =>
    ∃ score, ModelTask.evaluatorScore machine solution split outcome = .ok score

/-- A process is given its limit, or what is left of the budget. -/
def ModelAction.fits (task : ModelTask) (machine : ModelMachine) (before : List ModelAction) :
    ModelAction → Prop
  | .copy _ _ => True
  | .submission _ phase timeoutMs outcome =>
    0 < timeoutMs ∧
      timeoutMs = min (task.phaseTimeMs phase) ⌊(task.budgetMs : ℚ) - machine.clockMs before⌋ ∧
      outcome = machine.submission before
  | .evaluator _ _ timeoutMs outcome =>
    0 < timeoutMs ∧
      timeoutMs = min task.evaluatorTimeMs ⌊(task.budgetMs : ℚ) - machine.clockMs before⌋ ∧
      outcome = machine.evaluator before

def ModelStop.notCompleted : ModelStop → Prop
  | .failed result => result.get "status" ≠ .text "completed"
  | .raised _ => True

def modelReading (task : ModelTask) (machine : ModelMachine) :
    Reading ModelAction ModelStep ModelStop where
  step := ModelAction.step
  good := ModelAction.good task machine
  fits := ModelAction.fits task machine
  stops := ModelStop.notCompleted

namespace ModelTask

section
variable {task : ModelTask} {machine : ModelMachine} {solution : Solution} {phase : SubmissionPhase}
  {split : ModelSplit} {timeoutMs : Int} {outcome : SubmissionEnd} {log : List ModelAction}

theorem scorerFailed_notCompleted (reason : PyStr) (metrics : Dict) :
    (ModelStop.failed (scorerFailed reason metrics)).notCompleted := by
  intro h
  have hstatus : (scorerFailed reason metrics).get "status" = .text "failed" := rfl
  rw [hstatus] at h
  revert h
  decide

theorem phaseTimeout_run (limitMs : Int) (label : PyStr) :
    (∃ result, task.phaseTimeout machine limitMs label log = (.error result, log) ∧
      result.notCompleted) ∨
    0 < ⌊(task.budgetMs : ℚ) - machine.clockMs log⌋ ∧
      task.phaseTimeout machine limitMs label log =
        (.ok (min limitMs ⌊(task.budgetMs : ℚ) - machine.clockMs log⌋), log) := by
  rw [phaseTimeout, Acting.done_bind]
  by_cases hleft : max 0 ⌊(task.budgetMs : ℚ) - machine.clockMs log⌋ ≤ 0
  · left
    exact ⟨_, congrFun (if_pos hleft) log, scorerFailed_notCompleted _ _⟩
  · right
    have hpositive : 0 < ⌊(task.budgetMs : ℚ) - machine.clockMs log⌋ := by omega
    refine ⟨hpositive, (congrFun (if_neg hleft) log).trans ?_⟩
    rw [max_eq_right (le_of_lt hpositive)]
    rfl

theorem submission_judged (task : ModelTask) (machine : ModelMachine) (solution : Solution)
    (phase : SubmissionPhase) (timeoutMs : Int) (outcome : SubmissionEnd) :
    (∃ result, ((submissionResult timeoutMs outcome >>= task.checkArtifact solution phase) =
        .error result) ∧ result.notCompleted ∧
      ¬ ModelAction.good task machine (.submission solution phase timeoutMs outcome)) ∨
    (submissionResult timeoutMs outcome >>= task.checkArtifact solution phase) = .ok () ∧
      ModelAction.good task machine (.submission solution phase timeoutMs outcome) := by
  cases outcome with
  | notStarted text =>
    refine .inl ⟨_, rfl, scorerFailed_notCompleted _ _, ?_⟩
    rintro ⟨_, _, heq, _⟩
    cases heq
  | raised text =>
    refine .inl ⟨_, rfl, trivial, ?_⟩
    rintro ⟨_, _, heq, _⟩
    cases heq
  | timedOut elapsedMs =>
    refine .inl ⟨_, rfl, scorerFailed_notCompleted _ _, ?_⟩
    rintro ⟨_, _, heq, _⟩
    cases heq
  | exited code elapsedMs artifact =>
    rw [submissionResult]
    by_cases hcode : code = 0
    · rw [if_neg (not_not.2 hcode)]
      subst hcode
      cases artifact with
      | none =>
        refine .inl ⟨_, rfl, scorerFailed_notCompleted _ _, ?_⟩
        rintro ⟨_, _, heq, _⟩
        cases heq
      | some size =>
        cases size with
        | zero =>
          refine .inl ⟨_, rfl, scorerFailed_notCompleted _ _, ?_⟩
          rintro ⟨_, _, heq, hsize, _⟩
          cases heq
          exact absurd hsize (Nat.lt_irrefl 0)
        | succ size =>
          by_cases hlimit : task.artifactLimit phase < (size + 1 : Nat)
          · refine .inl ⟨_, if_pos hlimit, scorerFailed_notCompleted _ _, ?_⟩
            rintro ⟨_, _, heq, _, hle⟩
            cases heq
            exact absurd hlimit (not_lt.2 hle)
          · exact .inr ⟨if_neg hlimit, elapsedMs, size + 1, rfl, Nat.succ_pos _, not_lt.1 hlimit⟩
    · rw [if_pos hcode]
      refine .inl ⟨_, rfl, scorerFailed_notCompleted _ _, ?_⟩
      rintro ⟨_, _, heq, _⟩
      cases heq
      exact hcode rfl

theorem phaseTimeMs_pos (task : ModelTask) (phase : SubmissionPhase) :
    0 < task.phaseTimeMs phase := by
  obtain ⟨_, htraining, hprediction, _⟩ := task.positive
  cases phase with
  | training => exact htraining
  | prediction split => exact hprediction

theorem runPhase_planned (task : ModelTask) (machine : ModelMachine) (solution : Solution)
    (phase : SubmissionPhase) :
    Planned (modelReading task machine) (task.runPhase machine solution phase)
      [.submission solution phase] fun _ actions => scoresOf machine actions = [] := by
  apply Planned.single
  intro log
  rw [runPhase, Acting.bind_run]
  rcases phaseTimeout_run (task.phaseTimeMs phase) (phaseLabel solution phase) with
    ⟨result, heq, hstop⟩ | ⟨hleft, heq⟩
  · rw [heq]
    exact .inl ⟨result, rfl, hstop⟩
  · rw [heq]
    right
    refine ⟨_, rfl, rfl, ⟨lt_min (phaseTimeMs_pos task phase) hleft, rfl, rfl⟩, ?_⟩
    rcases submission_judged task machine solution phase _ (machine.submission log) with
      ⟨result, hjudged, hstop, hbad⟩ | ⟨hjudged, hgood⟩
    · constructor
      · intro a ha
        cases hjudged.symm.trans ha
      · intro err herr
        cases hjudged.symm.trans herr
        exact ⟨hstop, hbad⟩
    · constructor
      · intro a ha
        exact ⟨hgood, rfl⟩
      · intro err herr
        cases hjudged.symm.trans herr

theorem copy_planned (task : ModelTask) (machine : ModelMachine) (workspace : String)
    (data : ModelData) :
    Planned (modelReading task machine) (Acting.act (.copy workspace data))
      [.copy workspace data] fun _ actions => actions = [.copy workspace data] := by
  apply Planned.single
  intro log
  right
  refine ⟨_, rfl, rfl, trivial, ?_, ?_⟩
  · intro a _
    exact ⟨trivial, rfl⟩
  · intro err herr
    cases herr

theorem copy_bind_planned {workspace : String} {data : ModelData} {α : Type}
    {m : Unit → Judging α} {plan : List ModelStep} {post : α → List ModelAction → Prop}
    (h : Planned (modelReading task machine) (m ()) plan
      fun a actions => post a (.copy workspace data :: actions)) :
    Planned (modelReading task machine) (Acting.act (.copy workspace data) >>= m)
      (.copy workspace data :: plan) post := by
  have hcopy := copy_planned task machine workspace data
  refine Planned.bind hcopy ?_
  intro a actions hactions
  subst hactions
  exact h

theorem predict_planned (task : ModelTask) (machine : ModelMachine) (solution : Solution)
    (splits : List ModelSplit) :
    Planned (modelReading task machine) (task.predict machine solution splits)
      (predictionPlan solution splits) fun _ actions => scoresOf machine actions = [] := by
  induction splits with
  | nil => exact Planned.pure rfl
  | cons split rest ih =>
    rw [predict]
    apply copy_bind_planned
    apply copy_bind_planned
    apply Planned.bind (runPhase_planned task machine solution (.prediction split))
    intro _ actions hactions
    refine ih.imp fun _ actions' hactions' => ?_
    exact (scoresOf_append _ _ _).trans (by rw [hactions, hactions', List.append_nil])

theorem runSolution_planned (task : ModelTask) (machine : ModelMachine) (solution : Solution) :
    Planned (modelReading task machine) (task.runSolution machine solution)
      (trainingPlan solution ++ predictionPlan solution task.splits)
      fun _ actions => scoresOf machine actions = [] := by
  rw [runSolution]
  apply copy_bind_planned
  apply copy_bind_planned
  apply Planned.bind (runPhase_planned task machine solution .training)
  intro _ actions hactions
  refine (predict_planned task machine solution task.splits).imp fun _ actions' hactions' => ?_
  exact (scoresOf_append _ _ _).trans (by rw [hactions, hactions', List.append_nil])

theorem evaluatorScore_stops {result : ModelStop} {outcome : EvaluatorEnd}
    (h : evaluatorScore machine solution split outcome = .error result) : result.notCompleted := by
  rw [evaluatorScore] at h
  rcases bind_error.1 h with herror | ⟨fields, _, h⟩
  · cases outcome with
    | returned fields elapsedMs =>
      rw [evaluatorResult] at herror
      split at herror
      · cases herror
      · cases herror
        trivial
    | raised text =>
      cases herror
      trivial
    | _ =>
      cases herror
      exact scorerFailed_notCompleted _ _
  · split at h
    · rw [readScore] at h
      split at h
      · cases h
        exact scorerFailed_notCompleted _ _
      · cases h
        exact scorerFailed_notCompleted _ _
      · cases h
        trivial
      · cases h
    · next hstatus =>
      cases h
      exact hstatus

theorem evaluateSplit_planned (task : ModelTask) (machine : ModelMachine) (solution : Solution)
    (split : ModelSplit) :
    Planned (modelReading task machine) (task.evaluateSplit machine solution split)
      [.evaluator solution split] fun score actions =>
        scoresOf machine actions = [(solution, split, score)] := by
  apply Planned.single
  intro log
  rw [evaluateSplit, Acting.bind_run]
  rcases phaseTimeout_run task.evaluatorTimeMs
      (PyStr.ofString (solution.label ++ " " ++ split.label ++ " evaluator")) with
    ⟨result, heq, hstop⟩ | ⟨hleft, heq⟩
  · rw [heq]
    exact .inl ⟨result, rfl, hstop⟩
  · rw [heq]
    right
    refine ⟨_, rfl, rfl, ⟨lt_min task.positive.2.2.2 hleft, rfl, rfl⟩, ?_, ?_⟩
    · intro score hscore
      have hjudged : evaluatorScore machine solution split (machine.evaluator log) = .ok score :=
        hscore
      refine ⟨⟨score, hjudged⟩, ?_⟩
      rw [scoresOf, List.filterMap_cons]
      rw [ModelAction.score?, hjudged]
      rfl
    · intro err herr
      have hjudged : evaluatorScore machine solution split (machine.evaluator log) = .error err :=
        herr
      refine ⟨evaluatorScore_stops hjudged, ?_⟩
      rintro ⟨score, hscore⟩
      cases hjudged.symm.trans hscore

theorem evaluateOutputs_planned (task : ModelTask) (machine : ModelMachine) (solution : Solution)
    (splits : List ModelSplit) :
    Planned (modelReading task machine) (task.evaluateOutputs machine solution splits)
      (evaluationPlan solution splits) fun scores actions =>
        scores.map Prod.fst = splits ∧
          scoresOf machine actions = scores.map fun score => (solution, score) := by
  induction splits with
  | nil => exact Planned.pure ⟨rfl, rfl⟩
  | cons split rest ih =>
    rw [evaluateOutputs]
    apply copy_bind_planned
    apply copy_bind_planned
    apply copy_bind_planned
    have hsplit := evaluateSplit_planned task machine solution split
    refine Planned.bind hsplit ?_
    intro score actions hactions
    apply Planned.returning ih
    intro scores actions' hscores
    obtain ⟨hsplits, hread⟩ := hscores
    refine ⟨congrArg (split :: ·) hsplits, ?_⟩
    have hall : scoresOf machine (actions ++ actions') =
        (solution, split, score) :: scores.map fun score => (solution, score) := by
      rw [scoresOf_append, hactions, hread]
      rfl
    exact hall

theorem evaluateSolution_planned (task : ModelTask) (machine : ModelMachine)
    (solution : Solution) :
    Planned (modelReading task machine) (task.evaluateSolution machine solution)
      (task.solutionPlan solution) fun scores actions =>
        scores.map Prod.fst = task.splits ∧
          scoresOf machine actions = scores.map fun score => (solution, score) := by
  rw [evaluateSolution, solutionPlan]
  apply Planned.bind (runSolution_planned task machine solution)
  intro _ actions hactions
  refine (evaluateOutputs_planned task machine solution task.splits).imp ?_
  intro scores actions' hscores
  refine ⟨hscores.1, ?_⟩
  rw [scoresOf_append, hactions, hscores.2]
  rfl

/-- The name a score has among the metrics. -/
def scoreName (score : Solution × ModelSplit × Json) : PyStr :=
  PyStr.ofString ((match score.1 with | .baseline => "baseline_" | .participant => "") ++
    score.2.1.label)

/-- The metrics that scores are published in. -/
def published (task : ModelTask) (scores : List (Solution × ModelSplit × Json)) : Dict :=
  scores.foldl (fun metrics score => metrics.set (scoreName score) score.2.2)
    [("profile", .text task.profile.text)]

/-- The splits are scored one after another, those of the baseline first. -/
def scoredSplits (task : ModelTask) : List (Solution × ModelSplit) :=
  (if task.baseline then task.splits.map fun split => (.baseline, split) else []) ++
    task.splits.map fun split => (.participant, split)

/-- What a completed evaluation of a task returns. -/
def Completes (task : ModelTask) (machine : ModelMachine) (result : Dict)
    (actions : List ModelAction) : Prop :=
  (scoresOf machine actions).map (fun score => (score.1, score.2.1)) = task.scoredSplits ∧
    ∃ official, (.participant, .privateSplit, official) ∈ scoresOf machine actions ∧
      result = modelCompleted official (task.published (scoresOf machine actions))

theorem published_eq (task : ModelTask) (baselineScores scores : List (ModelSplit × Json)) :
    task.published ((baselineScores.map fun score => (.baseline, score)) ++
        scores.map fun score => (.participant, score)) =
      putScores "" (putScores "baseline_" [("profile", .text task.profile.text)] baselineScores)
        scores := by
  rw [published, List.foldl_append, List.foldl_map, List.foldl_map]
  rfl

theorem pairs_of_scores {scores : List (ModelSplit × Json)} {splits : List ModelSplit}
    (h : scores.map Prod.fst = splits) :
    (scores.map fun score => (solution, score)).map (fun score => (score.1, score.2.1)) =
      splits.map fun split => (solution, split) := by
  rw [← h, List.map_map, List.map_map]
  rfl

theorem judgeModel_planned (task : ModelTask) (machine : ModelMachine) :
    Planned (modelReading task machine) (task.judgeModel machine) task.plan
      (task.Completes machine) := by
  have hbaseline : Planned (modelReading task machine) (task.evaluateBaseline machine)
      (if task.baseline then task.solutionPlan .baseline else []) fun scores actions =>
        scores.map Prod.fst = (if task.baseline then task.splits else []) ∧
          scoresOf machine actions = scores.map fun score => (.baseline, score) := by
    rw [evaluateBaseline]
    cases task.baseline with
    | true => exact evaluateSolution_planned task machine .baseline
    | false => exact Planned.pure ⟨rfl, rfl⟩
  rw [judgeModel, plan]
  apply Planned.bind hbaseline
  intro baselineScores actions hbaselineScores
  obtain ⟨hbaselineSplits, hbaselineRead⟩ := hbaselineScores
  rw [← List.append_nil (task.solutionPlan .participant)]
  apply Planned.bind (evaluateSolution_planned task machine .participant)
  intro scores actions' hscores
  obtain ⟨hsplits, hread⟩ := hscores
  have hofficial : ∃ official, scores.find? (fun score => score.1 = .privateSplit) =
      some (.privateSplit, official) := by
    have hmem : ModelSplit.privateSplit ∈ scores.map Prod.fst := by
      rw [hsplits, splits]
      exact List.mem_append_right _ List.mem_cons_self
    obtain ⟨score, hscore, hprivate⟩ := List.mem_map.1 hmem
    cases hfind : scores.find? fun score => score.1 = .privateSplit with
    | none =>
      exact absurd (decide_eq_true hprivate) (List.find?_eq_none.1 hfind score hscore)
    | some found =>
      have hfirst : found.1 = .privateSplit := by
        have hfound := List.find?_some hfind
        exact of_decide_eq_true hfound
      exact ⟨found.2, congrArg some (Prod.ext hfirst rfl)⟩
  obtain ⟨official, hfind⟩ := hofficial
  rw [hfind]
  apply Planned.pure
  have hall : scoresOf machine (actions ++ (actions' ++ [])) =
      (baselineScores.map fun score => (.baseline, score)) ++
        scores.map fun score => (.participant, score) := by
    rw [List.append_nil, scoresOf_append, hbaselineRead, hread]
  refine ⟨?_, official, ?_, ?_⟩
  · rw [hall, List.map_append, pairs_of_scores hbaselineSplits, pairs_of_scores hsplits,
      scoredSplits]
    cases task.baseline <;> rfl
  · rw [hall]
    exact List.mem_append_right _ (List.mem_map.2 ⟨_, List.mem_of_find?_eq_some hfind, rfl⟩)
  · rw [hall, published_eq]

theorem stopped_notCompleted (machine : ModelMachine) {stop : ModelStop}
    (h : stop.notCompleted) : (stopped machine stop).get "status" ≠ .text "completed" := by
  cases stop with
  | failed result => exact h
  | raised text => exact scorerFailed_notCompleted _ _

/-- The lifecycle of a model evaluation, on any machine: it is a part of the plan from its start,
and nothing is started after a process that did not go well. Every process has its limit or what
was left of the budget. The evaluation is completed exactly if all of the plan was run, and all of
it went well; then the score is that of the participant on the private split. -/
theorem model_lifecycle (task : ModelTask) (machine : ModelMachine) :
    ∃ actions, (task.runModel machine).2 = actions.reverse ∧
      actions.map ModelAction.step <+: task.plan ∧
      (∀ action ∈ actions.dropLast, action.good task machine) ∧
      (∀ before action after, actions = before ++ action :: after →
        action.fits task machine before.reverse) ∧
      ((task.runModel machine).1.get "status" = .text "completed" ↔
        actions.map ModelAction.step = task.plan ∧ ∀ action ∈ actions, action.good task machine) ∧
      ((task.runModel machine).1.get "status" = .text "completed" →
        task.Completes machine (task.runModel machine).1 actions) := by
  obtain ⟨actions, h⟩ := judgeModel_planned task machine []
  have hhistory := h.history
  rw [List.append_nil] at hhistory
  have hfits : ∀ before action after, actions = before ++ action :: after →
      action.fits task machine before.reverse := by
    intro before action after hsplit
    have hfit := h.fits before action after hsplit
    rwa [List.append_nil] at hfit
  rw [runModel]
  cases hrun : task.judgeModel machine [] with
  | mk outcome log =>
    rw [hrun] at h hhistory
    cases outcome with
    | ok result =>
      obtain ⟨hplan, hgood, hcompletes⟩ := h.returns result rfl
      have hstatus : result.get "status" = .text "completed" := by
        obtain ⟨_, official, _, heq⟩ := hcompletes
        rw [heq]
        rfl
      exact ⟨actions, hhistory, h.steps, h.good, hfits, ⟨fun _ => ⟨hplan, hgood⟩, fun _ => hstatus⟩,
        fun _ => hcompletes⟩
    | error stop =>
      obtain ⟨hstop, hnot⟩ := h.stops stop rfl
      have hfailed := stopped_notCompleted machine hstop
      exact ⟨actions, hhistory, h.steps, h.good, hfits,
        ⟨fun hcompleted => absurd hcompleted hfailed, fun hall => absurd hall hnot⟩,
        fun hcompleted => absurd hcompleted hfailed⟩

end

end ModelTask

end BrunostJudge
