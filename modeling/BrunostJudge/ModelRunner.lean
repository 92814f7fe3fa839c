import BrunostJudge.Deadlines
import BrunostJudge.Plans
import BrunostJudge.ScorerResults

namespace BrunostJudge
open Python Plans
set_option autoImplicit true

instance EvaluationProfile.decEq : DecidableEq EvaluationProfile
  | .live, .live => isTrue rfl
  | .postCompetition, .postCompetition => isTrue rfl
  | .live, .postCompetition => isFalse (fun h => nomatch h)
  | .postCompetition, .live => isFalse (fun h => nomatch h)

inductive Solution where
  | baseline
  | participant
deriving DecidableEq

def Solution.label : Solution → String
  | .baseline => "baseline"
  | .participant => "participant"

inductive ModelSplit where
  | publicSplit
  | privateSplit
deriving DecidableEq

def ModelSplit.label : ModelSplit → String
  | .publicSplit => "public"
  | .privateSplit => "private"

/-- What is copied into a workspace. -/
inductive ModelData where
  | training
  | test (split : ModelSplit)
  | labels (split : ModelSplit)
  | evaluator
  | code (solution : Solution)
  | model (solution : Solution)
  | predictions (solution : Solution) (split : ModelSplit)
deriving DecidableEq

inductive SubmissionPhase where
  | training
  | prediction (split : ModelSplit)
deriving DecidableEq

/-- How a process of `_run_submission_process` ends, with the size of the file that it was to
write. -/
inductive SubmissionEnd where
  | notStarted (text : PyStr)
  -- an exception that is no `OSError`, such as the `SubprocessError` of `preexec_fn`
  | raised (text : PyStr)
  | timedOut (elapsedMs : Nat)
  | exited (code : Int) (elapsedMs : Nat) (artifact : Option Nat)
deriving DecidableEq

/-- How a process of `_run_model_evaluator_process` ends. -/
inductive EvaluatorEnd where
  | notStarted (text : PyStr)
  -- also the `RecursionError` of `json.loads`, and its `ValueError` for an integer of too
  -- many digits
  | raised (text : PyStr)
  | timedOut
  | exited
  | tooLong
  | invalid (text : PyStr)
  | nonObject
  | returned (result : Dict) (elapsedMs : Nat)
deriving DecidableEq

inductive ModelAction where
  | copy (workspace : String) (data : ModelData)
  | submission (solution : Solution) (phase : SubmissionPhase) (timeoutMs : Int)
      (outcome : SubmissionEnd)
  | evaluator (solution : Solution) (split : ModelSplit) (timeoutMs : Int) (outcome : EvaluatorEnd)
deriving DecidableEq

/-- How an evaluation ends before its time: with a result, or by an exception. -/
inductive ModelStop where
  | failed (result : Dict)
  | raised (text : PyStr)
deriving DecidableEq

/-- What the manifest of a model task declares. -/
structure ModelTask where
  profile : EvaluationProfile
  publicSplit : Bool
  baseline : Bool
  trainingTimeMs : Int
  predictionTimeMs : Int
  evaluatorTimeMs : Int
  budgetMs : Int
  modelMaxBytes : Int
  positive : 1 ≤ budgetMs ∧ 1 ≤ trainingTimeMs ∧ 1 ≤ predictionTimeMs ∧ 1 ≤ evaluatorTimeMs
deriving DecidableEq

/-- The machine a task is evaluated on: its clock, in milliseconds since the deadline was set, its
processes, and the Python that reads their results. -/
structure ModelMachine where
  clockMs : List ModelAction → ℚ
  submission : List ModelAction → SubmissionEnd
  evaluator : List ModelAction → EvaluatorEnd
  -- the error is `none` for `TypeError` and `ValueError`, which are caught
  float : Json → Except (Option PyStr) Json
  traceback : PyStr → PyStr

abbrev Judging (α : Type) := Acting ModelAction ModelStop α

def maxPredictionBytes : Int := 64000000

def EvaluationProfile.text : EvaluationProfile → String
  | .live => "live"
  | .postCompetition => "post_competition"

def modelFailed (reason : PyStr) : ModelStop := .failed (scorerFailed reason [])

def modelTimedOut (reason : PyStr) (metrics : Dict) : ModelStop :=
  .failed (scorerFailed reason (("verdict", .text "time_limit_exceeded") :: metrics))

namespace ModelTask
variable (task : ModelTask) (machine : ModelMachine)

def splits : List ModelSplit :=
  (if task.publicSplit then [.publicSplit] else []) ++ [.privateSplit]

def phaseTimeMs : SubmissionPhase → Int
  | .training => task.trainingTimeMs
  | .prediction _ => task.predictionTimeMs

/-- `phase_timeout`. -/
def phaseTimeout (limitMs : Int) (label : PyStr) : Judging Int := do
  let log ← Acting.done
  let remaining : Int := max 0 ⌊(task.budgetMs : ℚ) - machine.clockMs log⌋
  if remaining ≤ 0 then
    Acting.stop (modelTimedOut
      (label ++ PyStr.ofString " exceeded the model evaluation time budget") [])
  else pure (min limitMs remaining)

/-- What `_run_submission_process` makes of the end of a process. -/
def submissionResult (timeoutMs : Int) : SubmissionEnd → Except ModelStop (Option Nat)
  | .notStarted text =>
    .error (modelFailed (PyStr.ofString "could not start training process: " ++ text))
  | .raised text => .error (.raised text)
  | .timedOut elapsedMs => .error (modelTimedOut
      (PyStr.ofString ("training process exceeded its " ++ toString timeoutMs ++ " ms limit"))
      [("training_time_ms", .num (.int elapsedMs))])
  | .exited code elapsedMs artifact =>
    if code ≠ 0 then
      .error (.failed (scorerFailed (PyStr.ofString "training process exited unsuccessfully")
        [("verdict", .text "runtime_error"), ("training_time_ms", .num (.int elapsedMs))]))
    else .ok artifact

def artifactLimit : SubmissionPhase → Int
  | .training => task.modelMaxBytes
  | .prediction _ => maxPredictionBytes

/-- The texts for a file that is missing or too large. -/
def artifactErrors (solution : Solution) : SubmissionPhase → String × String
  | .training => (solution.label ++ " training did not create model.bin",
      solution.label ++ " model artifact exceeds the model size limit")
  | .prediction split =>
    (solution.label ++ " " ++ split.label ++
        " prediction did not create a non-empty predictions.csv",
      solution.label ++ " " ++ split.label ++ " predictions exceed the output size limit")

def checkArtifact (solution : Solution) (phase : SubmissionPhase) (artifact : Option Nat) :
    Except ModelStop Unit :=
  match artifact with
  | none | some 0 => .error (modelFailed (PyStr.ofString (artifactErrors solution phase).1))
  | some size =>
    if task.artifactLimit phase < size then
      .error (modelFailed (PyStr.ofString (artifactErrors solution phase).2))
    else .ok ()

def phaseLabel (solution : Solution) : SubmissionPhase → PyStr
  | .training => PyStr.ofString (solution.label ++ " training")
  | .prediction split => PyStr.ofString (solution.label ++ " " ++ split.label ++ " prediction")

/-- A process of a solution, with the file that it is to write. -/
def runPhase (solution : Solution) (phase : SubmissionPhase) : Judging Unit := do
  let timeoutMs ← task.phaseTimeout machine (task.phaseTimeMs phase) (phaseLabel solution phase)
  let log ← Acting.done
  let outcome := machine.submission log
  Acting.act (.submission solution phase timeoutMs outcome)
  Acting.lift do
    let artifact ← submissionResult timeoutMs outcome
    task.checkArtifact solution phase artifact

def trainingWorkspace (solution : Solution) : String := solution.label ++ "-training"

def predictionWorkspace (solution : Solution) (split : ModelSplit) : String :=
  solution.label ++ "-" ++ split.label ++ "-prediction"

def evaluatorWorkspace (solution : Solution) (split : ModelSplit) : String :=
  solution.label ++ "-" ++ split.label ++ "-evaluator"

/-- The prediction loop of `run_solution`. -/
def predict (solution : Solution) : List ModelSplit → Judging Unit
  | [] => pure ()
  | split :: rest => do
    Acting.act (.copy (predictionWorkspace solution split) (.test split))
    Acting.act (.copy (predictionWorkspace solution split) (.model solution))
    task.runPhase machine solution (.prediction split)
    predict solution rest

/-- `run_solution`. -/
def runSolution (solution : Solution) : Judging Unit := do
  Acting.act (.copy (trainingWorkspace solution) .training)
  Acting.act (.copy (trainingWorkspace solution) (.code solution))
  task.runPhase machine solution .training
  task.predict machine solution task.splits

/-- What `_run_model_evaluator_process` returns. -/
def evaluatorResult : EvaluatorEnd → Except ModelStop Dict
  | .notStarted text =>
    .error (modelFailed (PyStr.ofString "could not start evaluator process: " ++ text))
  | .raised text => .error (.raised text)
  | .timedOut =>
    .error (modelTimedOut (PyStr.ofString "evaluator exceeded its time limit") [])
  | .exited =>
    .error (.failed (scorerFailed (PyStr.ofString "evaluator process exited unsuccessfully")
      [("verdict", .text "evaluator_error")]))
  | .tooLong => .error (modelFailed (PyStr.ofString "evaluator result exceeds the output limit"))
  | .invalid text =>
    .error (modelFailed (PyStr.ofString "evaluator returned invalid JSON: " ++ text))
  | .nonObject => .error (modelFailed (PyStr.ofString "evaluator returned a non-object result"))
  | .returned result elapsedMs =>
    let result := result.setdefault "metrics" (.obj [])
    match result.get "metrics" with
    | .obj metrics => .ok (result.set "metrics"
        (.obj (Dict.setdefault metrics "evaluator_time_ms" (.num (.int elapsedMs)))))
    | metrics => .error (.raised (PyStr.ofString ("AttributeError: '" ++ scorerTypeName metrics ++
        "' object has no attribute 'setdefault'")))

/-- `float(result["score"])`. -/
def readScore (solution : Solution) (split : ModelSplit) (result : Dict) : Except ModelStop Json :=
  let noScore := modelFailed (PyStr.ofString (solution.label ++ " " ++ split.label ++
    " evaluator returned no numeric score"))
  match (result.lookup? "score").map machine.float with
  | none | some (.error none) => .error noScore
  | some (.error (some text)) => .error (.raised text)
  | some (.ok score) => .ok score

/-- The score of a split in what the evaluator returned. -/
def evaluatorScore (solution : Solution) (split : ModelSplit) (outcome : EvaluatorEnd) :
    Except ModelStop Json := do
  let result ← evaluatorResult outcome
  if result.get "status" = .text "completed" then readScore machine solution split result
  else .error (.failed result)

/-- The process of an evaluator, and the score that it gives. -/
def evaluateSplit (solution : Solution) (split : ModelSplit) : Judging Json := do
  let timeoutMs ← task.phaseTimeout machine task.evaluatorTimeMs
    (PyStr.ofString (solution.label ++ " " ++ split.label ++ " evaluator"))
  let log ← Acting.done
  let outcome := machine.evaluator log
  Acting.act (.evaluator solution split timeoutMs outcome)
  Acting.lift (evaluatorScore machine solution split outcome)

/-- The loop of `evaluate_outputs`. -/
def evaluateOutputs (solution : Solution) : List ModelSplit → Judging (List (ModelSplit × Json))
  | [] => pure []
  | split :: rest => do
    Acting.act (.copy (evaluatorWorkspace solution split) .evaluator)
    Acting.act (.copy (evaluatorWorkspace solution split) (.predictions solution split))
    Acting.act (.copy (evaluatorWorkspace solution split) (.labels split))
    let score ← task.evaluateSplit machine solution split
    let scores ← evaluateOutputs solution rest
    pure ((split, score) :: scores)

/-- A solution is run on all splits, and then its outputs are evaluated. -/
def evaluateSolution (solution : Solution) : Judging (List (ModelSplit × Json)) := do
  task.runSolution machine solution
  task.evaluateOutputs machine solution task.splits

/-- `metrics.update(scores)`. -/
def putScores (opening : String) (metrics : Dict) (scores : List (ModelSplit × Json)) : Dict :=
  scores.foldl
    (fun metrics score => metrics.set (PyStr.ofString (opening ++ score.1.label)) score.2) metrics

def modelCompleted (score : Json) (metrics : Dict) : Dict :=
  [("status", .text "completed"), ("score", score), ("metrics", .obj metrics)]

def evaluateBaseline : Judging (List (ModelSplit × Json)) :=
  if task.baseline then task.evaluateSolution machine .baseline else pure []

/-- The evaluation, once the manifest has been read. -/
def judgeModel : Judging Dict := do
  let baselineScores ← task.evaluateBaseline machine
  let scores ← task.evaluateSolution machine .participant
  let metrics := putScores "" (putScores "baseline_" [("profile", .text task.profile.text)]
    baselineScores) scores
  match scores.find? fun score => score.1 = .privateSplit with
  | none => Acting.stop (.failed (scorerFailed
      (PyStr.ofString "private evaluation did not produce an official score") metrics))
  | some official => pure (modelCompleted official.2 metrics)

/-- What `run` returns of an evaluation that ends before its time. -/
def stopped (machine : ModelMachine) : ModelStop → Dict
  | .failed result => result
  | .raised text => scorerFailed (PyStr.ofString "Scorer raised an exception — " ++ text ++
      PyStr.ofString "\n" ++ machine.traceback text) []

/-- The evaluation on the manifest that was read, and what was done for it. -/
def runModel : Dict × List ModelAction :=
  match task.judgeModel machine [] with
  | (.ok result, log) => (result, log)
  | (.error stop, log) => (stopped machine stop, log)

end ModelTask

/-- What a package and a submission hold: whether a file of the package can be used under a label,
and whether the entrypoint of a submission is a file. An exception has its name and its text. -/
structure ModelFiles where
  taskFile : String → String → Except (String × PyStr) Unit
  entrypoint : String → Except (String × PyStr) Bool

section
variable (host : ManifestHost) (text : List Char) (files : ModelFiles)

/-- The profile that `BRUNOST_EVALUATION_PROFILE` names. -/
def evaluationProfile (value : Option String) : Except ModelStop EvaluationProfile :=
  let name := (given (some (host.lower (strip (value.getD "live"))))).getD "live"
  if ["post", "generalization", "post_competition"].contains name then .ok .postCompetition
  else if name = "live" then .ok .live
  else .error (modelFailed (PyStr.ofString "unknown model evaluation profile"))

def modelField (name : String) : Option String := given (harnessField host text name)

/-- The text of a `ValueError`. -/
def valueErrorText : PyError → PyStr
  | .valueError message => message
  | _ => []

/-- `int(_manifest_field(..) or default)`. -/
def modelInt (name : String) (default : Int) : Except ModelStop Int :=
  match modelField host text name with
  | none => .ok default
  | some value => (host.parseInt value).mapError fun err => modelFailed (valueErrorText err)

/-- `_task_file`, where its exceptions are caught. -/
def caughtFile (relative label : String) : Except ModelStop Unit :=
  (files.taskFile relative label).mapError fun err => modelFailed err.2

/-- `_task_file`, where they are not. -/
def uncaughtFile (relative label : String) : Except ModelStop Unit :=
  (files.taskFile relative label).mapError fun err =>
    .raised (PyStr.ofString (err.1 ++ ": ") ++ err.2)

def modelUnless (check : Bool) (reason : String) : Except ModelStop Unit :=
  if check then .ok () else .error (modelFailed (PyStr.ofString reason))

/-- The beginning of the names of the fields of a profile. -/
def EvaluationProfile.opening : EvaluationProfile → String
  | .live => ""
  | .postCompetition => "post_"

/-- The fields that name the datasets of a profile. -/
def EvaluationProfile.datasets : EvaluationProfile → String × String × String
  | .live => ("training_dataset", "private_test_dataset", "private_labels_dataset")
  | .postCompetition => ("post_training_dataset", "post_test_dataset", "post_labels_dataset")

def EvaluationProfile.evaluator (profile : EvaluationProfile) : String :=
  match profile with
  | .live => "evaluator.py"
  | .postCompetition => (modelField host text "post_evaluator_entrypoint").getD "evaluator.py"

def profileEnabled : EvaluationProfile → Bool
  | .live => true
  | .postCompetition => harnessSwitch host text "post_competition_enabled"

def checkEntrypoint : Except ModelStop Unit := do
  let name := (modelField host text "submission_entrypoint").getD "submission.py"
  let isFile ← (files.entrypoint name).mapError fun err => modelFailed err.2
  modelUnless isFile ("submission is missing " ++ name)

/-- The datasets of the public split of a live evaluation are declared together or not at all. -/
def readPublicSplit : EvaluationProfile → Except ModelStop Bool
  | .postCompetition => .ok false
  | .live => do
    let test := modelField host text "public_test_dataset"
    let labels := modelField host text "public_labels_dataset"
    modelUnless (test.isSome = labels.isSome)
      "public test and public labels must be declared together"
    match test, labels with
    | some test, some labels =>
      uncaughtFile files test "public test dataset"
      uncaughtFile files labels "public labels dataset"
      pure true
    | _, _ => pure false

def readBaseline : Except ModelStop Bool :=
  if harnessSwitch host text "baseline_enabled" then do
    caughtFile files ((modelField host text "baseline_entrypoint").getD "private/baseline.py")
      "baseline"
    pure true
  else pure false

/-- `calculated_budget_ms`. -/
def calculatedBudgetMs (publicSplit baseline : Bool) (training prediction evaluator : Int) : Int :=
  (if baseline then 2 else 1) * (training + (if publicSplit then 2 else 1) * prediction +
    (if publicSplit then 2 else 1) * evaluator) + 5000

/-- `time_limit_ms` of the manifest, or the calculated budget. -/
def declaredBudgetMs (calculated : Int) : Except ModelStop Int :=
  (modelInt host text "time_limit_ms" calculated).mapError fun _ =>
    modelFailed (PyStr.ofString "model task has an invalid total time limit")

def buildModelTask (profile : EvaluationProfile) (publicSplit baseline : Bool)
    (training prediction evaluator budget modelMaxBytes : Int) : Except ModelStop ModelTask :=
  if h : 1 ≤ budget ∧ 1 ≤ training ∧ 1 ≤ prediction ∧ 1 ≤ evaluator then
    .ok ⟨profile, publicSplit, baseline, training, prediction, evaluator, budget, modelMaxBytes, h⟩
  else .error (modelFailed (PyStr.ofString "model task has invalid phase time limits"))

/-- What `_run_model_submission_v2` checks before it starts anything. -/
def readModelTask (profileName : Option String) : Except ModelStop ModelTask := do
  let profile ← evaluationProfile host profileName
  modelUnless (profileEnabled host text profile)
    "post-competition evaluation is not enabled for this task"
  let names := profile.datasets
  match modelField host text names.1, modelField host text names.2.1,
      modelField host text names.2.2 with
  | some train, some test, some labels =>
    checkEntrypoint host text files
    caughtFile files train "training dataset"
    caughtFile files test "test dataset"
    caughtFile files labels "labels dataset"
    caughtFile files (profile.evaluator host text) "evaluator"
    let training ← modelInt host text (profile.opening ++ "training_time_limit_ms") 120000
    let prediction ← modelInt host text (profile.opening ++ "prediction_time_limit_ms") 10000
    let evaluator ← modelInt host text (profile.opening ++ "evaluator_time_limit_ms") 10000
    let _ ← modelInt host text "memory_limit_mb" 2048
    let modelMaxBytes ← modelInt host text "model_max_bytes" 64000000
    let publicSplit ← readPublicSplit host text files profile
    modelUnless (1024 ≤ modelMaxBytes && modelMaxBytes ≤ maxPredictionBytes)
      "model task has an invalid model artifact limit"
    let baseline ← readBaseline host text files
    let calculated := calculatedBudgetMs publicSplit baseline training prediction evaluator
    let declared ← declaredBudgetMs host text calculated
    buildModelTask profile publicSplit baseline training prediction evaluator
      (min calculated declared) modelMaxBytes
  | _, _, _ => .error (modelFailed
      (PyStr.ofString "model task is missing its training, test, or labels dataset"))

/-- `_run_model_submission_v2`, with the handler of `run`. -/
def runModelSubmission (machine : ModelMachine) (profileName : Option String) :
    Dict × List ModelAction :=
  match readModelTask host text files profileName with
  | .ok task => task.runModel machine
  | .error stop => (ModelTask.stopped machine stop, [])

end

end BrunostJudge
