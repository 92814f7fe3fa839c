import BrunostJudge.ClassicRunner

namespace BrunostJudge
open Python
set_option autoImplicit true

inductive ObjectiveDirection where
  | maximize
  | minimize
deriving DecidableEq

def ObjectiveDirection.text : ObjectiveDirection → String
  | .maximize => "maximize"
  | .minimize => "minimize"

inductive ScoreMode where
  | checkerScore
  | baselineRatio
deriving DecidableEq

def ScoreMode.text : ScoreMode → String
  | .checkerScore => "checker_score"
  | .baselineRatio => "baseline_ratio"

inductive Aggregation where
  | mean
  | minimum
  | geometricMean
deriving DecidableEq

def Aggregation.text : Aggregation → String
  | .mean => "mean"
  | .minimum => "minimum"
  | .geometricMean => "geometric_mean"

structure OptimizationConfig where
  language : String
  entrypoint : Option String
  evaluatorEntrypoint : String
  baselineEntrypoint : Option String
  timeLimitMs : Nat
  memoryLimitMb : Nat
  outputLimitBytes : Nat
  objectiveDirection : ObjectiveDirection
  scoreMode : ScoreMode
  aggregation : Aggregation

/-- How `float(value)` ends. -/
inductive FloatParse where
  | finite (x : ℚ)
  | nonFinite
  | notNumeric
  | raised (text : PyStr)

/-- The Python an optimization task runs on: `float`, `str`, and powers of floats. -/
structure OptimizationHost where
  float : Json → FloatParse
  str : Json → Except PyStr PyStr
  power : ℚ → ℚ → ℚ

/-- What becomes of the process that runs an evaluator. -/
inductive EvaluatorRun where
  | timedOut
  | noResult
  | invalid (message : PyStr)
  | raised (text : PyStr)
  | returned (raw : Json)

structure Evaluation where
  feasible : Bool
  objective : Option ℚ
  score : Option ℚ
  message : PyStr

namespace OptimizationHost
variable (host : OptimizationHost)

def judgeErrorText (message : PyStr) : PyStr := PyStr.ofString "OptimizationJudgeError: " ++ message

/-- `_finite_float`; its exceptions count by their text. -/
def finiteFloat (value : Json) (label : String) : Except PyStr ℚ :=
  let rejected (what : String) : Except PyStr ℚ :=
    .error (judgeErrorText (PyStr.ofString ("optimization " ++ label ++ " must be " ++ what)))
  match value with
  | .bool _ => rejected "numeric"
  | value =>
    match host.float value with
    | .finite x => .ok x
    | .nonFinite => rejected "finite"
    | .notNumeric => rejected "numeric"
    | .raised text => .error text

def optionalFloat (value : Json) (label : String) : Except PyStr (Option ℚ) :=
  if value = .null then .ok none else (host.finiteFloat value label).map some

/-- `_normalize_evaluation`. -/
def normalizeEvaluation (raw : Json) : Except PyStr Evaluation :=
  match raw with
  | .obj fields => do
    let field (name : String) (default : Json) : Json := Dict.getD fields name default
    let feasible ← match field "feasible" (field "valid" (field "accepted" (field "ok" .null))) with
      | .bool feasible => pure feasible
      | _ => throw (judgeErrorText "optimization evaluator must return boolean feasible")
    if feasible ∧ field "objective" .null = .null then
      throw (judgeErrorText "feasible optimization results need a numeric objective")
    let objective ← host.optionalFloat (field "objective" .null) "objective"
    let score ← host.optionalFloat (field "score" .null) "score"
    let message ← host.str ((field "message" .null).or (.text ""))
    return ⟨feasible, objective, score, message.take 1000⟩
  | _ => .error (judgeErrorText "optimization evaluator must return an object")

/-- `_evaluate`: an evaluation, or the message of `InvalidOptimizationOutput`. -/
def evaluate (run : EvaluatorRun) : Except JudgeException (PyStr ⊕ Evaluation) :=
  match run with
  | .timedOut => .error (.judge "optimization evaluator exceeded its time limit")
  | .noResult => .error (.judge "optimization evaluator terminated without a result")
  | .invalid message => .ok (.inl (message.take maxDiagnosticChars))
  | .raised text => .error (.judge
      (PyStr.ofString "optimization evaluator failed: " ++ text.take maxDiagnosticChars))
  | .returned raw =>
    match host.normalizeEvaluation raw with
    | .ok evaluation => .ok (.inr evaluation)
    | .error text => .error (.judge
        (PyStr.ofString "optimization evaluator failed: " ++ text.take maxDiagnosticChars))

/-- `_baseline_ratio`. -/
def baselineRatio (candidate baseline : ℚ) (direction : ObjectiveDirection) :
    Except JudgeException ℚ :=
  if candidate < 0 ∨ baseline < 0 then
    .error (.judge "baseline-ratio scoring requires non-negative objectives")
  else
    match direction with
    | .maximize =>
      if baseline = 0 then .ok 1 else .ok (max 0 (min 1 (toFloat (candidate / baseline))))
    | .minimize =>
      if candidate = 0 then .ok 1
      else if baseline = 0 then .ok 0
      else .ok (max 0 (min 1 (toFloat (baseline / candidate))))

/-- `_aggregate`. -/
def aggregate (scores : List ℚ) (aggregation : Aggregation) : ℚ :=
  match scores with
  | [] => 0
  | score :: rest =>
    match aggregation with
    | .minimum => rest.foldl min score
    | .geometricMean =>
      if scores.any fun s => s ≤ 0 then 0
      else host.power (floatProd scores) (toFloat (1 / scores.length))
    | .mean => toFloat (floatSum scores / scores.length)

end OptimizationHost

structure OptimizationRow where
  id : PyStr
  verdict : Verdict
  timeMs : ℚ
  outputBytes : Nat
  message : Option PyStr
  feasible : Option Bool
  objective : Option ℚ
  score : Option ℚ

def OptimizationRow.json (row : OptimizationRow) : Json :=
  let fields : Dict := [("id", .str row.id), ("verdict", .text row.verdict.text),
    ("time_ms", .ofFloat row.timeMs), ("output_bytes", .num (.int row.outputBytes))]
  let fields := fields.setSome "message" (row.message.map Json.str)
  let fields := fields.setSome "feasible" (row.feasible.map Json.bool)
  let fields := fields.setSome "objective" (row.objective.map Json.ofFloat)
  .obj (fields.setSome "score" (row.score.map Json.ofFloat))

/-- A program on one instance, and the evaluator on what it wrote. -/
structure InstanceRun where
  process : ProcessRun
  evaluator : EvaluatorRun

/-- A baseline program: its checks, its compilation, and what it does on each instance. -/
structure BaselineRun where
  source : Except JudgeException Unit
  compiler : CompilerRun
  run : Nat → InstanceRun

namespace OptimizationHost
variable (host : OptimizationHost)

/-- The objective of the baseline on one instance. -/
def baselineValue (config : OptimizationConfig) (name : PyStr) (run : InstanceRun) :
    Except JudgeException ℚ := do
  let outcome := runProcess (some config.outputLimitBytes) run.process
  if outcome.verdict ≠ .ok then
    throw (.judge (PyStr.ofString "baseline failed on " ++ name ++ PyStr.ofString ": " ++
      PyStr.ofString outcome.verdict.text))
  let result ← host.evaluate run.evaluator
  match result with
  | .inr ⟨true, some objective, _, _⟩ => return objective
  | .inr _ => throw (.judge (PyStr.ofString "baseline is infeasible on " ++ name))
  -- `InvalidOptimizationOutput` is not caught here.
  | .inl message => throw (.other (PyStr.ofString "InvalidOptimizationOutput: " ++ message))

/-- The score of a feasible evaluation. -/
def instanceScore (config : OptimizationConfig) (baseline : Option ℚ) (objective : ℚ)
    (score : Option ℚ) : Except JudgeException ℚ :=
  match config.scoreMode with
  | .baselineRatio =>
    match baseline with
    | none => .error (.judge "baseline objective is missing")
    | some baseline => baselineRatio objective baseline config.objectiveDirection
  | .checkerScore =>
    match score with
    | some score =>
      if 0 ≤ score ∧ score ≤ 1 then .ok score
      else .error (.judge "checker_score tasks need evaluator score between 0 and 1")
    | none => .error (.judge "checker_score tasks need evaluator score between 0 and 1")

/-- One round of the loop over the instances: its row and its score. -/
def judgeInstance (config : OptimizationConfig) (id : PyStr) (baseline : Option ℚ)
    (run : InstanceRun) : Except JudgeException (OptimizationRow × ℚ) := do
  let outcome := runProcess (some config.outputLimitBytes) run.process
  let stderr := if outcome.stderr = [] then none else some (outcome.stderr.take 1000)
  let row : OptimizationRow := ⟨id, outcome.verdict, roundDigits outcome.elapsedMs 3,
    outcome.outputBytes, stderr, none, none, none⟩
  if outcome.verdict ≠ .ok then
    return (row, 0)
  let result ← host.evaluate run.evaluator
  match result with
  | .inl message =>
    return ({ row with verdict := .invalid, message := some (message.take 1000) }, 0)
  | .inr evaluation =>
    let row := { row with
      feasible := some evaluation.feasible
      objective := evaluation.objective.map fun x => roundDigits x 8
      message := if evaluation.message = [] then row.message else some evaluation.message }
    match evaluation.feasible, evaluation.objective with
    | true, some objective =>
      let score ← instanceScore config baseline objective evaluation.score
      return ({ row with score := some (roundDigits score 8) }, score)
    | _, _ => return ({ row with verdict := .infeasible }, 0)

/-- The loop over the instances. -/
def judgeInstances (config : OptimizationConfig) (baselines : Nat → Option ℚ)
    (run : Nat → InstanceRun) (ids : List PyStr) :
      Except JudgeException (List (OptimizationRow × ℚ)) :=
  ids.zipIdx.mapM fun (id, i) => host.judgeInstance config id (baselines i) (run i)

end OptimizationHost

/-- Everything `run_optimization` meets in a submission and a package, in order. The instances are
given by their ids. -/
structure OptimizationEvaluation where
  config : Except JudgeException OptimizationConfig
  inputs : Except JudgeException (List PyStr)
  source : Except JudgeException Unit
  compiler : CompilerRun
  baseline : BaselineRun
  run : Nat → InstanceRun

def optimizationLimits (config : OptimizationConfig) : Dict :=
  [("time_limit_ms", .num (.int config.timeLimitMs)),
    ("memory_limit_mb", .num (.int config.memoryLimitMb)),
    ("output_limit_bytes", .num (.int config.outputLimitBytes))]

/-- The result for a candidate that does not compile. -/
def optimizationCompileError (config : OptimizationConfig) (total : Nat) (message : PyStr) : Dict :=
  [("status", .text "completed"), ("score", .ofFloat 0), ("metrics", .obj
    [("runner", .text "optimization"), ("schema_version", .num (.int 1)),
      ("language", .text config.language), ("verdict", .text Verdict.ce.text), ("tests", .arr []),
      ("feasible_tests", .num (.int 0)), ("total_tests", .num (.int total)),
      ("instance_count", .num (.int 0)), ("limits", .obj (optimizationLimits config)),
      ("compile_stderr", .str (message.take maxDiagnosticChars))])]

def optimizationVerdict (rows : List OptimizationRow) : Verdict :=
  match rows.find? fun row => row.verdict ≠ .ok with
  | some row => row.verdict
  | none => .ok

def optimizationCompleted (config : OptimizationConfig) (score : ℚ) (rows : List OptimizationRow)
    (compileStderr : PyStr) : Dict :=
  let metrics : Dict := [("runner", .text "optimization"), ("schema_version", .num (.int 1)),
    ("language", .text config.language),
    ("objective_direction", .text config.objectiveDirection.text),
    ("score_mode", .text config.scoreMode.text), ("aggregation", .text config.aggregation.text),
    ("verdict", .text (optimizationVerdict rows).text),
    ("tests", .arr (rows.map OptimizationRow.json)), ("instance_count", .num (.int rows.length)),
    ("feasible_tests", .num (.int (rows.countP (·.feasible = some true)))),
    ("total_tests", .num (.int rows.length)), ("limits", .obj (optimizationLimits config))]
  [("status", .text "completed"), ("score", .ofFloat (roundDigits score 8)),
    ("metrics", .obj (metrics.setSome "compile_stderr"
      (if compileStderr = [] then none else some (.str (compileStderr.take maxDiagnosticChars)))))]

/-- A `ClassicJudgeError` of the functions this runner shares is no `OptimizationJudgeError`. -/
def JudgeException.foreign : JudgeException → JudgeException
  | .judge message => .other (PyStr.ofString "ClassicJudgeError: " ++ message)
  | .other text => .other text

namespace OptimizationHost
variable (host : OptimizationHost)

/-- The baseline stage: the objective of the baseline on each instance. -/
def baselineValues (config : OptimizationConfig) (inputs : List PyStr) (baseline : BaselineRun) :
    Except JudgeException (Nat → Option ℚ) :=
  match config.baselineEntrypoint with
  | none => .ok fun _ => none
  | some _ => do
    baseline.source
    match compileSource config.language baseline.compiler with
    | .error (.raised exc) => throw exc.foreign
    | .error (.failure _ _) => throw (.other "_CompileFailure: ")
    | .ok _ =>
      let values ← inputs.zipIdx.mapM fun (name, i) =>
        host.baselineValue config name (baseline.run i)
      return fun i => values[i]?

/-- The body of the `try` block. -/
def judgeOptimization (evaluation : OptimizationEvaluation) : Except JudgeException Dict := do
  let config ← evaluation.config
  let inputs ← evaluation.inputs
  if inputs = [] then
    throw (.judge "optimization tasks need tests/*.in files")
  evaluation.source
  match compileSource config.language evaluation.compiler with
  | .error (.raised exc) => throw exc.foreign
  | .error (.failure _ message) => return optimizationCompileError config inputs.length message
  | .ok compileStderr =>
    let baselines ← host.baselineValues config inputs evaluation.baseline
    let results ← host.judgeInstances config baselines evaluation.run inputs
    let rows := results.map Prod.fst
    let score := host.aggregate (results.map Prod.snd) config.aggregation
    return optimizationCompleted config score rows compileStderr

end OptimizationHost

def optimizationFailure : JudgeException → PyStr
  | .judge message => message
  | .other text => PyStr.ofString "optimization judge failure: " ++ text

def runOptimization (host : OptimizationHost) (evaluation : OptimizationEvaluation) : Dict :=
  match host.judgeOptimization evaluation with
  | .ok result => result
  | .error exc => failedResult
      [("runner", .text "optimization"), ("schema_version", .num (.int 1))]
        (optimizationFailure exc)

end BrunostJudge
