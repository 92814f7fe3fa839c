import BrunostJudge.OptimizationRunner
import BrunostJudge.Pattern
import BrunostJudge.PyLines
import BrunostJudge.Server

namespace BrunostJudge
open Python
set_option autoImplicit true

/-- What the readers of a manifest take from Python: `str.lower`, `int` of a text, and `repr`. -/
structure ManifestHost extends Lower where
  parseInt : PyStr → Except PyError Int
  repr : String → String

def isKeyChar (c : Char) : Bool := c.isAlphanum || c == '_' || c == '-'

/-- `_KIND_RE`. -/
def kindPattern : List Pattern.Item :=
  [.lineStart, .skip isSpace, .char 'k', .char 'i', .char 'n', .char 'd', .skip isSpace, .char ':',
    .skip isSpace, .word isKeyChar, .skip isSpace, .lineEnd]

/-- `_FIELD_RE`. -/
def fieldPattern : List Pattern.Item :=
  [.lineStart, .skip isSpace, .word isKeyChar, .skip isSpace, .char ':', .skip isSpace,
    .few (· != '\n'), .skip isSpace, .lineEnd]

def isDoubleQuote (c : Char) : Bool := c.toNat == 34

def isSingleQuote (c : Char) : Bool := c.toNat == 39

/-- `value.strip().strip('"').strip("'")`. -/
def unquote (value : List Char) : String :=
  String.ofList (stripOf isSingleQuote (stripOf isDoubleQuote (trim value)))

section
variable (host : ManifestHost) (text : List Char)

/-- `_manifest_kind`. -/
def manifestKind : Option String :=
  (Pattern.search kindPattern true text).bind fun found =>
    found.groups.head?.map fun kind => host.lower (String.ofList kind)

/-- `_manifest_field` of the validator. The first match of a name decides. -/
def manifestField (name : String) : Option String :=
  (Pattern.findAll fieldPattern (text.length + 1) true text).findSome? fun groups =>
    match groups with
    | [key, value] => if host.lower (String.ofList key) = name then some (unquote value) else none
    | _ => none

/-- The assignments of `_manifest`, which the batch, optimization and quiz runners share. -/
def manifestAssignments : List (String × String) :=
  (splitlines text).filterMap fun line =>
    let stripped := trim line
    if stripped = [] ∨ stripped.head? = some '#' then none
    else
      match partition? ':' stripped with
      | none => none
      | some (key, value) =>
        let key := trim key
        if key = [] ∨ key.head? = some '-' then none else some (String.ofList key, unquote value)

/-- `_manifest(task).get(name)`. The last assignment of a name decides. -/
def manifestValue (name : String) : Option String :=
  ((manifestAssignments text).reverse.find? fun assignment => assignment.1 = name).map Prod.snd

/-- `_task_kind` of the harness. -/
def taskKind : String :=
  let found := (text.splitOn '\n').find? fun line => "kind:".toList.isPrefixOf (trim line)
  match found.bind (partition? ':') with
  | none => ""
  | some (_, value) =>
    host.lower (String.ofList (stripOf (fun c => isDoubleQuote c || isSingleQuote c) (trim value)))

/-- `_manifest_field` of the harness. -/
def harnessField (name : String) : Option String :=
  (splitlines text).findSome? fun line =>
    if (line.dropWhile isSpace).head? = some '#' then none
    else
      match partition? ':' line with
      | none => none
      | some (key, value) =>
        if host.lower (String.ofList (trim key)) = name then
          some (String.ofList
            (stripOf (fun c => isDoubleQuote c || isSingleQuote c) (trim value)))
        else none

/-- `_task_runtime` of the sandbox. -/
def taskRuntime : String :=
  let found := (splitlines text).findSome? fun line =>
    match partition? ':' line with
    | none => none
    | some (key, value) =>
      if host.lower (String.ofList (trim key)) = "runtime" then some (unquote value) else none
  (given found).getD "python-3.13"

end

/-- Raises `ClassicJudgeError`, or the error of the runner it stands in, unless a check holds. -/
def judgeUnless (check : Bool) (message : PyStr) : Except JudgeException Unit :=
  if check then .ok () else .error (.judge message)

section
variable (host : ManifestHost) (text : List Char)

/-- `_normalize_language`. -/
def normalizeLanguage (value label : String) : Except JudgeException String :=
  let language := host.lower value
  let language :=
    if ["gnu++17", "c++17", "g++"].contains language then "cpp"
    else String.ofList
      (replaceText "gnu++".toList "cpp".toList language.length language.toList)
  if ["python", "py", "cpp", "c++", "c", "rust", "rs"].contains language then
    .ok (if language = "py" then "python" else if language = "c++" then "cpp"
      else if language = "rs" then "rust" else language)
  else .error (.judge (PyStr.ofString (label ++ " must be python, c, cpp, or rust")))

/-- `_positive_int` of the batch runner, and `_positive` of the optimization runner. -/
def positiveInt (value : Option String) (default : Int) (name : String) :
    Except JudgeException Int := do
  let result ← match value with
    | none => .ok default
    | some value =>
      match host.parseInt value with
      | .ok result => .ok result
      | .error _ => .error (.judge (PyStr.ofString (name ++ " must be an integer")))
  judgeUnless (1 ≤ result) (PyStr.ofString (name ++ " must be positive"))
  return result

/-- `_bounded`. -/
def boundedInt (value : Option String) (default : Int) (name : String) (minimum maximum : Int) :
    Except JudgeException Int := do
  let parsed ← positiveInt host value default name
  judgeUnless (minimum ≤ parsed ∧ parsed ≤ maximum) (PyStr.ofString
    (name ++ " must be between " ++ toString minimum ++ " and " ++ toString maximum))
  return parsed

/-- `_config` of the batch runner. -/
def classicConfig : Except JudgeException ClassicConfig := do
  let value := manifestValue text
  let kind := host.lower ((value "kind").getD "")
  judgeUnless (["coding", "icpc", "interactive"].contains kind)
    (PyStr.ofString ("classic runner does not support task kind " ++ host.repr kind))
  judgeUnless (value "version" = some "1") "classic tasks must declare version: 1"
  judgeUnless (host.lower ((value "runner").getD "classic") = "classic")
    "classic task must declare runner: classic"
  let language ← normalizeLanguage host ((value "language").getD "") "language"
  let answerSource := host.lower ((value "answer_source").getD "answer_key")
  judgeUnless (["answer_key", "reference"].contains answerSource)
    "answer_source must be answer_key or reference"
  let scoringMode := host.lower ((value "scoring_mode").getD "all_or_nothing")
  judgeUnless (["all_or_nothing", "percentage"].contains scoringMode)
    "scoring_mode must be all_or_nothing or percentage"
  let referenceLanguage ← normalizeLanguage host ((value "reference_language").getD language)
    "reference_language"
  let timeLimit ← positiveInt host (value "time_limit_ms") 2000 "time_limit_ms"
  let memoryLimit ← positiveInt host (value "memory_limit_mb") 512 "memory_limit_mb"
  let outputLimit ← positiveInt host (value "output_limit_bytes") 1048576 "output_limit_bytes"
  return {
    kind
    language
    entrypoint := given (value "entrypoint")
    interactor := (value "interactor").getD "interactor.py"
    timeLimitMs := timeLimit.toNat
    memoryLimitMb := memoryLimit.toNat
    outputLimitBytes := outputLimit.toNat
    answerSource
    scoringMode := if scoringMode = "percentage" then .percentage else .allOrNothing
    referenceLanguage
    referenceEntrypoint := (given (value "reference_entrypoint")).or
      (if answerSource = "reference" then some "private/reference.py" else none) }

def isTrueText (value : String) : Bool := ["1", "true", "yes", "on"].contains value

def objectiveDirection? (value : String) : Option ObjectiveDirection :=
  [ObjectiveDirection.maximize, .minimize].find? fun direction => direction.text = value

def scoreMode? (value : String) : Option ScoreMode :=
  [ScoreMode.checkerScore, .baselineRatio].find? fun mode => mode.text = value

def aggregation? (value : String) : Option Aggregation :=
  [Aggregation.mean, .minimum, .geometricMean].find? fun aggregation => aggregation.text = value

def judgeSome {α : Type} (value : Option α) (message : PyStr) : Except JudgeException α :=
  match value with
  | some a => .ok a
  | none => .error (.judge message)

/-- `_config` of the optimization runner. A `ClassicJudgeError` of `_normalize_language` is another
exception here. -/
def optimizationConfig : Except JudgeException OptimizationConfig := do
  let value := manifestValue text
  judgeUnless (host.lower ((value "kind").getD "") = "optimization")
    "optimization runner requires kind: optimization"
  judgeUnless (value "version" = some "1") "optimization tasks must declare version: 1"
  judgeUnless (host.lower ((value "runner").getD "") = "optimization")
    "optimization task must declare runner: optimization"
  let language ← (normalizeLanguage host ((value "language").getD "") "language").mapError
    JudgeException.foreign
  let objectiveDirection ← judgeSome
    (objectiveDirection? (host.lower ((value "objective_direction").getD "")))
    "objective_direction must be maximize or minimize"
  let scoreMode ← judgeSome (scoreMode? (host.lower ((value "score_mode").getD "")))
    "score_mode must be checker_score or baseline_ratio"
  let aggregation ← judgeSome (aggregation? (host.lower ((value "aggregation").getD "")))
    "aggregation must be mean, minimum, or geometric_mean"
  let baselineEnabled := isTrueText (host.lower ((value "baseline_enabled").getD "false"))
  judgeUnless (decide (scoreMode ≠ .baselineRatio) || baselineEnabled)
    "baseline_ratio scoring requires an enabled baseline"
  let timeLimit ← boundedInt host (value "time_limit_ms") 2000 "time_limit_ms" 100 15000
  let memoryLimit ← boundedInt host (value "memory_limit_mb") 512 "memory_limit_mb" 64 4096
  let outputLimit ← boundedInt host (value "output_limit_bytes") 1048576 "output_limit_bytes" 1024
    67108864
  return {
    language
    entrypoint := given (value "entrypoint")
    evaluatorEntrypoint := (given (value "evaluator_entrypoint")).getD "private/evaluator.py"
    baselineEntrypoint :=
      if baselineEnabled then
        some ((given (value "baseline_entrypoint")).getD "private/baseline.py")
      else none
    timeLimitMs := timeLimit.toNat
    memoryLimitMb := memoryLimit.toNat
    outputLimitBytes := outputLimit.toNat
    objectiveDirection
    scoreMode
    aggregation }

end

end BrunostJudge
