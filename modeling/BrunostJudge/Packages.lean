import BrunostJudge.Server

namespace BrunostJudge
open Python
set_option autoImplicit true

/-- What the checks of the files and of the remaining fields of a package report, by their place in
`validate_task`. -/
@[ext]
structure TaskFindings where
  opening : List PyStr := []
  source : List PyStr := []
  entrypoint : List PyStr := []
  code : List PyStr := []
  labels : List PyStr := []
  tests : List PyStr := []
  directories : List PyStr := []
deriving DecidableEq

/-- At each place the one after the other. -/
def TaskFindings.append (f g : TaskFindings) : TaskFindings where
  opening := f.opening ++ g.opening
  source := f.source ++ g.source
  entrypoint := f.entrypoint ++ g.entrypoint
  code := f.code ++ g.code
  labels := f.labels ++ g.labels
  tests := f.tests ++ g.tests
  directories := f.directories ++ g.directories

/-- What `validate_task` reads of a package. `field` is `_manifest_field` on its `judge.yaml`. -/
structure TaskPackage where
  kind : Option String
  field : String → Option String
  testInputs : Nat
  findings : TaskFindings
  digest : String

structure TaskValidation where
  kind : Option String
  errors : List PyStr
  settings : Dict

def TaskValidation.valid (validation : TaskValidation) : Bool := validation.errors.isEmpty

/-- `SUPPORTED_KINDS`, in order. -/
def supportedKinds : List String :=
  ["agent", "coding", "game", "icpc", "interactive", "ioai", "model", "optimization", "output-only",
    "quiz"]

def scorerKinds : List String := ["ioai", "output-only"]

def classicKinds : List String := ["coding", "icpc"]

def mlRuntime : String := "python-3.13-ml-v1"

/-- `is_browser_only_runtime`, over `str.lower`. -/
def isBrowserOnlyRuntime (lower : String → String) (runtime : String) : Bool :=
  let normalized := (lower (strip runtime)).toList
  ["browser", "cheerpx", "pyodide", "wasm", "webassembly"].any fun marker =>
    (List.range (normalized.length + 1)).any fun i => marker.toList.isPrefixOf (normalized.drop i)

/-- `value.strip("\"'")`. -/
def stripQuotes (value : String) : String :=
  let quote (c : Char) : Bool := c.toNat == 34 || c.toNat == 39
  String.ofList ((value.toList.dropWhile quote).reverse.dropWhile quote).reverse

namespace TaskPackage
variable (package : TaskPackage)

/-- A field that has a value. -/
def declared (name : String) : Option String := given (package.field name)

/-- `_manifest_list`. -/
def manifestList (name : String) : List String :=
  match package.declared name with
  | none => []
  | some value =>
    let value := value.toList
    let value :=
      if "[".toList.isPrefixOf value && "]".toList.isSuffixOf value then (value.drop 1).dropLast
      else value
    let items := (value.splitOn ',').map fun item => strip (String.ofList item)
    (items.filter (· ≠ "")).map stripQuotes

/-- `_scheduling_settings`. -/
def schedulingSettings (defaultRuntime : Option String) : Dict :=
  let settings : Dict := ["runtime", "scoring", "network", "resource_class"].foldl
    (fun settings (name : String) =>
      settings.setSome name ((package.declared name).map Json.text)) []
  let settings :=
    if settings.contains "runtime" then settings
    else settings.setSome "runtime" (defaultRuntime.map Json.text)
  let capabilities := package.manifestList "required_capabilities"
  let capabilities :=
    if settings.get "runtime" = .text mlRuntime then capabilities ++ ["runtime:" ++ mlRuntime]
    else capabilities
  settings.setSome "required_capabilities"
    (if capabilities = [] then none else some (.arr (capabilities.eraseDups.map Json.text)))

section
variable (lower : String → String) (parseInt : PyStr → Except PyError Int)

/-- `_registration_settings`. -/
def registrationSettings (settings : Dict) : Dict :=
  let settings := settings.setSome "version" ((package.field "version").bind fun version =>
    ((parseInt version).toOption.map fun i => .num (.int i)))
  let runtime := (settings.get "runtime").or (.text ((package.declared "runtime").getD
    (if package.kind = some "model" then mlRuntime else "python-3.13")))
  let settings := settings.set "runtime" runtime
  let evaluator := ((settings.get "evaluator").or (settings.get "scoring")).or
    (Json.textOrNull (package.field "evaluation"))
  settings.setSome "evaluator" (if evaluator.truthy then some evaluator else none)

/-- A limit of a classic task: `_manifest_positive_int` and the check of its range. -/
def classicLimit (name : String) (default low high : Int) : Option Int × List PyStr :=
  let value := match package.field name with
    | none => some default
    | some value => ((parseInt value).toOption).filter (1 ≤ ·)
  match value with
  | none => (none, [PyStr.ofString (name ++ " must be a positive integer")])
  | some limit =>
    (some limit, if low ≤ limit ∧ limit ≤ high then []
      else [PyStr.ofString ("classic " ++ name ++ " must be between " ++ toString low ++ " and " ++
        toString high)])

def timeLimit : Option Int × List PyStr :=
  package.classicLimit parseInt "time_limit_ms" 2000 100 60000

def memoryLimit : Option Int × List PyStr :=
  package.classicLimit parseInt "memory_limit_mb" 512 64 4096

def outputLimit : Option Int × List PyStr :=
  package.classicLimit parseInt "output_limit_bytes" 1048576 1024 67108864

def answerSource : String := lower ((package.declared "answer_source").getD "answer_key")

/-- The time that compiling and running all tests may take. -/
def wallTimeMs (timeLimit : Int) : Int :=
  let multiplier : Int := if package.answerSource lower = "reference" then 2 else 1
  5000 + 30000 * multiplier + package.testInputs * timeLimit * multiplier

def executionTimeout : Option Int × List PyStr :=
  match (package.timeLimit parseInt).1.filter fun _ => package.testInputs ≠ 0 with
  | none => (none, [])
  | some limit =>
    let wallTime := package.wallTimeMs lower limit
    if wallTime > 3600000 then
      (none, [PyStr.ofString "classic evaluation budget exceeds 3600000 ms"])
    else (some (max 1 ((wallTime + 999) / 1000)), [])

def scoringMode (default : String) : String :=
  lower ((package.declared "scoring_mode").getD default)

/-- A finding, unless a check holds. -/
def finding (check : Bool) (message : String) : List PyStr := if check then [] else [message]

/-- Limits that are no positive integers are reported before those that are out of range. -/
def limitErrors (limits : List (Option Int × List PyStr)) : List PyStr :=
  (limits.filter fun limit => limit.1.isNone).flatMap Prod.snd ++
    (limits.filter fun limit => limit.1.isSome).flatMap Prod.snd

/-- What the classic branch of `validate_task` finds, and `_classic_settings`. -/
def classicSettings : Dict × List PyStr :=
  let int (value : Option Int) : Option Json := value.map fun i => .num (.int i)
  let settings := (package.schedulingSettings (some "python-3.13")).set "network" (.text "disabled")
  let settings := settings.setSome "execution_timeout_seconds"
    (int (package.executionTimeout lower parseInt).1)
  let settings := settings.setSome "time_limit_ms" (int (package.timeLimit parseInt).1)
  let settings := settings.setSome "memory_limit_mb" (int (package.memoryLimit parseInt).1)
  let settings := settings.setSome "output_limit_bytes" (int (package.outputLimit parseInt).1)
  let settings := settings.set "answer_source" (.text (package.answerSource lower))
  let settings := settings.set "scoring_mode" (.text (package.scoringMode lower "all_or_nothing"))
  (settings.set "evaluator" (.text "grader.classic:run_classic"),
    package.findings.opening ++
      finding (["answer_key", "reference"].contains (package.answerSource lower))
        "answer_source must be answer_key or reference" ++
      package.findings.source ++ package.findings.entrypoint ++
      finding (["all_or_nothing", "percentage"].contains
        (package.scoringMode lower "all_or_nothing"))
        "scoring_mode must be all_or_nothing or percentage" ++
      package.findings.code ++
      finding ((package.declared "network").all fun network => lower network = "disabled")
        "classic tasks must declare network: disabled when network is specified" ++
      package.findings.labels ++
      limitErrors [package.timeLimit parseInt, package.memoryLimit parseInt,
        package.outputLimit parseInt] ++
      finding (package.testInputs ≠ 0) "classic tasks need tests/*.in files" ++
      package.findings.tests ++ (package.executionTimeout lower parseInt).2)

/-- What the quiz branch finds in these fields, and `_quiz_settings`. -/
def quizSettings : Dict × List PyStr :=
  let mode := package.scoringMode lower "weighted"
  let normalization := lower ((package.declared "free_text_normalization").getD "casefold_trim")
  let settings := (package.schedulingSettings (some "python-3.13")).set "network" (.text "disabled")
  let settings := settings.set "scoring_mode" (.text mode)
  let settings := settings.set "free_text_normalization" (.text normalization)
  (settings.set "evaluator" (.text "grader.quiz:run_quiz"),
    finding (["weighted", "all_or_nothing"].contains mode)
        "quiz scoring_mode must be weighted or all_or_nothing" ++
      finding (["exact", "trim", "casefold_trim", "collapse_whitespace",
          "casefold_collapse_whitespace"].contains normalization)
        ("free_text_normalization must be exact, trim, casefold_trim, collapse_whitespace, " ++
          "or casefold_collapse_whitespace"))

/-- The branches of `validate_task`. -/
def kindSettings (kind : String) : Dict × List PyStr :=
  let findings := package.findings
  if kind = "quiz" then
    let quiz := package.quizSettings lower
    (quiz.1, findings.opening ++ quiz.2 ++ findings.source)
  else if classicKinds.contains kind then package.classicSettings lower parseInt
  else if kind = "model" then
    (package.schedulingSettings (some mlRuntime), findings.opening ++ findings.source)
  else if scorerKinds.contains kind then
    (package.schedulingSettings none, findings.opening ++ findings.source)
  else ([], findings.opening ++ findings.source)

def kindErrors : List PyStr :=
  match package.kind with
  | none => [PyStr.ofString "judge.yaml must declare a kind"]
  | some kind => finding (supportedKinds.contains kind) ("unsupported task kind '" ++ kind ++
      "'; choose one of ['agent', 'coding', 'game', 'icpc', 'interactive', 'ioai', 'model', " ++
      "'optimization', 'output-only', 'quiz']")

def versionErrors (repr : String → String) : List PyStr :=
  let expected := if package.kind = some "model" then "2" else "1"
  match package.field "version" with
  | none => [PyStr.ofString ("judge.yaml must declare version: " ++ expected)]
  | some version => finding (version = expected)
      ("unsupported judge.yaml version " ++ repr version ++ "; choose " ++ expected)

/-- `validate_task`. -/
def validateTask (repr : String → String) : TaskValidation :=
  let branch := package.kindSettings lower parseInt (package.kind.getD "")
  { kind := package.kind
    errors := package.kindErrors ++ package.versionErrors repr ++ branch.2 ++
      package.findings.directories
    settings := package.registrationSettings parseInt branch.1 }

end

end TaskPackage

end BrunostJudge
