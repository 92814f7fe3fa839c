import BrunostJudge.AgentProtocol
import BrunostJudge.PyFloat

namespace BrunostJudge
open Python
set_option autoImplicit true

def maxDiagnosticChars : Nat := 4000
def maxStderrBytes : Nat := 2 ^ 20

/-- The verdicts of processes, tests and whole submissions. -/
inductive Verdict where
  | ok
  | tle
  | ole
  | re
  | judgeError
  | wa
  | ac
  | ce
  | invalid
  | infeasible
deriving DecidableEq

def Verdict.text : Verdict → String
  | .ok => "OK"
  | .tle => "TLE"
  | .ole => "OLE"
  | .re => "RE"
  | .judgeError => "judge_error"
  | .wa => "WA"
  | .ac => "AC"
  | .ce => "CE"
  | .invalid => "INVALID"
  | .infeasible => "INFEASIBLE"

/-- What a runner raises: `ClassicJudgeError` or one of its siblings, and anything else by its
text `f"{type(exc).__name__}: {exc}"`. -/
inductive JudgeException where
  | judge (message : PyStr)
  | other (text : PyStr)
deriving DecidableEq

structure ProcessOutcome where
  verdict : Verdict
  elapsedMs : ℚ
  outputBytes : Nat
  stderr : PyStr
deriving DecidableEq

/-- What the poll loop kills a process for. -/
inductive ProcessStop where
  | stdout
  | stderr
  | time
deriving DecidableEq

/-- What `_run_process` sees of a process: an `OSError` in its place, or its end, with the sizes of
its files and the start of what it wrote to stderr. -/
inductive ProcessRun where
  | notStarted (exc : PyStr)
  | ended (stop : Option ProcessStop) (elapsedMs : ℚ) (outputBytes stderrBytes : Nat)
      (stderr : PyStr) (returncode : Int)

def stderrMarker : PyStr := "\nstderr exceeded the diagnostic limit"

/-- `_run_process`. A process without a limit on its output has no output file. -/
def runProcess (outputLimit : Option Nat) : ProcessRun → ProcessOutcome
  | .notStarted exc => ⟨.judgeError, 0, 0, exc⟩
  | .ended stop elapsedMs outputBytes stderrBytes stderr returncode =>
    let exceeds (limit : Nat) : Bool := limit < outputBytes
    let reaches (limit : Nat) : Bool := limit ≤ outputBytes
    if stop = some .stderr ∨ stderrBytes > maxStderrBytes then
      ⟨.ole, elapsedMs, outputBytes,
        stderr.take (maxDiagnosticChars - stderrMarker.length) ++ stderrMarker⟩
    else if stop = some .stdout ∨ outputLimit.any exceeds then
      ⟨.ole, elapsedMs, outputBytes, stderr⟩
    else if stop = some .time then ⟨.tle, elapsedMs, outputBytes, stderr⟩
    else if returncode ≠ 0 ∧ outputLimit.any reaches then ⟨.ole, elapsedMs, outputBytes, stderr⟩
    else if returncode ≠ 0 then ⟨.re, elapsedMs, outputBytes, stderr⟩
    else ⟨.ok, elapsedMs, outputBytes, stderr⟩

inductive ScoringMode where
  | allOrNothing
  | percentage
deriving DecidableEq

def ScoringMode.text : ScoringMode → String
  | .allOrNothing => "all_or_nothing"
  | .percentage => "percentage"

structure ClassicConfig where
  kind : String
  language : String
  entrypoint : Option String
  interactor : String
  timeLimitMs : Nat
  memoryLimitMb : Nat
  outputLimitBytes : Nat
  answerSource : String
  scoringMode : ScoringMode
  referenceLanguage : String
  referenceEntrypoint : Option String

/-- A test of the package, with the answer its output is compared to. -/
structure TestCase where
  testId : PyStr
  answer : Option Bytes

/-- Staging a source and running its compiler. -/
structure CompilerRun where
  staged : Except JudgeException Unit
  compiler : PyStr
  available : Bool
  process : ProcessRun

/-- What `_compile` raises. -/
inductive CompileException where
  | failure (verdict : Verdict) (message : PyStr)
  | raised (exc : JudgeException)

/-- `_compile`, up to the text the compiler wrote. -/
def compileSource (language : String) (run : CompilerRun) : Except CompileException PyStr := do
  run.staged.mapError .raised
  if language = "python" then
    return []
  if !run.available then
    throw (.raised (.judge (PyStr.ofString "required compiler is unavailable: " ++ run.compiler)))
  let outcome := runProcess none run.process
  if outcome.verdict = .judgeError then
    throw (.raised (.judge (PyStr.ofString "compiler could not start: " ++ outcome.stderr)))
  if outcome.verdict ≠ .ok then
    throw (.failure outcome.verdict outcome.stderr)
  return outcome.stderr

/-- Running the reference solution of a package: its checks, and what it does on each test. -/
structure ReferenceRun where
  source : Except JudgeException Unit
  compiler : CompilerRun
  process : Nat → ProcessRun
  output : Nat → Bytes

/-- `_reference_answers`. -/
def referenceAnswers (config : ClassicConfig) (cases : List TestCase) (run : ReferenceRun) :
    Except JudgeException (List TestCase) :=
  if config.answerSource ≠ "reference" then .ok cases
  else do
    run.source
    match compileSource config.referenceLanguage run.compiler with
    | .error (.raised exc) => throw exc
    | .error (.failure _ message) =>
      throw (.judge (PyStr.ofString "reference solution has a compile error: " ++ message))
    | .ok _ =>
      cases.zipIdx.mapM fun (case, i) =>
        let outcome := runProcess (some config.outputLimitBytes) (run.process i)
        if outcome.verdict = .ok then .ok { case with answer := some (run.output i) }
        else
          let detail := PyStr.ofString "reference solution failed on " ++ case.testId ++
            PyStr.ofString ": " ++ PyStr.ofString outcome.verdict.text
          .error (.judge (if outcome.stderr = [] then detail
            else detail ++ PyStr.ofString " (" ++ outcome.stderr.take 500 ++ PyStr.ofString ")"))

/-- What a package's checker returns, or raises. -/
inductive CheckerAnswer where
  | bool (accepted : Bool)
  | obj (fields : Dict)
  | num (n : Number)
  | unsupported
  | raised (text : PyStr)

/-- A candidate on one test. -/
structure TestRun where
  process : ProcessRun
  output : Bytes
  checker : CheckerAnswer

/-- `str` and `str.upper` of Python. `str` raises on a number that is too long and on a value that
nests too deep; an exception counts by its text. -/
structure TextHost where
  str : Json → Except PyStr PyStr
  upper : PyStr → PyStr

/-- `bytes.split()`. -/
def splitBytes (bytes : Bytes) : List Bytes :=
  (bytes.splitOnP fun b => b = 0x20 || (0x09 ≤ b && b ≤ 0x0D)).filter (· ≠ [])

def wrongAnswer (accepted : Bool) : PyStr := if accepted then [] else "wrong answer"

/-- `_check_output`. Its exceptions count by their text. -/
def checkOutput (host : TextHost) (checker : Option CheckerAnswer) (case : TestCase)
    (output : Bytes) : Except PyStr (Bool × PyStr) :=
  match case.answer with
  | none => .error (PyStr.ofString "ClassicJudgeError: test " ++ case.testId ++
      PyStr.ofString " has no answer output")
  | some answer =>
    match checker with
    | none =>
      let accepted := decide (splitBytes output = splitBytes answer)
      .ok (accepted, wrongAnswer accepted)
    | some (.bool accepted) => .ok (accepted, wrongAnswer accepted)
    | some (.obj fields) => do
      let verdict := host.upper (← host.str (fields.getD "verdict" (.text "")))
      let listed := verdict = PyStr.ofString "AC" ∨ verdict = PyStr.ofString "OK"
      let accepted := (fields.getD "ok" (fields.getD "accepted" (.bool listed))).truthy
      let message := (fields.get "message").or (.str (wrongAnswer accepted))
      return (accepted, ← host.str message)
    | some (.num n) =>
      match n with
      | .nan | .inf _ => .error "ClassicJudgeError: checker returned an unsupported result"
      | .int i =>
        -- `float(raw)` rounds half to even, so its first int without a value is midway to
        -- `2 ^ 1024`.
        if i.natAbs < 2 ^ 1024 - 2 ^ 970 then
          let accepted := decide (1 ≤ i)
          .ok (accepted, wrongAnswer accepted)
        else .error "OverflowError: int too large to convert to float"
      | .float x =>
        let accepted := !Number.lt (.float x) (.int 1)
        .ok (accepted, wrongAnswer accepted)
    | some .unsupported => .error "ClassicJudgeError: checker returned an unsupported result"
    | some (.raised text) => .error text

structure TestRow where
  id : PyStr
  verdict : Verdict
  timeMs : ℚ
  outputBytes : Nat
  message : PyStr
deriving DecidableEq

def TestRow.json (row : TestRow) : Json :=
  let fields : Dict := [("id", .str row.id), ("verdict", .text row.verdict.text),
    ("time_ms", .ofFloat row.timeMs), ("output_bytes", .num (.int row.outputBytes))]
  .obj (fields.setSome "message"
    (if row.message = [] then none else some (.str (row.message.take 1000))))

/-- `rows[row["id"]] = row`. -/
def setRow (rows : List TestRow) (row : TestRow) : List TestRow :=
  if rows.any fun r => r.id = row.id then rows.map fun r => if r.id = row.id then row else r
  else rows ++ [row]

/-- One round of the loop over the tests. -/
def judgeTest (host : TextHost) (config : ClassicConfig) (hasChecker : Bool) (case : TestCase)
    (run : TestRun) : Except JudgeException TestRow :=
  let outcome := runProcess (some config.outputLimitBytes) run.process
  let row (verdict : Verdict) (message : PyStr) : TestRow :=
    ⟨case.testId, verdict, roundDigits outcome.elapsedMs 3, outcome.outputBytes, message⟩
  if outcome.verdict = .ok then
    match checkOutput host (if hasChecker then some run.checker else none) case run.output with
    | .error text =>
      .error (.judge (PyStr.ofString "checker failed on " ++ case.testId ++ PyStr.ofString ": " ++
        text))
    | .ok (accepted, message) =>
      .ok (row (if accepted then .ok else .wa) (if message = [] then outcome.stderr else message))
  else .ok (row outcome.verdict outcome.stderr)

/-- The loop over the tests. A row is kept under the id of its test. -/
def judgeTests (host : TextHost) (config : ClassicConfig) (hasChecker : Bool) (run : Nat → TestRun)
    (cases : List TestCase) : Except JudgeException (List TestRow) := do
  let rows ← cases.zipIdx.mapM fun (case, i) => judgeTest host config hasChecker case (run i)
  return rows.foldl setRow []

/-- The verdict of a submission from the rows of its tests. -/
def overallVerdict (rows : List TestRow) : Verdict :=
  match rows.find? fun row => row.verdict ∈ [Verdict.tle, .ole, .re] with
  | some row => row.verdict
  | none => if rows.countP (·.verdict = .ok) = rows.length then .ac else .wa

/-- The float division of two counts. -/
def trueDivide (a b : Nat) : ℚ := toFloat (a / b)

def classicScore (mode : ScoringMode) (passed total : Nat) : ℚ :=
  match mode with
  | .allOrNothing => if passed = total then 1 else 0
  | .percentage => trueDivide passed total

/-- `_failed`, with the metrics of a runner. -/
def failedResult (metrics : Dict) (reason : PyStr) : Dict :=
  [("status", .text "failed"), ("score", .ofFloat 0), ("metrics", .obj metrics),
    ("failure_reason", .str (reason.take maxDiagnosticChars))]

def classicMetrics (config : ClassicConfig) (verdict : Verdict) (rows : List TestRow)
    (passed total : Nat) (compileStderr : PyStr) : Dict :=
  let metrics : Dict := [("runner", .text "classic"), ("language", .text config.language),
    ("verdict", .text verdict.text), ("tests", .arr (rows.map TestRow.json)),
    ("scoring_mode", .text config.scoringMode.text), ("passed_tests", .num (.int passed)),
    ("total_tests", .num (.int total))]
  metrics.setSome "compile_stderr"
    (if compileStderr = [] then none else some (.str (compileStderr.take maxDiagnosticChars)))

/-- `_completed`. -/
def classicCompleted (config : ClassicConfig) (score : ℚ) (verdict : Verdict) (rows : List TestRow)
    (passed total : Nat) (compileStderr : PyStr) : Dict :=
  [("status", .text "completed"), ("score", .ofFloat score),
    ("metrics", .obj (classicMetrics config verdict rows passed total compileStderr))]

/-- Everything `run_classic` meets in a submission and a package, in order. -/
structure ClassicEvaluation where
  config : Except JudgeException ClassicConfig
  cases : Except JudgeException (List TestCase)
  hasChecker : Except JudgeException Bool
  source : Except JudgeException Unit
  reference : ReferenceRun
  compiler : CompilerRun
  run : Nat → TestRun

/-- The body of the `try` block. -/
def judgeClassic (host : TextHost) (evaluation : ClassicEvaluation) :
    Except JudgeException Dict := do
  let config ← evaluation.config
  let cases ← evaluation.cases
  if cases = [] then
    throw (.judge "classic task has no tests/*.in files")
  let hasChecker ← evaluation.hasChecker
  evaluation.source
  let cases ← referenceAnswers config cases evaluation.reference
  match compileSource config.language evaluation.compiler with
  | .error (.raised exc) => throw exc
  | .error (.failure _ message) =>
    return classicCompleted config 0 .ce [] 0 cases.length message
  | .ok compileStderr =>
    let rows ← judgeTests host config hasChecker evaluation.run cases
    let passed := rows.countP (·.verdict = .ok)
    return classicCompleted config (classicScore config.scoringMode passed rows.length)
      (overallVerdict rows) rows passed rows.length compileStderr

def classicFailure : JudgeException → PyStr
  | .judge message => message
  | .other text => PyStr.ofString "classic judge failure: " ++ text

def runClassic (host : TextHost) (evaluation : ClassicEvaluation) : Dict :=
  match judgeClassic host evaluation with
  | .ok result => result
  | .error exc => failedResult [("runner", .text "classic")] (classicFailure exc)

end BrunostJudge
