import BrunostJudge.ClassicRunner
import BrunostJudge.PyDumpsInjective
import BrunostJudge.SessionChunking

namespace Python
set_option autoImplicit true

def asciiWidth (c : CodePoint) : Nat :=
  if c.val = 0x22 ∨ c.val = 0x5C ∨ c.val = 0x0A ∨ c.val = 0x0D ∨ c.val = 0x09 ∨ c.val = 0x0C ∨
      c.val = 0x08 then 2
  else if 0x20 ≤ c.val ∧ c.val ≤ 0x7E then 1
  else if c.val < 0x10000 then 6
  else 12

def asciiSizeOf (s : PyStr) : Nat := 2 + (s.map asciiWidth).sum

mutual

/-- The length of `json.dumps(value)`. -/
def Json.asciiSize : Json → Nat
  | .null => 4
  | .bool b => if b then 4 else 5
  | .num n => n.print.length
  | .str s => asciiSizeOf s
  | .arr items => 2 + Json.asciiSizeItems items
  | .obj fields => 2 + Json.asciiSizeFields fields

def Json.asciiSizeItems : List Json → Nat
  | [] => 0
  | x :: xs => x.asciiSize + (if xs.isEmpty then 0 else 2) + Json.asciiSizeItems xs

def Json.asciiSizeFields : List (PyStr × Json) → Nat
  | [] => 0
  | (k, x) :: fields =>
    asciiSizeOf k + 2 + x.asciiSize + (if fields.isEmpty then 0 else 2) +
      Json.asciiSizeFields fields

end

end Python

namespace BrunostJudge
open Python
set_option autoImplicit true

/-- Python, as the runner and its workers use it. -/
structure InteractiveHost extends InteractorHost where
  repr : PyStr → PyStr

/-- `f"{type(exc).__name__}: {exc}"`. -/
def JudgeException.described : JudgeException → PyStr
  | .judge message => PyStr.ofString "ClassicJudgeError: " ++ message
  | .other text => text

def CompileException.described (repr : PyStr → PyStr) : CompileException → PyStr
  | .failure verdict message => PyStr.ofString "_CompileFailure: (" ++
      repr (PyStr.ofString verdict.text) ++ PyStr.ofString ", " ++ repr message ++
        PyStr.ofString ")"
  | .raised exc => exc.described

/-- A test, with what a submission does on it, and whether its worker gets by with its memory. The
interactor makes no more than so many calls, unless it never ends. -/
structure InteractiveTest where
  testId : PyStr
  fitsMemory : Bool
  source : Except JudgeException Unit
  sourceBytes : Nat
  compiler : CompilerRun
  started : Except PyStr Unit
  interactor : Interactor
  calls : Nat
  events : List PipeEvent
  stdinOpen : Nat → Bool
  exitCode : Int
  stderr : PyStr

section
variable (host : InteractiveHost) (config : ClassicConfig) (loaded : Except PyStr Unit)
  (test : InteractiveTest)

/-- What stands before the dialogue, up to the text the compiler wrote. -/
def InteractiveTest.prepare : Except PyStr PyStr := do
  loaded
  test.source.mapError JudgeException.described
  let compileStderr ← (compileSource config.language test.compiler).mapError
    (CompileException.described host.repr)
  test.started
  return compileStderr

/-- The dialogue after the last call. -/
def InteractiveTest.dialogue : Dialogue :=
  (Dialogue.start config.outputLimitBytes test.events).run host.toInteractorHost test.stdinOpen
    test.interactor test.calls

/-- `run` of the worker; there is no row while the interactor goes on. -/
def InteractiveTest.workerRow : Option Dict :=
  match test.prepare host config loaded with
  | .error text => some (InteractorHost.raisedRow (.other text))
  | .ok compileStderr => (test.dialogue host config).row host.toInteractorHost test.interactor
      test.exitCode test.stderr compileStderr

end

/-- A worker, as `_run_process` sees it, and what `json.loads` makes of the file it wrote. -/
structure WorkerRun where
  process : ProcessRun
  printed : Except PyStr Json

section
variable (host : InteractiveHost)

/-- The row of the loop over the tests, before its defaults. -/
def readWorkerRow (outcome : ProcessOutcome) (testId : PyStr) (printed : Except PyStr Json) :
    Except JudgeException Dict :=
  if outcome.verdict = .tle then .ok [("id", .str testId), ("verdict", .text "TLE")]
  else if outcome.verdict ≠ .ok then
    .error (.judge (PyStr.ofString "interactive evaluator failed: " ++
      if outcome.stderr = [] then PyStr.ofString outcome.verdict.text else outcome.stderr))
  else
    match printed with
    | .error exc =>
      .error (.judge (PyStr.ofString "interactive evaluator returned invalid JSON: " ++ exc))
    | .ok (.obj row) =>
      if Dict.get row "status" = .text "failed" then
        .error (.judge (if (Dict.get row "message").truthy then host.str (Dict.get row "message")
          else "interactive evaluator failed"))
      else .ok row
    | .ok _ => .error (.judge "interactive evaluator result must be an object")

/-- One round of the loop over the tests. -/
def interactiveRow (config : ClassicConfig) (testId : PyStr) (run : WorkerRun) :
    Except JudgeException Dict := do
  let outcome := runProcess (some config.outputLimitBytes) run.process
  let row ← readWorkerRow host outcome testId run.printed
  let row := row.setdefault "id" (.str testId)
  let row := row.setdefault "verdict" (.text "WA")
  return row.set "time_ms" (.ofFloat (roundDigits outcome.elapsedMs 3))

def rowAccepted (row : Dict) : Bool := Dict.get row "verdict" = .text "AC"

/-- `float(row.get("score", ..))`. -/
def rowScore (row : Dict) : Except JudgeException Number :=
  (host.floatOf (Dict.getD row "score" (.ofFloat (if rowAccepted row then 1 else 0)))).mapError
    fun
    | .timeout text | .overflow text | .protocol text | .other text => .other text

def numberValue : Number → ℚ
  | .int i => i
  | .float x => toFloat x.value
  | .nan | .inf _ => 0

/-- The sum of floats, divided by their number. -/
def meanNumber (numbers : List Number) : Number :=
  if .nan ∈ numbers ∨ .inf true ∈ numbers ∧ .inf false ∈ numbers then .nan
  else if .inf true ∈ numbers then .inf true
  else if .inf false ∈ numbers then .inf false
  else .float (floatRepr (toFloat (floatSum (numbers.map numberValue) / numbers.length)))

def interactiveMetrics (config : ClassicConfig) (rows : List Dict) : Dict :=
  [("runner", .text "interactive"), ("language", .text config.language),
    ("verdict", ((rows.find? fun row => !rowAccepted row).map fun row =>
      Dict.get row "verdict").getD (.text "AC")),
    ("tests", .arr (rows.map Json.obj))]

/-- The body of the `try` block. -/
def judgeInteractive (config : Except JudgeException ClassicConfig)
    (tests : List (PyStr × WorkerRun)) : Except JudgeException Dict := do
  let config ← config
  if config.kind ≠ "interactive" then
    throw (.judge "interactive runner requires kind: interactive")
  if tests.isEmpty then
    throw (.judge "interactive tasks need tests/*.in files")
  let rows ← tests.mapM fun (testId, run) => interactiveRow host config testId run
  let scores ← rows.mapM (rowScore host)
  return [("status", .text "completed"), ("score", .num (meanNumber scores)),
    ("metrics", .obj (interactiveMetrics config rows))]

def interactiveFailure : JudgeException → PyStr
  | .judge message => message
  | .other text => PyStr.ofString "interactive judge failure: " ++ text

def runInteractive (config : Except JudgeException ClassicConfig)
    (tests : List (PyStr × WorkerRun)) : Dict :=
  match judgeInteractive host config tests with
  | .ok result => result
  | .error exc => failedResult [("runner", .text "interactive")] (interactiveFailure exc)

end

end BrunostJudge
