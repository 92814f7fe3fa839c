import BrunostJudge.Packages
import BrunostJudge.QuizRunner

namespace BrunostJudge
open Python
set_option autoImplicit true

open TaskPackage (finding)

/-- What an answer key file breaks, question by question. -/
structure QuestionFindings where
  errors : List PyStr
  ids : List PyStr
  points : ℚ

def reportUnless (check : Bool) (message : PyStr) : List PyStr := if check then [] else [message]

def reprOfId (id : PyStr) : PyStr := PyStr.ofString "'" ++ id ++ PyStr.ofString "'"

/-- The check of the id of a choice, and the ids it leaves. -/
def choiceIdFindings (label : PyStr) (ids : List PyStr) (value : Json) : List PyStr × List PyStr :=
  match value with
  | .str id =>
    if !isQuizId id then ([label ++ PyStr.ofString " choice ids must be safe strings"], ids)
    else if ids.contains id then
      ([label ++ PyStr.ofString " contains duplicate choice id " ++ reprOfId id], ids)
    else ([], ids ++ [id])
  | _ => ([label ++ PyStr.ofString " choice ids must be safe strings"], ids)

/-- One round of the loop over the choices of a question. -/
def choiceFinding (label : PyStr) (index : Nat) (ids : List PyStr) (choice : Json) :
    List PyStr × List PyStr :=
  let malformed :=
    label ++ PyStr.ofString (" choice " ++ toString index ++ " must contain only id and text")
  match choice with
  | .obj fields =>
    if fields.all fun f => ["id", "text"].any fun (name : String) => f.1 = name then
      let named := choiceIdFindings label ids (Dict.get fields "id")
      (named.1 ++ reportUnless (isShortText maxQuizTextChars (Dict.get fields "text"))
        (label ++ PyStr.ofString " choice text must be at most 20000 characters"), named.2)
    else ([malformed], ids)
  | _ => ([malformed], ids)

/-- The loop over the choices of a question: its complaints, and the ids it has seen. -/
def choiceFindings (label : PyStr) : Nat → List PyStr → List Json → List PyStr × List PyStr
  | _, ids, [] => ([], ids)
  | index, ids, choice :: rest =>
    let found := choiceFinding label index ids choice
    let remaining := choiceFindings label (index + 1) found.2 rest
    (found.1 ++ remaining.1, remaining.2)

/-- The checks of the answers of a question. -/
def answerFindings (label : PyStr) (type : Option QuizType) (choiceIds : List PyStr)
    (fields : Dict) : List PyStr :=
  match type with
  | some .singleChoice =>
    reportUnless (!(Dict.contains fields "accepted_answers"))
      (label ++ PyStr.ofString " single_choice questions must use answer") ++
    reportUnless (match Dict.get fields "answer" with
        | .str answer => choiceIds.contains answer
        | _ => false)
      (label ++ PyStr.ofString " answer must name one of its choices")
  | some .multipleChoice =>
    reportUnless (!(Dict.contains fields "accepted_answers"))
      (label ++ PyStr.ofString " multiple_choice questions must use answer") ++
    reportUnless (match Dict.get fields "answer" with
        | .arr items =>
          match texts? items with
          | some answers => decide (answers ≠ [] ∧ answers.length ≤ maxQuizChoices ∧
              answers.all choiceIds.contains ∧ answers.Nodup)
          | none => false
        | _ => false)
      (label ++ PyStr.ofString " answer must be a non-empty list of unique choice ids")
  | some .freeText =>
    let accepted := Dict.getD fields "accepted_answers" (Dict.get fields "answer")
    let accepted : Json := match accepted with
      | .str s => .arr [.str s]
      | accepted => accepted
    reportUnless (!(Dict.contains fields "answer" && Dict.contains fields "accepted_answers"))
      (label ++ PyStr.ofString
        " free_text questions must use either answer or accepted_answers, not both") ++
    reportUnless (match accepted with
        | .arr items =>
          match texts? items with
          | some answers => decide (1 ≤ answers.length ∧ answers.length ≤ maxQuizAnswersPerText ∧
              answers.all fun answer => answer.length ≤ maxQuizAnswerChars)
          | none => false
        | _ => false)
      (label ++ PyStr.ofString " accepted_answers must contain 1 to 100 short text answers")
  | none => []

/-- The check of the id of a question, and the ids it leaves. -/
def idFindings (label : PyStr) (ids : List PyStr) (value : Json) : List PyStr × List PyStr :=
  let unsafeId :=
    label ++ PyStr.ofString " id must be a unique safe string of at most 64 characters"
  match value with
  | .str id =>
    if !isQuizId id then ([unsafeId], ids)
    else if ids.contains id then
      ([PyStr.ofString "duplicate quiz question id " ++ reprOfId id], ids)
    else ([], id :: ids)
  | _ => ([unsafeId], ids)

/-- `question_type not in QUIZ_TYPES`. -/
def validatedType (value : Json) : Except PyError (Option QuizType) :=
  if value.hashable then .ok (quizType? value) else .error PyError.typeError

/-- The float of the points of a question, when they are in range. -/
def validatedPoints : Json → Option ℚ
  | .num n => if pointsInRange n then (floatOf n).toOption else none
  | _ => none

/-- The check of the choices of a question, and their ids. -/
def questionChoiceFindings (label : PyStr) (type : Option QuizType) (fields : Dict) :
    List PyStr × List PyStr :=
  if type = some .singleChoice ∨ type = some .multipleChoice then
    match Dict.get fields "choices" with
    | .arr items =>
      if 2 ≤ items.length ∧ items.length ≤ maxQuizChoices then choiceFindings label 1 [] items
      else ([label ++ PyStr.ofString " choices must contain 2 to 100 items"], [])
    | _ => ([label ++ PyStr.ofString " choices must contain 2 to 100 items"], [])
  else (reportUnless (decide (Dict.get fields "choices" = .null))
    (label ++ PyStr.ofString " free_text questions must not declare choices"), [])

/-- One round of the loop over the questions. -/
def questionFindings (index : Nat) (ids : List PyStr) (raw : Json) :
    Except PyError QuestionFindings :=
  let label := PyStr.ofString ("quiz question " ++ toString index)
  match raw with
  | .obj fields => do
    let named := idFindings label ids (Dict.get fields "id")
    let type ← validatedType (Dict.get fields "type")
    let points := validatedPoints (Dict.getD fields "points" (.num (.int 1)))
    let choices := questionChoiceFindings label type fields
    return {
      errors := reportUnless
          (fields.all fun f => questionFields.any fun name => f.1 = PyStr.ofString name)
          (label ++ PyStr.ofString " contains unsupported fields") ++
        named.1 ++
        reportUnless type.isSome (label ++ PyStr.ofString
          " type must be single_choice, multiple_choice, or free_text") ++
        reportUnless (!(Dict.contains fields "prompt") ||
            isShortText maxQuizTextChars (Dict.get fields "prompt"))
          (label ++ PyStr.ofString " prompt must be text of at most 20000 characters") ++
        reportUnless points.isSome
          (label ++ PyStr.ofString " points must be a finite number in (0, 1000000]") ++
        choices.1 ++ answerFindings label type choices.2 fields
      ids := named.2
      points := points.getD 0 }
  | _ => .ok ⟨[label ++ PyStr.ofString " must be an object"], ids, 0⟩

/-- The loop over the questions: their complaints, and the sum of their points. -/
def questionsFindings : Nat → List PyStr → ℚ → List Json → Except PyError (List PyStr × ℚ)
  | _, _, total, [] => .ok ([], total)
  | index, ids, total, raw :: rest => do
    let found ← questionFindings index ids raw
    let (errors, total) ← questionsFindings (index + 1) found.ids
      (toFloat (total + found.points)) rest
    return (found.errors ++ errors, total)

def isLongText : Json → Bool
  | .str s => maxQuizTextChars < s.length
  | _ => false

/-- The part of `_validate_quiz_manifest` that reads the answer key. It takes a `null` for a file
that could not be read. -/
def answerKeyFindings (payload : Json) : Except PyError (List PyStr) :=
  match payload with
  | .null => .ok []
  | .obj fields =>
    if fields.all fun f =>
        ["questions", "title", "description"].any fun (name : String) => f.1 = name then
      match Dict.get fields "questions" with
      | .arr items =>
        if 1 ≤ items.length ∧ items.length ≤ maxQuizQuestions then do
          let (errors, total) ← questionsFindings 1 [] 0 items
          return reportUnless (!(isLongText (Dict.get fields "title")))
              "quiz title exceeds 20000 characters" ++
            reportUnless (!(isLongText (Dict.get fields "description")))
              "quiz description exceeds 20000 characters" ++
            errors ++ reportUnless (total ≤ maxQuizPoints) "quiz points total exceeds 1000000"
        else .ok ["quiz answer_key questions must contain 1 to 500 items"]
      | _ => .ok ["quiz answer_key questions must contain 1 to 500 items"]
    else .ok ["quiz answer_key must be an object containing only questions, title, and description"]
  | _ => .ok ["quiz answer_key must be an object containing only questions, title, and description"]

/-- What `validate_task` sees of a package besides its `judge.yaml`: how many `tests/*.in` there
are, what stands at the path of an answer key, and what the checks of the other files report. -/
structure PackageFiles where
  testInputs : Nat
  answerKey : String → AnswerKeyFile
  findings : TaskFindings
  digest : String

/-- `CLASSIC_LANGUAGES`. -/
def classicLanguages : List String :=
  ["python", "py", "c", "cpp", "c++", "c++17", "gnu++17", "g++", "rust", "rs"]

section
variable (host : ManifestHost) (text : List Char)

/-- `_manifest_field(..) or default`. -/
def fieldOr (name default : String) : String := (given (manifestField host text name)).getD default

/-- `_validate_relative_path`. -/
def relativePathFindings (value label : String) : List PyStr :=
  finding (isRelativePath value) (label ++ " must stay inside the task directory")

/-- `_is_private_path`. -/
def isPrivatePath (value : String) : Bool :=
  !(isAbsolutePath value) && (pathParts value).head? = some "private".toList

/-- `_validate_positive_field`. -/
def positiveFieldFindings (name : String) : List PyStr :=
  match manifestField host text name with
  | none => []
  | some value =>
    finding (match host.parseInt value with | .ok i => 1 ≤ i | .error _ => false)
      (name ++ " must be a positive integer")

/-- `int(_manifest_field(..) or "0")`, inside a `try` that passes over what is no integer. -/
def fieldInt (name : String) : Option Int :=
  match given (manifestField host text name) with
  | none => some 0
  | some value => (host.parseInt value).toOption

def languageFindings (message : String) : List PyStr :=
  finding (classicLanguages.contains (host.lower (fieldOr host text "language" ""))) message

def runnerFindings (accepted : Option String → Bool) (message : String) : List PyStr :=
  finding (accepted (manifestField host text "runner")) message

/-- The checks of a batch task that `TaskPackage.classicSettings` leaves out. -/
def classicFindings : TaskFindings where
  opening :=
    runnerFindings host text (fun runner => [none, some "classic"].contains runner)
      "classic tasks must declare runner: classic" ++
    languageFindings host text "classic tasks must declare language: python, c, cpp, or rust"
  source :=
    if host.lower (fieldOr host text "answer_source" "answer_key") = "reference" then
      let language := host.lower (fieldOr host text "language" "")
      let entrypoint := fieldOr host text "reference_entrypoint" "private/reference.py"
      finding (classicLanguages.contains
          (host.lower (fieldOr host text "reference_language" language)))
        "reference_language must be python, c, cpp, or rust" ++
      relativePathFindings entrypoint "reference_entrypoint" ++
      finding (isPrivatePath entrypoint) "reference_entrypoint must be stored under private/"
    else []
  entrypoint :=
    match given (manifestField host text "entrypoint") with
    | some entrypoint => relativePathFindings entrypoint "entrypoint"
    | none => []

def boundFindings (value low high : Int) (message : String) : List PyStr :=
  finding (low ≤ value ∧ value ≤ high) message

def limitFields : List String := ["time_limit_ms", "memory_limit_mb", "output_limit_bytes"]

def baselineEnabled : Bool :=
  match manifestField host text "baseline_enabled" with
  | none => false
  | some value => isTrueText (host.lower value)

/-- `_validate_optimization_manifest`, up to its files. -/
def optimizationFindings : TaskFindings :=
  let scoreMode := host.lower (fieldOr host text "score_mode" "")
  { opening :=
      runnerFindings host text (fun runner => runner = some "optimization")
        "optimization tasks must declare runner: optimization" ++
      languageFindings host text
        "optimization tasks must declare language: python, c, cpp, or rust" ++
      limitFields.flatMap (positiveFieldFindings host text) ++
      (match fieldInt host text "time_limit_ms", fieldInt host text "memory_limit_mb",
          fieldInt host text "output_limit_bytes" with
        | some time, some memory, some output =>
          boundFindings time 100 15000
            "optimization time_limit_ms must be between 100 and 15000" ++
          boundFindings memory 64 4096
            "optimization memory_limit_mb must be between 64 and 4096" ++
          boundFindings output 1024 67108864
            "optimization output_limit_bytes must be between 1024 and 67108864"
        | _, _, _ => []) ++
      finding (fieldOr host text "evaluation" "" = "evaluator:evaluate")
        "optimization tasks must declare evaluation: evaluator:evaluate" ++
      finding (objectiveDirection? (host.lower (fieldOr host text "objective_direction" ""))).isSome
        "optimization tasks must declare objective_direction: maximize or minimize" ++
      finding (scoreMode? scoreMode).isSome
        "optimization tasks must declare score_mode: checker_score or baseline_ratio" ++
      finding (aggregation? (host.lower (fieldOr host text "aggregation" ""))).isSome
        "optimization tasks must declare aggregation: mean, minimum, or geometric_mean" ++
      relativePathFindings (fieldOr host text "evaluator_entrypoint" "private/evaluator.py")
        "evaluator_entrypoint"
    source :=
      finding (decide (scoreMode ≠ "baseline_ratio") || baselineEnabled host text)
        "baseline_ratio scoring requires baseline_enabled: true" ++
      (if baselineEnabled host text then
        relativePathFindings (fieldOr host text "baseline_entrypoint" "private/baseline.py")
          "baseline_entrypoint"
      else []) }

def answerKeyFileFindings (key : String) : AnswerKeyFile → Except PyError (List PyStr)
  | .outsideTask => .ok [PyStr.ofString "answer_key must stay inside the task directory"]
  | .outsidePrivate => .ok [PyStr.ofString "answer_key must stay under private/"]
  | .missing => .ok [PyStr.ofString ("quiz tasks need " ++ key)]
  | .unreadable detail => .ok [detail]
  | .document payload => answerKeyFindings payload

/-- The checks of a quiz task that `TaskPackage.quizSettings` leaves out. -/
def quizFindings (answerKey : String → AnswerKeyFile) : Except PyError TaskFindings := do
  let key := fieldOr host text "answer_key" "private/questions.json"
  let document ← answerKeyFileFindings key (answerKey key)
  return {
    opening := runnerFindings host text (fun runner => runner = some "quiz")
      "quiz tasks must declare runner: quiz"
    source := relativePathFindings key "answer_key" ++
      finding (isPrivatePath key) "answer_key must be stored under private/" ++ document }

/-- The checks of the manifest of a task, by its kind. -/
def manifestFindings (files : PackageFiles) (kind : String) : Except PyError TaskFindings :=
  if kind = "optimization" then .ok (optimizationFindings host text)
  else if kind = "quiz" then quizFindings host text files.answerKey
  else if classicKinds.contains kind then .ok (classicFindings host text)
  else .ok {}

/-- A package by its manifest and its files. -/
def taskPackage (files : PackageFiles) (findings : TaskFindings) : TaskPackage where
  kind := manifestKind host text
  field := manifestField host text
  testInputs := files.testInputs
  findings := findings.append files.findings
  digest := files.digest

/-- `validate_task` of a package. -/
def validatePackage (files : PackageFiles) : Except PyError TaskValidation := do
  let findings ← manifestFindings host text files ((manifestKind host text).getD "")
  return (taskPackage host text files findings).validateTask host.lower host.parseInt host.repr

end

end BrunostJudge
