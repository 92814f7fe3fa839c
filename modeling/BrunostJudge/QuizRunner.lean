import BrunostJudge.ManifestText

namespace BrunostJudge
open Python
set_option autoImplicit true

def maxQuizQuestions : Nat := 500
def maxQuizChoices : Nat := 100
def maxQuizTextChars : Nat := 20000
def maxQuizAnswerChars : Nat := 4096
def maxQuizAnswersPerText : Nat := 100
def maxQuizSubmissionBytes : Nat := 1024 * 1024
def maxQuizPoints : Nat := 1000000

inductive QuizType where
  | singleChoice
  | multipleChoice
  | freeText
deriving DecidableEq

def QuizType.text : QuizType → String
  | .singleChoice => "single_choice"
  | .multipleChoice => "multiple_choice"
  | .freeText => "free_text"

/-- The question type a text names. -/
def quizType? (value : Json) : Option QuizType :=
  [QuizType.singleChoice, .multipleChoice, .freeText].find? fun type => value = .text type.text

structure QuizQuestion where
  questionId : PyStr
  questionType : QuizType
  points : ℚ
  choices : List PyStr
  acceptedAnswers : List PyStr
deriving DecidableEq

structure QuizConfig where
  answerKey : String
  submissionFile : String
  scoringMode : String
  textNormalization : String
  questions : List QuizQuestion

/-- `Path(value).parts`, without the root of an absolute path. -/
def pathParts (value : String) : List (List Char) :=
  (value.toList.splitOn '/').filter fun part => part ≠ [] ∧ part ≠ ['.']

def isAbsolutePath (value : String) : Bool := value.toList.head? = some '/'

def leavesUpwards (value : String) : Bool := (pathParts value).contains ['.', '.']

/-- The checks that `_validate_relative_path` and `_safe_relative` make of the path itself. -/
def isRelativePath (value : String) : Bool :=
  !(isAbsolutePath value) && value.toList.all (·.toNat ≠ 92) && !(pathParts value).isEmpty &&
    !(leavesUpwards value)

/-- The check that `_load_config` makes of the path of a submission. -/
def isSubmissionFile (path : String) : Bool :=
  decide (path ≠ "") && !(isAbsolutePath path) && !(leavesUpwards path)

/-- What stands at the path of an answer key, links resolved. -/
inductive AnswerKeyFile where
  | outsideTask
  | outsidePrivate
  | missing
  | unreadable (detail : PyStr)
  | document (payload : Json)

def isIdChar (c : CodePoint) : Bool :=
  (0x30 ≤ c.val && c.val ≤ 0x39) || (0x41 ≤ c.val && c.val ≤ 0x5A) ||
    (0x61 ≤ c.val && c.val ≤ 0x7A)

/-- `_ID_RE.fullmatch`. -/
def isQuizId : PyStr → Bool
  | [] => false
  | c :: rest =>
    isIdChar c && rest.length ≤ 63 && rest.all fun c =>
      isIdChar c || c.val = 0x5F || c.val = 0x2E || c.val = 0x3A || c.val = 0x2D

/-- `isinstance(value, str) and len(value) <= limit`. -/
def isShortText (limit : Nat) : Json → Bool
  | .str s => s.length ≤ limit
  | _ => false

/-- `float(value)` of a finite number. -/
def floatOf : Number → Except JudgeException ℚ
  | .int i =>
    if i.natAbs < 2 ^ 1024 - 2 ^ 970 then .ok (toFloat i)
    else .error (.other "OverflowError: int too large to convert to float")
  | .float x => .ok (toFloat x.value)
  | .nan | .inf _ => .ok 0

def numberIsFinite : Number → Bool
  | .nan | .inf _ => false
  | _ => true

/-- `0 < points <= MAX_QUIZ_POINTS`. -/
def pointsInRange (points : Number) : Bool :=
  Number.lt (.int 0) points && !Number.lt (.int maxQuizPoints) points

/-- The check of the points of a question, and their float. -/
def quizPoints (label : PyStr) (value : Json) : Except JudgeException ℚ :=
  let rejected : Except JudgeException ℚ := .error (.judge
    (label ++ PyStr.ofString " points must be a finite number in (0, 1000000]"))
  match value with
  | .num n => do
    let points ← floatOf n
    if numberIsFinite n && pointsInRange n then .ok points else rejected
  | _ => rejected

/-- The loop over the choices of a question. -/
def loadChoices (label : PyStr) : List PyStr → List Json → Except JudgeException (List PyStr)
  | seen, [] => .ok seen
  | seen, choice :: rest =>
    match choice with
    | .obj fields => do
      judgeUnless
        (fields.all (fun f => ["id", "text"].any fun (name : String) => f.1 = name) &&
          Dict.contains fields "id" && Dict.contains fields "text")
        (label ++ PyStr.ofString " choices must contain only id and text")
      match Dict.get fields "id" with
      | .str id =>
        judgeUnless (isQuizId id && !(seen.contains id))
          (label ++ PyStr.ofString " contains an invalid or duplicate choice id")
        judgeUnless (isShortText maxQuizTextChars (Dict.get fields "text"))
          (label ++ PyStr.ofString " choice text must be text of at most 20000 characters")
        loadChoices label (seen ++ [id]) rest
      | _ => .error (.judge
          (label ++ PyStr.ofString " contains an invalid or duplicate choice id"))
    | _ => .error (.judge (label ++ PyStr.ofString " choices must contain only id and text"))

/-- The texts of a list of texts. -/
def texts? : List Json → Option (List PyStr)
  | [] => some []
  | .str s :: rest => (texts? rest).map (s :: ·)
  | _ :: _ => none

/-- The accepted answers of a question. -/
def loadAccepted (label : PyStr) (type : QuizType) (choices : List PyStr) (fields : Dict) :
    Except JudgeException (List PyStr) :=
  match type with
  | .singleChoice =>
    match Dict.get fields "answer" with
    | .str answer =>
      if choices.contains answer then .ok [answer]
      else .error (.judge (label ++ PyStr.ofString " answer must name one choice"))
    | _ => .error (.judge (label ++ PyStr.ofString " answer must name one choice"))
  | .multipleChoice =>
    let rejected : Except JudgeException (List PyStr) := .error (.judge
      (label ++ PyStr.ofString " answer must be a non-empty list of unique choice ids"))
    match Dict.get fields "answer" with
    | .arr items =>
      match texts? items with
      | some answers =>
        if answers ≠ [] ∧ answers.length ≤ maxQuizChoices ∧ answers.all choices.contains ∧
            answers.Nodup then .ok (answers.insertionSort (· ≤ ·))
        else rejected
      | none => rejected
    | _ => rejected
  | .freeText =>
    let raw := Dict.getD fields "accepted_answers" (Dict.get fields "answer")
    let raw : Json := match raw with
      | .str s => .arr [.str s]
      | raw => raw
    let rejected : Except JudgeException (List PyStr) :=
      .error (.judge (label ++ PyStr.ofString " accepted_answers are invalid"))
    match raw with
    | .arr items =>
      match texts? items with
      | some answers =>
        if 1 ≤ answers.length ∧ answers.length ≤ maxQuizAnswersPerText ∧
            answers.all (fun answer => answer.length ≤ maxQuizAnswerChars) then .ok answers
        else rejected
      | none => rejected
    | _ => rejected

def questionFields : List String :=
  ["id", "type", "prompt", "choices", "points", "answer", "accepted_answers"]

def unhashableText : Json → PyStr
  | .arr _ => "TypeError: unhashable type: 'list'"
  | _ => "TypeError: unhashable type: 'dict'"

def loadQuestionId (label : PyStr) (seen : List PyStr) (value : Json) :
    Except JudgeException PyStr :=
  match value with
  | .str id =>
    if isQuizId id ∧ id ∉ seen then .ok id
    else .error (.judge (label ++ PyStr.ofString " id must be unique and safe"))
  | _ => .error (.judge (label ++ PyStr.ofString " id must be unique and safe"))

def loadQuestionType (label : PyStr) (value : Json) : Except JudgeException QuizType :=
  match quizType? value with
  | some type => .ok type
  | none =>
    if value.hashable then .error (.judge (label ++ PyStr.ofString " type is unsupported"))
    else .error (.other (unhashableText value))

def loadQuestionChoices (label : PyStr) (type : QuizType) (fields : Dict) :
    Except JudgeException (List PyStr) :=
  if type = .freeText then
    (judgeUnless (!(Dict.contains fields "choices"))
      (label ++ PyStr.ofString " free_text questions must not declare choices")).map fun _ => []
  else
    let rejected : Except JudgeException (List PyStr) := .error (.judge
      (label ++ PyStr.ofString " choices must contain 2 to 100 items"))
    match Dict.get fields "choices" with
    | .arr items =>
      if 2 ≤ items.length ∧ items.length ≤ maxQuizChoices then loadChoices label [] items
      else rejected
    | _ => rejected

/-- One round of the loop over the questions. -/
def loadQuestion (index : Nat) (seen : List PyStr) (raw : Json) :
    Except JudgeException QuizQuestion :=
  let label := PyStr.ofString ("quiz question " ++ toString index)
  match raw with
  | .obj fields => do
    judgeUnless (fields.all fun f => questionFields.any fun name => f.1 = PyStr.ofString name)
      (label ++ PyStr.ofString " contains unsupported fields")
    let questionId ← loadQuestionId label seen (Dict.get fields "id")
    let questionType ← loadQuestionType label (Dict.get fields "type")
    judgeUnless (!(Dict.contains fields "prompt") ||
        isShortText maxQuizTextChars (Dict.get fields "prompt"))
      (label ++ PyStr.ofString " prompt must be text of at most 20000 characters")
    let points ← quizPoints label (Dict.getD fields "points" (.num (.int 1)))
    let choices ← loadQuestionChoices label questionType fields
    let acceptedAnswers ← loadAccepted label questionType choices fields
    return { questionId, questionType, points, choices, acceptedAnswers }
  | _ => .error (.judge (label ++ PyStr.ofString " must be an object"))

/-- The loop over the questions. -/
def loadQuestionsFrom : Nat → List PyStr → List Json → Except JudgeException (List QuizQuestion)
  | _, _, [] => .ok []
  | index, seen, raw :: rest => do
    let question ← loadQuestion index seen raw
    let questions ← loadQuestionsFrom (index + 1) (question.questionId :: seen) rest
    return question :: questions

/-- The part of `_load_config` that reads the answer key. -/
def loadQuestions (payload : Json) : Except JudgeException (List QuizQuestion) :=
  match payload with
  | .obj fields => do
    judgeUnless (fields.all fun f =>
        ["questions", "title", "description"].any fun (name : String) => f.1 = name)
      "quiz answer_key must contain only questions, title, and description"
    match Dict.get fields "questions" with
    | .arr items =>
      judgeUnless (1 ≤ items.length ∧ items.length ≤ maxQuizQuestions)
        "quiz answer_key questions must contain 1 to 500 items"
      loadQuestionsFrom 1 [] items
    | _ => .error (.judge "quiz answer_key questions must contain 1 to 500 items")
  | _ => .error (.judge "quiz answer_key must contain only questions, title, and description")

def quizNormalizations : List String :=
  ["exact", "trim", "casefold_trim", "collapse_whitespace", "casefold_collapse_whitespace"]

/-- The checks of the file of an answer key, and what reading it later gives. -/
def openAnswerKey (key : String) :
    AnswerKeyFile → Except JudgeException (Except JudgeException Json)
  | .outsideTask => .error (.judge "answer_key must stay inside its bundle")
  | .outsidePrivate => .error (.judge "answer_key must stay under private/")
  | .missing => .error (.judge (PyStr.ofString ("quiz answer key does not exist: " ++ key)))
  | .unreadable detail => .ok (.error (.judge detail))
  | .document payload => .ok (.ok payload)

/-- `_load_config`. -/
def loadConfig (host : ManifestHost) (answerKey : String → AnswerKeyFile) (text : List Char) :
    Except JudgeException QuizConfig := do
  let value := manifestValue text
  judgeUnless (host.lower ((value "kind").getD "") = "quiz") "quiz runner requires kind: quiz"
  judgeUnless (value "version" = some "1") "quiz tasks must declare version: 1"
  judgeUnless (host.lower ((value "runner").getD "") = "quiz")
    "quiz tasks must declare runner: quiz"
  let key := (value "answer_key").getD "private/questions.json"
  judgeUnless (isRelativePath key) "answer_key must stay inside its bundle"
  let document ← openAnswerKey key (answerKey key)
  let scoringMode := host.lower ((value "scoring_mode").getD "weighted")
  judgeUnless (["weighted", "all_or_nothing"].contains scoringMode)
    "quiz scoring_mode must be weighted or all_or_nothing"
  let normalization := host.lower ((value "free_text_normalization").getD "casefold_trim")
  judgeUnless (quizNormalizations.contains normalization) "unsupported free_text_normalization"
  let submissionFile := (value "submission_file").getD "answers.json"
  judgeUnless (isSubmissionFile submissionFile)
    "submission_file must be a relative path without parent traversal"
  let payload ← document
  let questions ← loadQuestions payload
  return ⟨key, submissionFile, scoringMode, normalization, questions⟩

/-- `repr`, `str.strip`, `str.casefold` and `str.split` of Python. -/
structure QuizHost where
  repr : PyStr → PyStr
  strip : PyStr → PyStr
  casefold : PyStr → PyStr
  split : PyStr → List PyStr

/-- `_normalize_text`. -/
def normalizeText (host : QuizHost) (mode : String) (value : PyStr) : PyStr :=
  if mode = "exact" then value
  else if mode = "trim" then host.strip value
  else if mode = "casefold_trim" then host.casefold (host.strip value)
  else
    let collapsed := (PyStr.ofString " ").intercalate (host.split value)
    if mode = "casefold_collapse_whitespace" then host.casefold collapsed else collapsed

/-- `_is_correct`: whether an answer is right, and whether it is there. -/
def isCorrect (host : QuizHost) (question : QuizQuestion) (answer : Json) (normalization : String) :
    Except PyStr (Bool × Bool) :=
  match answer with
  | .null => .ok (false, false)
  | answer =>
    match question.questionType with
    | .singleChoice =>
      match answer with
      | .str s => .ok (question.acceptedAnswers.head? = some s, true)
      | _ => .error "single_choice answers must be strings"
    | .multipleChoice =>
      let rejected : Except PyStr (Bool × Bool) :=
        .error "multiple_choice answers must be a list of unique choice ids"
      match answer with
      | .arr items =>
        match texts? items with
        | some answers =>
          if answers ≠ [] ∧ answers.length ≤ maxQuizChoices ∧
              answers.all question.choices.contains ∧ answers.Nodup then
            .ok (answers.all question.acceptedAnswers.contains &&
              question.acceptedAnswers.all answers.contains, true)
          else rejected
        | none => rejected
      | _ => rejected
    | .freeText =>
      match answer with
      | .str s =>
        if s.length ≤ maxQuizAnswerChars then
          .ok ((question.acceptedAnswers.map (normalizeText host normalization)).contains
            (normalizeText host normalization s), true)
        else .error "free_text answers must be short strings"
      | _ => .error "free_text answers must be short strings"

/-- What reading a JSON file of bounded size comes upon. -/
inductive JsonFile where
  | uninspectable (exc : PyStr)
  | oversized
  | undecodable (exc : PyStr)
  | repeatedKey (key : PyStr)
  | document (payload : Json)

/-- `_bounded_json`. -/
def boundedJson (repr : PyStr → PyStr) (label : String) (limit : Nat) :
    JsonFile → Except PyStr Json
  | .uninspectable exc => .error (PyStr.ofString ("could not inspect " ++ label ++ ": ") ++ exc)
  | .oversized => .error (PyStr.ofString (label ++ " exceeds " ++ toString limit ++ " bytes"))
  | .undecodable exc => .error (PyStr.ofString (label ++ " is not valid JSON: ") ++ exc)
  | .repeatedKey key => .error
      (PyStr.ofString (label ++ " is not valid JSON: duplicate JSON key ") ++ repr key)
  | .document payload => .ok payload

/-- What stands at the path of a submission, or what looking for it raises. -/
inductive SubmissionFile where
  | inaccessible (text : PyStr)
  | outside
  | missing
  | found (content : JsonFile)

/-- What the loop over the questions has counted. -/
structure QuizTally where
  rows : List Json
  correct : Nat
  answered : Nat
  earned : ℚ

def quizRow (question : QuizQuestion) (awarded : ℚ) (answered correct : Bool) : Json :=
  .obj [("id", .str question.questionId), ("type", .text question.questionType.text),
    ("points", .ofFloat question.points), ("awarded_points", .ofFloat awarded),
    ("answered", .bool answered), ("correct", .bool correct)]

/-- The loop over the questions. It ends at an answer of the wrong shape, with the number of answers
up to there. -/
def tallyQuestions (host : QuizHost) (normalization : String) (answers : Dict) :
    QuizTally → List QuizQuestion → Except (PyStr × Nat) QuizTally
  | tally, [] => .ok tally
  | tally, question :: rest =>
    match isCorrect host question (answers.get question.questionId) normalization with
    | .error message => .error (message, tally.answered)
    | .ok (correct, answered) =>
      let awarded := if correct then question.points else 0
      tallyQuestions host normalization answers
        { rows := tally.rows ++ [quizRow question awarded answered correct]
          correct := tally.correct + correct.toNat
          answered := tally.answered + answered.toNat
          earned := toFloat (tally.earned + awarded) } rest

/-- `_invalid_submission`. -/
def invalidSubmission (reason : PyStr) (total answered : Nat) : Dict :=
  [("status", .text "completed"), ("score", .ofFloat 0),
    ("metrics", .obj [("runner", .text "quiz"), ("verdict", .text "INVALID_SUBMISSION"),
      ("total_questions", .num (.int total)), ("answered_questions", .num (.int answered))]),
    ("failure_reason", .str (reason.take maxDiagnosticChars))]

/-- The score, before it is rounded. -/
def quizScore (earned available : ℚ) : ℚ :=
  if available = 0 then 0 else toFloat (earned / available)

def quizMetrics (config : QuizConfig) (tally : QuizTally) (earned available : ℚ) : Dict :=
  let total := config.questions.length
  [("runner", .text "quiz"),
    ("verdict", .text (if tally.correct = total then "AC" else "PARTIAL")),
    ("scoring_mode", .text config.scoringMode),
    ("free_text_normalization", .text config.textNormalization),
    ("correct_questions", .num (.int tally.correct)),
    ("answered_questions", .num (.int tally.answered)), ("total_questions", .num (.int total)),
    ("points_earned", .ofFloat (roundDigits earned 8)),
    ("points_available", .ofFloat (roundDigits available 8)), ("questions", .arr tally.rows)]

/-- The points that count: those of a quiz of all or nothing only when every answer is correct. -/
def quizEarned (config : QuizConfig) (tally : QuizTally) : ℚ :=
  if config.scoringMode = "all_or_nothing" ∧ tally.correct ≠ config.questions.length then 0
  else tally.earned

/-- The result of a submission whose answers have the right shapes. -/
def quizCompleted (config : QuizConfig) (tally : QuizTally) : Dict :=
  let available := floatSum (config.questions.map QuizQuestion.points)
  let earned := quizEarned config tally
  [("status", .text "completed"), ("score", .ofFloat (roundDigits (quizScore earned available) 8)),
    ("metrics", .obj (quizMetrics config tally earned available))]

/-- What `run_quiz` makes of a JSON document. -/
def quizDocument (host : QuizHost) (config : QuizConfig) (payload : Json) : Dict :=
  let total := config.questions.length
  let malformed := invalidSubmission
    (PyStr.ofString "submission must be an object with exactly one \"answers\" object") total 0
  match payload with
  | .obj [(key, .obj answers)] =>
    if key = PyStr.ofString "answers" then
      if answers.all fun f => config.questions.any fun question => question.questionId = f.1 then
        match tallyQuestions host config.textNormalization answers ⟨[], 0, 0, 0⟩
          config.questions with
        | .ok tally => quizCompleted config tally
        | .error (message, answered) => invalidSubmission message total answered
      else invalidSubmission (PyStr.ofString "submission contains unknown question ids") total 0
    else malformed
  | _ => malformed

def quizFailure : JudgeException → PyStr
  | .judge message => message
  | .other text => PyStr.ofString "quiz judge failure: " ++ text

def quizFailed (exc : JudgeException) : Dict :=
  failedResult [("runner", .text "quiz")] (quizFailure exc)

/-- `run_quiz`, after its task and its submission have been found to be directories. -/
def runQuiz (host : QuizHost) (config : Except JudgeException QuizConfig) (file : SubmissionFile) :
    Dict :=
  match config with
  | .error exc => quizFailed exc
  | .ok config =>
    let total := config.questions.length
    let outside := quizFailed (.judge "submission_file must stay inside its bundle")
    if isRelativePath config.submissionFile then
      match file with
      | .inaccessible text => quizFailed (.other text)
      | .outside => outside
      | .missing => invalidSubmission
          (PyStr.ofString ("submission is missing " ++ config.submissionFile)) total 0
      | .found content =>
        match boundedJson host.repr "quiz submission" maxQuizSubmissionBytes content with
        | .error message => invalidSubmission message total 0
        | .ok payload => quizDocument host config payload
    else outside

end BrunostJudge
