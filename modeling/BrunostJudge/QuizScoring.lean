import BrunostJudge.PyDicts
import BrunostJudge.QuizResults
import Mathlib.Algebra.Order.BigOperators.Group.List

namespace BrunostJudge
open Python
set_option autoImplicit true

/-- The operations on numbers that scoring uses. -/
structure QuizArithmetic where
  add : ℚ → ℚ → ℚ
  sum : List ℚ → ℚ
  divide : ℚ → ℚ → ℚ
  round : ℚ → ℚ

/-- Python's, on floats. -/
def QuizArithmetic.float : QuizArithmetic where
  add x y := toFloat (x + y)
  sum := floatSum
  divide x y := toFloat (x / y)
  round x := roundDigits x 8

/-- The same on rationals, where only `round(_, 8)` rounds. -/
def QuizArithmetic.exact : QuizArithmetic where
  add x y := x + y
  sum := List.sum
  divide x y := x / y
  round x := roundHalfEven (x * 10 ^ 8) / 10 ^ 8

/-- The loop over the questions. -/
def tallyOver (arith : QuizArithmetic) (host : QuizHost) (normalization : String) (answers : Dict) :
    QuizTally → List QuizQuestion → Except (PyStr × Nat) QuizTally
  | tally, [] => .ok tally
  | tally, question :: rest =>
    match isCorrect host question (answers.get question.questionId) normalization with
    | .error message => .error (message, tally.answered)
    | .ok (correct, answered) =>
      let awarded := if correct then question.points else 0
      tallyOver arith host normalization answers
        { rows := tally.rows ++ [quizRow question awarded answered correct]
          correct := tally.correct + correct.toNat
          answered := tally.answered + answered.toNat
          earned := arith.add tally.earned awarded } rest

/-- The numbers of a result. -/
structure QuizGrade where
  score : ℚ
  verdict : String
  tally : QuizTally
  earned : ℚ
  available : ℚ

/-- What is left to do behind the loop. -/
def QuizTally.grade (arith : QuizArithmetic) (config : QuizConfig) (tally : QuizTally) :
    QuizGrade :=
  let available := arith.sum (config.questions.map QuizQuestion.points)
  let earned := quizEarned config tally
  { score := arith.round (if available = 0 then 0 else arith.divide earned available)
    verdict := if tally.correct = config.questions.length then "AC" else "PARTIAL"
    tally := tally
    earned := earned
    available := available }

/-- What `run_quiz` makes of the answers to known questions. -/
def gradeQuiz (arith : QuizArithmetic) (host : QuizHost) (config : QuizConfig) (answers : Dict) :
    Except (PyStr × Nat) QuizGrade := do
  let tally ← tallyOver arith host config.textNormalization answers ⟨[], 0, 0, 0⟩ config.questions
  return tally.grade arith config

theorem tallyOver_float (host : QuizHost) (normalization : String) (answers : Dict)
    (tally : QuizTally) (questions : List QuizQuestion) :
    tallyOver .float host normalization answers tally questions =
      tallyQuestions host normalization answers tally questions := by
  induction questions generalizing tally with
  | nil => rfl
  | cons question questions ih =>
    rw [tallyOver, tallyQuestions]
    cases isCorrect host question (answers.get question.questionId) normalization with
    | error message => rfl
    | ok scored => exact ih _

/-- The entries of a result that a grade gives. -/
def QuizGrade.asDict (config : QuizConfig) (grade : QuizGrade) : Dict :=
  [("status", .text "completed"), ("score", .ofFloat grade.score),
    ("metrics", .obj (quizMetrics config grade.tally grade.earned grade.available))]

theorem gradeQuiz_float (host : QuizHost) (config : QuizConfig) (answers : Dict)
    (hknown : ∀ f ∈ answers, ∃ question ∈ config.questions, question.questionId = f.1) :
    quizDocument host config (.obj [("answers", .obj answers)]) =
      match gradeQuiz .float host config answers with
      | .ok grade => grade.asDict config
      | .error (message, answered) =>
        invalidSubmission message config.questions.length answered := by
  have hall : (answers.all fun f => config.questions.any fun q => q.questionId = f.1) = true := by
    rw [List.all_eq_true]
    intro f hf
    obtain ⟨question, hquestion, hid⟩ := hknown f hf
    exact List.any_eq_true.2 ⟨question, hquestion, decide_eq_true hid⟩
  rw [quizDocument, if_pos rfl, if_pos hall, gradeQuiz, tallyOver_float]
  cases tallyQuestions host config.textNormalization answers ⟨[], 0, 0, 0⟩ config.questions with
  | error e => rfl
  | ok tally => rfl

structure LoadedQuiz (config : QuizConfig) : Prop where
  asked : config.questions ≠ []
  distinct : (config.questions.map QuizQuestion.questionId).Nodup
  valued : ∀ question ∈ config.questions, 0 < question.points ∧ question.points ≤ maxQuizPoints

/-- The quizzes that are registered. Only the validator bounds the points in all, as floats. -/
structure AcceptedQuiz (config : QuizConfig) : Prop extends LoadedQuiz config where
  total : naiveSum 0 (config.questions.map QuizQuestion.points) ≤ maxQuizPoints

structure WellFormedAnswers (config : QuizConfig) (answers : Dict) : Prop where
  distinct : (answers.map Prod.fst).Nodup
  known : ∀ f ∈ answers, ∃ question ∈ config.questions, question.questionId = f.1
  taken : ∀ question ∈ config.questions, TakesAnswer question (answers.get question.questionId)

theorem loadQuestion_unseen (h : loadQuestion index seen raw = .ok question) :
    question.questionId ∉ seen := by
  cases raw with
  | obj fields =>
    obtain ⟨_, _, h₁⟩ := bind_ok.1 h
    obtain ⟨id, hid, h₂⟩ := bind_ok.1 h₁
    obtain ⟨type, _, h₃⟩ := bind_ok.1 h₂
    obtain ⟨_, _, h₄⟩ := bind_ok.1 h₃
    obtain ⟨points, _, h₅⟩ := bind_ok.1 h₄
    obtain ⟨choices, _, h₆⟩ := bind_ok.1 h₅
    obtain ⟨answers, _, h₇⟩ := bind_ok.1 h₆
    cases pure_ok.1 h₇
    dsimp only
    generalize Dict.get fields "id" = value at hid
    cases value with
    | str s =>
      rw [loadQuestionId] at hid
      split at hid
      · next hsafe =>
        cases hid
        exact hsafe.2
      · cases hid
    | _ => cases hid
  | _ => cases h

theorem loadQuestionsFrom_distinct (h : loadQuestionsFrom index seen items = .ok questions) :
    (questions.map QuizQuestion.questionId).Nodup ∧
      ∀ question ∈ questions, question.questionId ∉ seen := by
  induction items generalizing index seen questions with
  | nil =>
    cases h
    exact ⟨.nil, fun question hq => absurd hq List.not_mem_nil⟩
  | cons raw items ih =>
    obtain ⟨question, hquestion, h⟩ := bind_ok.1 h
    obtain ⟨rest, hrest, h⟩ := bind_ok.1 h
    cases pure_ok.1 h
    obtain ⟨hdistinct, hunseen⟩ := ih hrest
    have hnew : question.questionId ∉ seen := loadQuestion_unseen hquestion
    constructor
    · rw [List.map_cons, List.nodup_cons]
      refine ⟨fun hmem => ?_, hdistinct⟩
      obtain ⟨q, hq, hid⟩ := List.mem_map.1 hmem
      exact hunseen q hq (hid ▸ List.mem_cons_self)
    · intro q hq
      rcases List.mem_cons.1 hq with rfl | hq
      · exact hnew
      · exact fun hmem => hunseen q hq (List.mem_cons_of_mem _ hmem)

theorem loadQuestions_distinct (h : loadQuestions payload = .ok questions) :
    (questions.map QuizQuestion.questionId).Nodup := by
  cases payload with
  | obj fields =>
    obtain ⟨_, _, h⟩ := bind_ok.1 h
    split at h
    · next items _ =>
      obtain ⟨_, _, h⟩ := bind_ok.1 h
      exact (loadQuestionsFrom_distinct h).1
    · cases h
  | _ => cases h

/-- What loading a quiz has checked. Its points are the floats of positive numbers, which are
positive where the numbers are floats themselves, as those of a JSON document are. -/
theorem loadConfig_loaded {host : ManifestHost}
    (h : loadConfig host answerKey text = .ok config)
    (hpoints : ∀ question ∈ config.questions, question.points ≠ 0) : LoadedQuiz config := by
  have hsound := loadConfig_sound h
  refine ⟨hsound.asked, ?_, fun question hq => ?_⟩
  · obtain ⟨_, _, h₁⟩ := bind_ok.1 h
    obtain ⟨_, _, h₂⟩ := bind_ok.1 h₁
    obtain ⟨_, _, h₃⟩ := bind_ok.1 h₂
    obtain ⟨_, _, h₄⟩ := bind_ok.1 h₃
    obtain ⟨_, _, h₅⟩ := bind_ok.1 h₄
    obtain ⟨_, _, h₆⟩ := bind_ok.1 h₅
    obtain ⟨_, _, h₇⟩ := bind_ok.1 h₆
    obtain ⟨_, _, h₈⟩ := bind_ok.1 h₇
    obtain ⟨payload, _, h₉⟩ := bind_ok.1 h₈
    obtain ⟨questions, hquestions, hconfig⟩ := bind_ok.1 h₉
    cases pure_ok.1 hconfig
    exact loadQuestions_distinct hquestions
  · have hone := hsound.sound question hq
    exact ⟨hone.nonneg.lt_of_ne (hpoints question hq).symm, hone.bounded⟩

theorem loadConfig_accepted {host : ManifestHost} (hvalid : ValidQuiz host text files)
    (h : loadConfig host files.answerKey text = .ok config)
    (hsame : config.answerKey = fieldOr host text "answer_key" "private/questions.json")
    (hpoints : ∀ question ∈ config.questions, question.points ≠ 0) : AcceptedQuiz config :=
  { loadConfig_loaded h hpoints with total := loadConfig_total hvalid h hsame }

/-- Whether the answer to a question is right. -/
def answeredRight (host : QuizHost) (normalization : String) (answers : Dict)
    (question : QuizQuestion) : Bool :=
  match isCorrect host question (answers.get question.questionId) normalization with
  | .ok (correct, _) => correct
  | .error _ => false

/-- The points that the answer to a question earns. -/
def award (host : QuizHost) (normalization : String) (answers : Dict) (question : QuizQuestion) :
    ℚ :=
  if answeredRight host normalization answers question then question.points else 0

theorem tallyOver_exact (host : QuizHost) (mode : String) (htaken : ∀ question ∈ questions,
      TakesAnswer question (Dict.get answers question.questionId)) (tally : QuizTally) :
    ∃ tally', tallyOver .exact host mode answers tally questions = .ok tally' ∧
      tally'.correct = tally.correct + questions.countP (answeredRight host mode answers) ∧
      tally'.earned = tally.earned + (questions.map (award host mode answers)).sum := by
  induction questions generalizing tally with
  | nil => exact ⟨tally, rfl, rfl, (add_zero _).symm⟩
  | cons question questions ih =>
    obtain ⟨hquestion, hrest⟩ := List.forall_mem_cons.1 htaken
    obtain ⟨⟨correct, answered⟩, hscored⟩ := (isCorrect_ok_iff host question _ mode).2 hquestion
    have hright : answeredRight host mode answers question = correct := by
      rw [answeredRight, hscored]
    obtain ⟨tally', htally, hcorrect, hearned⟩ := ih hrest
      { rows := tally.rows ++
          [quizRow question (if correct then question.points else 0) answered correct]
        correct := tally.correct + correct.toNat
        answered := tally.answered + answered.toNat
        earned := QuizArithmetic.exact.add tally.earned
          (if correct then question.points else 0) }
    refine ⟨tally', ?_, ?_, ?_⟩
    · rw [tallyOver, hscored]
      exact htally
    · rw [hcorrect, List.countP_cons, hright]
      cases correct with
      | true => exact Nat.add_right_comm _ _ _
      | false => rfl
    · rw [hearned, List.map_cons, List.sum_cons, award, hright]
      exact add_assoc _ _ _

/-- The score of so many points, before and after rounding. -/
def roundedRatio (earned available : ℚ) : ℚ := QuizArithmetic.exact.round (earned / available)

theorem roundedRatio_mono {x y : ℚ} (havailable : 0 < available) (h : x ≤ y) :
    roundedRatio x available ≤ roundedRatio y available := by
  have hratio : x / available * 10 ^ 8 ≤ y / available * 10 ^ 8 :=
    mul_le_mul_of_nonneg_right (div_le_div_of_nonneg_right h havailable.le) (by norm_num)
  apply div_le_div_of_nonneg_right _ (by norm_num)
  exact_mod_cast roundHalfEven_mono hratio

theorem roundedRatio_eq (earned available : ℚ) {k : ℤ} (hk : k % 2 = 0) :
    roundedRatio earned available = k / 10 ^ 8 ↔
      |earned / available * 10 ^ 8 - k| ≤ 1 / 2 := by
  rw [← roundHalfEven_even hk, roundedRatio]
  constructor
  · intro h
    have hround := (div_left_inj' (show (10 : ℚ) ^ 8 ≠ 0 by norm_num)).1 h
    exact_mod_cast hround
  · intro h
    exact congrArg (fun n : ℤ => (n : ℚ) / 10 ^ 8) h

theorem roundedRatio_one (havailable : 0 < available) (h : earned ≤ available) :
    roundedRatio earned available = 1 ↔ 200000000 * (available - earned) ≤ available := by
  have hone := roundedRatio_eq earned available (show (100000000 : ℤ) % 2 = 0 by decide)
  have hvalue : ((100000000 : ℤ) : ℚ) / 10 ^ 8 = 1 := by norm_num
  have hratio : earned / available ≤ 1 := (div_le_one havailable).2 h
  rw [hvalue] at hone
  rw [hone, abs_of_nonpos (by push_cast; linarith)]
  have hscale : available - earned = (1 - earned / available) * available := by
    rw [sub_mul, one_mul, div_mul_cancel₀ _ havailable.ne']
  rw [hscale, ← mul_assoc, mul_le_iff_le_one_left havailable]
  push_cast
  constructor <;> intro hle <;> linarith

theorem roundedRatio_zero (havailable : 0 < available) (h : 0 ≤ earned) :
    roundedRatio earned available = 0 ↔ 200000000 * earned ≤ available := by
  have hzero := roundedRatio_eq earned available (show (0 : ℤ) % 2 = 0 by decide)
  have hratio : 0 ≤ earned / available := div_nonneg h havailable.le
  rw [Int.cast_zero, zero_div, sub_zero] at hzero
  rw [hzero, abs_of_nonneg (by linarith)]
  have hscale : earned = earned / available * available :=
    (div_mul_cancel₀ _ havailable.ne').symm
  conv_rhs => rw [hscale]
  rw [← mul_assoc, mul_le_iff_le_one_left havailable]
  constructor <;> intro hle <;> linarith

def availablePoints (config : QuizConfig) : ℚ := (config.questions.map QuizQuestion.points).sum

/-- Whether every answer is right. -/
def AllRight (host : QuizHost) (config : QuizConfig) (answers : Dict) : Prop :=
  ∀ question ∈ config.questions,
    answeredRight host config.textNormalization answers question = true

instance (host : QuizHost) (config : QuizConfig) (answers : Dict) :
    Decidable (AllRight host config answers) :=
  inferInstanceAs (Decidable (∀ question ∈ config.questions,
    answeredRight host config.textNormalization answers question = true))

def earnedPoints (host : QuizHost) (config : QuizConfig) (answers : Dict) : ℚ :=
  if config.scoringMode = "all_or_nothing" ∧ ¬AllRight host config answers then 0
  else (config.questions.map (award host config.textNormalization answers)).sum

variable {host : QuizHost} {config : QuizConfig} {answers answers' : Dict}

theorem LoadedQuiz.available_pos (h : LoadedQuiz config) : 0 < availablePoints config := by
  apply List.sum_pos
  · intro x hx
    obtain ⟨question, hquestion, rfl⟩ := List.mem_map.1 hx
    exact (h.valued question hquestion).1
  · rw [ne_eq, List.map_eq_nil_iff]
    exact h.asked

theorem award_nonneg (h : 0 < question.points) : 0 ≤ award host mode answers question := by
  rw [award]
  split
  · exact h.le
  · exact le_rfl

theorem award_le (h : 0 < question.points) :
    award host mode answers question ≤ question.points := by
  rw [award]
  split
  · exact le_rfl
  · exact h.le

theorem LoadedQuiz.earned_nonneg (h : LoadedQuiz config) (host : QuizHost) (answers : Dict) :
    0 ≤ earnedPoints host config answers := by
  rw [earnedPoints]
  split
  · exact le_rfl
  · apply List.sum_nonneg
    intro x hx
    obtain ⟨question, hquestion, rfl⟩ := List.mem_map.1 hx
    exact award_nonneg (h.valued question hquestion).1

theorem LoadedQuiz.earned_le (h : LoadedQuiz config) (host : QuizHost) (answers : Dict) :
    earnedPoints host config answers ≤ availablePoints config := by
  rw [earnedPoints]
  split
  · exact h.available_pos.le
  · apply List.sum_le_sum
    intro question hquestion
    exact award_le (h.valued question hquestion).1

theorem gradeQuiz_exact (host : QuizHost) (haccepted : LoadedQuiz config)
    (hanswers : WellFormedAnswers config answers) :
    ∃ grade, gradeQuiz .exact host config answers = .ok grade ∧
      grade.available = availablePoints config ∧
      grade.earned = earnedPoints host config answers ∧
      grade.score = roundedRatio grade.earned grade.available ∧
      (grade.verdict = "AC" ↔ AllRight host config answers) := by
  obtain ⟨tally, htally, hcorrect, hearned⟩ :=
    tallyOver_exact host config.textNormalization hanswers.taken ⟨[], 0, 0, 0⟩
  have hall : tally.correct = config.questions.length ↔ AllRight host config answers := by
    rw [hcorrect, Nat.zero_add]
    exact List.countP_eq_length
  have hpoints : quizEarned config tally = earnedPoints host config answers := by
    rw [quizEarned, earnedPoints, hearned, zero_add]
    exact if_congr (and_congr_right' (not_congr hall)) rfl rfl
  have havailable : availablePoints config ≠ 0 := haccepted.available_pos.ne'
  have hgrade : gradeQuiz .exact host config answers = .ok (tally.grade .exact config) := by
    rw [gradeQuiz, htally]
    rfl
  refine ⟨_, hgrade, rfl, hpoints, ?_, ?_⟩
  · exact congrArg QuizArithmetic.exact.round (if_neg havailable)
  · rw [QuizTally.grade]
    dsimp only
    split
    · next h => exact iff_of_true rfl (hall.1 h)
    · next h => exact iff_of_false (by decide) fun hright => h (hall.2 hright)

/-- The same answer, but for the order of the ids in a list. -/
def Reordered (v w : Json) : Prop :=
  v = w ∨ ∃ items items', v = .arr items ∧ w = .arr items' ∧ items.Perm items'

/-- The same answers, but for the order of the keys and of the ids. -/
def SameAnswers (answers answers' : Dict) : Prop :=
  ∃ keyed, answers.Perm keyed ∧
    List.Forall₂ (fun f g => f.1 = g.1 ∧ Reordered f.2 g.2) keyed answers'

theorem texts?_perm {items items' : List Json} (h : items.Perm items') :
    (texts? items = none ∧ texts? items' = none) ∨
      ∃ ids ids', texts? items = some ids ∧ texts? items' = some ids' ∧ ids.Perm ids' := by
  have hcons : ∀ (s : PyStr) (rest : List Json),
      texts? (.str s :: rest) = (texts? rest).map (s :: ·) := fun _ _ => rfl
  have hother : ∀ (x : Json) (rest : List Json), (∀ s, x ≠ .str s) → texts? (x :: rest) = none := by
    intro x rest hx
    cases x with
    | str s => exact absurd rfl (hx s)
    | _ => rfl
  have hnone : ∀ (x : Json) (rest : List Json), texts? rest = none → texts? (x :: rest) = none := by
    intro x rest hrest
    cases x with
    | str s => rw [hcons, hrest, Option.map_none]
    | _ => rfl
  induction h with
  | nil => exact .inr ⟨[], [], rfl, rfl, .nil⟩
  | @cons x l l' _ ih =>
    by_cases hx : ∃ s, x = .str s
    · obtain ⟨s, rfl⟩ := hx
      rcases ih with ⟨hl, hl'⟩ | ⟨ids, ids', hl, hl', hperm⟩
      · exact .inl ⟨hnone _ _ hl, hnone _ _ hl'⟩
      · exact .inr ⟨s :: ids, s :: ids', by rw [hcons, hl]; rfl, by rw [hcons, hl']; rfl,
          hperm.cons s⟩
    · have hx : ∀ s, x ≠ .str s := fun s he => hx ⟨s, he⟩
      exact .inl ⟨hother x l hx, hother x l' hx⟩
  | swap x y l =>
    by_cases hx : ∃ s, x = .str s
    · by_cases hy : ∃ s, y = .str s
      · obtain ⟨s, rfl⟩ := hx
        obtain ⟨t, rfl⟩ := hy
        rw [hcons, hcons, hcons, hcons]
        cases texts? l with
        | none => exact .inl ⟨rfl, rfl⟩
        | some ids => exact .inr ⟨_, _, rfl, rfl, .swap s t ids⟩
      · have hy : ∀ s, y ≠ .str s := fun s he => hy ⟨s, he⟩
        exact .inl ⟨hother y _ hy, hnone x _ (hother y l hy)⟩
    · have hx : ∀ s, x ≠ .str s := fun s he => hx ⟨s, he⟩
      exact .inl ⟨hnone y _ (hother x l hx), hother x _ hx⟩
  | trans _ _ ih₁ ih₂ =>
    rcases ih₁ with ⟨h₁, h₂⟩ | ⟨ids, ids', h₁, h₂, hperm⟩
    · rcases ih₂ with ⟨_, h₃⟩ | ⟨ids', ids'', h₂', h₃, _⟩
      · exact .inl ⟨h₁, h₃⟩
      · cases h₂.symm.trans h₂'
    · rcases ih₂ with ⟨h₂', _⟩ | ⟨mid, ids'', h₂', h₃, hperm'⟩
      · cases h₂.symm.trans h₂'
      · cases h₂.symm.trans h₂'
        exact .inr ⟨ids, ids'', h₁, h₃, hperm.trans hperm'⟩

theorem isCorrect_reordered (host : QuizHost) (question : QuizQuestion) (mode : String)
    {v w : Json} (h : Reordered v w) :
    isCorrect host question v mode = isCorrect host question w mode := by
  rcases h with rfl | ⟨items, items', rfl, rfl, hperm⟩
  · rfl
  · cases htype : question.questionType with
    | singleChoice => simp only [isCorrect, htype]
    | freeText => simp only [isCorrect, htype]
    | multipleChoice =>
      simp only [isCorrect, htype]
      rcases texts?_perm hperm with ⟨hnone, hnone'⟩ | ⟨ids, ids', hids, hids', hperm⟩
      · rw [hnone, hnone']
      · rw [hids, hids']
        dsimp only
        have hcontains : ids.contains = ids'.contains := by
          funext id
          exact hperm.contains_eq
        have hcheck : (ids ≠ [] ∧ ids.length ≤ maxQuizChoices ∧
            ids.all question.choices.contains = true ∧ ids.Nodup) ↔
            (ids' ≠ [] ∧ ids'.length ≤ maxQuizChoices ∧
              ids'.all question.choices.contains = true ∧ ids'.Nodup) := by
          rw [hperm.length_eq, hperm.all_eq, hperm.nodup_iff]
          apply and_congr_left'
          exact not_congr ⟨fun he => List.nil_perm.1 (he ▸ hperm),
            fun he => List.perm_nil.1 (he ▸ hperm)⟩
        rw [if_congr hcheck rfl rfl, hperm.all_eq, hcontains]

theorem SameAnswers.get (h : SameAnswers answers answers')
    (hdistinct : (answers.map Prod.fst).Nodup) (key : PyStr) :
    Reordered (answers.get key) (answers'.get key) := by
  obtain ⟨keyed, hperm, hsame⟩ := h
  rw [Dict.get_eq, Dict.get_eq, Dict.lookup?_perm hdistinct hperm]
  clear hperm hdistinct
  induction hsame with
  | nil => exact .inl rfl
  | @cons f g l l' hfg _ ih =>
    obtain ⟨k, v⟩ := f
    obtain ⟨k', w⟩ := g
    obtain ⟨rfl, hvw⟩ := hfg
    by_cases hkey : k = key
    · subst hkey
      rw [Dict.lookup?_cons_self, Dict.lookup?_cons_self]
      exact hvw
    · rw [Dict.lookup?_cons_ne _ _ hkey, Dict.lookup?_cons_ne _ _ hkey]
      exact ih

theorem SameAnswers.gradeQuiz (h : SameAnswers answers answers')
    (hdistinct : (answers.map Prod.fst).Nodup) (arith : QuizArithmetic) (host : QuizHost)
    (config : QuizConfig) :
    gradeQuiz arith host config answers = gradeQuiz arith host config answers' := by
  have hloop : ∀ (questions : List QuizQuestion) (tally : QuizTally),
      tallyOver arith host config.textNormalization answers tally questions =
        tallyOver arith host config.textNormalization answers' tally questions := by
    intro questions
    induction questions with
    | nil => exact fun _ => rfl
    | cons question questions ih =>
      intro tally
      rw [tallyOver, tallyOver,
        isCorrect_reordered host question config.textNormalization (h.get hdistinct _)]
      cases isCorrect host question (answers'.get question.questionId)
          config.textNormalization with
      | error message => rfl
      | ok scored => exact ih _
  rw [BrunostJudge.gradeQuiz, BrunostJudge.gradeQuiz, hloop]

theorem WellFormedAnswers.set (h : WellFormedAnswers config answers)
    (haccepted : LoadedQuiz config) (hquestion : question ∈ config.questions)
    (htakes : TakesAnswer question answer) :
    WellFormedAnswers config (answers.set question.questionId answer) := by
  constructor
  · exact Dict.set_nodup h.distinct _ _
  · intro f hf
    rcases Dict.mem_set hf with rfl | ⟨hold, _⟩
    · exact ⟨question, hquestion, rfl⟩
    · exact h.known f hold
  · intro q hq
    by_cases hsame : question.questionId = q.questionId
    · obtain rfl := List.inj_on_of_nodup_map haccepted.distinct hquestion hq hsame
      rw [Dict.get_set_self]
      exact htakes
    · rw [Dict.get_set_ne _ _ hsame]
      exact h.taken q hq

theorem answeredRight_set (haccepted : LoadedQuiz config)
    (hquestion : question ∈ config.questions)
    (hright : isCorrect host question answer mode = .ok (true, answered))
    (hq : q ∈ config.questions) (h : answeredRight host mode answers q = true) :
    answeredRight host mode (answers.set question.questionId answer) q = true := by
  by_cases hsame : question.questionId = q.questionId
  · obtain rfl := List.inj_on_of_nodup_map haccepted.distinct hquestion hq hsame
    rw [answeredRight, Dict.get_set_self, hright]
  · rw [answeredRight, Dict.get_set_ne _ _ hsame]
    exact h

theorem earnedPoints_set (haccepted : LoadedQuiz config)
    (hquestion : question ∈ config.questions)
    (hright : isCorrect host question answer config.textNormalization = .ok (true, answered)) :
    earnedPoints host config answers ≤
      earnedPoints host config (answers.set question.questionId answer) := by
  have hstays : ∀ q ∈ config.questions,
      answeredRight host config.textNormalization answers q = true →
        answeredRight host config.textNormalization (answers.set question.questionId answer) q =
          true :=
    fun q hq h => answeredRight_set haccepted hquestion hright hq h
  by_cases hnone : config.scoringMode = "all_or_nothing" ∧ ¬AllRight host config answers
  · rw [earnedPoints, if_pos hnone]
    exact haccepted.earned_nonneg host _
  · have hnone' : ¬(config.scoringMode = "all_or_nothing" ∧
        ¬AllRight host config (answers.set question.questionId answer)) := by
      rintro ⟨hmode, hwrong⟩
      apply hnone
      exact ⟨hmode, fun hall => hwrong fun q hq => hstays q hq (hall q hq)⟩
    rw [earnedPoints, earnedPoints, if_neg hnone, if_neg hnone']
    apply List.sum_le_sum
    intro q hq
    by_cases hq' : answeredRight host config.textNormalization answers q = true
    · rw [award, award, if_pos hq', if_pos (hstays q hq hq')]
    · rw [award, if_neg hq']
      exact award_nonneg (haccepted.valued q hq).1

theorem earnedPoints_of_allRight (hall : AllRight host config answers) :
    earnedPoints host config answers = availablePoints config := by
  rw [earnedPoints, if_neg (fun hwrong => hwrong.2 hall), availablePoints]
  apply congrArg List.sum
  apply List.map_congr_left
  intro q hq
  rw [award, if_pos (hall q hq)]

theorem LoadedQuiz.missed (h : LoadedQuiz config) (hq : question ∈ config.questions)
    (hwrong : answeredRight host config.textNormalization answers question ≠ true) :
    earnedPoints host config answers + question.points ≤ availablePoints config := by
  have haward : ∀ q ∈ config.questions,
      award host config.textNormalization answers q ≤ q.points :=
    fun q hq => award_le (h.valued q hq).1
  have hsum : (config.questions.map (award host config.textNormalization answers)).sum +
      question.points ≤ availablePoints config := by
    obtain ⟨before, rest, hsplit⟩ := List.append_of_mem hq
    have hbefore : (before.map (award host config.textNormalization answers)).sum ≤
        (before.map QuizQuestion.points).sum := by
      apply List.sum_le_sum
      intro q hq
      exact haward q (hsplit ▸ List.mem_append_left _ hq)
    have hrest : (rest.map (award host config.textNormalization answers)).sum ≤
        (rest.map QuizQuestion.points).sum := by
      apply List.sum_le_sum
      intro q hq
      exact haward q (hsplit ▸ List.mem_append_right _ (List.mem_cons_of_mem _ hq))
    rw [availablePoints, hsplit, List.map_append, List.map_append, List.sum_append,
      List.sum_append, List.map_cons, List.map_cons, List.sum_cons, List.sum_cons, award,
      if_neg hwrong]
    linarith
  rw [earnedPoints]
  split
  · have hnonneg : 0 ≤ (config.questions.map
        (award host config.textNormalization answers)).sum := by
      apply List.sum_nonneg
      intro x hx
      obtain ⟨q, hq, rfl⟩ := List.mem_map.1 hx
      exact award_nonneg (h.valued q hq).1
    linarith
  · exact hsum

theorem LoadedQuiz.earned_of_ne_zero (h : LoadedQuiz config)
    (hearned : earnedPoints host config answers ≠ 0) :
    ∃ question ∈ config.questions, question.points ≤ earnedPoints host config answers := by
  rw [earnedPoints] at hearned ⊢
  split at hearned
  · exact absurd rfl hearned
  · next hmode =>
    rw [if_neg hmode]
    obtain ⟨x, hx, hne⟩ := List.exists_mem_ne_zero_of_sum_ne_zero hearned
    obtain ⟨question, hquestion, rfl⟩ := List.mem_map.1 hx
    have hright : award host config.textNormalization answers question = question.points := by
      rw [award] at hne ⊢
      split at hne
      · next hright => exact if_pos hright
      · exact absurd rfl hne
    refine ⟨question, hquestion, ?_⟩
    rw [← hright]
    apply List.single_le_sum
    · intro y hy
      obtain ⟨q, hq, rfl⟩ := List.mem_map.1 hy
      exact award_nonneg (h.valued q hq).1
    · exact hx

/-- The scores of a quiz that is accepted. They are rounded, so that up to 5 of 10^9 parts of the
points do not show. -/
theorem quiz_scores (host : QuizHost) (haccepted : LoadedQuiz config)
    (hanswers : WellFormedAnswers config answers) :
    ∃ grade, gradeQuiz .exact host config answers = .ok grade ∧
      (grade.available = availablePoints config ∧
        grade.earned = earnedPoints host config answers) ∧
      (0 ≤ grade.score ∧ grade.score ≤ 1) ∧
      (grade.verdict = "AC" ↔ AllRight host config answers) ∧
      (grade.verdict = "AC" → grade.score = 1) ∧
      (grade.score = 1 ↔ 200000000 * (grade.available - grade.earned) ≤ grade.available) ∧
      (grade.score = 0 ↔ 200000000 * grade.earned ≤ grade.available) ∧
      (config.scoringMode = "all_or_nothing" ∨
          (∀ question ∈ config.questions, grade.available < 200000000 * question.points) →
        (grade.score = 1 ↔ grade.verdict = "AC") ∧ (grade.score = 0 ↔ grade.earned = 0)) ∧
      (config.scoringMode = "all_or_nothing" → grade.score = 0 ∨ grade.score = 1) ∧
      (∀ question ∈ config.questions, ∀ answer answered,
        isCorrect host question answer config.textNormalization = .ok (true, answered) →
          ∃ grade', gradeQuiz .exact host config (answers.set question.questionId answer) =
            .ok grade' ∧ grade.score ≤ grade'.score) ∧
      (∀ answers', SameAnswers answers answers' →
        gradeQuiz .exact host config answers' = .ok grade ∧
          quizDocument host config (.obj [("answers", .obj answers')]) =
            quizDocument host config (.obj [("answers", .obj answers)])) := by
  obtain ⟨grade, hgrade, havailable, hearned, hscore, hverdict⟩ :=
    gradeQuiz_exact host haccepted hanswers
  have hpos := haccepted.available_pos
  have hnonneg := haccepted.earned_nonneg host answers
  have hle := haccepted.earned_le host answers
  have hone := roundedRatio_one hpos hle
  have hzero := roundedRatio_zero hpos hnonneg
  have hfull := (roundedRatio_one hpos le_rfl).2 (by rw [sub_self, mul_zero]; exact hpos.le)
  have hempty := (roundedRatio_zero hpos le_rfl).2 (by rw [mul_zero]; exact hpos.le)
  have hright : AllRight host config answers →
      roundedRatio (earnedPoints host config answers) (availablePoints config) = 1 := by
    intro hall
    rw [earnedPoints_of_allRight hall]
    exact hfull
  have hwrong : config.scoringMode = "all_or_nothing" → ¬AllRight host config answers →
      earnedPoints host config answers = 0 :=
    fun hmode hall => if_pos ⟨hmode, hall⟩
  have hmode : config.scoringMode = "all_or_nothing" →
      roundedRatio (earnedPoints host config answers) (availablePoints config) =
        if AllRight host config answers then 1 else 0 := by
    intro hmode
    split
    · next hall => exact hright hall
    · next hall =>
      rw [hwrong hmode hall]
      exact hempty
  refine ⟨grade, hgrade, ⟨havailable, hearned⟩, ?_⟩
  rw [hscore, hverdict, hearned, havailable]
  refine ⟨⟨?_, ?_⟩, Iff.rfl, hright, hone, hzero, ?_, ?_, ?_, ?_⟩
  · rw [← hempty]
    exact roundedRatio_mono hpos hnonneg
  · rw [← hfull]
    exact roundedRatio_mono hpos hle
  · rintro (hall | hlarge)
    · rw [hmode hall]
      by_cases hanswered : AllRight host config answers
      · rw [if_pos hanswered, earnedPoints_of_allRight hanswered]
        exact ⟨iff_of_true rfl hanswered, iff_of_false one_ne_zero hpos.ne'⟩
      · rw [if_neg hanswered, hwrong hall hanswered]
        exact ⟨iff_of_false zero_ne_one hanswered, iff_of_true rfl rfl⟩
    · constructor
      · apply Iff.intro _ hright
        intro hsome
        by_contra hmissed
        obtain ⟨question, hquestion, hanswer⟩ : ∃ question ∈ config.questions,
            answeredRight host config.textNormalization answers question ≠ true := by
          rw [AllRight] at hmissed
          simpa only [not_forall, exists_prop] using hmissed
        have hpoints := haccepted.missed hquestion hanswer
        have hshare := hlarge question hquestion
        have hlost := hone.1 hsome
        linarith
      · constructor
        · intro hnone
          by_contra hsome
          obtain ⟨question, hquestion, hpoints⟩ := haccepted.earned_of_ne_zero hsome
          have hshare := hlarge question hquestion
          have hlost := hzero.1 hnone
          linarith
        · intro hnone
          rw [hnone]
          exact hempty
  · intro hall
    rw [hmode hall]
    split
    · exact .inr rfl
    · exact .inl rfl
  · intro question hquestion answer answered hanswer
    have htakes := (isCorrect_ok_iff host question answer config.textNormalization).1 ⟨_, hanswer⟩
    obtain ⟨grade', hgrade', havailable', hearned', hscore', -⟩ := gradeQuiz_exact host
      haccepted (hanswers.set haccepted hquestion htakes)
    refine ⟨grade', hgrade', ?_⟩
    rw [hscore', hearned', havailable']
    exact roundedRatio_mono hpos (earnedPoints_set haccepted hquestion hanswer)
  · intro answers' hsame
    have hknown : ∀ f ∈ answers', ∃ question ∈ config.questions, question.questionId = f.1 := by
      obtain ⟨keyed, hperm, hkeys⟩ := hsame
      intro g hg
      obtain ⟨f, hf, hfg, -⟩ := forall₂_mem hkeys hg
      exact hfg ▸ hanswers.known f (hperm.mem_iff.2 hf)
    refine ⟨hsame.gradeQuiz hanswers.distinct .exact host config ▸ hgrade, ?_⟩
    rw [gradeQuiz_float host config answers hanswers.known,
      gradeQuiz_float host config answers' hknown,
      hsame.gradeQuiz hanswers.distinct .float host config]

namespace Sample

def plainQuizHost : QuizHost := ⟨id, id, id, fun s => [s]⟩

def textQuestion (id : String) (points : ℚ) : QuizQuestion :=
  ⟨PyStr.ofString id, .freeText, points, [], ["x"]⟩

/-- A quiz with a question of almost a million points and one of a thousandth. -/
def unequalQuiz : QuizConfig :=
  ⟨"private/questions.json", "answers.json", "weighted", "exact",
    [textQuestion "a" 999999, textQuestion "b" (1 / 1024)]⟩

def smallMissed : Dict := [("a", .text "x"), ("b", .text "y")]

def smallEarned : Dict := [("b", .text "x")]

theorem unequalQuiz_accepted : AcceptedQuiz unequalQuiz where
  asked := by decide
  distinct := by decide
  valued := by
    intro question hquestion
    have hpoints : unequalQuiz.questions.map QuizQuestion.points = [999999, 1 / 1024] := rfl
    have hmem : question.points ∈ unequalQuiz.questions.map QuizQuestion.points :=
      List.mem_map_of_mem hquestion
    rw [hpoints, List.mem_cons, List.mem_singleton] at hmem
    rcases hmem with h | h
    · rw [h, maxQuizPoints]
      norm_num
    · rw [h, maxQuizPoints]
      norm_num
  total := by decide +kernel

theorem unequalQuiz_taken {answers : Dict} (hdistinct : (answers.map Prod.fst).Nodup)
    (hknown : answers.all (fun f => unequalQuiz.questions.any (·.questionId = f.1)) = true)
    (htaken : unequalQuiz.questions.all (fun question =>
      (isCorrect plainQuizHost question (answers.get question.questionId) "exact").isOk) = true) :
    WellFormedAnswers unequalQuiz answers where
  distinct := hdistinct
  known := by
    intro f hf
    obtain ⟨question, hquestion, hid⟩ := List.any_eq_true.1 (List.all_eq_true.1 hknown f hf)
    exact ⟨question, hquestion, of_decide_eq_true hid⟩
  taken := by
    intro question hquestion
    have hok := List.all_eq_true.1 htaken question hquestion
    apply (isCorrect_ok_iff plainQuizHost question _ "exact").1
    cases hscored : isCorrect plainQuizHost question (answers.get question.questionId) "exact" with
    | error message =>
      rw [hscored] at hok
      cases hok
    | ok scored => exact ⟨scored, rfl⟩

theorem smallMissed_taken : WellFormedAnswers unequalQuiz smallMissed :=
  unequalQuiz_taken (by decide) (by decide +kernel) (by decide +kernel)

end Sample

/-- The small question shows neither where it is missed nor where it is all that is earned. -/
theorem quiz_scores_unequal_sample :
    AcceptedQuiz Sample.unequalQuiz ∧
    WellFormedAnswers Sample.unequalQuiz Sample.smallMissed ∧
    WellFormedAnswers Sample.unequalQuiz Sample.smallEarned ∧
    ((gradeQuiz .exact Sample.plainQuizHost Sample.unequalQuiz Sample.smallMissed).toOption.map
      fun grade => (grade.score, grade.verdict)) = some (1, "PARTIAL") ∧
    ((gradeQuiz .exact Sample.plainQuizHost Sample.unequalQuiz Sample.smallEarned).toOption.map
      fun grade => (grade.score, grade.earned)) = some (0, 1 / 1024) := by
  refine ⟨Sample.unequalQuiz_accepted, Sample.smallMissed_taken, ?_, ?_, ?_⟩
  · exact Sample.unequalQuiz_taken (by decide) (by decide +kernel) (by decide +kernel)
  · decide +kernel
  · decide +kernel

theorem quiz_scores_sample :
    ∃ grade, gradeQuiz .exact Sample.plainQuizHost Sample.unequalQuiz Sample.smallMissed =
      .ok grade ∧ 0 ≤ grade.score ∧ grade.score ≤ 1 := by
  obtain ⟨grade, hgrade, -, hbounds, -⟩ := quiz_scores Sample.plainQuizHost
    Sample.unequalQuiz_accepted.toLoadedQuiz Sample.smallMissed_taken
  exact ⟨grade, hgrade, hbounds⟩

end BrunostJudge
