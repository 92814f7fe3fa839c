import BrunostJudge.AnswerKeys
import BrunostJudge.FloatBounds
import BrunostJudge.RunnerResults

namespace BrunostJudge
open Python
set_option autoImplicit true

/-- A question with an id in ASCII, and with points between 0 and the most a question may have. -/
structure SoundQuestion (question : QuizQuestion) : Prop where
  safe : isQuizId question.questionId = true
  valued : ∃ value : ℚ, 0 ≤ value ∧ value ≤ maxQuizPoints ∧ question.points = toFloat value

structure SoundQuiz (config : QuizConfig) : Prop where
  asked : config.questions ≠ []
  few : config.questions.length ≤ maxQuizQuestions
  sound : ∀ question ∈ config.questions, SoundQuestion question
  scoring : config.scoringMode ∈ ["weighted", "all_or_nothing"]
  normalized : config.textNormalization ∈ quizNormalizations

theorem loadQuestionId_ok {id : PyStr} (h : loadQuestionId label seen value = .ok id) :
    isQuizId id = true := by
  cases value with
  | str s =>
    rw [loadQuestionId] at h
    split at h
    · next hsafe =>
      cases h
      exact hsafe.1
    · cases h
  | _ => cases h

theorem quizPoints_ok (h : quizPoints label value = .ok points) :
    ∃ v : ℚ, 0 ≤ v ∧ v ≤ maxQuizPoints ∧ points = toFloat v := by
  cases value with
  | num n =>
    obtain ⟨points', hfloat, h⟩ := bind_ok.1 h
    split at h
    · next hrange =>
      cases h
      rw [pointsInRange, Bool.and_eq_true, Bool.and_eq_true, Bool.not_eq_true'] at hrange
      obtain ⟨hfinite, hpos, hmax⟩ := hrange
      cases n with
      | int i =>
        rw [floatOf] at hfloat
        split at hfloat
        · cases hfloat
          have hpos := of_decide_eq_true hpos
          have hmax := of_decide_eq_false hmax
          refine ⟨i, by exact_mod_cast hpos.le, ?_, rfl⟩
          exact_mod_cast Int.not_lt.1 hmax
        · cases hfloat
      | float x =>
        cases hfloat
        have hpos := of_decide_eq_true hpos
        have hmax := of_decide_eq_false hmax
        refine ⟨x.value, ?_, ?_, rfl⟩
        · exact_mod_cast hpos.le
        · exact_mod_cast not_lt.1 hmax
      | nan => cases hfinite
      | inf negative => cases hfinite
    · cases h
  | _ => cases h

theorem loadQuestion_sound (h : loadQuestion index seen raw = .ok question) :
    SoundQuestion question := by
  cases raw with
  | obj fields =>
    obtain ⟨_, _, h₁⟩ := bind_ok.1 h
    obtain ⟨id, hid, h₂⟩ := bind_ok.1 h₁
    obtain ⟨type, _, h₃⟩ := bind_ok.1 h₂
    obtain ⟨_, _, h₄⟩ := bind_ok.1 h₃
    obtain ⟨points, hpoints, h₅⟩ := bind_ok.1 h₄
    obtain ⟨choices, _, h₆⟩ := bind_ok.1 h₅
    obtain ⟨answers, _, h₇⟩ := bind_ok.1 h₆
    cases pure_ok.1 h₇
    exact ⟨loadQuestionId_ok hid, quizPoints_ok hpoints⟩
  | _ => cases h

theorem loadQuestionsFrom_sound (h : loadQuestionsFrom index seen items = .ok questions) :
    questions.length = items.length ∧ ∀ question ∈ questions, SoundQuestion question := by
  induction items generalizing index seen questions with
  | nil =>
    cases h
    exact ⟨rfl, fun question hq => absurd hq List.not_mem_nil⟩
  | cons raw items ih =>
    obtain ⟨question, hquestion, h⟩ := bind_ok.1 h
    obtain ⟨rest, hrest, h⟩ := bind_ok.1 h
    cases pure_ok.1 h
    obtain ⟨hlength, hsound⟩ := ih hrest
    refine ⟨congrArg Nat.succ hlength, fun q hq => ?_⟩
    obtain rfl | hq := List.mem_cons.1 hq
    · exact loadQuestion_sound hquestion
    · exact hsound q hq

theorem loadQuestions_sound (h : loadQuestions payload = .ok questions) :
    questions ≠ [] ∧ questions.length ≤ maxQuizQuestions ∧
      ∀ question ∈ questions, SoundQuestion question := by
  cases payload with
  | obj fields =>
    obtain ⟨_, _, h⟩ := bind_ok.1 h
    split at h
    · next items _ =>
      obtain ⟨_, hcount, h⟩ := bind_ok.1 h
      have hcount := of_decide_eq_true (judgeUnless_ok hcount)
      obtain ⟨hlength, hsound⟩ := loadQuestionsFrom_sound h
      rw [← hlength] at hcount
      refine ⟨?_, hcount.2, hsound⟩
      rintro rfl
      exact absurd hcount.1 (by decide)
    · cases h
  | _ => cases h

theorem loadConfig_sound (h : loadConfig host answerKey text = .ok config) : SoundQuiz config := by
  obtain ⟨_, _, h₁⟩ := bind_ok.1 h
  obtain ⟨_, _, h₂⟩ := bind_ok.1 h₁
  obtain ⟨_, _, h₃⟩ := bind_ok.1 h₂
  obtain ⟨_, _, h₄⟩ := bind_ok.1 h₃
  obtain ⟨_, _, h₅⟩ := bind_ok.1 h₄
  obtain ⟨_, hmode, h₆⟩ := bind_ok.1 h₅
  obtain ⟨_, hnormalization, h₇⟩ := bind_ok.1 h₆
  obtain ⟨_, _, h₈⟩ := bind_ok.1 h₇
  obtain ⟨_, _, h₉⟩ := bind_ok.1 h₈
  obtain ⟨questions, hquestions, hconfig⟩ := bind_ok.1 h₉
  cases pure_ok.1 hconfig
  obtain ⟨hasked, hfew, hsound⟩ := loadQuestions_sound hquestions
  exact ⟨hasked, hfew, hsound, List.contains_iff_mem.1 (judgeUnless_ok hmode),
    List.contains_iff_mem.1 (judgeUnless_ok hnormalization)⟩

theorem SoundQuestion.nonneg (h : SoundQuestion question) : 0 ≤ question.points := by
  obtain ⟨value, hvalue, -, hpoints⟩ := h.valued
  rw [hpoints]
  exact toFloat_nonneg hvalue

theorem SoundQuestion.onGrid (h : SoundQuestion question) : OnGrid question.points := by
  obtain ⟨value, -, -, hpoints⟩ := h.valued
  rw [hpoints]
  exact onGrid_toFloat value

theorem SoundQuestion.bounded (h : SoundQuestion question) : question.points ≤ maxQuizPoints := by
  obtain ⟨value, hvalue, hmax, hpoints⟩ := h.valued
  rw [hpoints]
  exact toFloat_le_natCast hvalue hmax (by decide)

theorem SoundQuestion.moderate (h : SoundQuestion question) : Moderate question.points := by
  obtain ⟨value, hvalue, hmax, hpoints⟩ := h.valued
  rw [hpoints]
  apply toFloat_moderate hvalue
  apply hmax.trans
  rw [maxQuizPoints]
  norm_num

theorem isIdChar_ascii {c : CodePoint} (h : isIdChar c = true) :
    c.val < 0x80 ∧ CodePoint.isEscaped c = false := by
  simp only [isIdChar, Bool.or_eq_true, Bool.and_eq_true, decide_eq_true_eq] at h
  have hne : ∀ n : Nat, c.val ≠ n → decide (c.val = n) = false := fun n hn => decide_eq_false hn
  rw [CodePoint.isEscaped, decide_eq_false (show ¬c.val < 0x20 by omega),
    hne 0x22 (by omega), hne 0x5C (by omega)]
  exact ⟨by omega, rfl⟩

theorem isQuizId_ascii {id : PyStr} (h : isQuizId id = true) :
    id.length ≤ 64 ∧ ∀ c ∈ id, c.val < 0x80 ∧ CodePoint.isEscaped c = false := by
  cases id with
  | nil => cases h
  | cons first rest =>
    rw [isQuizId, Bool.and_eq_true, Bool.and_eq_true, List.all_eq_true] at h
    obtain ⟨⟨hfirst, hlength⟩, hrest⟩ := h
    refine ⟨Nat.succ_le_succ (of_decide_eq_true hlength), fun c hc => ?_⟩
    obtain rfl | hc := List.mem_cons.1 hc
    · exact isIdChar_ascii hfirst
    · have hchar := hrest c hc
      simp only [Bool.or_eq_true, decide_eq_true_eq] at hchar
      obtain (((hid | hlow) | hdot) | hcolon) | hdash := hchar
      · exact isIdChar_ascii hid
      · rw [CodePoint.isEscaped, hlow]
        decide
      · rw [CodePoint.isEscaped, hdot]
        decide
      · rw [CodePoint.isEscaped, hcolon]
        decide
      · rw [CodePoint.isEscaped, hdash]
        decide

/-- The answers a question takes, `null` among them. -/
def TakesAnswer (question : QuizQuestion) (answer : Json) : Prop :=
  answer = .null ∨
  match question.questionType with
  | .singleChoice => ∃ s : PyStr, answer = .str s
  | .multipleChoice => ∃ ids : List PyStr, answer = .arr (ids.map Json.str) ∧ ids ≠ [] ∧
      ids.length ≤ maxQuizChoices ∧ (∀ id ∈ ids, id ∈ question.choices) ∧ ids.Nodup
  | .freeText => ∃ s : PyStr, answer = .str s ∧ s.length ≤ maxQuizAnswerChars

theorem texts?_map (ids : List PyStr) : texts? (ids.map Json.str) = some ids := by
  induction ids with
  | nil => rfl
  | cons id ids ih => rw [List.map_cons, texts?, ih, Option.map_some]

theorem texts?_eq_some {items : List Json} :
    texts? items = some ids ↔ items = ids.map Json.str := by
  constructor
  · exact texts?_some
  · rintro rfl
    exact texts?_map ids

theorem isCorrect_ok_iff (host : QuizHost) (question : QuizQuestion) (answer : Json)
    (normalization : String) :
    (∃ scored, isCorrect host question answer normalization = .ok scored) ↔
      TakesAnswer question answer := by
  rw [TakesAnswer]
  cases answer with
  | null => exact iff_of_true ⟨(false, false), rfl⟩ (.inl rfl)
  | str s =>
    cases htype : question.questionType with
    | singleChoice => simp [isCorrect, htype]
    | multipleChoice => simp [isCorrect, htype]
    | freeText =>
      simp only [isCorrect, htype]
      split
      · next hshort => exact iff_of_true ⟨_, rfl⟩ (.inr ⟨s, rfl, hshort⟩)
      · next hlong =>
        apply iff_of_false
        · rintro ⟨scored, h⟩
          cases h
        · rintro (h | ⟨s', h, hshort⟩)
          · cases h
          · cases h
            exact hlong hshort
  | arr items =>
    cases htype : question.questionType with
    | singleChoice => simp [isCorrect, htype]
    | multipleChoice =>
      simp only [isCorrect, htype]
      cases htexts : texts? items with
      | none =>
        apply iff_of_false
        · rintro ⟨scored, h⟩
          cases h
        · rintro (h | ⟨ids, h, -⟩)
          · cases h
          · rw [texts?_eq_some.2 (Json.arr.inj h)] at htexts
            cases htexts
      | some ids =>
        obtain rfl := texts?_some htexts
        dsimp only
        split
        · next hids =>
          rw [List.all_eq_true] at hids
          refine iff_of_true ⟨_, rfl⟩ (.inr ⟨ids, rfl, hids.1, hids.2.1, fun id hid => ?_,
            hids.2.2.2⟩)
          exact List.contains_iff_mem.1 (hids.2.2.1 id hid)
        · next hids =>
          apply iff_of_false
          · rintro ⟨scored, h⟩
            cases h
          · rintro (h | ⟨ids', h, hne, hfew, hknown, hnodup⟩)
            · cases h
            · have hsame := texts?_map ids
              rw [Json.arr.inj h, texts?_map] at hsame
              cases hsame
              apply hids
              refine ⟨hne, hfew, List.all_eq_true.2 fun id hid => ?_, hnodup⟩
              exact List.contains_iff_mem.2 (hknown id hid)
    | freeText => simp [isCorrect, htype]
  | _ =>
    cases htype : question.questionType with
    | singleChoice => simp [isCorrect, htype]
    | multipleChoice => simp [isCorrect, htype]
    | freeText => simp [isCorrect, htype]

/-- The messages of the answers that are not scored. -/
def answerMessages : List PyStr :=
  ["single_choice answers must be strings",
    "multiple_choice answers must be a list of unique choice ids",
    "free_text answers must be short strings"]

theorem isCorrect_error (h : isCorrect host question answer normalization = .error message) :
    message ∈ answerMessages := by
  rw [isCorrect.eq_def] at h
  split at h
  · cases h
  · split at h
    · split at h
      · cases h
      · cases h
        decide
    · dsimp only at h
      split at h
      · split at h
        · split at h
          · cases h
          · cases h
            decide
        · cases h
          decide
      · cases h
        decide
    · split at h
      · split at h
        · cases h
        · cases h
          decide
      · cases h
        decide

/-- A row of a question, with all of its points or none. -/
def RowOf (question : QuizQuestion) (row : Json) : Prop :=
  ∃ awarded answered correct, (awarded = question.points ∨ awarded = 0) ∧
    row = quizRow question awarded answered correct

/-- What has been counted after some questions. -/
structure Counted (asked : List QuizQuestion) (tally : QuizTally) : Prop where
  rows : List.Forall₂ RowOf asked tally.rows
  correct : tally.correct ≤ asked.length
  answered : tally.answered ≤ asked.length
  earned : ∃ awards, List.Forall₂ (fun x y => 0 ≤ x ∧ x ≤ y) awards
    (asked.map QuizQuestion.points) ∧ tally.earned = naiveSum 0 awards

theorem counted_nil : Counted [] ⟨[], 0, 0, 0⟩ :=
  ⟨.nil, le_rfl, le_rfl, [], .nil, rfl⟩

theorem Counted.step (h : Counted asked tally) (hquestion : SoundQuestion question)
    (answered correct : Bool) :
    Counted (asked ++ [question])
      { rows := tally.rows ++
          [quizRow question (if correct then question.points else 0) answered correct]
        correct := tally.correct + correct.toNat
        answered := tally.answered + answered.toNat
        earned := toFloat (tally.earned + if correct then question.points else 0) } := by
  obtain ⟨awards, hawards, hearned⟩ := h.earned
  have hcorrect := correct.toNat_le
  have hanswered := answered.toNat_le
  have hchoice : (if correct then question.points else 0) = question.points ∨
      (if correct then question.points else 0) = 0 := by
    cases correct with
    | true => exact .inl rfl
    | false => exact .inr rfl
  refine ⟨List.rel_append h.rows (.cons ⟨_, answered, correct, hchoice, rfl⟩ .nil), ?_, ?_,
    awards ++ [if correct then question.points else 0], ?_, ?_⟩
  · rw [List.length_append, List.length_singleton]
    exact Nat.add_le_add h.correct hcorrect
  · rw [List.length_append, List.length_singleton]
    exact Nat.add_le_add h.answered hanswered
  · rw [List.map_append]
    apply List.rel_append hawards
    apply List.Forall₂.cons _ .nil
    obtain hpoints | hzero := hchoice
    · rw [hpoints]
      exact ⟨hquestion.nonneg, le_rfl⟩
    · rw [hzero]
      exact ⟨le_rfl, hquestion.nonneg⟩
  · rw [naiveSum, List.foldl_append, hearned]
    rfl

/-- The loop ends well just when every question takes its answer. What it has counted then is about
all questions; else its message is one of the three, and it has counted no more than there are. -/
theorem tallyQuestions_counted (host : QuizHost) (mode : String) (answers : Dict)
    (hquestions : ∀ question ∈ questions, SoundQuestion question) (h : Counted asked tally) :
    ((∃ tally', tallyQuestions host mode answers tally questions = .ok tally' ∧
        Counted (asked ++ questions) tally') ∧
      ∀ question ∈ questions, TakesAnswer question (Dict.get answers question.questionId)) ∨
    ((∃ message count, tallyQuestions host mode answers tally questions = .error (message, count) ∧
        message ∈ answerMessages ∧ count ≤ (asked ++ questions).length) ∧
      ¬∀ question ∈ questions, TakesAnswer question (Dict.get answers question.questionId)) := by
  induction questions generalizing asked tally with
  | nil =>
    refine .inl ⟨⟨tally, rfl, ?_⟩, fun question hq => absurd hq List.not_mem_nil⟩
    rw [List.append_nil]
    exact h
  | cons question questions ih =>
    have hokay := isCorrect_ok_iff host question (Dict.get answers question.questionId) mode
    rw [tallyQuestions]
    cases hscored : isCorrect host question (Dict.get answers question.questionId) mode with
    | error message =>
      refine .inr ⟨⟨message, tally.answered, rfl, isCorrect_error hscored, ?_⟩, fun hall => ?_⟩
      · rw [List.length_append]
        exact h.answered.trans (Nat.le_add_right _ _)
      · obtain ⟨scored, hok⟩ := hokay.2 (hall question List.mem_cons_self)
        cases hok.symm.trans hscored
    | ok scored =>
      obtain ⟨correct, answered⟩ := scored
      have htakes := hokay.1 ⟨_, hscored⟩
      have hstep := h.step (hquestions question List.mem_cons_self) answered correct
      have hcons : asked ++ question :: questions = asked ++ [question] ++ questions := by
        rw [List.append_assoc]
        rfl
      rw [hcons]
      obtain ⟨hrest, hall⟩ | ⟨hrest, hnot⟩ :=
        ih (fun q hq => hquestions q (List.mem_cons_of_mem _ hq)) hstep
      · refine .inl ⟨hrest, fun q hq => ?_⟩
        obtain rfl | hq := List.mem_cons.1 hq
        · exact htakes
        · exact hall q hq
      · exact .inr ⟨hrest, fun hall => hnot fun q hq => hall q (List.mem_cons_of_mem _ hq)⟩

theorem quizRow_finite (question : QuizQuestion) (awarded : ℚ) (answered correct : Bool) :
    Json.allFinite (quizRow question awarded answered correct) = true := rfl

theorem quizRow_nesting (question : QuizQuestion) (awarded : ℚ) (answered correct : Bool) :
    (quizRow question awarded answered correct).nesting 0 = 1 := rfl

theorem quizRow_short (question : QuizQuestion) (awarded : ℚ) (answered correct : Bool)
    (digits : Nat) : (quizRow question awarded answered correct).allShort digits = true := rfl

theorem quizRow_encodable (hquestion : SoundQuestion question) (awarded : ℚ)
    (answered correct : Bool) :
    Json.encodable (quizRow question awarded answered correct) = true := by
  have hid : PyStr.encodable question.questionId = true :=
    PyStr.encodable_of_ascii fun c hc => ((isQuizId_ascii hquestion.safe).2 c hc).1
  have htype : ∀ type : QuizType, PyStr.encodable (PyStr.ofString type.text) = true := by
    intro type
    cases type with
    | singleChoice => decide
    | multipleChoice => decide
    | freeText => decide
  simp only [quizRow, Json.encodable, Json.encodableFields, Json.ofFloat, Json.text, hid, htype]
  decide

theorem quizRow_weight (hquestion : SoundQuestion question) (hawarded : Moderate awarded)
    (answered correct : Bool) : (quizRow question awarded answered correct).weight ≤ 250 := by
  obtain ⟨hlength, hchars⟩ := isQuizId_ascii hquestion.safe
  have hid := printStr_length fun c hc => (hchars c hc).2
  have hpoints := floatRepr_length_le hquestion.moderate
  have hawarded := floatRepr_length_le hawarded
  have htype : ∀ type : QuizType, (printStr (PyStr.ofString type.text)).length ≤ 17 := by
    intro type
    cases type with
    | singleChoice => decide
    | multipleChoice => decide
    | freeText => decide
  have hkind := htype question.questionType
  have hkeys : (printStr (PyStr.ofString "id")).length = 4 ∧
      (printStr (PyStr.ofString "type")).length = 6 ∧
      (printStr (PyStr.ofString "points")).length = 8 ∧
      (printStr (PyStr.ofString "awarded_points")).length = 16 ∧
      (printStr (PyStr.ofString "answered")).length = 10 ∧
      (printStr (PyStr.ofString "correct")).length = 9 := by decide
  simp only [quizRow, Json.weight, Json.weightFields, Json.ofFloat, Json.text, hkeys]
  omega

end BrunostJudge
