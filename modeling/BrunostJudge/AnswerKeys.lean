import BrunostJudge.FloatBounds
import BrunostJudge.ManifestAgreement

namespace BrunostJudge
open Python
set_option autoImplicit true

/-- What the choices of a question are called. -/
def DeclaredChoices (type : QuizType) (fields : Dict) (ids : List PyStr) : Prop :=
  match type with
  | .freeText => ids = []
  | _ => ∃ items, Dict.get fields "choices" = .arr items ∧ List.Forall₂ (fun choice id =>
      ∃ fields, choice = .obj fields ∧ Dict.get fields "id" = .str id) items ids

/-- What a question accepts. -/
def DeclaredAnswers (type : QuizType) (fields : Dict) (answers : List PyStr) : Prop :=
  match type with
  | .singleChoice => ∃ answer, Dict.get fields "answer" = .str answer ∧ answers = [answer]
  | .multipleChoice => ∃ items : List PyStr, Dict.get fields "answer" = .arr (items.map Json.str) ∧
      answers = items.insertionSort (· ≤ ·)
  | .freeText =>
    let accepted := Dict.getD fields "accepted_answers" (Dict.get fields "answer")
    accepted = .arr (answers.map Json.str) ∨ ∃ answer, accepted = .str answer ∧ answers = [answer]

/-- The question an object declares. -/
structure DeclaredQuestion (fields : Dict) (question : QuizQuestion) : Prop where
  named : Dict.get fields "id" = .str question.questionId
  typed : Dict.get fields "type" = .text question.questionType.text
  valued : ∃ n, Dict.getD fields "points" (.num (.int 1)) = .num n ∧
    floatOf n = .ok question.points
  choices : DeclaredChoices question.questionType fields question.choices
  answers : DeclaredAnswers question.questionType fields question.acceptedAnswers

/-- The questions a document declares. -/
def Declares (payload : Json) (questions : List QuizQuestion) : Prop :=
  ∃ fields items, payload = .obj fields ∧ Dict.get fields "questions" = .arr items ∧
    List.Forall₂ (fun raw question => ∃ fields, raw = .obj fields ∧
      DeclaredQuestion fields question) items questions

/-- A free-text question that names choices, if only `null`. -/
def listsIdleChoices : Json → Bool
  | .obj fields => Dict.get fields "type" = .text "free_text" && Dict.contains fields "choices"
  | _ => false

theorem reportUnless_nil {check : Bool} {message : PyStr} :
    reportUnless check message = [] ↔ check = true := by
  cases check with
  | true => exact iff_of_true rfl rfl
  | false => exact iff_of_false (List.cons_ne_nil _ _) Bool.false_ne_true

theorem contains_of_get {fields : Dict} {key : PyStr} (h : Dict.get fields key ≠ .null) :
    Dict.contains fields key = true := by
  rw [Dict.get_eq] at h
  rw [Dict.contains_eq]
  cases hvalue : Dict.lookup? fields key with
  | none =>
    rw [hvalue] at h
    exact absurd rfl h
  | some value => rfl

theorem isShortText_some {value : Json} (h : isShortText limit value = true) :
    ∃ s : PyStr, value = .str s := by
  cases value with
  | str s => exact ⟨s, rfl⟩
  | _ => cases h

theorem idFindings_nil (h : (idFindings label ids value).1 = []) :
    ∃ id : PyStr, value = .str id ∧ (idFindings label ids value).2 = id :: ids ∧
      ∀ label, loadQuestionId label ids value = .ok id := by
  cases value with
  | str id =>
    rw [idFindings] at h ⊢
    split at h
    · cases h
    · next hsafe =>
      split at h
      · cases h
      · next hnew =>
        rw [if_neg hsafe, if_neg hnew]
        rw [Bool.not_eq_true', Bool.not_eq_false] at hsafe
        rw [List.contains_iff_mem] at hnew
        exact ⟨id, rfl, rfl, fun label => if_pos ⟨hsafe, hnew⟩⟩
  | _ => cases h

theorem choiceIdFindings_nil (h : (choiceIdFindings label ids value).1 = []) :
    ∃ id : PyStr, value = .str id ∧ (choiceIdFindings label ids value).2 = ids ++ [id] ∧
      isQuizId id = true ∧ ids.contains id = false := by
  cases value with
  | str id =>
    rw [choiceIdFindings] at h ⊢
    split at h
    · cases h
    · next hsafe =>
      split at h
      · cases h
      · next hnew =>
        rw [if_neg hsafe, if_neg hnew]
        rw [Bool.not_eq_true', Bool.not_eq_false] at hsafe
        exact ⟨id, rfl, rfl, hsafe, Bool.eq_false_iff.2 hnew⟩
  | _ => cases h

theorem choiceFinding_nil (h : (choiceFinding label index ids choice).1 = []) :
    ∃ (fields : Dict) (id : PyStr), choice = .obj fields ∧ Dict.get fields "id" = .str id ∧
      (choiceFinding label index ids choice).2 = ids ++ [id] ∧
      ∀ label rest, loadChoices label ids (choice :: rest) =
        loadChoices label (ids ++ [id]) rest := by
  cases choice with
  | obj fields =>
    rw [choiceFinding] at h ⊢
    dsimp only at h ⊢
    split at h
    · next hfields =>
      obtain ⟨hid, htext⟩ := List.append_eq_nil_iff.1 h
      rw [reportUnless_nil] at htext
      obtain ⟨id, hvalue, hids, hsafe, hnew⟩ := choiceIdFindings_nil hid
      obtain ⟨s, hs⟩ := isShortText_some htext
      have hcontains : Dict.contains fields "id" = true ∧ Dict.contains fields "text" = true := by
        constructor
        · apply contains_of_get
          rw [hvalue]
          exact fun hnull => by cases hnull
        · apply contains_of_get
          rw [hs]
          exact fun hnull => by cases hnull
      rw [if_pos hfields]
      refine ⟨fields, id, rfl, hvalue, hids, fun label rest => ?_⟩
      rw [loadChoices]
      rw [hfields, hcontains.1, hcontains.2]
      apply (bind_of_ok (judgeUnless_of rfl _) _).trans
      rw [hvalue]
      dsimp only
      rw [hsafe, hnew, htext]
      apply (bind_of_ok (judgeUnless_of rfl _) _).trans
      exact bind_of_ok (judgeUnless_of rfl _) _
    · cases h
  | _ => cases h

theorem choiceFindings_nil (h : (choiceFindings label index ids items).1 = []) :
    ∃ more, List.Forall₂ (fun choice (id : PyStr) =>
        ∃ fields, choice = .obj fields ∧ Dict.get fields "id" = .str id) items more ∧
      (choiceFindings label index ids items).2 = ids ++ more ∧
      ∀ label, loadChoices label ids items = .ok (ids ++ more) := by
  induction items generalizing index ids with
  | nil =>
    refine ⟨[], .nil, (List.append_nil ids).symm, fun label => ?_⟩
    rw [List.append_nil, loadChoices]
  | cons choice items ih =>
    rw [choiceFindings] at h ⊢
    dsimp only at h ⊢
    obtain ⟨hchoice, hitems⟩ := List.append_eq_nil_iff.1 h
    obtain ⟨fields, id, rfl, hid, hids, hload⟩ := choiceFinding_nil hchoice
    obtain ⟨more, hmore, hmoreIds, hrest⟩ := ih hitems
    rw [hids] at hmoreIds hrest
    rw [List.append_assoc] at hmoreIds
    refine ⟨id :: more, .cons ⟨fields, rfl, hid⟩ hmore, ?_, fun label => ?_⟩
    · rw [hids]
      exact hmoreIds
    · rw [hload, hrest, List.append_assoc]
      rfl

theorem quizType?_some (h : quizType? value = some type) : value = .text type.text :=
  of_decide_eq_true (List.find?_some h :)

theorem loadQuestionType_of (h : quizType? value = some type) (label : PyStr) :
    loadQuestionType label value = .ok type := by
  rw [loadQuestionType, h]

theorem finite_of_inRange {n : Number} (h : pointsInRange n = true) : numberIsFinite n = true := by
  cases n with
  | int i => rfl
  | float x => rfl
  | nan => cases h
  | inf negative =>
    cases negative with
    | true => cases h
    | false => cases h

theorem validatedPoints_some (h : validatedPoints value = some points) :
    (∃ n, value = .num n ∧ floatOf n = .ok points) ∧
      ∀ label, quizPoints label value = .ok points := by
  cases value with
  | num n =>
    rw [validatedPoints] at h
    split at h
    · next hrange =>
      have hpoints := toOption_eq_some.1 h
      refine ⟨⟨n, rfl, hpoints⟩, fun label => ?_⟩
      have hcheck : (numberIsFinite n && pointsInRange n) = true := by
        rw [finite_of_inRange hrange, hrange]
        rfl
      exact bind_ok.2 ⟨points, hpoints, if_pos hcheck⟩
    · cases h
  | _ => cases h

theorem texts?_some {items : List Json} (h : texts? items = some answers) :
    items = answers.map Json.str := by
  induction items generalizing answers with
  | nil =>
    cases h
    rfl
  | cons item items ih =>
    cases item with
    | str s =>
      obtain ⟨rest, hrest, rfl⟩ := Option.map_eq_some_iff.1 h
      rw [List.map_cons, ← ih hrest]
    | _ => cases h

/-- The choices the validator accepts are those the runner loads, but for a `null`. -/
theorem questionChoiceFindings_nil
    (h : (questionChoiceFindings label (some type) fields).1 = []) :
    DeclaredChoices type fields (questionChoiceFindings label (some type) fields).2 ∧
    ∀ label', loadQuestionChoices label' type fields =
      if type = .freeText ∧ Dict.contains fields "choices" then
        .error (.judge (label' ++ PyStr.ofString " free_text questions must not declare choices"))
      else .ok (questionChoiceFindings label (some type) fields).2 := by
  have hchoice : ∀ type' : QuizType, type' ≠ .freeText → type = type' →
      DeclaredChoices type fields (questionChoiceFindings label (some type) fields).2 ∧
      ∀ label', loadQuestionChoices label' type fields =
        .ok (questionChoiceFindings label (some type) fields).2 := by
    rintro type' hfree rfl
    have htype : some type = some QuizType.singleChoice ∨ some type = some .multipleChoice := by
      cases type with
      | singleChoice => exact .inl rfl
      | multipleChoice => exact .inr rfl
      | freeText => exact absurd rfl hfree
    rw [questionChoiceFindings, if_pos htype] at h ⊢
    cases hvalue : Dict.get fields "choices" with
    | arr items =>
      rw [hvalue] at h
      dsimp only at h ⊢
      split at h
      · next hlength =>
        obtain ⟨ids, hids, hfound, hload⟩ := choiceFindings_nil h
        rw [if_pos hlength, hfound, List.nil_append]
        refine ⟨?_, fun label' => ?_⟩
        · cases type with
          | singleChoice => exact ⟨items, hvalue, hids⟩
          | multipleChoice => exact ⟨items, hvalue, hids⟩
          | freeText => exact absurd rfl hfree
        · rw [loadQuestionChoices, if_neg hfree, hvalue]
          dsimp only
          rw [if_pos hlength, hload, List.nil_append]
      · cases h
    | _ =>
      rw [hvalue] at h
      cases h
  cases type with
  | singleChoice => exact hchoice .singleChoice (by decide) rfl
  | multipleChoice => exact hchoice .multipleChoice (by decide) rfl
  | freeText =>
    have hnone : (questionChoiceFindings label (some .freeText) fields).2 = [] := by
      rw [questionChoiceFindings, if_neg (by decide)]
    refine ⟨hnone, fun label' => ?_⟩
    rw [loadQuestionChoices, if_pos rfl, hnone]
    cases Dict.contains fields "choices" with
    | true => rfl
    | false => rfl

theorem answerFindings_nil (h : answerFindings label (some type) ids fields = []) :
    ∃ answers, DeclaredAnswers type fields answers ∧
      ∀ label', loadAccepted label' type ids fields = .ok answers := by
  cases type with
  | singleChoice =>
    obtain ⟨-, h⟩ := List.append_eq_nil_iff.1 h
    rw [reportUnless_nil] at h
    cases hvalue : Dict.get fields "answer" with
    | str answer =>
      rw [hvalue] at h
      refine ⟨[answer], ⟨answer, hvalue, rfl⟩, fun label' => ?_⟩
      rw [loadAccepted, hvalue]
      exact if_pos h
    | _ =>
      rw [hvalue] at h
      cases h
  | multipleChoice =>
    obtain ⟨-, h⟩ := List.append_eq_nil_iff.1 h
    rw [reportUnless_nil] at h
    cases hvalue : Dict.get fields "answer" with
    | arr items =>
      rw [hvalue] at h
      dsimp only at h
      cases htexts : texts? items with
      | none =>
        rw [htexts] at h
        cases h
      | some answers =>
        rw [htexts] at h
        have hitems := texts?_some htexts
        refine ⟨answers.insertionSort (· ≤ ·), ⟨answers, hitems ▸ hvalue, rfl⟩, fun label' => ?_⟩
        rw [loadAccepted, hvalue]
        dsimp only
        rw [htexts]
        exact if_pos (of_decide_eq_true h)
    | _ =>
      rw [hvalue] at h
      cases h
  | freeText =>
    obtain ⟨-, h⟩ := List.append_eq_nil_iff.1 h
    rw [reportUnless_nil] at h
    cases hvalue : Dict.getD fields "accepted_answers" (Dict.get fields "answer") with
    | arr items =>
      rw [hvalue] at h
      dsimp only at h
      cases htexts : texts? items with
      | none =>
        rw [htexts] at h
        cases h
      | some answers =>
        rw [htexts] at h
        have hitems := texts?_some htexts
        refine ⟨answers, .inl (hitems ▸ hvalue), fun label' => ?_⟩
        rw [loadAccepted, hvalue]
        dsimp only
        rw [htexts]
        exact if_pos (of_decide_eq_true h)
    | str answer =>
      rw [hvalue] at h
      refine ⟨[answer], .inr ⟨answer, hvalue, rfl⟩, fun label' => ?_⟩
      rw [loadAccepted, hvalue]
      exact if_pos (of_decide_eq_true h)
    | _ =>
      rw [hvalue] at h
      cases h

/-- A question the validator accepts is the one the runner loads, unless it names idle choices. -/
theorem questionFindings_nil (h : questionFindings index ids raw = .ok found)
    (hnone : found.errors = []) :
    ∃ fields question, raw = .obj fields ∧ DeclaredQuestion fields question ∧
      found.ids = question.questionId :: ids ∧ found.points = question.points ∧
      (listsIdleChoices raw = false → loadQuestion index ids raw = .ok question) ∧
      (listsIdleChoices raw = true → ∀ q, loadQuestion index ids raw ≠ .ok q) := by
  cases raw with
  | obj fields =>
    obtain ⟨type, htype, h⟩ := bind_ok.1 h
    cases pure_ok.1 h
    simp only [List.append_eq_nil_iff, reportUnless_nil] at hnone
    obtain ⟨⟨⟨⟨⟨⟨hfields, hid⟩, htyped⟩, hprompt⟩, hpoints⟩, hchoices⟩, hanswers⟩ := hnone
    obtain ⟨type, rfl⟩ := Option.isSome_iff_exists.1 htyped
    rw [validatedType] at htype
    split at htype
    · have htype := Except.ok.inj htype
      obtain ⟨points, hpoints⟩ := Option.isSome_iff_exists.1 hpoints
      obtain ⟨hvalued, hloadPoints⟩ := validatedPoints_some hpoints
      obtain ⟨id, hvalue, hids, hloadId⟩ := idFindings_nil hid
      obtain ⟨hdeclared, hloadChoices⟩ := questionChoiceFindings_nil hchoices
      obtain ⟨answers, hanswers, hloadAnswers⟩ := answerFindings_nil hanswers
      have hname := quizType?_some htype
      have hidle : listsIdleChoices (.obj fields) =
          decide (type = .freeText ∧ Dict.contains fields "choices" = true) := by
        rw [listsIdleChoices, hname]
        cases type with
        | freeText => simp [QuizType.text]
        | _ => rfl
      refine ⟨fields, ⟨id, type, points, _, answers⟩, rfl,
        ⟨hvalue, hname, hvalued, hdeclared, hanswers⟩, hids, ?_, fun hload => ?_,
        fun hload q hq => ?_⟩
      · rw [hpoints]
        rfl
      · rw [hidle, decide_eq_false_iff_not] at hload
        rw [loadQuestion]
        exact bind_ok.2 ⟨(), judgeUnless_of hfields _, bind_ok.2 ⟨id, hloadId _,
          bind_ok.2 ⟨type, loadQuestionType_of htype _, bind_ok.2 ⟨(), judgeUnless_of hprompt _,
          bind_ok.2 ⟨points, hloadPoints _, bind_ok.2 ⟨_, (hloadChoices _).trans (if_neg hload),
          bind_ok.2 ⟨answers, hloadAnswers _, rfl⟩⟩⟩⟩⟩⟩⟩
      · rw [hidle, decide_eq_true_eq] at hload
        obtain ⟨_, _, hq₁⟩ := bind_ok.1 hq
        obtain ⟨_, _, hq₂⟩ := bind_ok.1 hq₁
        obtain ⟨type', htype', hq₃⟩ := bind_ok.1 hq₂
        obtain rfl : type = type' :=
          Except.ok.inj ((loadQuestionType_of htype _).symm.trans htype')
        obtain ⟨_, _, hq₄⟩ := bind_ok.1 hq₃
        obtain ⟨_, _, hq₅⟩ := bind_ok.1 hq₄
        obtain ⟨_, hrejected, _⟩ := bind_ok.1 hq₅
        rw [hloadChoices, if_pos hload] at hrejected
        cases hrejected
    · cases htype
  | _ =>
    cases h
    cases hnone

theorem questionsFindings_nil (h : questionsFindings index ids total items = .ok ([], sum)) :
    ∃ questions, List.Forall₂ (fun raw question => ∃ fields, raw = .obj fields ∧
        DeclaredQuestion fields question) items questions ∧
      sum = naiveSum total (questions.map QuizQuestion.points) ∧
      ((∀ raw ∈ items, listsIdleChoices raw = false) →
        loadQuestionsFrom index ids items = .ok questions) ∧
      (∀ qs, loadQuestionsFrom index ids items = .ok qs →
        ∀ raw ∈ items, listsIdleChoices raw = false) := by
  induction items generalizing index ids total with
  | nil =>
    cases h
    exact ⟨[], .nil, rfl, fun _ => rfl, fun _ _ raw hraw => absurd hraw List.not_mem_nil⟩
  | cons raw items ih =>
    obtain ⟨found, hfound, h⟩ := bind_ok.1 h
    obtain ⟨⟨errors, total'⟩, hrest, h⟩ := bind_ok.1 h
    obtain ⟨herrors, rfl⟩ := Prod.mk.inj (pure_ok.1 h)
    obtain ⟨hnone, rfl⟩ := List.append_eq_nil_iff.1 herrors
    obtain ⟨fields, question, hraw, hdeclared, hids, hpoints, hload, hidle⟩ :=
      questionFindings_nil hfound hnone
    rw [hids, hpoints] at hrest
    obtain ⟨questions, hquestions, hsum, hloadRest, hidleRest⟩ := ih hrest
    refine ⟨question :: questions, .cons ⟨fields, hraw, hdeclared⟩ hquestions, hsum, fun hall => ?_,
      fun qs hqs => ?_⟩
    · rw [loadQuestionsFrom]
      exact bind_ok.2 ⟨question, hload (hall raw List.mem_cons_self), bind_ok.2 ⟨questions,
        hloadRest fun r hr => hall r (List.mem_cons_of_mem _ hr), rfl⟩⟩
    · obtain ⟨q, hq, hqs⟩ := bind_ok.1 hqs
      obtain ⟨rest, hrest, -⟩ := bind_ok.1 hqs
      have hfalse : listsIdleChoices raw = false := by
        rw [Bool.eq_false_iff]
        exact fun htrue => hidle htrue q hq
      obtain rfl := Except.ok.inj ((hload hfalse).symm.trans hq)
      intro r hr
      obtain rfl | hr := List.mem_cons.1 hr
      · exact hfalse
      · exact hidleRest rest hrest r hr

/-- No question of a document names idle choices. -/
def choicesInUse (payload : Json) : Bool :=
  match payload with
  | .obj fields =>
    match Dict.get fields "questions" with
    | .arr items => items.all fun raw => !(listsIdleChoices raw)
    | _ => true
  | _ => true

/-- The questions of an answer key without findings load just when the key is not `null` and none
of them names idle choices. -/
theorem loadQuestions_iff (h : answerKeyFindings payload = .ok []) :
    (payload ≠ .null → ∃ questions, Declares payload questions ∧
      (choicesInUse payload = true → loadQuestions payload = .ok questions)) ∧
    ∀ questions, loadQuestions payload = .ok questions →
      payload ≠ .null ∧ choicesInUse payload = true ∧
        naiveSum 0 (questions.map QuizQuestion.points) ≤ maxQuizPoints := by
  cases payload with
  | null => exact ⟨fun hne => absurd rfl hne, fun questions hload => by cases hload⟩
  | obj fields =>
    rw [answerKeyFindings] at h
    split at h
    · next hfields =>
      cases hvalue : Dict.get fields "questions" with
      | arr items =>
        rw [hvalue] at h
        dsimp only at h
        split at h
        · next hlength =>
          obtain ⟨⟨errors, total⟩, hquestions, h⟩ := bind_ok.1 h
          have hnil := pure_ok.1 h
          simp only [List.append_eq_nil_iff] at hnil
          obtain ⟨⟨-, rfl⟩, htotal⟩ := hnil
          have htotal := of_decide_eq_true (reportUnless_nil.1 htotal)
          obtain ⟨questions, hdeclared, hsum, hload, hidle⟩ := questionsFindings_nil hquestions
          have huse : choicesInUse (.obj fields) = true ↔
              ∀ raw ∈ items, listsIdleChoices raw = false := by
            rw [choicesInUse, hvalue]
            simp
          have hrun : loadQuestions (.obj fields) = loadQuestionsFrom 1 [] items := by
            rw [loadQuestions]
            apply (bind_of_ok (judgeUnless_of hfields _) _).trans
            rw [hvalue]
            exact bind_of_ok (judgeUnless_of (decide_eq_true hlength) _) _
          rw [hrun]
          refine ⟨fun _ => ⟨questions, ⟨fields, items, rfl, hvalue, hdeclared⟩, fun hin =>
            hload (huse.1 hin)⟩, fun qs hqs => ⟨Json.noConfusion, huse.2 (hidle qs hqs), ?_⟩⟩
          cases (hload (hidle qs hqs)).symm.trans hqs
          rw [← hsum]
          exact htotal
        · cases h
      | _ =>
        rw [hvalue] at h
        cases h
    · cases h
  | _ => cases h

/-- The fields the runner of a quiz looks for. -/
def quizRunnerNames : List String :=
  ["kind", "version", "runner", "answer_key", "scoring_mode", "free_text_normalization",
    "submission_file"]

/-- `_validate_quiz_manifest` reports no error. -/
structure ValidQuiz (host : ManifestHost) (text : List Char) (files : PackageFiles) : Prop where
  findings : quizFindings host text files.answerKey = .ok {}
  settings : ((taskPackage host text files {}).quizSettings host.lower).2 = []

/-- The manifests and answer keys that load, by what the runner reads under each name. -/
structure LoadableQuiz (host : ManifestHost) (text : List Char) (payload : Json) : Prop where
  kind : host.lower ((manifestValue text "kind").getD "") = "quiz"
  version : manifestValue text "version" = some "1"
  runner : host.lower ((manifestValue text "runner").getD "") = "quiz"
  answerKey : (manifestValue text "answer_key").getD "private/questions.json" =
    fieldOr host text "answer_key" "private/questions.json"
  scoringMode : ["weighted", "all_or_nothing"].contains
    (host.lower ((manifestValue text "scoring_mode").getD "weighted"))
  normalization : quizNormalizations.contains
    (host.lower ((manifestValue text "free_text_normalization").getD "casefold_trim"))
  submissionFile : isSubmissionFile ((manifestValue text "submission_file").getD "answers.json")
  document : payload ≠ .null
  choices : choicesInUse payload

/-- What is left of that where the lines of a manifest are the same to both readers. -/
structure LoadableFields (host : ManifestHost) (text : List Char) (payload : Json) : Prop where
  kind : host.lower ((flatValue text "kind").getD "") = "quiz"
  version : flatValue text "version" = some "1"
  runner : (flatValue text "runner").isSome
  answerKey : (flatValue text "answer_key").getD "private/questions.json" =
    fieldOr host text "answer_key" "private/questions.json"
  submissionFile : isSubmissionFile ((flatValue text "submission_file").getD "answers.json")
  document : payload ≠ .null
  choices : choicesInUse payload

section
variable {host : ManifestHost} {text : List Char} {files : PackageFiles}

theorem judgeUnless_ok {check : Bool} (h : judgeUnless check message = .ok result) :
    check = true := by
  cases check with
  | true => rfl
  | false => cases h

/-- A mode that the validator accepts is one the runner accepts, if it reads another than the
default. -/
theorem mode_clean (hclean : CleanManifest host.toLower text quizRunnerNames)
    (hmem : name ∈ quizRunnerNames) (hname : KeyName name) {modes : List String} {mode : String}
    (hmode : KeyName mode ∧ mode ∈ modes)
    (h : modes.contains (host.lower (fieldOr host text name mode)) = true) :
    modes.contains (host.lower ((flatValue text name).getD mode)) = true := by
  cases hvalue : flatValue text name with
  | none =>
    have hlower : host.lower mode = mode := hmode.1.lower_eq host.toLower
    rw [Option.getD_none, hlower]
    exact List.contains_iff_mem.2 hmode.2
  | some value =>
    have hne := flatValue_nonempty hmem hname hclean hvalue
    have hgiven : given (some value) = some value := if_pos (decide_eq_true hne)
    rw [fieldOr, manifestField_clean hmem hname hclean hvalue, hgiven] at h
    exact h

/-- In a clean manifest without findings the modes are never in the way, and neither is the name of
the runner once it is read. -/
theorem loadable_clean_iff (hclean : CleanManifest host.toLower text quizRunnerNames)
    (hvalid : ValidQuiz host text files) :
    LoadableQuiz host text payload ↔ LoadableFields host text payload := by
  have hnames : ∀ name ∈ quizRunnerNames, KeyName name := by decide
  have hvalue : ∀ name ∈ quizRunnerNames, manifestValue text name = flatValue text name :=
    fun name hname => manifestValue_clean hname (hnames name hname) hclean
  obtain ⟨hrunner, -⟩ := quizFindings_nil hvalid.findings
  obtain ⟨hmode, hnormalization⟩ := List.append_eq_nil_iff.1 hvalid.settings
  have hmodes : ["weighted", "all_or_nothing"].contains
      (host.lower ((flatValue text "scoring_mode").getD "weighted")) = true :=
    mode_clean hclean (by decide) (hnames _ (by decide)) (by decide) (finding_nil.1 hmode)
  have hnormalizations : quizNormalizations.contains
      (host.lower ((flatValue text "free_text_normalization").getD "casefold_trim")) = true :=
    mode_clean hclean (by decide) (hnames _ (by decide)) (by decide) (finding_nil.1 hnormalization)
  have hquiz : host.lower ((flatValue text "runner").getD "") = "quiz" ↔
      (flatValue text "runner").isSome := by
    cases hsome : flatValue text "runner" with
    | some value =>
      rw [manifestField_clean (by decide) (hnames "runner" (by decide)) hclean hsome] at hrunner
      rw [Option.getD_some, Option.some.inj hrunner]
      exact iff_of_true (KeyName.lower_eq (by decide) host.toLower) rfl
    | none =>
      have hempty : host.lower "" = "" := host.ascii "" fun c hc => absurd hc List.not_mem_nil
      rw [Option.getD_none, hempty]
      exact iff_of_false (by decide) Bool.false_ne_true
  constructor
  · intro h
    have hkind := h.kind
    have hversion := h.version
    have hrunner := h.runner
    have hkey := h.answerKey
    have hfile := h.submissionFile
    rw [hvalue _ (by decide)] at hkind hversion hrunner hkey hfile
    exact ⟨hkind, hversion, hquiz.1 hrunner, hkey, hfile, h.document, h.choices⟩
  · intro h
    constructor
    · rw [hvalue _ (by decide)]
      exact h.kind
    · rw [hvalue _ (by decide)]
      exact h.version
    · rw [hvalue _ (by decide)]
      exact hquiz.2 h.runner
    · rw [hvalue _ (by decide)]
      exact h.answerKey
    · rw [hvalue _ (by decide)]
      exact hmodes
    · rw [hvalue _ (by decide)]
      exact hnormalizations
    · rw [hvalue _ (by decide)]
      exact h.submissionFile
    · exact h.document
    · exact h.choices

/-- A quiz without findings loads, with the questions its answer key declares, just when the runner
reads its fields under their lower-case names and finds the same answer key, its modes are ones the
runner knows, its submission file is a relative path, its answer key is not `null`, and no question
names choices it does not use. -/
theorem loadConfig_iff (hvalid : ValidQuiz host text files)
    (hdocument : files.answerKey (fieldOr host text "answer_key" "private/questions.json") =
      .document payload) :
    (∃ config, loadConfig host files.answerKey text = .ok config ∧
      config.answerKey = fieldOr host text "answer_key" "private/questions.json" ∧
      Declares payload config.questions) ↔ LoadableQuiz host text payload := by
  obtain ⟨_, hpath, payload', hkey, hfindings⟩ := quizFindings_nil hvalid.findings
  obtain rfl : payload' = payload := AnswerKeyFile.document.inj (hkey.symm.trans hdocument)
  obtain ⟨hquestions, hloaded⟩ := loadQuestions_iff hfindings
  constructor
  · rintro ⟨config, hload, hsame, hdeclared⟩
    obtain ⟨_, hkind, hload₁⟩ := bind_ok.1 hload
    obtain ⟨_, hversion, hload₂⟩ := bind_ok.1 hload₁
    obtain ⟨_, hrunner, hload₃⟩ := bind_ok.1 hload₂
    obtain ⟨_, _, hload₄⟩ := bind_ok.1 hload₃
    obtain ⟨document, hopen, hload₅⟩ := bind_ok.1 hload₄
    obtain ⟨_, hmode, hload₆⟩ := bind_ok.1 hload₅
    obtain ⟨_, hnormalization, hload₇⟩ := bind_ok.1 hload₆
    obtain ⟨_, hfile, hload₈⟩ := bind_ok.1 hload₇
    obtain ⟨payload', hread, hload₉⟩ := bind_ok.1 hload₈
    obtain ⟨questions, hquestions, hconfig⟩ := bind_ok.1 hload₉
    obtain rfl := pure_ok.1 hconfig
    dsimp only at hsame
    rw [hsame, hkey] at hopen
    obtain rfl := Except.ok.inj hopen
    obtain rfl := Except.ok.inj hread
    obtain ⟨hne, huse, -⟩ := hloaded _ hquestions
    exact ⟨of_decide_eq_true (judgeUnless_ok hkind), of_decide_eq_true (judgeUnless_ok hversion),
      of_decide_eq_true (judgeUnless_ok hrunner), hsame, judgeUnless_ok hmode,
      judgeUnless_ok hnormalization, judgeUnless_ok hfile, hne, huse⟩
  · intro h
    obtain ⟨questions, hdeclared, hload⟩ := hquestions h.document
    have hconfig : loadConfig host files.answerKey text =
        .ok ⟨fieldOr host text "answer_key" "private/questions.json",
          (manifestValue text "submission_file").getD "answers.json",
          host.lower ((manifestValue text "scoring_mode").getD "weighted"),
          host.lower ((manifestValue text "free_text_normalization").getD "casefold_trim"),
          questions⟩ := by
      rw [loadConfig]
      simp only [h.answerKey, hkey]
      exact bind_ok.2 ⟨(), judgeUnless_of (decide_eq_true h.kind) _,
        bind_ok.2 ⟨(), judgeUnless_of (decide_eq_true h.version) _,
        bind_ok.2 ⟨(), judgeUnless_of (decide_eq_true h.runner) _,
        bind_ok.2 ⟨(), judgeUnless_of hpath _, bind_ok.2 ⟨_, rfl,
        bind_ok.2 ⟨(), judgeUnless_of h.scoringMode _,
        bind_ok.2 ⟨(), judgeUnless_of h.normalization _,
        bind_ok.2 ⟨(), judgeUnless_of h.submissionFile _, bind_ok.2 ⟨payload', rfl,
        bind_ok.2 ⟨questions, hload h.choices, rfl⟩⟩⟩⟩⟩⟩⟩⟩⟩⟩
    exact ⟨_, hconfig, rfl, hdeclared⟩

/-- The points of a quiz without findings that loads are no more than a quiz may have. -/
theorem loadConfig_total (hvalid : ValidQuiz host text files)
    (h : loadConfig host files.answerKey text = .ok config)
    (hsame : config.answerKey = fieldOr host text "answer_key" "private/questions.json") :
    naiveSum 0 (config.questions.map QuizQuestion.points) ≤ maxQuizPoints := by
  obtain ⟨_, _, payload, hkey, hfindings⟩ := quizFindings_nil hvalid.findings
  obtain ⟨_, _, h₁⟩ := bind_ok.1 h
  obtain ⟨_, _, h₂⟩ := bind_ok.1 h₁
  obtain ⟨_, _, h₃⟩ := bind_ok.1 h₂
  obtain ⟨_, _, h₄⟩ := bind_ok.1 h₃
  obtain ⟨document, hopen, h₅⟩ := bind_ok.1 h₄
  obtain ⟨_, _, h₆⟩ := bind_ok.1 h₅
  obtain ⟨_, _, h₇⟩ := bind_ok.1 h₆
  obtain ⟨_, _, h₈⟩ := bind_ok.1 h₇
  obtain ⟨payload', hread, h₉⟩ := bind_ok.1 h₈
  obtain ⟨questions, hquestions, hconfig⟩ := bind_ok.1 h₉
  obtain rfl := pure_ok.1 hconfig
  dsimp only at hsame
  rw [hsame, hkey] at hopen
  obtain rfl := Except.ok.inj hopen
  obtain rfl := Except.ok.inj hread
  exact ((loadQuestions_iff hfindings).2 _ hquestions).2.2

end

instance (host : ManifestHost) (text : List Char) (files : PackageFiles) :
    Decidable (ValidQuiz host text files) :=
  decidable_of_iff ((quizFindings host text files.answerKey).toOption = some {} ∧
      ((taskPackage host text files {}).quizSettings host.lower).2 = [])
    ⟨fun ⟨h, h'⟩ => ⟨toOption_eq_some.1 h, h'⟩,
      fun h => ⟨toOption_eq_some.2 h.findings, h.settings⟩⟩

namespace Sample

def freeText (fields : Dict) : Json :=
  .obj [("questions", .arr [.obj (("id", .text "q1") :: ("type", .text "free_text") ::
    ("answer", .text "42") :: fields)])]

def keyedBy (payload : Json) : PackageFiles :=
  { oneTest with answerKey := fun _ => .document payload }

def versioned (lines : List String) : List Char :=
  manifest (["kind: quiz", "runner: quiz"] ++ lines)

/-- A quiz without findings that does not load. -/
def Unloadable (text : List Char) (payload : Json) : Prop :=
  CleanManifest asciiHost.toLower text quizRunnerNames ∧
    ValidQuiz asciiHost text (keyedBy payload) ∧
    (loadConfig asciiHost (keyedBy payload).answerKey text).toOption = none

end Sample

/-- A `null`, choices of `null`, a submission file outside the submission, and a key in upper
case. -/
theorem valid_unloadable :
    Sample.Unloadable (Sample.versioned ["version: 1"]) .null ∧
    Sample.Unloadable (Sample.versioned ["version: 1"]) (Sample.freeText [("choices", .null)]) ∧
    Sample.Unloadable (Sample.versioned ["version: 1", "submission_file: ../answers.json"])
      (Sample.freeText []) ∧
    Sample.Unloadable (Sample.versioned ["Version: 1"]) (Sample.freeText []) := by
  have hnone : ∀ {x : Except JudgeException QuizConfig}, x.toOption.isNone = true →
      x.toOption = none := Option.isNone_iff_eq_none.1
  exact ⟨⟨by decide +kernel, by decide +kernel, hnone (by decide +kernel)⟩,
    ⟨by decide +kernel, by decide +kernel, hnone (by decide +kernel)⟩,
    ⟨by decide +kernel, by decide +kernel, hnone (by decide +kernel)⟩,
    ⟨by decide +kernel, by decide +kernel, hnone (by decide +kernel)⟩⟩

theorem loadConfig_iff_sample : ∃ config,
    loadConfig Sample.asciiHost (Sample.keyedBy (Sample.freeText [])).answerKey
      (Sample.versioned ["version: 1"]) = .ok config ∧
    config.answerKey = fieldOr Sample.asciiHost (Sample.versioned ["version: 1"]) "answer_key"
      "private/questions.json" ∧
    Declares (Sample.freeText []) config.questions := by
  have hvalid : ValidQuiz Sample.asciiHost (Sample.versioned ["version: 1"])
      (Sample.keyedBy (Sample.freeText [])) := by
    decide +kernel
  have hfields : LoadableFields Sample.asciiHost (Sample.versioned ["version: 1"])
      (Sample.freeText []) :=
    ⟨by decide +kernel, by decide +kernel, by decide +kernel, by decide +kernel, by decide +kernel,
      Json.noConfusion, by decide +kernel⟩
  exact (loadConfig_iff hvalid rfl).2 ((loadable_clean_iff (by decide +kernel) hvalid).2 hfields)

end BrunostJudge
