import BrunostJudge.QuizResults

namespace BrunostJudge
open Python
set_option autoImplicit true

theorem Counted.awardable {config : QuizConfig} (hcounted : Counted config.questions tally) :
    0 ≤ tally.earned ∧ tally.earned ≤ naiveSum 0 (config.questions.map QuizQuestion.points) := by
  obtain ⟨awards, hawards, hearned⟩ := hcounted.earned
  rw [hearned]
  constructor
  · apply naiveSum_nonneg _ le_rfl
    intro x hx
    obtain ⟨y, _, hxy⟩ := forall₂_mem hawards.flip hx
    exact hxy.1
  · exact naiveSum_mono hawards le_rfl le_rfl

theorem SoundQuiz.pointed (h : SoundQuiz config) :
    ∀ x ∈ config.questions.map QuizQuestion.points, 0 ≤ x ∧ x ≤ maxQuizPoints ∧ OnGrid x := by
  intro x hx
  obtain ⟨question, hquestion, rfl⟩ := List.mem_map.1 hx
  have hsound := h.sound question hquestion
  exact ⟨hsound.nonneg, hsound.bounded, hsound.onGrid⟩

theorem SoundQuiz.total_le (h : SoundQuiz config) :
    naiveSum 0 (config.questions.map QuizQuestion.points) ≤ 500000000 := by
  have hfew := h.few
  have hlength : (config.questions.map QuizQuestion.points).length ≤ 500 := by
    rw [List.length_map]
    exact hfew
  have hmax : maxQuizPoints = 1000000 := rfl
  have hsum := naiveSum_le (n := 0) (fun x hx => ⟨(h.pointed x hx).1, (h.pointed x hx).2.1⟩)
    (le_refl (0 : ℚ)) (Nat.cast_nonneg 0) (by rw [hmax]; omega)
  apply hsum.trans
  rw [hmax]
  exact_mod_cast (by omega : 0 + (config.questions.map QuizQuestion.points).length * 1000000 ≤
    500000000)

theorem SoundQuiz.available (h : SoundQuiz config) :
    (1 - 1 / 2 ^ 30) * naiveSum 0 (config.questions.map QuizQuestion.points) ≤
        floatSum (config.questions.map QuizQuestion.points) ∧
      0 ≤ floatSum (config.questions.map QuizQuestion.points) ∧
      floatSum (config.questions.map QuizQuestion.points) ≤ 10 ^ 12 := by
  have hfew := h.few
  have hmax : maxQuizQuestions = 500 := rfl
  have hlength : (config.questions.map QuizQuestion.points).length ≤ 2 ^ 10 := by
    rw [List.length_map]
    omega
  obtain ⟨hlow, hhigh⟩ := floatSum_close hlength fun x hx =>
    ⟨(h.pointed x hx).1, (h.pointed x hx).2.2⟩
  have hnonneg := naiveSum_nonneg (fun x hx => (h.pointed x hx).1) (le_refl (0 : ℚ))
  have htotal := h.total_le
  generalize naiveSum 0 (config.questions.map QuizQuestion.points) = s
    at hlow hhigh hnonneg htotal ⊢
  refine ⟨hlow, ?_, ?_⟩
  · apply le_trans _ hlow
    exact mul_nonneg (by norm_num) hnonneg
  · apply hhigh.trans
    norm_num
    linarith

theorem Counted.earned_bounds {config : QuizConfig} (hcounted : Counted config.questions tally) :
    0 ≤ quizEarned config tally ∧
      quizEarned config tally ≤ naiveSum 0 (config.questions.map QuizQuestion.points) := by
  obtain ⟨hnonneg, hle⟩ := hcounted.awardable
  rw [quizEarned]
  split
  · exact ⟨le_rfl, hnonneg.trans hle⟩
  · exact ⟨hnonneg, hle⟩

theorem SoundQuiz.score (h : SoundQuiz config) (hcounted : Counted config.questions tally) :
    0 ≤ roundDigits (quizScore (quizEarned config tally)
        (floatSum (config.questions.map QuizQuestion.points))) 8 ∧
      roundDigits (quizScore (quizEarned config tally)
        (floatSum (config.questions.map QuizQuestion.points))) 8 ≤ 1 := by
  obtain ⟨hnonneg, hle⟩ := hcounted.earned_bounds
  obtain ⟨hclose, havailable, -⟩ := h.available
  rw [quizScore]
  split
  · have hzero : roundDigits 0 8 = 0 := by decide +kernel
    rw [hzero]
    exact ⟨le_rfl, zero_le_one⟩
  · next hne =>
    apply roundDigits_ratio hnonneg (havailable.lt_of_ne (Ne.symm hne))
    apply le_trans _ hclose
    exact mul_le_mul_of_nonneg_left hle (by norm_num)

theorem count_weight {n : Nat} (h : n ≤ maxQuizQuestions) : (Json.num (.int n)).weight ≤ 3 := by
  have hmax : maxQuizQuestions = 500 := rfl
  have hprint : Number.print (.int n) = decimal n := by
    rw [Number.print, decide_eq_false (Int.not_lt.2 (Int.natCast_nonneg n)), Int.natAbs_natCast]
    rfl
  rw [Json.weight, hprint]
  exact decimal_length_le (by decide) (by omega)

theorem count_short {n : Nat} (encoder : Encoder) (h : n ≤ maxQuizQuestions) :
    Number.isShort encoder.digits (.int n) = true := by
  have hmax : maxQuizQuestions = 500 := rfl
  apply short_natCast encoder
  omega

/-- The metrics of a submission that is not scored. -/
def invalidMetrics (total answered : Nat) : Dict :=
  [("runner", .text "quiz"), ("verdict", .text "INVALID_SUBMISSION"),
    ("total_questions", .num (.int total)), ("answered_questions", .num (.int answered))]

theorem invalidMetrics_fit (htotal : total ≤ maxQuizQuestions)
    (hanswered : answered ≤ maxQuizQuestions) (encoder : Encoder) :
    MetricsFit encoder (invalidMetrics total answered) := by
  have hwritable : Json.writable encoder (.obj (invalidMetrics total answered)) = true := by
    rw [Json.writable, Bool.and_eq_true, decide_eq_true_eq]
    refine ⟨(by decide : 1 ≤ 16).trans encoder.levels_ge, ?_⟩
    simp only [invalidMetrics, Json.allShort, Json.allShortFields, Json.text,
      count_short encoder htotal, count_short encoder hanswered]
    rfl
  have htotal := count_weight htotal
  have hanswered := count_weight hanswered
  apply metricsFit_of_weight rfl hwritable
  · simp only [invalidMetrics, Json.encodable, Json.encodableFields, Json.text]
    decide
  · have hkeys : (printStr (PyStr.ofString "runner")).length = 8 ∧
        (printStr (PyStr.ofString "quiz")).length = 6 ∧
        (printStr (PyStr.ofString "verdict")).length = 9 ∧
        (printStr (PyStr.ofString "INVALID_SUBMISSION")).length = 20 ∧
        (printStr (PyStr.ofString "total_questions")).length = 17 ∧
        (printStr (PyStr.ofString "answered_questions")).length = 20 := by decide
    simp only [Json.weight] at htotal hanswered
    simp only [invalidMetrics, Json.weight, Json.weightFields, Json.text, hkeys]
    omega

theorem rows_fit (h : List.Forall₂ RowOf questions rows)
    (hsound : ∀ question ∈ questions, SoundQuestion question) :
    Json.allFiniteItems rows = true ∧ Json.nestingItems 0 rows ≤ 1 ∧
      (∀ digits, Json.allShortItems digits rows = true) ∧ Json.encodableItems rows = true ∧
      Json.weightItems rows ≤ 251 * questions.length := by
  induction h with
  | nil => exact ⟨rfl, Nat.zero_le _, fun _ => rfl, rfl, le_rfl⟩
  | @cons question row questions rows hrow _ ih =>
    obtain ⟨hfinite, hnesting, hshort, hencodable, hweight⟩ :=
      ih fun q hq => hsound q (List.mem_cons_of_mem _ hq)
    have hquestion := hsound question List.mem_cons_self
    obtain ⟨awarded, answered, correct, hawarded, rfl⟩ := hrow
    have hmoderate : Moderate awarded := by
      rcases hawarded with rfl | rfl
      · exact hquestion.moderate
      · exact .inl rfl
    have hone := quizRow_weight hquestion hmoderate answered correct
    refine ⟨?_, ?_, fun digits => ?_, ?_, ?_⟩
    · rw [Json.allFiniteItems, quizRow_finite, hfinite]
      rfl
    · exact max_le (quizRow_nesting question awarded answered correct).le hnesting
    · rw [Json.allShortItems, quizRow_short, hshort]
      rfl
    · rw [Json.encodableItems, quizRow_encodable hquestion, hencodable]
      rfl
    · rw [Json.weightItems, List.length_cons]
      omega

theorem quizMetrics_fit (h : SoundQuiz config) (hcounted : Counted config.questions tally)
    (encoder : Encoder) : MetricsFit encoder (quizMetrics config tally (quizEarned config tally)
      (floatSum (config.questions.map QuizQuestion.points))) := by
  obtain ⟨hfinite, hnesting, hshort, hencodable, hrows⟩ := rows_fit hcounted.rows h.sound
  obtain ⟨hearned₀, hearned⟩ := hcounted.earned_bounds
  obtain ⟨-, havailable₀, havailable⟩ := h.available
  have htotal := h.total_le
  have hfew := h.few
  have hmax : maxQuizQuestions = 500 := rfl
  have hwritable : Json.writable encoder (.obj (quizMetrics config tally
      (quizEarned config tally) (floatSum (config.questions.map QuizQuestion.points)))) = true := by
    rw [Json.writable, Bool.and_eq_true, decide_eq_true_eq]
    constructor
    · have hlevels := encoder.levels_ge
      simp only [quizMetrics, Json.nesting, Json.nestingFields, Json.text, Json.ofFloat]
      omega
    · simp only [quizMetrics, Json.allShort, Json.allShortFields, Json.text, Json.ofFloat, hshort,
        count_short encoder (hcounted.correct.trans hfew),
        count_short encoder (hcounted.answered.trans hfew), count_short encoder hfew]
      rfl
  have hcorrect := count_weight (hcounted.correct.trans hfew)
  have hanswered := count_weight (hcounted.answered.trans hfew)
  have hasked := count_weight hfew
  have hpoints := floatRepr_length_le
    (roundDigits_moderate hearned₀ (show quizEarned config tally ≤ 10 ^ 12 by linarith) 8)
  have hgiven := floatRepr_length_le (roundDigits_moderate havailable₀ havailable 8)
  have hverdict : ∀ p : Prop, [Decidable p] →
      (if p then "AC" else "PARTIAL") ∈ ["AC", "PARTIAL"] := by
    intro p _
    split
    · decide
    · decide
  have hnames : ∀ name ∈ ["AC", "PARTIAL"] ++ ["weighted", "all_or_nothing"] ++
      quizNormalizations, PyStr.encodable (PyStr.ofString name) = true ∧
        (printStr (PyStr.ofString name)).length ≤ 100 := by decide
  have hverdict := hnames _ (List.mem_append_left _ (List.mem_append_left _
    (hverdict (tally.correct = config.questions.length))))
  have hmode := hnames _ (List.mem_append_left _ (List.mem_append_right _ h.scoring))
  have hnormalization := hnames _ (List.mem_append_right _ h.normalized)
  refine metricsFit_of_weight ?_ hwritable ?_ ?_
  · simp only [quizMetrics, Json.allFinite, Json.allFiniteFields, hfinite]
    rfl
  · simp only [quizMetrics, Json.encodable, Json.encodableFields, Json.text, Json.ofFloat,
      hencodable, hverdict.1, hmode.1, hnormalization.1]
    decide
  · have hkeys : (printStr (PyStr.ofString "runner")).length = 8 ∧
        (printStr (PyStr.ofString "quiz")).length = 6 ∧
        (printStr (PyStr.ofString "verdict")).length = 9 ∧
        (printStr (PyStr.ofString "scoring_mode")).length = 14 ∧
        (printStr (PyStr.ofString "free_text_normalization")).length = 25 ∧
        (printStr (PyStr.ofString "correct_questions")).length = 19 ∧
        (printStr (PyStr.ofString "answered_questions")).length = 20 ∧
        (printStr (PyStr.ofString "total_questions")).length = 17 ∧
        (printStr (PyStr.ofString "points_earned")).length = 15 ∧
        (printStr (PyStr.ofString "points_available")).length = 18 ∧
        (printStr (PyStr.ofString "questions")).length = 11 := by decide
    have hverdict := hverdict.2
    have hmode := hmode.2
    have hnormalization := hnormalization.2
    simp only [Json.weight] at hcorrect hanswered hasked
    simp only [quizMetrics, Json.weight, Json.weightFields, Json.text, Json.ofFloat, hkeys]
    omega

/-- A result that the sandbox hands on, with a score from 0 to 1. That of a malformed submission is
0, with a verdict that says so. -/
structure RecordedQuiz (wellFormed : Prop) (result : Dict) : Prop where
  completed : Dict.get result "status" = .text "completed"
  passes : ∀ encoder, validateRunnerResultPayload encoder result = .ok []
  kept : ∀ encoder, sandboxResult encoder result = .ok result
  scored : ∃ x : ℚ, Dict.get result "score" = .ofFloat x ∧ 0 ≤ x ∧ x ≤ 1
  malformed : ¬wellFormed → Dict.get result "score" = .ofFloat 0 ∧
    ∃ metrics, Dict.get result "metrics" = .obj metrics ∧
      Dict.get metrics "verdict" = .text "INVALID_SUBMISSION"

theorem sandboxResult_kept (h : validateRunnerResultPayload encoder result = .ok []) :
    sandboxResult encoder result = .ok result := by
  rw [sandboxResult, h]
  rfl

theorem invalidSubmission_shape (reason : PyStr) (total answered : Nat) :
    ScoredResult .completed (invalidMetrics total answered)
      (.str (reason.take maxDiagnosticChars)) (invalidSubmission reason total answered) :=
  ⟨rfl, by decide, ⟨0, rfl⟩, rfl, rfl, rfl, rfl, rfl, rfl⟩

/-- Whether a submission without a score is recorded depends on its message alone. -/
theorem recorded_invalid (htotal : total ≤ maxQuizQuestions)
    (hanswered : answered ≤ maxQuizQuestions) :
    RecordedQuiz wellFormed (invalidSubmission reason total answered) ↔ reason.length ≤ 2000 := by
  have hvalid (encoder) :
      validateRunnerResultPayload encoder (invalidSubmission reason total answered) = .ok [] ↔
        MetricsFit encoder (invalidMetrics total answered) ∧ reason.length ≤ 2000 := by
    rw [(invalidSubmission_shape reason total answered).valid_iff, failureReason_text,
      take_length_le]
  constructor
  · intro h
    exact ((hvalid .standard).1 (h.passes .standard)).2
  · intro h
    have hpasses := fun encoder =>
      (hvalid encoder).2 ⟨invalidMetrics_fit htotal hanswered encoder, h⟩
    exact ⟨rfl, hpasses, fun encoder => sandboxResult_kept (hpasses encoder),
      ⟨0, rfl, le_rfl, zero_le_one⟩,
      fun _ => ⟨rfl, _, rfl, rfl⟩⟩

theorem quizCompleted_shape (config : QuizConfig) (tally : QuizTally) :
    ScoredResult .completed (quizMetrics config tally (quizEarned config tally)
      (floatSum (config.questions.map QuizQuestion.points))) .null (quizCompleted config tally) :=
  ⟨rfl, by decide, ⟨_, rfl⟩, rfl, rfl, rfl, rfl, rfl, rfl⟩

theorem recorded_completed (h : SoundQuiz config) (hcounted : Counted config.questions tally)
    (hwellFormed : wellFormed) : RecordedQuiz wellFormed (quizCompleted config tally) := by
  have hpasses := fun encoder => (quizCompleted_shape config tally).valid_iff.2
    ⟨quizMetrics_fit h hcounted encoder, failureReason_null⟩
  exact ⟨rfl, hpasses, fun encoder => sandboxResult_kept (hpasses encoder),
    ⟨_, rfl, h.score hcounted⟩,
    fun hmalformed => absurd hwellFormed hmalformed⟩

theorem not_recorded_failed (exc : JudgeException) : ¬RecordedQuiz wellFormed (quizFailed exc) := by
  intro h
  have hstatus : Dict.get (quizFailed exc) "status" = .text "failed" := rfl
  rw [h.completed] at hstatus
  exact absurd hstatus (by decide)

/-- A JSON document that answers the questions of a quiz. -/
def WellFormedDocument (config : QuizConfig) (payload : Json) : Prop :=
  ∃ answers : Dict, payload = .obj [("answers", .obj answers)] ∧
    (∀ f ∈ answers, ∃ question ∈ config.questions, question.questionId = f.1) ∧
    ∀ question ∈ config.questions, TakesAnswer question (answers.get question.questionId)

def WellFormedSubmission (config : QuizConfig) : SubmissionFile → Prop
  | .found (.document payload) => WellFormedDocument config payload
  | _ => False

theorem quizDocument_malformed (host : QuizHost) (config : QuizConfig)
    (h : ∀ answers, payload ≠ .obj [("answers", .obj answers)]) :
    quizDocument host config payload = invalidSubmission
      (PyStr.ofString "submission must be an object with exactly one \"answers\" object")
      config.questions.length 0 := by
  rw [quizDocument.eq_def]
  split
  · next key answers =>
    rw [if_neg]
    intro hkey
    exact h answers (by rw [hkey])
  · rfl

theorem recorded_document (h : SoundQuiz config) (host : QuizHost) (payload : Json) :
    RecordedQuiz (WellFormedDocument config payload) (quizDocument host config payload) := by
  have hfew := h.few
  by_cases hshape : ∃ answers : Dict, payload = .obj [("answers", .obj answers)]
  · obtain ⟨answers, rfl⟩ := hshape
    rw [quizDocument, if_pos rfl]
    split
    · next hknown =>
      rcases tallyQuestions_counted host config.textNormalization answers h.sound counted_nil with
        ⟨⟨tally, htally, hcounted⟩, htaken⟩ | ⟨⟨message, count, htally, hmessage, hcount⟩, _⟩
      · rw [htally]
        apply recorded_completed h hcounted
        refine ⟨answers, rfl, fun f hf => ?_, htaken⟩
        obtain ⟨question, hquestion, hid⟩ :=
          List.any_eq_true.1 (List.all_eq_true.1 hknown f hf)
        exact ⟨question, hquestion, of_decide_eq_true hid⟩
      · rw [htally]
        apply (recorded_invalid hfew (hcount.trans hfew)).2
        exact (by decide : ∀ m ∈ answerMessages, m.length ≤ 2000) message hmessage
    · exact (recorded_invalid hfew (Nat.zero_le _)).2 (by decide)
  · rw [quizDocument_malformed host config fun answers h => hshape ⟨answers, h⟩]
    exact (recorded_invalid hfew (Nat.zero_le _)).2 (by decide)

/-- The file can be looked at, and what is said about it takes no more than 2000 characters. -/
def Recordable (host : QuizHost) (config : QuizConfig) : SubmissionFile → Prop
  | .inaccessible _ | .outside => False
  | .missing => config.submissionFile.length ≤ 1978
  | .found (.uninspectable exc) => exc.length ≤ 1965
  | .found (.undecodable exc) => exc.length ≤ 1965
  | .found (.repeatedKey key) => (host.repr key).length ≤ 1946
  | .found .oversized | .found (.document _) => True

theorem message_length {opening text : PyStr} {limit : Nat} (h : opening.length + limit = 2000) :
    (opening ++ text).length ≤ 2000 ↔ text.length ≤ limit := by
  rw [List.length_append]
  omega

theorem missing_length (path : String) :
    (PyStr.ofString ("submission is missing " ++ path)).length = 22 + path.length := by
  rw [PyStr.ofString, List.length_map, String.toList_append, List.length_append,
    String.length_toList]
  rfl

/-- What is recorded depends on the path of the submission and on what is said about its file. -/
theorem SoundQuiz.recorded_iff (h : SoundQuiz config) (host : QuizHost) (file : SubmissionFile) :
    RecordedQuiz (WellFormedSubmission config file) (runQuiz host (.ok config) file) ↔
      isRelativePath config.submissionFile = true ∧ Recordable host config file := by
  have hinvalid : ∀ (wellFormed : Prop) (message : PyStr),
      RecordedQuiz wellFormed (invalidSubmission message config.questions.length 0) ↔
        message.length ≤ 2000 :=
    fun _ _ => recorded_invalid h.few (Nat.zero_le _)
  rw [runQuiz.eq_def]
  dsimp only
  split
  · next hpath =>
    rw [and_iff_right hpath]
    cases file with
    | inaccessible text => exact iff_of_false (not_recorded_failed _) not_false
    | outside => exact iff_of_false (not_recorded_failed _) not_false
    | missing =>
      rw [hinvalid, missing_length]
      exact (by omega : 22 + config.submissionFile.length ≤ 2000 ↔
        config.submissionFile.length ≤ 1978)
    | found content =>
      cases content with
      | uninspectable exc => exact (hinvalid _ _).trans (message_length (by decide))
      | oversized => exact (hinvalid _ _).trans (iff_of_true (by decide +kernel) trivial)
      | undecodable exc => exact (hinvalid _ _).trans (message_length (by decide))
      | repeatedKey key => exact (hinvalid _ _).trans (message_length (by decide))
      | document payload => exact iff_of_true (recorded_document h host payload) trivial
  · next hpath => exact iff_of_false (not_recorded_failed _) fun hrecordable => hpath hrecordable.1

/-- A submission to a quiz that loads is recorded just when its path is one in the submission, and
what is said about its file is short enough. -/
theorem quiz_recorded_iff {manifestHost : ManifestHost}
    (h : loadConfig manifestHost answerKey text = .ok config) (host : QuizHost)
    (file : SubmissionFile) :
    RecordedQuiz (WellFormedSubmission config file) (runQuiz host (.ok config) file) ↔
      isRelativePath config.submissionFile = true ∧ Recordable host config file :=
  (loadConfig_sound h).recorded_iff host file

namespace Sample

/-- Texts quoted as Python quotes those of plain letters. -/
def quotingHost : QuizHost where
  repr key := PyStr.ofString "'" ++ key ++ PyStr.ofString "'"
  strip := id
  casefold := id
  split s := [s]

def letters (count : Nat) : PyStr := List.replicate count 0x61

def loadsQuiz (lines : List String) (config : QuizConfig) : Prop :=
  loadConfig asciiHost (keyedBy (freeText [])).answerKey (versioned lines) = .ok config

def loadedFile (lines : List String) : Option String :=
  (loadConfig asciiHost (keyedBy (freeText [])).answerKey (versioned lines)).toOption.map
    QuizConfig.submissionFile

end Sample

theorem loadsQuiz_file (lines : List String) {file : String}
    (h : Sample.loadedFile lines = some file) :
    ∃ config, Sample.loadsQuiz lines config ∧ config.submissionFile = file := by
  obtain ⟨config, hconfig, hfile⟩ := Option.map_eq_some_iff.1 h
  exact ⟨config, toOption_eq_some.1 hconfig, hfile⟩

/-- A document with a long key twice, and a submission file that is the submission. -/
theorem quiz_unrecorded :
    (∃ config, Sample.loadsQuiz ["version: 1"] config ∧
      ¬RecordedQuiz (WellFormedSubmission config (.found (.repeatedKey (Sample.letters 3000))))
        (runQuiz Sample.quotingHost (.ok config) (.found (.repeatedKey (Sample.letters 3000))))) ∧
    ∃ config, Sample.loadsQuiz ["version: 1", "submission_file: ."] config ∧
      ∀ file, ¬RecordedQuiz (WellFormedSubmission config file)
        (runQuiz Sample.quotingHost (.ok config) file) := by
  constructor
  · obtain ⟨config, hconfig, -⟩ := loadsQuiz_file ["version: 1"]
      (show _ = some "answers.json" by decide +kernel)
    refine ⟨config, hconfig, fun hrecorded => ?_⟩
    obtain ⟨-, hshort⟩ := ((loadConfig_sound hconfig).recorded_iff _ _).1 hrecorded
    have hlong : ¬(Sample.quotingHost.repr (Sample.letters 3000)).length ≤ 1946 := by decide +kernel
    exact hlong hshort
  · obtain ⟨config, hconfig, hfile⟩ := loadsQuiz_file ["version: 1", "submission_file: ."]
      (show _ = some "." by decide +kernel)
    refine ⟨config, hconfig, fun file hrecorded => ?_⟩
    obtain ⟨hpath, -⟩ := ((loadConfig_sound hconfig).recorded_iff _ _).1 hrecorded
    rw [hfile] at hpath
    exact absurd hpath (by decide)

/-- A document with a short key twice, and no document. -/
theorem quiz_recorded_iff_sample :
    ∃ config, Sample.loadsQuiz ["version: 1"] config ∧
      RecordedQuiz (WellFormedSubmission config (.found (.repeatedKey (Sample.letters 3))))
        (runQuiz Sample.quotingHost (.ok config) (.found (.repeatedKey (Sample.letters 3)))) ∧
      RecordedQuiz (WellFormedSubmission config .missing)
        (runQuiz Sample.quotingHost (.ok config) .missing) := by
  obtain ⟨config, hconfig, hfile⟩ := loadsQuiz_file ["version: 1"]
    (show _ = some "answers.json" by decide +kernel)
  refine ⟨config, hconfig, (quiz_recorded_iff hconfig Sample.quotingHost _).2 ?_,
    (quiz_recorded_iff hconfig Sample.quotingHost .missing).2 ?_⟩
  · rw [Recordable, hfile]
    decide +kernel
  · rw [Recordable, hfile]
    decide

end BrunostJudge
