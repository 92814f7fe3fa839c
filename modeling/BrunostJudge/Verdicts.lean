import BrunostJudge.OptimizationRunner
import BrunostJudge.PyCollections
import BrunostJudge.Raising

namespace BrunostJudge
open Python
set_option autoImplicit true

theorem mapM_error_iff {f : α → Except ε β} {l : List α} :
    (∃ exc, l.mapM f = .error exc) ↔ ∃ a ∈ l, ∃ exc, f a = .error exc := by
  induction l with
  | nil =>
    apply iff_of_false
    · rintro ⟨exc, h⟩
      cases h
    · rintro ⟨a, ha, _⟩
      cases ha
  | cons a l ih =>
    rw [List.mapM_cons]
    cases ha : f a with
    | error exc =>
      exact iff_of_true ⟨exc, rfl⟩ ⟨a, List.mem_cons_self, exc, ha⟩
    | ok b =>
      cases hl : l.mapM f with
      | error exc =>
        obtain ⟨x, hx, hraised⟩ := ih.1 ⟨exc, hl⟩
        exact iff_of_true ⟨exc, rfl⟩ ⟨x, List.mem_cons_of_mem _ hx, hraised⟩
      | ok values =>
        apply iff_of_false
        · rintro ⟨exc, h⟩
          cases h
        · rintro ⟨x, hx, hraised⟩
          obtain rfl | hx := List.mem_cons.1 hx
          · obtain ⟨exc, hexc⟩ := hraised
            rw [ha] at hexc
            cases hexc
          · obtain ⟨exc, hexc⟩ := ih.2 ⟨x, hx, hraised⟩
            rw [hl] at hexc
            cases hexc

theorem setRow_of_new {rows : List TestRow} (h : row.id ∉ rows.map TestRow.id) :
    setRow rows row = rows ++ [row] := by
  rw [setRow, if_neg]
  intro hany
  obtain ⟨r, hr, hid⟩ := List.any_eq_true.1 hany
  exact h (List.mem_map.2 ⟨r, hr, of_decide_eq_true hid⟩)

theorem foldl_setRow {rows seen : List TestRow} (h : ((seen ++ rows).map TestRow.id).Nodup) :
    rows.foldl setRow seen = seen ++ rows := by
  induction rows generalizing seen with
  | nil => rw [List.foldl_nil, List.append_nil]
  | cons row rows ih =>
    have hnew : row.id ∉ seen.map TestRow.id := by
      rw [List.map_append, List.map_cons] at h
      intro hmem
      exact (List.nodup_append.1 h).2.2 _ hmem _ List.mem_cons_self rfl
    rw [List.foldl_cons, setRow_of_new hnew, ih (by rwa [List.append_assoc]), List.append_assoc]
    rfl

theorem countP_ok_iff (rows : List TestRow) :
    rows.countP (·.verdict = .ok) = rows.length ↔ ∀ row ∈ rows, row.verdict = .ok := by
  rw [List.countP_eq_length]
  simp only [decide_eq_true_eq]

theorem overallVerdict_ac (rows : List TestRow) :
    overallVerdict rows = .ac ↔ ∀ row ∈ rows, row.verdict = .ok := by
  rw [overallVerdict]
  cases hfind : rows.find? fun row => row.verdict ∈ [Verdict.tle, .ole, .re] with
  | some row =>
    have hrow : row.verdict ∈ [Verdict.tle, .ole, .re] :=
      of_decide_eq_true (List.find?_some hfind :)
    apply iff_of_false
    · intro h
      dsimp only at h
      rw [h] at hrow
      exact absurd hrow (by decide)
    · intro h
      rw [h row (List.mem_of_find?_eq_some hfind)] at hrow
      exact absurd hrow (by decide)
  | none =>
    rw [← countP_ok_iff]
    dsimp only
    split
    · next h => exact iff_of_true rfl h
    · next h => exact iff_of_false (fun he => by cases he) h

/-- The first row that stopped for a limit or an error decides, and else a wrong answer. -/
theorem overallVerdict_failing (rows : List TestRow) (h : overallVerdict rows ≠ .ac) :
    overallVerdict rows =
      ((rows.find? fun row => row.verdict ∈ [Verdict.tle, .ole, .re]).map TestRow.verdict).getD
        .wa := by
  rw [overallVerdict] at h ⊢
  cases hfind : rows.find? fun row => row.verdict ∈ [Verdict.tle, .ole, .re] with
  | some row => rfl
  | none =>
    rw [hfind] at h
    dsimp only at h ⊢
    split at h
    · exact absurd rfl h
    · next hcount => exact if_neg hcount

/-- The checker raises on a test whose process ended well. -/
def CheckerFails (host : TextHost) (config : ClassicConfig) (hasChecker : Bool) (case : TestCase)
    (run : TestRun) : Prop :=
  (runProcess (some config.outputLimitBytes) run.process).verdict = .ok ∧
    ∃ text, checkOutput host (if hasChecker then some run.checker else none) case run.output =
      .error text

theorem judgeTest_error_iff : (∃ exc, judgeTest host config hasChecker case run = .error exc) ↔
    CheckerFails host config hasChecker case run := by
  rw [judgeTest, CheckerFails]
  dsimp only
  split
  · next hok =>
    rw [and_iff_right hok]
    cases checkOutput host (if hasChecker then some run.checker else none) case run.output with
    | error text => exact iff_of_true ⟨_, rfl⟩ ⟨text, rfl⟩
    | ok answer =>
      apply iff_of_false
      · rintro ⟨exc, h⟩
        cases h
      · rintro ⟨text, h⟩
        cases h
  · next hok =>
    apply iff_of_false
    · rintro ⟨exc, h⟩
      cases h
    · exact fun h => hok h.1

theorem judgeTest_id (h : judgeTest host config hasChecker case run = .ok row) :
    row.id = case.testId := by
  rw [judgeTest] at h
  dsimp only at h
  split at h
  · split at h
    · cases h
    · cases h
      rfl
  · cases h
    rfl

/-- The classic evaluations that come to the tests of a compiled submission. -/
structure ClassicEvaluation.Tested (evaluation : ClassicEvaluation) (config : ClassicConfig)
    (hasChecker : Bool) (cases : List TestCase) (compileStderr : PyStr) : Prop where
  configured : evaluation.config = .ok config
  answered : ∃ listed, evaluation.cases = .ok listed ∧ listed ≠ [] ∧
    referenceAnswers config listed evaluation.reference = .ok cases
  loaded : evaluation.hasChecker = .ok hasChecker
  staged : evaluation.source = .ok ()
  compiled : compileSource config.language evaluation.compiler = .ok compileStderr

theorem judgeClassic_tested (host : TextHost)
    (h : ClassicEvaluation.Tested evaluation config hasChecker cases compileStderr) :
    judgeClassic host evaluation =
      (judgeTests host config hasChecker evaluation.run cases).map fun rows =>
        classicCompleted config
          (classicScore config.scoringMode (rows.countP (·.verdict = .ok)) rows.length)
          (overallVerdict rows) rows (rows.countP (·.verdict = .ok)) rows.length compileStderr := by
  obtain ⟨listed, hlisted, hne, hcases⟩ := h.answered
  rw [judgeClassic, h.configured, hlisted, h.loaded, h.staged]
  dsimp only [bind, Except.bind]
  rw [if_neg hne, hcases]
  dsimp only
  rw [h.compiled]
  cases judgeTests host config hasChecker evaluation.run cases with
  | error exc => rfl
  | ok rows => rfl

/-- The classic evaluations whose submission does not compile. -/
structure ClassicEvaluation.Uncompiled (evaluation : ClassicEvaluation) (config : ClassicConfig)
    (cases : List TestCase) (message : PyStr) : Prop where
  configured : evaluation.config = .ok config
  answered : ∃ listed, evaluation.cases = .ok listed ∧ listed ≠ [] ∧
    referenceAnswers config listed evaluation.reference = .ok cases
  loaded : ∃ hasChecker, evaluation.hasChecker = .ok hasChecker
  staged : evaluation.source = .ok ()
  refused : ∃ verdict,
    compileSource config.language evaluation.compiler = .error (.failure verdict message)

/-- A classic evaluation is completed where its submission does not compile, and where all its
tests are judged. -/
theorem judgeClassic_cases (h : judgeClassic host evaluation = .ok result) :
    (∃ config cases message, evaluation.Uncompiled config cases message ∧
      result = classicCompleted config 0 .ce [] 0 cases.length message) ∨
    ∃ config hasChecker cases compileStderr rows,
      evaluation.Tested config hasChecker cases compileStderr ∧
      judgeTests host config hasChecker evaluation.run cases = .ok rows ∧
      result = classicCompleted config
        (classicScore config.scoringMode (rows.countP (·.verdict = .ok)) rows.length)
        (overallVerdict rows) rows (rows.countP (·.verdict = .ok)) rows.length compileStderr := by
  obtain ⟨config, hconfig, h⟩ := bind_ok.1 h
  obtain ⟨listed, hlisted, h⟩ := bind_ok.1 h
  dsimp only at h
  obtain ⟨hne, h⟩ := guard_ok.1 h
  obtain ⟨hasChecker, hchecker, h⟩ := bind_ok.1 h
  obtain ⟨⟨⟩, hsource, h⟩ := bind_ok.1 h
  obtain ⟨cases, hcases, h⟩ := bind_ok.1 h
  have hanswered := And.intro hlisted (And.intro hne hcases)
  split at h
  · cases h
  · next verdict message hcompile =>
    cases pure_ok.1 h
    exact .inl ⟨config, cases, message,
      ⟨hconfig, ⟨listed, hanswered⟩, ⟨hasChecker, hchecker⟩, hsource, ⟨verdict, hcompile⟩⟩, rfl⟩
  · next compileStderr hcompile =>
    obtain ⟨rows, hrows, h⟩ := bind_ok.1 h
    cases pure_ok.1 h
    exact .inr ⟨config, hasChecker, cases, compileStderr, rows,
      ⟨hconfig, ⟨listed, hanswered⟩, hchecker, hsource, hcompile⟩, hrows, rfl⟩

/-- The optimization evaluations that come to the instances of a compiled submission. -/
structure OptimizationEvaluation.Tested (host : OptimizationHost)
    (evaluation : OptimizationEvaluation) (config : OptimizationConfig) (inputs : List PyStr)
    (compileStderr : PyStr) (baselines : Nat → Option ℚ) : Prop where
  configured : evaluation.config = .ok config
  listed : evaluation.inputs = .ok inputs
  nonempty : inputs ≠ []
  staged : evaluation.source = .ok ()
  compiled : compileSource config.language evaluation.compiler = .ok compileStderr
  measured : host.baselineValues config inputs evaluation.baseline = .ok baselines

theorem judgeOptimization_tested
    (h : OptimizationEvaluation.Tested host evaluation config inputs compileStderr baselines) :
    host.judgeOptimization evaluation =
      (host.judgeInstances config baselines evaluation.run inputs).map fun results =>
        optimizationCompleted config
          (host.aggregate (results.map Prod.snd) config.aggregation)
          (results.map Prod.fst) compileStderr := by
  rw [OptimizationHost.judgeOptimization, h.configured, h.listed, h.staged]
  dsimp only [bind, Except.bind]
  rw [if_neg h.nonempty]
  rw [h.compiled]
  dsimp only
  rw [h.measured]
  dsimp only
  cases host.judgeInstances config baselines evaluation.run inputs with
  | error exc => rfl
  | ok results => rfl

/-- The optimization evaluations whose submission does not compile. -/
structure OptimizationEvaluation.Uncompiled (evaluation : OptimizationEvaluation)
    (config : OptimizationConfig) (inputs : List PyStr) (message : PyStr) : Prop where
  configured : evaluation.config = .ok config
  listed : evaluation.inputs = .ok inputs
  nonempty : inputs ≠ []
  staged : evaluation.source = .ok ()
  refused : ∃ verdict,
    compileSource config.language evaluation.compiler = .error (.failure verdict message)

theorem judgeOptimization_cases
    (h : OptimizationHost.judgeOptimization host evaluation = .ok result) :
    (∃ config inputs message, evaluation.Uncompiled config inputs message ∧
      result = optimizationCompileError config inputs.length message) ∨
    ∃ config inputs compileStderr baselines results,
      evaluation.Tested host config inputs compileStderr baselines ∧
      host.judgeInstances config baselines evaluation.run inputs = .ok results ∧
      result = optimizationCompleted config
        (host.aggregate (results.map Prod.snd) config.aggregation)
        (results.map Prod.fst) compileStderr := by
  obtain ⟨config, hconfig, h⟩ := bind_ok.1 h
  obtain ⟨inputs, hinputs, h⟩ := bind_ok.1 h
  dsimp only at h
  obtain ⟨hne, h⟩ := guard_ok.1 h
  obtain ⟨⟨⟩, hsource, h⟩ := bind_ok.1 h
  split at h
  · cases h
  · next verdict message hcompile =>
    cases pure_ok.1 h
    exact .inl ⟨config, inputs, message, ⟨hconfig, hinputs, hne, hsource, ⟨verdict, hcompile⟩⟩, rfl⟩
  · next compileStderr hcompile =>
    obtain ⟨baselines, hbaselines, h⟩ := bind_ok.1 h
    obtain ⟨results, hresults, h⟩ := bind_ok.1 h
    cases pure_ok.1 h
    exact .inr ⟨config, inputs, compileStderr, baselines, results,
      ⟨hconfig, hinputs, hne, hsource, hcompile, hbaselines⟩, hresults, rfl⟩

theorem judgeTests_error_iff {run : Nat → TestRun} :
    (∃ exc, judgeTests host config hasChecker run cases = .error exc) ↔
      ∃ i case, cases[i]? = some case ∧ CheckerFails host config hasChecker case (run i) := by
  have hloop : (∃ exc, judgeTests host config hasChecker run cases = .error exc) ↔
      ∃ exc, (cases.zipIdx.mapM fun p =>
        judgeTest host config hasChecker p.1 (run p.2)) = .error exc := by
    rw [judgeTests]
    cases cases.zipIdx.mapM fun p => judgeTest host config hasChecker p.1 (run p.2) with
    | error exc => exact iff_of_true ⟨exc, rfl⟩ ⟨exc, rfl⟩
    | ok rows =>
      apply iff_of_false
      · rintro ⟨exc, h⟩
        cases h
      · rintro ⟨exc, h⟩
        cases h
  rw [hloop, mapM_error_iff]
  constructor
  · rintro ⟨⟨case, i⟩, hmem, hfails⟩
    exact ⟨i, case, List.mem_zipIdx_iff_getElem?.1 hmem, judgeTest_error_iff.1 hfails⟩
  · rintro ⟨i, case, hcase, hfails⟩
    exact ⟨(case, i), List.mem_zipIdx_iff_getElem?.2 hcase, judgeTest_error_iff.2 hfails⟩

/-- The rows of a completed evaluation: each is that of a test, and tests with ids of their own have
one row each, in order. -/
structure RowsOf (host : TextHost) (config : ClassicConfig) (hasChecker : Bool)
    (run : Nat → TestRun) (cases : List TestCase) (rows : List TestRow) : Prop where
  judged : ∀ row ∈ rows, ∃ i case, cases[i]? = some case ∧
    judgeTest host config hasChecker case (run i) = .ok row
  each : (cases.map TestCase.testId).Nodup → List.Forall₂ (fun (p : TestCase × Nat) row =>
    judgeTest host config hasChecker p.1 (run p.2) = .ok row) cases.zipIdx rows

theorem mem_setRow (h : r ∈ setRow rows row) : r ∈ rows ∨ r = row := by
  rw [setRow] at h
  split at h
  · obtain ⟨old, hold, rfl⟩ := List.mem_map.1 h
    split
    · exact .inr rfl
    · exact .inl hold
  · obtain h | h := List.mem_append.1 h
    · exact .inl h
    · exact .inr (List.mem_singleton.1 h)

theorem mem_foldl_setRow {rows seen : List TestRow} (h : r ∈ rows.foldl setRow seen) :
    r ∈ seen ∨ r ∈ rows := by
  induction rows generalizing seen with
  | nil => exact .inl h
  | cons row rows ih =>
    obtain h | h := ih h
    · obtain h | rfl := mem_setRow h
      · exact .inl h
      · exact .inr List.mem_cons_self
    · exact .inr (List.mem_cons_of_mem _ h)

theorem judgeTests_rows {run : Nat → TestRun} {cases : List TestCase}
    (h : judgeTests host config hasChecker run cases = .ok rows) :
    RowsOf host config hasChecker run cases rows := by
  obtain ⟨judged, hloop, h⟩ := bind_ok.1 h
  cases pure_ok.1 h
  constructor
  · intro row hrow
    obtain hrow | hrow := mem_foldl_setRow hrow
    · cases hrow
    · obtain ⟨⟨case, i⟩, hmem, hjudged⟩ := (mapM_ok hloop).2 row hrow
      exact ⟨i, case, List.mem_zipIdx_iff_getElem?.1 hmem, hjudged⟩
  · intro hnodup
    have hids : judged.map TestRow.id = cases.zipIdx.map (TestCase.testId ∘ Prod.fst) :=
      mapM_map (fun p row hrow => judgeTest_id hrow) hloop
    have hdistinct : (judged.map TestRow.id).Nodup := by
      rw [hids, ← List.map_map, List.zipIdx_map_fst]
      exact hnodup
    rw [foldl_setRow (by rwa [List.nil_append]), List.nil_append]
    exact mapM_forall₂ hloop

/-- The evaluator fails on an instance whose process ended well, or answers out of range. -/
def EvaluatorFails (host : OptimizationHost) (config : OptimizationConfig) (baseline : Option ℚ)
    (run : InstanceRun) : Prop :=
  (runProcess (some config.outputLimitBytes) run.process).verdict = .ok ∧
    ((∃ exc, host.evaluate run.evaluator = .error exc) ∨
      ∃ objective score message exc,
        host.evaluate run.evaluator = .ok (.inr ⟨true, some objective, score, message⟩) ∧
        OptimizationHost.instanceScore config baseline objective score = .error exc)

theorem judgeInstance_error_iff :
    (∃ exc, OptimizationHost.judgeInstance host config name baseline run = .error exc) ↔
      EvaluatorFails host config baseline run := by
  rw [OptimizationHost.judgeInstance, EvaluatorFails]
  dsimp only
  by_cases hok : (runProcess (some config.outputLimitBytes) run.process).verdict = .ok
  · rw [and_iff_right hok, if_neg (not_not.2 hok)]
    rcases host.evaluate run.evaluator with exc | message | ⟨feasible, objective, score, message⟩
    · exact iff_of_true ⟨exc, rfl⟩ (.inl ⟨exc, rfl⟩)
    · apply iff_of_false
      · rintro ⟨exc, h⟩
        cases h
      · rintro (⟨exc, h⟩ | ⟨_, _, _, exc, h, _⟩)
        · cases h
        · cases h
    · rcases feasible, objective with ⟨_ | _, _ | objective⟩
      case true.some =>
        constructor
        · rintro ⟨exc, h⟩
          obtain h | ⟨result, hresult, h⟩ := bind_error.1 h
          · cases h
          · cases hresult
            obtain h | ⟨value, _, h⟩ := bind_error.1 h
            · exact .inr ⟨objective, score, message, exc, rfl, h⟩
            · cases h
        · rintro (⟨exc, h⟩ | ⟨_, _, _, exc, h, hscore⟩)
          · cases h
          · cases h
            exact ⟨exc, bind_error.2 (.inr ⟨_, rfl, bind_error.2 (.inl hscore)⟩)⟩
      all_goals
        apply iff_of_false
        · rintro ⟨exc, h⟩
          cases h
        · rintro (⟨exc, h⟩ | ⟨_, _, _, exc, h, _⟩)
          · cases h
          · cases h
  · apply iff_of_false
    · rintro ⟨exc, h⟩
      rw [if_pos hok] at h
      cases h
    · exact fun h => hok h.1

theorem judgeInstances_error_iff {baselines : Nat → Option ℚ} {run : Nat → InstanceRun} :
    (∃ exc, OptimizationHost.judgeInstances host config baselines run names = .error exc) ↔
      ∃ i < names.length, EvaluatorFails host config (baselines i) (run i) := by
  rw [OptimizationHost.judgeInstances, mapM_error_iff]
  constructor
  · rintro ⟨⟨name, i⟩, hmem, hfails⟩
    have hname := List.mem_zipIdx_iff_getElem?.1 hmem
    exact ⟨i, (List.getElem?_eq_some_iff.1 hname).1, judgeInstance_error_iff.1 hfails⟩
  · rintro ⟨i, hi, hfails⟩
    exact ⟨(names[i], i), List.mem_zipIdx_iff_getElem?.2 (List.getElem?_eq_getElem hi),
      judgeInstance_error_iff.2 hfails⟩

/-- A metric of a result. -/
def metricOf (result : Dict) (name : String) : Json :=
  match Dict.get result "metrics" with
  | .obj metrics => Dict.get metrics name
  | _ => .null

/-- What a completed classic evaluation says about the rows of its tests. -/
structure Reported (mode : ScoringMode) (rows : List TestRow) (result : Dict) : Prop where
  tests : metricOf result "tests" = .arr (rows.map TestRow.json)
  accepted : metricOf result "verdict" = .text "AC" ↔ ∀ row ∈ rows, row.verdict = .ok
  allOrNothing : mode = .allOrNothing →
    (Dict.get result "score" = .ofFloat 1 ↔ ∀ row ∈ rows, row.verdict = .ok)
  percentage : mode = .percentage →
    Dict.get result "score" = .ofFloat (toFloat (rows.countP (·.verdict = .ok) / rows.length))
  failing : (∃ row ∈ rows, row.verdict ≠ .ok) → metricOf result "verdict" = .text
    (((rows.find? fun row => row.verdict ∈ [Verdict.tle, .ole, .re]).map TestRow.verdict).getD
      .wa).text

theorem classicCompleted_metric (config : ClassicConfig) (score : ℚ) (verdict : Verdict)
    (rows : List TestRow) (passed total : Nat) (compileStderr : PyStr) {name : String}
    (hname : "compile_stderr" ≠ name) :
    metricOf (classicCompleted config score verdict rows passed total compileStderr) name =
      Dict.get (classicMetrics config verdict rows passed total []) name := by
  have hmetric : metricOf (classicCompleted config score verdict rows passed total compileStderr)
      name = Dict.get (classicMetrics config verdict rows passed total compileStderr) name := rfl
  rw [hmetric, classicMetrics, classicMetrics, Dict.get_setSome_text _ _ hname,
    Dict.get_setSome_text _ _ hname]

theorem verdict_text_inj {a b : Verdict} (h : a.text = b.text) : a = b := by
  revert h
  cases a <;> cases b <;> decide

theorem classicCompleted_reported (config : ClassicConfig) (rows : List TestRow)
    (compileStderr : PyStr) : Reported config.scoringMode rows (classicCompleted config
      (classicScore config.scoringMode (rows.countP (·.verdict = .ok)) rows.length)
      (overallVerdict rows) rows (rows.countP (·.verdict = .ok)) rows.length compileStderr) where
  tests := classicCompleted_metric _ _ _ _ _ _ _ (by decide)
  accepted := by
    rw [classicCompleted_metric _ _ _ _ _ _ _ (by decide), ← overallVerdict_ac]
    constructor
    · exact fun h => verdict_text_inj (Json.text_inj h)
    · intro h
      rw [h]
      rfl
  allOrNothing := by
    intro hmode
    have hscore : ∀ score, Dict.get (classicCompleted config score (overallVerdict rows) rows
      (rows.countP (·.verdict = .ok)) rows.length compileStderr) "score" = .ofFloat score :=
      fun score => rfl
    rw [hscore, hmode, classicScore, ← countP_ok_iff]
    split
    · next h => exact iff_of_true rfl h
    · next h => exact iff_of_false (by decide +kernel) h
  percentage := by
    intro hmode
    rw [hmode]
    rfl
  failing := by
    rintro ⟨row, hrow, hne⟩
    rw [classicCompleted_metric _ _ _ _ _ _ _ (by decide), ← overallVerdict_failing]
    · rfl
    · exact fun h => hne ((overallVerdict_ac rows).1 h row hrow)

/-- A test that is run ends with an error of the infrastructure. -/
def ClassicEvaluation.Interrupted (evaluation : ClassicEvaluation) (config : ClassicConfig)
    (cases : List TestCase) : Prop :=
  ∃ i < cases.length,
    (runProcess (some config.outputLimitBytes) (evaluation.run i).process).verdict = .judgeError

/-- An instance that is run ends with an error of the infrastructure. -/
def OptimizationEvaluation.Interrupted (evaluation : OptimizationEvaluation)
    (config : OptimizationConfig) (inputs : List PyStr) : Prop :=
  ∃ i < inputs.length,
    (runProcess (some config.outputLimitBytes) (evaluation.run i).process).verdict = .judgeError

/-- A result is completed or failed. -/
def Settled (result : Dict) : Prop :=
  Dict.get result "status" = .text "completed" ∨ Dict.get result "status" = .text "failed"

def Failed (result : Dict) : Prop := Dict.get result "status" = .text "failed"

/-- A classic evaluation fails where the infrastructure does, and else reports its tests. -/
structure ClassicEvaluation.Sound (host : TextHost) (evaluation : ClassicEvaluation) : Prop where
  settled : Settled (runClassic host evaluation)
  interrupted : ∀ config hasChecker cases compileStderr,
    evaluation.Tested config hasChecker cases compileStderr →
    evaluation.Interrupted config cases → Failed (runClassic host evaluation)
  reported : ∀ config hasChecker cases compileStderr,
    evaluation.Tested config hasChecker cases compileStderr →
    ¬Failed (runClassic host evaluation) →
    ∃ rows, RowsOf host config hasChecker evaluation.run cases rows ∧
      Reported config.scoringMode rows (runClassic host evaluation)

/-- An optimization evaluation fails where the infrastructure does. -/
structure OptimizationEvaluation.Sound (host : OptimizationHost)
    (evaluation : OptimizationEvaluation) : Prop where
  settled : Settled (runOptimization host evaluation)
  interrupted : ∀ config inputs compileStderr baselines,
    evaluation.Tested host config inputs compileStderr baselines →
    evaluation.Interrupted config inputs → Failed (runOptimization host evaluation)

theorem runClassic_settled (host : TextHost) (evaluation : ClassicEvaluation) :
    Settled (runClassic host evaluation) := by
  rw [runClassic]
  cases h : judgeClassic host evaluation with
  | error exc => exact .inr rfl
  | ok result =>
    obtain ⟨_, _, _, _, rfl⟩ | ⟨_, _, _, _, _, _, _, rfl⟩ := judgeClassic_cases h
    · exact .inl rfl
    · exact .inl rfl

theorem runOptimization_settled (host : OptimizationHost) (evaluation : OptimizationEvaluation) :
    Settled (runOptimization host evaluation) := by
  rw [runOptimization]
  cases h : host.judgeOptimization evaluation with
  | error exc => exact .inr rfl
  | ok result =>
    obtain ⟨_, _, _, _, rfl⟩ | ⟨_, _, _, _, _, _, _, rfl⟩ := judgeOptimization_cases h
    · exact .inl rfl
    · exact .inl rfl

theorem not_failed_completed {fields : Dict} (h : Dict.get fields "status" = .text "completed") :
    ¬Failed fields := by
  intro hfailed
  rw [Failed, h] at hfailed
  exact absurd (Json.text_inj hfailed) (by decide)

/-- A classic evaluation that runs its tests fails exactly where its checker does. -/
theorem tested_failed_iff
    (h : ClassicEvaluation.Tested evaluation config hasChecker cases compileStderr) :
    Failed (runClassic host evaluation) ↔
      ∃ i case, cases[i]? = some case ∧
        CheckerFails host config hasChecker case (evaluation.run i) := by
  rw [← judgeTests_error_iff, runClassic, judgeClassic_tested host h]
  cases judgeTests host config hasChecker evaluation.run cases with
  | error exc => exact iff_of_true rfl ⟨exc, rfl⟩
  | ok rows =>
    apply iff_of_false
    · exact not_failed_completed rfl
    · rintro ⟨exc, he⟩
      cases he

theorem tested_reported
    (h : ClassicEvaluation.Tested evaluation config hasChecker cases compileStderr)
    (hcompleted : ¬Failed (runClassic host evaluation)) :
    ∃ rows, RowsOf host config hasChecker evaluation.run cases rows ∧
      Reported config.scoringMode rows (runClassic host evaluation) := by
  rw [runClassic, judgeClassic_tested host h] at hcompleted ⊢
  cases hrows : judgeTests host config hasChecker evaluation.run cases with
  | error exc =>
    rw [hrows] at hcompleted
    exact absurd rfl hcompleted
  | ok rows => exact ⟨rows, judgeTests_rows hrows, classicCompleted_reported config rows _⟩

/-- An optimization evaluation that runs its instances fails exactly where its evaluator does. -/
theorem measured_failed_iff
    (h : OptimizationEvaluation.Tested host evaluation config inputs compileStderr baselines) :
    Failed (runOptimization host evaluation) ↔
      ∃ i < inputs.length, EvaluatorFails host config (baselines i) (evaluation.run i) := by
  rw [← judgeInstances_error_iff, runOptimization, judgeOptimization_tested h]
  cases host.judgeInstances config baselines evaluation.run inputs with
  | error exc => exact iff_of_true rfl ⟨exc, rfl⟩
  | ok results =>
    apply iff_of_false
    · exact not_failed_completed rfl
    · rintro ⟨exc, he⟩
      cases he

/-- The infrastructure decides no verdict exactly where a checker or an evaluator stops each
evaluation with an interrupted test. -/
theorem infrastructure_sound_iff (host : TextHost) (judge : OptimizationHost) :
    (∀ evaluation : ClassicEvaluation, evaluation.Sound host ↔
      ∀ config hasChecker cases compileStderr,
        evaluation.Tested config hasChecker cases compileStderr →
        evaluation.Interrupted config cases →
        ∃ i case, cases[i]? = some case ∧
          CheckerFails host config hasChecker case (evaluation.run i)) ∧
    ∀ evaluation : OptimizationEvaluation, evaluation.Sound judge ↔
      ∀ config inputs compileStderr baselines,
        evaluation.Tested judge config inputs compileStderr baselines →
        evaluation.Interrupted config inputs →
        ∃ i < inputs.length, EvaluatorFails judge config (baselines i) (evaluation.run i) := by
  constructor
  · intro evaluation
    constructor
    · intro hsound config hasChecker cases compileStderr htested hinterrupted
      exact (tested_failed_iff htested).1
        (hsound.interrupted config hasChecker cases compileStderr htested hinterrupted)
    · intro hstops
      refine ⟨runClassic_settled host evaluation, ?_, fun _ _ _ _ => tested_reported⟩
      intro config hasChecker cases compileStderr htested hinterrupted
      exact (tested_failed_iff htested).2
        (hstops config hasChecker cases compileStderr htested hinterrupted)
  · intro evaluation
    constructor
    · intro hsound config inputs compileStderr baselines htested hinterrupted
      exact (measured_failed_iff htested).1
        (hsound.interrupted config inputs compileStderr baselines htested hinterrupted)
    · intro hstops
      refine ⟨runOptimization_settled judge evaluation, ?_⟩
      intro config inputs compileStderr baselines htested hinterrupted
      exact (measured_failed_iff htested).2
        (hstops config inputs compileStderr baselines htested hinterrupted)

def Sample.plainHost : TextHost := ⟨fun _ => .ok [], id⟩

/-- A Python submission on one test whose process cannot be started. -/
def Sample.unstarted : ClassicEvaluation where
  config := .ok ⟨"coding", "python", none, "", 1000, 256, 1048576, "answer_key",
    .percentage, "python",
    none⟩
  cases := .ok [⟨"1", some []⟩]
  hasChecker := .ok false
  source := .ok ()
  reference := ⟨.ok (), ⟨.ok (), "", true, .notStarted ""⟩, fun _ => .notStarted "", fun _ => []⟩
  compiler := ⟨.ok (), "", true, .notStarted ""⟩
  run _ := ⟨.notStarted "[Errno 2] No such file or directory", [], .bool true⟩

def Sample.plainJudge : OptimizationHost := ⟨fun _ => .notNumeric, fun _ => .ok [], fun x _ => x⟩

/-- A Python program on one instance whose process cannot be started. -/
def Sample.unstartedInstance : OptimizationEvaluation where
  config := .ok ⟨"python", none, "evaluator.py", none, 1000, 256, 1048576, .maximize, .checkerScore,
    .mean⟩
  inputs := .ok ["1"]
  source := .ok ()
  compiler := ⟨.ok (), "", true, .notStarted ""⟩
  baseline := ⟨.ok (), ⟨.ok (), "", true, .notStarted ""⟩, fun _ => ⟨.notStarted "", .noResult⟩⟩
  run _ := ⟨.notStarted "[Errno 2] No such file or directory", .noResult⟩

/-- A process that cannot be started gives a wrong answer, and a completed optimization. -/
theorem unstarted_completed :
    ((∀ evaluation : ClassicEvaluation, evaluation.Sound Sample.plainHost) → False) ∧
    ((∀ evaluation : OptimizationEvaluation, evaluation.Sound Sample.plainJudge) → False) ∧
    metricOf (runClassic Sample.plainHost Sample.unstarted) "verdict" = .text "WA" ∧
    metricOf (runOptimization Sample.plainJudge Sample.unstartedInstance) "verdict" =
      .text "judge_error" := by
  refine ⟨fun h => ?_, fun h => ?_, by decide +kernel, by decide +kernel⟩
  · have hfailed := (h Sample.unstarted).interrupted _ false [⟨"1", some []⟩] []
      ⟨rfl, ⟨_, rfl, by decide, rfl⟩, rfl, rfl, rfl⟩ ⟨0, by decide, rfl⟩
    have hcompleted : Dict.get (runClassic Sample.plainHost Sample.unstarted) "status" =
        .text "completed" := by
      decide +kernel
    exact not_failed_completed hcompleted hfailed
  · have hfailed := (h Sample.unstartedInstance).interrupted _ ["1"] [] (fun _ => none)
      ⟨rfl, rfl, by decide, rfl, rfl, rfl⟩ ⟨0, by decide, rfl⟩
    have hcompleted : Dict.get (runOptimization Sample.plainJudge Sample.unstartedInstance)
        "status" = .text "completed" := by
      decide +kernel
    exact not_failed_completed hcompleted hfailed

end BrunostJudge
