import BrunostJudge.PyPath
import BrunostJudge.Verdicts

namespace BrunostJudge
open Python
set_option autoImplicit true

/-- A path below `tests/`. -/
structure TestPath where
  parent : List PyStr
  name : PyStr
deriving DecidableEq

namespace TestPath

def parts (path : TestPath) : List PyStr := path.parent ++ [path.name]

def asPosix (path : TestPath) : PyStr := PyStr.join [slash] path.parts

def withSuffix (path : TestPath) (suffix : PyStr) : TestPath :=
  { path with name := stem path.name ++ suffix }

/-- A path below the package, as it is printed. -/
def relative (path : TestPath) : PyStr := PyStr.ofString "tests/" ++ path.asPosix

/-- The id of a test, `relative.with_suffix("").as_posix()`. From Python 3.13 on, pathlib refuses
to make the name of one dot. -/
def testId (refusesDot : Bool) (path : TestPath) : Except PyError PyStr :=
  let bare := path.withSuffix []
  if refusesDot ∧ bare.name = [dot] then
    throw (.valueError ("Invalid name '.'" : String))
  else pure bare.asPosix

end TestPath

/-- What `stat` says of a file: its size, and whether it is a regular one. -/
structure FileStatus where
  size : Nat
  regular : Bool

/-- The `tests/` directory of a package: what `rglob` finds there, with what `stat` says of it or
raises. -/
structure TestTree where
  entries : List (TestPath × Except PyStr FileStatus)
  distinct : (entries.map Prod.fst).Nodup
  named : ∀ entry ∈ entries, ∀ part ∈ entry.1.parts, slash ∉ part

namespace TestTree
variable (tree : TestTree)

def paths : List TestPath := tree.entries.map Prod.fst

def stat (path : TestPath) : Except PyStr FileStatus :=
  match tree.entries.find? fun entry => entry.1 = path with
  | some entry => entry.2
  | none => .error ("[Errno 2] No such file or directory" : String)

def isFile (path : TestPath) : Bool :=
  match tree.stat path with
  | .ok status => status.regular
  | .error _ => false

/-- `sorted(tests_root.rglob("*" + suffix))`, for one of several suffixes. -/
def rglob (suffixes : List PyStr) : List TestPath :=
  let found := tree.paths.filter fun path =>
    suffixes.any fun suffix => suffix.isSuffixOf path.name
  found.insertionSort fun a b => a.parts ≤ b.parts

/-- The tests of a package. -/
def inputs : List TestPath := tree.rglob [".in"]

/-- The answer files beside an input. -/
def answers (input : TestPath) : List TestPath :=
  [input.withSuffix ".ans", input.withSuffix ".out"].filter tree.isFile

/-- The answer file whose size is checked. -/
def checkedAnswer (answerSource : String) (input : TestPath) : Option TestPath :=
  if answerSource = "answer_key" then
    match tree.answers input with
    | [answer] => some answer
    | _ => none
  else none

def size (path : TestPath) : Nat :=
  match tree.stat path with
  | .ok status => status.size
  | .error _ => 0

end TestTree

def maxClassicTests : Nat := 200
def maxClassicTestInputBytes : Nat := 32 * 1024 * 1024
def maxClassicTotalTestBytes : Nat := 512 * 1024 * 1024

/-- What a round of the validator adds: errors, bytes and the answer files that may be there. -/
structure TestReport where
  errors : List PyStr
  bytes : Nat
  expected : List TestPath

namespace TestTree
variable (tree : TestTree)

/-- What is said of the answers of an input. -/
def answerErrors (answerSource : String) (outputLimit : Option Nat) (input : TestPath) :
    List PyStr :=
  if answerSource = "answer_key" then
    match tree.answers input with
    | [] => [PyStr.ofString "test " ++ input.relative ++ PyStr.ofString " is missing .ans or .out"]
    | [answer] =>
      if outputLimit.any (· < tree.size answer) then
        [PyStr.ofString "answer " ++ answer.relative ++
          PyStr.ofString " exceeds output_limit_bytes"]
      else []
    | _ => [PyStr.ofString "test " ++ input.relative ++
        PyStr.ofString " has both .ans and .out; provide exactly one"]
  else if tree.answers input ≠ [] then
    [PyStr.ofString "reference task test " ++ input.relative ++
      PyStr.ofString " must not include .ans or .out"]
  else []

/-- One round of the loop over the inputs. -/
def inspect (answerSource : String) (outputLimit : Option Nat) (input : TestPath) : TestReport :=
  match tree.stat input with
  | .error exc => ⟨[PyStr.ofString "could not inspect test " ++ input.relative ++
      PyStr.ofString ": " ++ exc], 0, []⟩
  | .ok status =>
    ⟨(if status.size > maxClassicTestInputBytes then
        [PyStr.ofString "classic input " ++ input.relative ++
          PyStr.ofString (" exceeds " ++ toString maxClassicTestInputBytes ++ " bytes")]
      else []) ++ tree.answerErrors answerSource outputLimit input,
      status.size + ((tree.checkedAnswer answerSource input).map tree.size).getD 0,
      [input.withSuffix ".ans", input.withSuffix ".out"]⟩

end TestTree

/-- `_validate_classic_tests`: the errors it reports, and the inputs it returns. -/
def validateClassicTests (tests : Option TestTree) (answerSource : String)
    (outputLimit : Option Nat) : List PyStr × List TestPath :=
  match tests with
  | none => ([PyStr.ofString "classic tasks need tests/*.in files"], [])
  | some tree =>
    if tree.inputs = [] then ([PyStr.ofString "classic tasks need tests/*.in files"], [])
    else
      let reports := tree.inputs.map (tree.inspect answerSource outputLimit)
      let expected := reports.flatMap TestReport.expected
      let orphans := (tree.rglob [".ans", ".out"]).filter (· ∉ expected)
      ((if tree.inputs.length > maxClassicTests then
          [PyStr.ofString
            ("classic tasks support at most " ++ toString maxClassicTests ++ " test inputs")]
        else []) ++
        reports.flatMap TestReport.errors ++
        orphans.map (fun answer => PyStr.ofString "orphan answer file " ++ answer.relative ++
          PyStr.ofString " has no matching .in") ++
        (if (reports.map TestReport.bytes).sum > maxClassicTotalTestBytes then
          [PyStr.ofString
            ("classic tests exceed " ++ toString maxClassicTotalTestBytes ++ " bytes in total")]
        else []),
        tree.inputs)

/-- A test as the runner finds it. -/
structure CaseFile where
  testId : PyStr
  input : TestPath
  answer : Option TestPath
deriving DecidableEq

/-- The test that the loop over the tests judges. -/
def CaseFile.load (contents : TestPath → Bytes) (case : CaseFile) : TestCase :=
  ⟨case.testId, case.answer.map contents⟩

/-- One round of the loop in `_test_cases`. -/
def TestTree.caseFile (refusesDot : Bool) (tree : TestTree) (answerSource : String)
    (input : TestPath) : Except JudgeException CaseFile := do
  let testId ← (input.testId refusesDot).mapError fun _ =>
    .other ("ValueError: Invalid name '.'" : String)
  let answer := if tree.isFile (input.withSuffix ".ans") then input.withSuffix ".ans"
    else input.withSuffix ".out"
  if !tree.isFile answer ∧ answerSource ≠ "reference" then
    throw (.judge (PyStr.ofString "test " ++ testId ++ PyStr.ofString " is missing .ans or .out"))
  pure ⟨testId, input, if tree.isFile answer then some answer else none⟩

/-- `_test_cases`. -/
def testCases (refusesDot : Bool) (tests : Option TestTree) (answerSource : String) :
    Except JudgeException (List CaseFile) :=
  match tests with
  | none => throw (.judge ("classic task is missing tests/" : String))
  | some tree => do
    let cases ← tree.inputs.mapM (tree.caseFile refusesDot answerSource)
    if cases.isEmpty then
      throw (.judge ("classic task has no tests/*.in files" : String))
    pure cases

theorem inputSuffix : PyStr.ofString ".in" = dot :: PyStr.ofString "in" := by decide

theorem stem_input (name : PyStr) :
    stem (name ++ PyStr.ofString ".in") = if name = [] then PyStr.ofString ".in" else name := by
  by_cases hname : name = []
  · subst hname
    decide
  · rw [if_neg hname, inputSuffix]
    exact stem_append hname (by decide) (by decide)

theorem asPosix_inj {path path' : TestPath} (hparts : ∀ part ∈ path.parts, slash ∉ part)
    (hparts' : ∀ part ∈ path'.parts, slash ∉ part) (h : path.asPosix = path'.asPosix) :
    path = path' := by
  have hsplit := join_slash_inj (List.concat_ne_nil _ _) (List.concat_ne_nil _ _) hparts hparts' h
  obtain ⟨parent, name⟩ := path
  obtain ⟨parent', name'⟩ := path'
  obtain ⟨hparent, hname⟩ := List.append_inj' hsplit rfl
  cases hparent
  cases hname
  rfl

/-- No two inputs lose their suffix to the same path, and pathlib makes every path. -/
structure TestTree.Separate (refusesDot : Bool) (tree : TestTree) : Prop where
  apart : ∀ parent, ⟨parent, ".in"⟩ ∈ tree.paths → ⟨parent, ".in.in"⟩ ∉ tree.paths
  named : refusesDot = true → ∀ path ∈ tree.paths, path.name ≠ PyStr.ofString "..in"

/-- The cases are the tests that were checked, each with an answer of its own. -/
structure TestsAgree (tree : TestTree) (answerSource : String) (inputs : List TestPath)
    (cases : List CaseFile) : Prop where
  listed : cases.map CaseFile.input = inputs
  distinct : (cases.map CaseFile.testId).Nodup
  checked : ∀ case ∈ cases, case.answer = tree.checkedAnswer answerSource case.input
  answered : answerSource = "answer_key" → ∀ case ∈ cases, case.answer.isSome
  unanswered : answerSource = "reference" → ∀ case ∈ cases, case.answer = none
  own : ∀ case ∈ cases, ∀ case' ∈ cases, ∀ answer, case.answer = some answer →
    case'.answer = some answer → case = case'

/-- A submission that is judged on the cases after compiling has a row for each of the inputs, and
as many tests as there are inputs. -/
def RowsReported (answerSource : String) (inputs : List TestPath) (cases : List CaseFile) : Prop :=
  ∀ (host : TextHost) (evaluation : ClassicEvaluation) config contents compileStderr result,
    evaluation.config = .ok config → config.answerSource = answerSource →
    evaluation.cases = .ok (cases.map (CaseFile.load contents)) →
    compileSource config.language evaluation.compiler = .ok compileStderr →
    judgeClassic host evaluation = .ok result →
    ∃ score verdict rows passed,
      result = classicCompleted config score verdict rows passed inputs.length compileStderr ∧
      rows.map TestRow.id = cases.map CaseFile.testId

section
variable {tree : TestTree} {path path' input : TestPath} {answerSource : String}

theorem mem_inputs : path ∈ tree.inputs ↔
    path ∈ tree.paths ∧ ∃ name, path.name = name ++ PyStr.ofString ".in" := by
  rw [TestTree.inputs, TestTree.rglob, List.mem_insertionSort, List.mem_filter]
  simp only [List.any_cons, List.any_nil, Bool.or_false, List.isSuffixOf_iff_suffix]
  constructor
  · rintro ⟨hpath, name, hname⟩
    exact ⟨hpath, name, hname.symm⟩
  · rintro ⟨hpath, name, hname⟩
    exact ⟨hpath, name, hname.symm⟩

theorem inputs_nodup (tree : TestTree) : tree.inputs.Nodup :=
  (List.perm_insertionSort _ _).nodup_iff.2 (tree.distinct.filter _)

theorem TestTree.Separate.withSuffix_inj (h : tree.Separate refusesDot) (hpath : path ∈ tree.inputs)
    (hpath' : path' ∈ tree.inputs) (heq : path.withSuffix suffix = path'.withSuffix suffix) :
    path = path' := by
  obtain ⟨hmem, name, hname⟩ := mem_inputs.1 hpath
  obtain ⟨hmem', name', hname'⟩ := mem_inputs.1 hpath'
  obtain ⟨parent, fullname⟩ := path
  obtain ⟨parent', fullname'⟩ := path'
  dsimp only at hname hname'
  subst hname hname'
  obtain ⟨hparent, hstem⟩ := TestPath.mk.inj heq
  dsimp only at hparent hstem
  subst hparent
  rw [List.append_cancel_right_eq, stem_input, stem_input] at hstem
  by_cases hempty : name = []
  · by_cases hempty' : name' = []
    · rw [hempty, hempty']
    · rw [if_pos hempty, if_neg hempty'] at hstem
      subst hempty hstem
      exact absurd hmem' (h.apart parent hmem)
  · by_cases hempty' : name' = []
    · rw [if_neg hempty, if_pos hempty'] at hstem
      subst hempty' hstem
      exact absurd hmem (h.apart parent hmem')
    · rw [if_neg hempty, if_neg hempty'] at hstem
      rw [hstem]

theorem testId_ok (h : path.testId refusesDot = .ok testId) :
    testId = (path.withSuffix []).asPosix := by
  rw [TestPath.testId] at h
  split at h
  · exact (throw_ok.1 h).elim
  · exact (pure_ok.1 h).symm

theorem withSuffix_parts (hpath : path ∈ tree.inputs) :
    ∀ part ∈ (path.withSuffix []).parts, slash ∉ part := by
  obtain ⟨hmem, _⟩ := mem_inputs.1 hpath
  obtain ⟨entry, hentry, heq⟩ := List.mem_map.1 hmem
  have hnamed := tree.named entry hentry
  rw [heq] at hnamed
  intro part hpart
  obtain hpart | hpart := List.mem_append.1 hpart
  · exact hnamed part (List.mem_append_left _ hpart)
  · rw [List.mem_singleton.1 hpart, TestPath.withSuffix, List.append_nil]
    exact stem_slash (hnamed _ (List.mem_append_right _ List.mem_cons_self))

theorem TestTree.Separate.testId_inj (h : tree.Separate refusesDot) (hpath : path ∈ tree.inputs)
    (hpath' : path' ∈ tree.inputs) (hid : path.testId refusesDot = .ok testId)
    (hid' : path'.testId refusesDot = .ok testId) : path = path' :=
  h.withSuffix_inj hpath hpath' (asPosix_inj (withSuffix_parts hpath) (withSuffix_parts hpath')
    ((testId_ok hid).symm.trans (testId_ok hid')))

theorem testId_exists (h : tree.Separate refusesDot) (hpath : path ∈ tree.inputs) :
    ∃ testId, path.testId refusesDot = .ok testId := by
  obtain ⟨hmem, name, hname⟩ := mem_inputs.1 hpath
  rw [TestPath.testId, if_neg]
  · exact ⟨_, rfl⟩
  · rintro ⟨hrefuses, hbare⟩
    rw [TestPath.withSuffix, List.append_nil, hname, stem_input] at hbare
    split at hbare
    · exact absurd (show PyStr.ofString ".in" = [dot] from hbare) (by decide)
    · apply h.named hrefuses path hmem
      rw [hname, show name = [dot] from hbare]
      decide

theorem validated (h : validateClassicTests (some tree) answerSource outputLimit = ([], inputs)) :
    inputs = tree.inputs ∧ inputs ≠ [] ∧
      ∀ input ∈ inputs, tree.answerErrors answerSource outputLimit input = [] := by
  rw [validateClassicTests] at h
  dsimp only at h
  split at h
  · cases (Prod.mk.inj h).1
  · next hne =>
    obtain ⟨herrors, hinputs⟩ := Prod.mk.inj h
    subst hinputs
    refine ⟨rfl, hne, ?_⟩
    intro input hinput
    have hreports := (List.append_eq_nil_iff.1 (List.append_eq_nil_iff.1
      (List.append_eq_nil_iff.1 herrors).1).1).2
    have hreport := List.flatMap_eq_nil_iff.1 hreports _ (List.mem_map_of_mem hinput)
    rw [TestTree.inspect] at hreport
    split at hreport
    · cases hreport
    · exact (List.append_eq_nil_iff.1 hreport).2

/-- Where the validator has nothing to say of the answers of an input, the runner takes the one
that was checked. -/
theorem caseFile_checked (hsource : answerSource = "answer_key" ∨ answerSource = "reference")
    (h : tree.answerErrors answerSource outputLimit input = []) :
    tree.caseFile refusesDot answerSource input =
      ((input.testId refusesDot).mapError fun _ =>
        JudgeException.other (PyStr.ofString "ValueError: Invalid name '.'")).map fun testId =>
          ⟨testId, input, tree.checkedAnswer answerSource input⟩ := by
  rw [TestTree.caseFile]
  cases (input.testId refusesDot).mapError fun _ =>
    JudgeException.other (PyStr.ofString "ValueError: Invalid name '.'") with
  | error exc => rfl
  | ok testId =>
    have hanswers : tree.answers input =
        (if tree.isFile (input.withSuffix ".ans") then [input.withSuffix ".ans"] else []) ++
          if tree.isFile (input.withSuffix ".out") then [input.withSuffix ".out"] else [] := by
      rw [TestTree.answers]
      cases hans : tree.isFile (input.withSuffix ".ans") <;>
        cases hout : tree.isFile (input.withSuffix ".out") <;> simp [hans, hout]
    rw [TestTree.answerErrors, hanswers] at h
    rw [TestTree.checkedAnswer, hanswers]
    cases hans : tree.isFile (input.withSuffix ".ans") <;>
      cases hout : tree.isFile (input.withSuffix ".out") <;>
        obtain rfl | rfl := hsource <;>
          simp [hans, hout, bind, Except.bind, Except.map, pure, Except.pure] at h ⊢

theorem caseFile_input (h : tree.caseFile refusesDot answerSource input = .ok case) :
    case.input = input := by
  obtain ⟨testId, _, h⟩ := bind_ok.1 h
  obtain ⟨_, h⟩ := guard_ok.1 h
  cases pure_ok.1 h
  rfl

theorem checkedAnswer_isSome (h : tree.answerErrors "answer_key" outputLimit input = []) :
    (tree.checkedAnswer "answer_key" input).isSome := by
  rw [TestTree.answerErrors, if_pos rfl] at h
  rw [TestTree.checkedAnswer, if_pos rfl]
  split at h
  · cases h
  · next answer hanswers =>
    rw [hanswers]
    rfl
  · cases h

theorem checkedAnswer_suffix (h : tree.checkedAnswer answerSource input = some answer) :
    answer = input.withSuffix ".ans" ∨ answer = input.withSuffix ".out" := by
  rw [TestTree.checkedAnswer] at h
  split at h
  · split at h
    · next answer' hanswers =>
      cases Option.some.inj h
      have hmem : answer ∈ tree.answers input := by
        rw [hanswers]
        exact List.mem_cons_self
      obtain hans | hout := List.mem_cons.1 (List.mem_filter.1 hmem).1
      · exact .inl hans
      · exact .inr (List.mem_singleton.1 hout)
    · cases h
  · cases h

theorem withSuffix_ne : path.withSuffix ".ans" ≠ path'.withSuffix ".out" := by
  intro h
  have hname := congrArg TestPath.name h
  exact absurd (List.append_inj' hname (by decide)).2 (by decide)

theorem TestTree.Separate.checkedAnswer_inj (h : tree.Separate refusesDot)
    (hpath : path ∈ tree.inputs) (hpath' : path' ∈ tree.inputs)
    (hanswer : tree.checkedAnswer answerSource path = some answer)
    (hanswer' : tree.checkedAnswer answerSource path' = some answer) : path = path' := by
  obtain heq | heq := checkedAnswer_suffix hanswer
  · obtain heq' | heq' := checkedAnswer_suffix hanswer'
    · exact h.withSuffix_inj hpath hpath' (heq.symm.trans heq')
    · exact absurd (heq.symm.trans heq') withSuffix_ne
  · obtain heq' | heq' := checkedAnswer_suffix hanswer'
    · exact absurd (heq'.symm.trans heq) withSuffix_ne
    · exact h.withSuffix_inj hpath hpath' (heq.symm.trans heq')

theorem referenceAnswers_ids {config : ClassicConfig} {listed cases : List TestCase}
    {run : ReferenceRun} (h : referenceAnswers config listed run = .ok cases) :
    cases.map TestCase.testId = listed.map TestCase.testId := by
  rw [referenceAnswers] at h
  split at h
  · cases h
    rfl
  · obtain ⟨_, _, h⟩ := bind_ok.1 h
    split at h
    · exact (throw_ok.1 h).elim
    · exact (throw_ok.1 h).elim
    · have hids : cases.map TestCase.testId = listed.zipIdx.map (TestCase.testId ∘ Prod.fst) := by
        apply mapM_map ?_ h
        intro p case hcase
        dsimp only at hcase
        split at hcase
        · cases hcase
          rfl
        · cases hcase
      rw [hids, ← List.map_map, List.zipIdx_map_fst]

theorem TestsAgree.rowsReported (h : TestsAgree tree answerSource inputs cases) :
    RowsReported answerSource inputs cases := by
  intro host evaluation config contents compileStderr result hconfig _ hcases hcompile hresult
  obtain ⟨config', judged, message, huncompiled, _⟩ |
    ⟨config', hasChecker, judged, compileStderr', rows, htested, hrows, heq⟩ :=
      judgeClassic_cases hresult
  · cases Except.ok.inj (huncompiled.configured.symm.trans hconfig)
    obtain ⟨_, hrefused⟩ := huncompiled.refused
    cases hrefused.symm.trans hcompile
  · cases Except.ok.inj (htested.configured.symm.trans hconfig)
    cases Except.ok.inj (htested.compiled.symm.trans hcompile)
    obtain ⟨listed, hlisted, _, hjudged⟩ := htested.answered
    cases Except.ok.inj (hlisted.symm.trans hcases)
    have hids : judged.map TestCase.testId = cases.map CaseFile.testId := by
      rw [referenceAnswers_ids hjudged, List.map_map]
      rfl
    have heach := (judgeTests_rows hrows).each (by rw [hids]; exact h.distinct)
    have hrowIds : rows.map TestRow.id = cases.map CaseFile.testId := by
      have hsame : List.Forall₂ (fun p row => TestRow.id row = TestCase.testId (Prod.fst p))
          judged.zipIdx rows := heach.imp fun _ _ => judgeTest_id
      rw [← hids, ← List.zipIdx_map_fst 0 judged, List.map_map, ← List.forall₂_eq_eq_eq,
        List.forall₂_map_left_iff, List.forall₂_map_right_iff]
      exact hsame.flip
    have hlength : rows.length = inputs.length := by
      rw [← h.listed, List.length_map, ← List.length_map TestRow.id, hrowIds, List.length_map]
    rw [heq, hlength]
    exact ⟨_, _, rows, _, rfl, hrowIds⟩

/-- Where the validator reports no error, the runner judges the tests that were checked, just where
no directory has the inputs `.in` and `.in.in`, and none is named `..in` where pathlib refuses
that. -/
theorem tests_agree_iff (hsource : answerSource = "answer_key" ∨ answerSource = "reference")
    (hvalid : validateClassicTests (some tree) answerSource outputLimit = ([], inputs))
    (refusesDot : Bool) :
    (∃ cases, testCases refusesDot (some tree) answerSource = .ok cases ∧
      TestsAgree tree answerSource inputs cases ∧ RowsReported answerSource inputs cases) ↔
      tree.Separate refusesDot := by
  obtain ⟨hinputs, hne, herrors⟩ := validated hvalid
  subst hinputs
  have hcase : ∀ input ∈ tree.inputs, ∀ case,
      tree.caseFile refusesDot answerSource input = .ok case ↔ ∃ testId,
        input.testId refusesDot = .ok testId ∧
        case = ⟨testId, input, tree.checkedAnswer answerSource input⟩ := by
    intro input hinput case
    rw [caseFile_checked hsource (herrors input hinput), map_ok]
    constructor
    · rintro ⟨testId, hid, heq⟩
      exact ⟨testId, mapError_ok.1 hid, heq.symm⟩
    · rintro ⟨testId, hid, heq⟩
      exact ⟨testId, mapError_ok.2 hid, heq.symm⟩
  constructor
  · rintro ⟨cases, hcases, hagree, _⟩
    obtain ⟨listed, hlisted, hcases⟩ := bind_ok.1 hcases
    obtain ⟨_, hcases⟩ := guard_ok.1 hcases
    cases pure_ok.1 hcases
    obtain ⟨hall, hof⟩ := mapM_ok hlisted
    have hid : ∀ input ∈ tree.inputs, ∃ testId answer, input.testId refusesDot = .ok testId ∧
        ⟨testId, input, answer⟩ ∈ cases := by
      intro input hinput
      rw [← hagree.listed] at hinput
      obtain ⟨case, hmem, heq⟩ := List.mem_map.1 hinput
      obtain ⟨input', hinput', hcase'⟩ := hof case hmem
      obtain ⟨testId, hid, hshape⟩ := (hcase input' hinput' case).1 hcase'
      subst hshape heq
      exact ⟨testId, _, hid, hmem⟩
    constructor
    · intro parent hin hinin
      obtain ⟨testId, answer, hid₁, hmem₁⟩ := hid ⟨parent, ".in"⟩ (mem_inputs.2 ⟨hin, [], rfl⟩)
      obtain ⟨testId', answer', hid₂, hmem₂⟩ := hid ⟨parent, ".in.in"⟩
        (mem_inputs.2 ⟨hinin, ".in", rfl⟩)
      have hsame : testId = testId' := by
        have hstem : stem (PyStr.ofString ".in") = stem (PyStr.ofString ".in.in") := by decide
        rw [testId_ok hid₁, testId_ok hid₂, TestPath.withSuffix, TestPath.withSuffix, hstem]
      subst hsame
      have hcases := List.inj_on_of_nodup_map hagree.distinct hmem₁ hmem₂ rfl
      have hnames := congrArg TestPath.name (congrArg CaseFile.input hcases)
      exact absurd (show PyStr.ofString ".in" = PyStr.ofString ".in.in" from hnames) (by decide)
    · intro hrefuses path hpath hname
      obtain ⟨testId, _, htest, _⟩ := hid path (mem_inputs.2 ⟨hpath, ".", by rw [hname]; decide⟩)
      have hstem : stem path.name ++ [] = [dot] := by
        rw [hname]
        decide
      rw [TestPath.testId, if_pos ⟨hrefuses, hstem⟩] at htest
      cases htest
  · intro hseparate
    have hlisted : ∃ listed, tree.inputs.mapM (tree.caseFile refusesDot answerSource) =
        .ok listed := by
      apply mapM_exists
      intro input hinput
      obtain ⟨testId, hid⟩ := testId_exists hseparate hinput
      exact ⟨_, (hcase input hinput _).2 ⟨testId, hid, rfl⟩⟩
    obtain ⟨listed, hlisted⟩ := hlisted
    have hof : ∀ case ∈ listed, case.input ∈ tree.inputs ∧
        case.input.testId refusesDot = .ok case.testId ∧
        case.answer = tree.checkedAnswer answerSource case.input := by
      intro case hmem
      obtain ⟨input, hinput, hcase'⟩ := (mapM_ok hlisted).2 case hmem
      obtain ⟨testId, hid, hshape⟩ := (hcase input hinput case).1 hcase'
      subst hshape
      exact ⟨hinput, hid, rfl⟩
    have hinputs : listed.map CaseFile.input = tree.inputs := by
      rw [mapM_map (g := fun input => input) (fun _ _ => caseFile_input) hlisted, List.map_id']
    have hagree : TestsAgree tree answerSource tree.inputs listed := by
      refine ⟨hinputs, ?_, fun case hmem => (hof case hmem).2.2, ?_, ?_, ?_⟩
      · have hnodup := inputs_nodup tree
        rw [← hinputs] at hnodup
        apply (List.Nodup.of_map _ hnodup).map_on
        intro case hmem case' hmem' hsame
        obtain ⟨hinput, hid, _⟩ := hof case hmem
        obtain ⟨hinput', hid', _⟩ := hof case' hmem'
        rw [← hsame] at hid'
        exact List.inj_on_of_nodup_map hnodup hmem hmem'
          (hseparate.testId_inj hinput hinput' hid hid')
      · intro hkey case hmem
        obtain ⟨hinput, _, hanswer⟩ := hof case hmem
        subst hkey
        rw [hanswer]
        exact checkedAnswer_isSome (herrors _ hinput)
      · intro hreference case hmem
        rw [(hof case hmem).2.2, TestTree.checkedAnswer, hreference, if_neg (by decide)]
      · intro case hmem case' hmem' answer hanswer hanswer'
        obtain ⟨hinput, _, hchecked⟩ := hof case hmem
        obtain ⟨hinput', _, hchecked'⟩ := hof case' hmem'
        have hnodup := inputs_nodup tree
        rw [← hinputs] at hnodup
        exact List.inj_on_of_nodup_map hnodup hmem hmem' (hseparate.checkedAnswer_inj hinput hinput'
          (hchecked.symm.trans hanswer) (hchecked'.symm.trans hanswer'))
    have hnonempty : ¬listed.isEmpty = true := by
      rw [List.isEmpty_iff]
      intro hempty
      rw [hempty] at hinputs
      exact hne hinputs.symm
    exact ⟨listed, bind_ok.2 ⟨listed, hlisted, guard_ok.2 ⟨hnonempty, rfl⟩⟩, hagree,
      hagree.rowsReported⟩

end

namespace Sample

def testFile (parent : List PyStr) (name : PyStr) : TestPath × Except PyStr FileStatus :=
  (⟨parent, name⟩, .ok ⟨10, true⟩)

/-- Two tests in a directory of the tests. -/
def pairedTests : TestTree where
  entries := [testFile ["easy"] "1.in", testFile ["easy"] "1.ans", testFile ["easy"] "2.in",
    testFile ["easy"] "2.out"]
  distinct := by decide
  named := by decide

/-- Two tests of one stem, and an answer. -/
def hiddenTests : TestTree where
  entries := [testFile [] ".in", testFile [] ".in.in", testFile [] ".in.ans"]
  distinct := by decide
  named := by decide

end Sample

theorem tests_agree_iff_sample : ∃ cases,
    testCases true (some Sample.pairedTests) "answer_key" = .ok cases ∧
    TestsAgree Sample.pairedTests "answer_key" Sample.pairedTests.inputs cases ∧
    RowsReported "answer_key" Sample.pairedTests.inputs cases := by
  have hvalid : validateClassicTests (some Sample.pairedTests) "answer_key" none =
      ([], Sample.pairedTests.inputs) := by
    decide +kernel
  have hnames : ∀ path ∈ Sample.pairedTests.paths,
      path.name ≠ PyStr.ofString ".in" ∧ path.name ≠ PyStr.ofString "..in" := by
    decide
  apply (tests_agree_iff (.inl rfl) hvalid true).2
  constructor
  · exact fun parent hin _ => (hnames _ hin).1 rfl
  · exact fun _ path hpath => (hnames path hpath).2

/-- The tests `.in` and `.in.in` share an id and an answer, and the row of the second replaces that
of the first. -/
theorem shared_stem_sample : ∃ inputs cases,
    validateClassicTests (some Sample.hiddenTests) "answer_key" none = ([], inputs) ∧
    inputs.length = 2 ∧ testCases false (some Sample.hiddenTests) "answer_key" = .ok cases ∧
    cases.map CaseFile.testId = [PyStr.ofString ".in", PyStr.ofString ".in"] ∧
    metricOf (runClassic Sample.plainHost { Sample.unstarted with
      cases := .ok (cases.map (CaseFile.load fun _ => [])) }) "total_tests" = .num (.int 1) ∧
    ¬TestsAgree Sample.hiddenTests "answer_key" inputs cases := by
  refine ⟨[⟨[], ".in"⟩, ⟨[], ".in.in"⟩], [⟨".in", ⟨[], ".in"⟩, some ⟨[], ".in.ans"⟩⟩,
    ⟨".in", ⟨[], ".in.in"⟩, some ⟨[], ".in.ans"⟩⟩], ?_, rfl, ?_, rfl, ?_, ?_⟩
  · decide +kernel
  · exact toOption_eq_some.1 (by decide +kernel)
  · decide +kernel
  · intro hagree
    exact absurd hagree.distinct (by decide)

end BrunostJudge
