import BrunostJudge.Authority
import BrunostJudge.ManifestAgreement

namespace BrunostJudge
open Python
set_option autoImplicit true

section
variable (parseInt : PyStr → Except PyError Int)

/-- `int(value)`, where a `TypeError` and a `ValueError` are passed over. -/
def tryInt (value : Json) : Except PyError (Option Int) :=
  match toInt parseInt value with
  | .ok i => .ok (some i)
  | .error err => if err = .typeError ∨ err.isValueError = true then .ok none else .error err

def clampSeconds (seconds : Int) : Int := max 1 (min 86400 seconds)

/-- `_execution_timeout`. -/
def executionTimeout (metadata manifest : Dict) : Except PyError (Option Int) := do
  let declared := Dict.get manifest "execution_timeout_seconds"
  let legacy ←
    if declared = .null then tryInt parseInt (Dict.get manifest "time_limit_ms") else .ok none
  let requested ← tryInt parseInt (Dict.get metadata "timeout_seconds")
  let declared ← tryInt parseInt declared
  let values := [requested, declared, legacy.map fun ms => (ms + 999) / 1000]
  return (values.filterMap fun value => value.map clampSeconds).min?

/-- `with_timeout` of a sandbox runner with the default timeout. -/
def withTimeout : Option Int → Int
  | none => 900
  | some seconds => max 1 seconds

/-- The deadline that a worker applies, in seconds. -/
def sandboxDeadline (metadata manifest : Dict) : Except PyError Int :=
  (executionTimeout parseInt metadata manifest).map withTimeout

/-- The deadline that two values of a manifest come to, when no request asks for another one. -/
def namedDeadline (declared limit : Json) : Except PyError Int :=
  if declared = .null then
    (tryInt parseInt limit).map fun ms => ms.elim 900 fun ms => clampSeconds ((ms + 999) / 1000)
  else (tryInt parseInt declared).map fun seconds => seconds.elim 900 clampSeconds

theorem tryInt_null : tryInt parseInt .null = .ok none := rfl

theorem withTimeout_clamp (seconds : Int) :
    withTimeout (some (clampSeconds seconds)) = clampSeconds seconds :=
  max_eq_right (le_max_left _ _)

theorem sandboxDeadline_eq (manifest : Dict) (h : Dict.get metadata "timeout_seconds" = .null) :
    sandboxDeadline parseInt metadata manifest = namedDeadline parseInt
      (Dict.get manifest "execution_timeout_seconds") (Dict.get manifest "time_limit_ms") := by
  rw [sandboxDeadline, executionTimeout, namedDeadline, h, tryInt_null]
  split
  · next hdeclared =>
    rw [hdeclared, tryInt_null]
    cases tryInt parseInt (Dict.get manifest "time_limit_ms") with
    | error err => rfl
    | ok limit =>
      cases limit with
      | none => rfl
      | some ms => exact congrArg Except.ok (withTimeout_clamp _)
  · cases tryInt parseInt (Dict.get manifest "execution_timeout_seconds") with
    | error err => rfl
    | ok declared =>
      cases declared with
      | none => rfl
      | some seconds => exact congrArg Except.ok (withTimeout_clamp _)

end

/-- The limit of a compiler, for the languages that have one. -/
def compileLimitMs (language : String) : Nat := if language = "python" then 0 else 30000

/-- Compiling and running a program on all tests. -/
def solutionLimitMs (language : String) (tests timeLimitMs : Nat) : Nat :=
  compileLimitMs language + tests * timeLimitMs

/-- The candidate of a batch task, and the reference where the answers come from one. -/
def classicBudgetMs (config : ClassicConfig) (tests : Nat) : Nat :=
  (if config.answerSource = "reference" then
    solutionLimitMs config.referenceLanguage tests config.timeLimitMs else 0) +
  solutionLimitMs config.language tests config.timeLimitMs

/-- `evaluator_timeout_ms`. -/
def evaluatorTimeoutMs (config : OptimizationConfig) : Nat := max 1000 (config.timeLimitMs * 2)

/-- Compiling a program, and running and evaluating it on all instances, for the candidate and for
the baseline. -/
def optimizationBudgetMs (config : OptimizationConfig) (tests : Nat) : Nat :=
  (if config.baselineEntrypoint.isSome then 2 else 1) *
    solutionLimitMs config.language tests (config.timeLimitMs + evaluatorTimeoutMs config)

inductive EvaluationProfile where
  | live
  | postCompetition

section
variable (host : ManifestHost) (text : List Char)

/-- `int(_manifest_field(..) or default)` of the harness. -/
def harnessInt (name : String) (default : Int) : Option Int :=
  match given (harnessField host text name) with
  | none => some default
  | some value => (host.parseInt value).toOption

def harnessSwitch (name : String) : Bool :=
  isTrueText (host.lower ((given (harnessField host text name)).getD "false"))

/-- `budget_ms` of `_run_model_submission_v2`, where the files that a manifest names are there. -/
def modelBudgetMs (profile : EvaluationProfile) : Option Int := do
  let (opening, splits) ← match profile with
    | .live =>
      let publicTest := (given (harnessField host text "public_test_dataset")).isSome
      let publicLabels := (given (harnessField host text "public_labels_dataset")).isSome
      if publicTest = publicLabels then some ("", if publicTest then 2 else 1) else none
    | .postCompetition =>
      if harnessSwitch host text "post_competition_enabled" then some ("post_", 1) else none
  let training ← harnessInt host text (opening ++ "training_time_limit_ms") 120000
  let prediction ← harnessInt host text (opening ++ "prediction_time_limit_ms") 10000
  let evaluator ← harnessInt host text (opening ++ "evaluator_time_limit_ms") 10000
  let _ ← harnessInt host text "memory_limit_mb" 2048
  let modelMaxBytes ← harnessInt host text "model_max_bytes" 64000000
  guard (1024 ≤ modelMaxBytes ∧ modelMaxBytes ≤ 64000000)
  let solutions : Int := if harnessSwitch host text "baseline_enabled" then 2 else 1
  let calculated := solutions * (training + splits * prediction + splits * evaluator) + 5000
  let declared ← harnessInt host text "time_limit_ms" calculated
  let budget := min calculated declared
  guard (1 ≤ budget ∧ 1 ≤ training ∧ 1 ≤ prediction ∧ 1 ≤ evaluator)
  return budget

/-- The kinds whose runners grant limits phase by phase. -/
def budgetedKinds : List String := ["coding", "icpc", "optimization", "model", "interactive"]

/-- What the runner of a kind grants in all, unless it rejects the manifest. -/
def phaseBudgetMs (profile : EvaluationProfile) (kind : String) (tests : Nat) : Option Int :=
  if classicKinds.contains kind then
    (classicConfig host text).toOption.map fun config => (classicBudgetMs config tests : Int)
  else if kind = "optimization" then
    (optimizationConfig host text).toOption.map fun config =>
      (optimizationBudgetMs config tests : Int)
  else if kind = "model" then modelBudgetMs host text profile
  else if kind = "interactive" then
    ((classicConfig host text).toOption.filter fun config => config.kind = "interactive").map
      fun config => (tests * config.timeLimitMs : Nat)
  else none

/-- The whole seconds of the time that the validator counts for a batch task. -/
def countedSeconds (files : PackageFiles) (limit : Int) : Int :=
  ((taskPackage host text files {}).wallTimeMs host.lower limit + 999) / 1000

/-- The limits fit into the time that the validator counts for a batch task, and for the other kinds
into what the metadata of the registration name, or else into 900 seconds. -/
def BudgetFits (files : PackageFiles) (metadata : Dict) (profile : EvaluationProfile)
    (kind : String) : Prop :=
  if classicKinds.contains kind then
    ∀ limit, ((taskPackage host text files {}).timeLimit host.parseInt).1 = some limit →
      ∀ config, classicConfig host text = .ok config →
        (classicBudgetMs config files.testInputs : Int) ≤
          1000 * countedSeconds host text files limit
  else ∃ seconds, namedDeadline host.parseInt (Dict.get metadata "execution_timeout_seconds")
      (Dict.get metadata "time_limit_ms") = .ok seconds ∧
    ∀ ms, phaseBudgetMs host text profile kind files.testInputs = some ms → ms ≤ 1000 * seconds

end

/-- There is a deadline, and it is not earlier than the sum of the limits. -/
def DeadlineCovers (parseInt : PyStr → Except PyError Int) (metadata manifest : Dict)
    (budgetMs : Option Int) : Prop :=
  ∃ seconds, sandboxDeadline parseInt metadata manifest = .ok seconds ∧
    ∀ ms, budgetMs = some ms → ms ≤ 1000 * seconds

section
variable {package : TaskPackage} {lower : String → String} {parseInt : PyStr → Except PyError Int}
  {repr : String → String}

theorem classic_timeout (hvalid : (package.validateTask lower parseInt repr).valid = true)
    (hkind : package.kind = some kind) (hmem : kind ∈ classicKinds) :
    ∃ limit, (package.timeLimit parseInt).1 = some limit ∧ 1 ≤ limit ∧
      package.wallTimeMs lower limit ≤ 3600000 ∧
      Dict.get (package.validateTask lower parseInt repr).settings "execution_timeout_seconds" =
        .num (.int (max 1 ((package.wallTimeMs lower limit + 999) / 1000))) := by
  simp only [TaskValidation.valid, TaskPackage.validateTask, List.isEmpty_iff,
    List.append_eq_nil_iff] at hvalid
  obtain ⟨⟨-, hbranch⟩, -⟩ := hvalid
  rw [TaskPackage.validateTask, registrationSettings_get _ (by decide)]
  rw [hkind, Option.getD_some, branch_classic _ hmem] at hbranch ⊢
  simp only [TaskPackage.classicSettings, List.append_eq_nil_iff, finding_nil] at hbranch
  obtain ⟨⟨⟨⟨-, hlimits⟩, hinputs⟩, -⟩, htimeout⟩ := hbranch
  have htime := (classicLimits_nil hlimits).1
  obtain ⟨limit, hlimit, hpositive⟩ := classicLimit_valid (by decide) htime
  have hlimit : (package.timeLimit parseInt).1 = some limit := hlimit
  have hfilter : (package.timeLimit parseInt).1.filter (fun _ => package.testInputs ≠ 0) =
      some limit := by
    rw [hlimit]
    exact if_pos (by simpa using hinputs)
  have hvalue : package.executionTimeout lower parseInt =
      if package.wallTimeMs lower limit > 3600000 then
        (none, [PyStr.ofString "classic evaluation budget exceeds 3600000 ms"])
      else (some (max 1 ((package.wallTimeMs lower limit + 999) / 1000)), []) := by
    rw [TaskPackage.executionTimeout, hfilter]
  rw [hvalue] at htimeout
  split at htimeout
  · cases htimeout
  · next hbudget =>
    refine ⟨limit, hlimit, hpositive, not_lt.1 hbudget, ?_⟩
    simp only [TaskPackage.classicSettings, Dict.get_set_text, Dict.get_setSome_text,
      Dict.get_setSome_self, ne_eq, String.reduceEq, not_false_eq_true]
    rw [hvalue, if_neg hbudget]
    rfl

theorem wallTimeMs_ge (hlimit : 1 ≤ limit) : 35000 ≤ package.wallTimeMs lower limit := by
  have hruns : 0 ≤ package.testInputs * limit := mul_nonneg (by omega) (by omega)
  rw [TaskPackage.wallTimeMs]
  split
  · omega
  · omega

theorem classic_deadline (hrecord : taskRecord lower request
      (package.validateTask lower parseInt repr) artifactId digest = .ok record)
    (hkind : package.kind = some kind) (hmem : kind ∈ classicKinds)
    (hmetadata : Dict.get metadata "timeout_seconds" = .null) :
    ∃ limit, (package.timeLimit parseInt).1 = some limit ∧
      sandboxDeadline parseInt metadata record.manifest =
        .ok ((package.wallTimeMs lower limit + 999) / 1000) := by
  obtain ⟨_, _, _, _, hvalid, _⟩ := taskRecord_ok hrecord
  obtain ⟨limit, hlimit, hpositive, hwall, htimeout⟩ := classic_timeout hvalid hkind hmem
  have hlow : 35000 ≤ package.wallTimeMs lower limit := wallTimeMs_ge hpositive
  have hseconds : max 1 ((package.wallTimeMs lower limit + 999) / 1000) =
      (package.wallTimeMs lower limit + 999) / 1000 := max_eq_right (by omega)
  rw [hseconds] at htimeout
  have hclamp : clampSeconds ((package.wallTimeMs lower limit + 999) / 1000) =
      (package.wallTimeMs lower limit + 999) / 1000 := by
    rw [clampSeconds, min_eq_right (by omega), max_eq_right (by omega)]
  have hstored : Dict.get record.manifest "execution_timeout_seconds" =
      .num (.int ((package.wallTimeMs lower limit + 999) / 1000)) := by
    rw [record_get hrecord (by decide), if_pos, htimeout]
    refine ⟨by decide, ?_⟩
    rw [htimeout]
    have hne : (package.wallTimeMs lower limit + 999) / 1000 ≠ 0 := by omega
    simpa [Json.truthy] using hne
  refine ⟨limit, hlimit, ?_⟩
  rw [sandboxDeadline_eq _ _ hmetadata, hstored, namedDeadline, if_neg (by simp)]
  exact congrArg Except.ok hclamp

theorem open_deadline (hrecord : taskRecord lower request
      (package.validateTask lower parseInt repr) artifactId digest = .ok record)
    (hkind : package.kind = some kind) (hmem : kind ∈ ["optimization", "model", "interactive"])
    (hmetadata : Dict.get metadata "timeout_seconds" = .null) :
    sandboxDeadline parseInt metadata record.manifest = namedDeadline parseInt
      (Dict.get request.metadata "execution_timeout_seconds")
      (Dict.get request.metadata "time_limit_ms") := by
  obtain ⟨_, _, _, _, hvalid, _⟩ := taskRecord_ok hrecord
  have hopen : ∀ key ∈ ["execution_timeout_seconds", "time_limit_ms"],
      package.declares key = false := by
    intro key hkey
    have hsettings : ∀ kind ∈ ["optimization", "model", "interactive"],
        ∀ key ∈ ["execution_timeout_seconds", "time_limit_ms"],
          kind ≠ "quiz" ∧ classicKinds.contains kind = false ∧
            ["network", "resource_class"].contains key = false := by decide
    obtain ⟨hquiz, hclassic, hscheduling⟩ := hsettings kind hmem key hkey
    rw [TaskPackage.declares, hkind, Option.getD_some, if_neg hquiz, hclassic, hscheduling,
      if_neg Bool.false_ne_true, Bool.false_and, ite_self]
  have hget : ∀ key ∈ ["execution_timeout_seconds", "time_limit_ms"],
      Dict.get record.manifest key = Dict.get request.metadata key := by
    intro key hkey
    have hoptional : ∀ key ∈ ["execution_timeout_seconds", "time_limit_ms"],
        key ∈ optionalSettings := by decide
    rw [record_get hrecord (List.mem_cons_of_mem _ (hoptional key hkey)), if_neg]
    rintro ⟨-, htruthy⟩
    rw [settings_truthy hvalid (hoptional key hkey), hopen key hkey] at htruthy
    cases htruthy
  rw [sandboxDeadline_eq _ _ hmetadata, hget _ (by decide), hget _ (by decide)]

end

section
variable {host : ManifestHost} {text : List Char} {files : PackageFiles} {d : Deployment}
  {server server₁ : Server} {snapshot : String → Except Failure (String × TaskPackage)}
  {materialize : String → Except Failure TaskPackage} {request : TaskRequest}
  {stored : TaskRecord}

/-- The deadline of a registered task covers the limits that its runner grants just when these fit
into the time that was counted for them. -/
theorem deadline_covers_iff (profile : EvaluationProfile)
    (hpackage : request.package server snapshot materialize =
      .ok (artifactId, taskPackage host text files findings))
    (hregister : registerTaskRequest host.lower d host.parseInt host.repr server snapshot
      materialize request = (.ok task, server₁))
    (hnew : server.store.getTask request.taskRef = none)
    (hstored : server₁.store.getTask request.taskRef = some stored)
    (hkind : manifestKind host text = some kind) (hmem : kind ∈ budgetedKinds)
    (hmetadata : Dict.get metadata "timeout_seconds" = .null) :
    DeadlineCovers host.parseInt metadata stored.manifest
        (phaseBudgetMs host text profile kind files.testInputs) ↔
      BudgetFits host text files request.metadata profile kind := by
  have hrecord := registerTaskRequest_ok hpackage hregister hnew hstored
  have hsplit : ∀ kind ∈ budgetedKinds, kind ∈ classicKinds ∨
      classicKinds.contains kind = false ∧ kind ∈ ["optimization", "model", "interactive"] := by
    decide
  rcases hsplit kind hmem with hclassic | ⟨hother, hopen⟩
  · obtain ⟨limit, hlimit, hdeadline⟩ := classic_deadline hrecord hkind hclassic hmetadata
    have hcontains := List.contains_iff_mem.2 hclassic
    rw [DeadlineCovers, BudgetFits, hdeadline, phaseBudgetMs, if_pos hcontains, if_pos hcontains]
    constructor
    · rintro ⟨seconds, hseconds, hcovers⟩ limit' hlimit' config hconfig
      cases hseconds
      have hsame : some limit = some limit' := hlimit.symm.trans hlimit'
      cases hsame
      apply hcovers
      rw [hconfig]
      rfl
    · intro hfits
      refine ⟨_, rfl, fun ms hms => ?_⟩
      obtain ⟨config, hconfig, rfl⟩ := Option.map_eq_some_iff.1 hms
      exact hfits limit hlimit config (toOption_eq_some.1 hconfig)
  · rw [DeadlineCovers, BudgetFits, open_deadline hrecord hkind hopen hmetadata, hother,
      if_neg Bool.false_ne_true]

end

theorem compileLimitMs_le (language : String) : compileLimitMs language ≤ 30000 := by
  rw [compileLimitMs]
  split
  · exact Nat.zero_le _
  · exact le_rfl

theorem classicBudgetMs_le (package : TaskPackage) (lower : String → String)
    (config : ClassicConfig)
    (hsource : config.answerSource = package.answerSource lower) :
    (classicBudgetMs config package.testInputs : Int) ≤
      package.wallTimeMs lower config.timeLimitMs := by
  have hlanguage := compileLimitMs_le config.language
  have hreference := compileLimitMs_le config.referenceLanguage
  have hruns : ((package.testInputs * config.timeLimitMs : Nat) : Int) =
      package.testInputs * config.timeLimitMs := Nat.cast_mul _ _
  rw [classicBudgetMs, solutionLimitMs, solutionLimitMs, TaskPackage.wallTimeMs, hsource, ← hruns]
  generalize package.testInputs * config.timeLimitMs = runs
  split
  · omega
  · omega

/-- The limits of a batch task fit when its readers agree. -/
theorem classic_fits {host : ManifestHost} {text : List Char} {files : PackageFiles}
    {validation : TaskValidation} (h : Accepted host text files validation)
    (hkind : validation.kind = some kind) (hmem : kind ∈ classicKinds)
    (hflat : FlatManifest host.toLower text classicNames)
    (hreference : ∀ language, flatValue text "reference_language" = some language →
      classicLanguages.contains (host.lower language) = true)
    (metadata : Dict) (profile : EvaluationProfile) :
    BudgetFits host text files metadata profile kind := by
  rw [BudgetFits, if_pos (List.contains_iff_mem.2 hmem)]
  intro limit hlimit config hconfig
  obtain ⟨config', hconfig', hagree⟩ := classic_agreement h hkind hmem hflat hreference
  cases Except.ok.inj (hconfig.symm.trans hconfig')
  have hsettings := h.settings
  rw [← h.kind, hkind, Option.getD_some, branch_classic _ hmem] at hsettings
  have htime := hagree.timeLimit
  have hsource := hagree.answerSource
  rw [hsettings, registrationSettings_get _ (by decide)] at htime hsource
  simp only [TaskPackage.classicSettings, Dict.get_set_text, Dict.get_setSome_text,
    Dict.get_set_self, Dict.get_setSome_self, ne_eq, String.reduceEq, not_false_eq_true,
    hlimit] at htime hsource
  cases htime
  have hbudget := classicBudgetMs_le (taskPackage host text files {}) host.lower config
    (Json.text_inj hsource).symm
  rw [countedSeconds]
  have htests : (taskPackage host text files {}).testInputs = files.testInputs := rfl
  rw [htests] at hbudget
  omega

namespace Sample

def slowOptimization : List Char :=
  manifest ["kind: optimization", "version: 1", "runner: optimization", "language: rust",
    "time_limit_ms: 15000", "memory_limit_mb: 256", "output_limit_bytes: 65536",
    "evaluation: evaluator:evaluate", "objective_direction: minimize", "score_mode: checker_score",
    "aggregation: mean"]

def testsCounted (tests : Nat) : PackageFiles := { oneTest with testInputs := tests }

def packed (text : List Char) (tests : Nat) (_ : String) :
    Except Failure (String × TaskPackage) :=
  .ok (artifact, taskPackage asciiHost text (testsCounted tests) {})

/-- Registers a manifest with so many tests. -/
def registerText (text : List Char) (tests : Nat) : Except Failure TaskRecord × Server :=
  registerTaskRequest asciiHost.lower deployment asciiHost.parseInt asciiHost.repr .empty
    (packed text tests) noArtifact (taskRequest [])

def isStored (text : List Char) (tests : Nat) : Bool :=
  (storedManifest (registerText text tests)).isSome

theorem stored_manifest (h : isStored text tests = true) :
    ∃ task server stored, registerText text tests = (.ok task, server) ∧
      server.store.getTask "cats" = some stored := by
  obtain ⟨manifest, hmanifest⟩ := Option.isSome_iff_exists.1 h
  obtain ⟨task, htask, hmanifest⟩ := Option.bind_eq_some_iff.1 hmanifest
  obtain ⟨stored, hstored, -⟩ := Option.map_eq_some_iff.1 hmanifest
  exact ⟨task, _, stored, Prod.ext (toOption_eq_some.1 htask) rfl, hstored⟩

end Sample

/-- A hundred instances of fifteen seconds, and a batch task whose time limit is given twice. -/
theorem deadline_exceeded :
    (∃ task server stored,
      Sample.registerText Sample.slowOptimization 100 = (.ok task, server) ∧
      server.store.getTask "cats" = some stored ∧
      ¬DeadlineCovers Sample.asciiHost.parseInt [] stored.manifest
        (phaseBudgetMs Sample.asciiHost Sample.slowOptimization .live "optimization" 100)) ∧
    ∃ task server stored,
      Sample.registerText (Sample.batch ["time_limit_ms: 100", "time_limit_ms: 60000"]) 10 =
        (.ok task, server) ∧
      server.store.getTask "cats" = some stored ∧
      ¬DeadlineCovers Sample.asciiHost.parseInt [] stored.manifest
        (phaseBudgetMs Sample.asciiHost
          (Sample.batch ["time_limit_ms: 100", "time_limit_ms: 60000"]) .live "coding" 10) := by
  constructor
  · obtain ⟨task, server, stored, hregister, hstored⟩ := Sample.stored_manifest
      (show Sample.isStored Sample.slowOptimization 100 = true by decide +kernel)
    have hrecord := registerTaskRequest_ok rfl hregister rfl hstored
    have hdeadline := open_deadline hrecord
      (show manifestKind Sample.asciiHost Sample.slowOptimization = some "optimization" by
        decide +kernel) (by decide) (show Dict.get ([] : Dict) "timeout_seconds" = .null from rfl)
    have hbudget : phaseBudgetMs Sample.asciiHost Sample.slowOptimization .live "optimization" 100 =
        some 4530000 := by decide +kernel
    refine ⟨task, server, stored, hregister, hstored, ?_⟩
    rintro ⟨seconds, hseconds, hcovers⟩
    cases hdeadline.symm.trans hseconds
    exact absurd (hcovers _ hbudget) (by decide)
  · obtain ⟨task, server, stored, hregister, hstored⟩ := Sample.stored_manifest
      (show Sample.isStored (Sample.batch ["time_limit_ms: 100", "time_limit_ms: 60000"]) 10 = true
        by decide +kernel)
    have hrecord := registerTaskRequest_ok rfl hregister rfl hstored
    obtain ⟨limit, hlimit, hdeadline⟩ := classic_deadline hrecord
      (show manifestKind Sample.asciiHost
        (Sample.batch ["time_limit_ms: 100", "time_limit_ms: 60000"]) = some "coding" by
        decide +kernel) (by decide) (show Dict.get ([] : Dict) "timeout_seconds" = .null from rfl)
    have hread : ((taskPackage Sample.asciiHost
        (Sample.batch ["time_limit_ms: 100", "time_limit_ms: 60000"]) (Sample.testsCounted 10)
        {}).timeLimit Sample.asciiHost.parseInt).1 = some 100 := by decide +kernel
    have hsame : some limit = some 100 := hlimit.symm.trans hread
    cases hsame
    have hbudget : phaseBudgetMs Sample.asciiHost
        (Sample.batch ["time_limit_ms: 100", "time_limit_ms: 60000"]) .live "coding" 10 =
        some 600000 := by decide +kernel
    refine ⟨task, server, stored, hregister, hstored, ?_⟩
    rintro ⟨seconds, hseconds, hcovers⟩
    cases hdeadline.symm.trans hseconds
    exact absurd (hcovers _ hbudget) (by decide +kernel)

theorem deadline_covers_iff_sample : ∃ task server stored,
    Sample.registerText (Sample.batch ["time_limit_ms: 1000"]) 10 = (.ok task, server) ∧
    server.store.getTask "cats" = some stored ∧
    DeadlineCovers Sample.asciiHost.parseInt [] stored.manifest
      (phaseBudgetMs Sample.asciiHost (Sample.batch ["time_limit_ms: 1000"]) .live
        "coding" 10) := by
  obtain ⟨task, server, stored, hregister, hstored⟩ := Sample.stored_manifest
    (show Sample.isStored (Sample.batch ["time_limit_ms: 1000"]) 10 = true by decide +kernel)
  have hkind : manifestKind Sample.asciiHost (Sample.batch ["time_limit_ms: 1000"]) =
      some "coding" := by decide +kernel
  have hread : ((taskPackage Sample.asciiHost (Sample.batch ["time_limit_ms: 1000"])
      (Sample.testsCounted 10) {}).timeLimit Sample.asciiHost.parseInt).1 = some 1000 := by
    decide +kernel
  have hbudget : (classicConfig Sample.asciiHost
      (Sample.batch ["time_limit_ms: 1000"])).toOption.map
      (fun config => classicBudgetMs config 10) = some 10000 := by decide +kernel
  have hmetadata : Dict.get ([] : Dict) "timeout_seconds" = .null := rfl
  have hpackage : (Sample.taskRequest []).package .empty
      (Sample.packed (Sample.batch ["time_limit_ms: 1000"]) 10) Sample.noArtifact = .ok
        (Sample.artifact, taskPackage Sample.asciiHost (Sample.batch ["time_limit_ms: 1000"])
          (Sample.testsCounted 10) {}) := rfl
  have hcovers := deadline_covers_iff .live hpackage hregister rfl hstored hkind (by decide)
    hmetadata
  refine ⟨task, server, stored, hregister, hstored, hcovers.2 ?_⟩
  rw [BudgetFits, if_pos (by decide)]
  intro limit hlimit config hconfig
  have hsame : some limit = some 1000 := hlimit.symm.trans hread
  cases hsame
  rw [hconfig] at hbudget
  have hbudget : classicBudgetMs config 10 = 10000 := Option.some.inj hbudget
  have htests : (Sample.testsCounted 10).testInputs = 10 := rfl
  rw [htests, hbudget]
  decide +kernel

end BrunostJudge
