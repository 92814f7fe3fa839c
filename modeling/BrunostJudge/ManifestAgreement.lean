import BrunostJudge.Authority
import BrunostJudge.ManifestReaders
import BrunostJudge.TaskValidator

namespace BrunostJudge
open Python
set_option autoImplicit true

section
variable {host : ManifestHost} {text : List Char} {names : List String}
  {name : String} (hmem : name ∈ names) (hname : KeyName name)
include hmem hname

theorem given_clean (h : CleanManifest host.toLower text names) :
    given (flatValue text name) = flatValue text name := by
  cases hvalue : flatValue text name with
  | none => rfl
  | some value => exact if_pos (decide_eq_true (flatValue_nonempty hmem hname h hvalue))

theorem fieldOr_flat (h : FlatManifest host.toLower text names) (default : String) :
    fieldOr host text name default = (manifestValue text name).getD default := by
  rw [fieldOr, manifestField_flat hmem hname h, manifestValue_clean hmem hname h.toCleanManifest,
    given_clean hmem hname h.toCleanManifest]

end

theorem normalizeLanguage_supported {host : ManifestHost} {value : String}
    (h : classicLanguages.contains (host.lower value) = true) (label : String) :
    ∃ language ∈ ["python", "cpp", "c", "rust"],
      normalizeLanguage host value label = .ok language := by
  rw [normalizeLanguage]
  generalize host.lower value = language at h
  simp only [classicLanguages, List.contains_iff_mem, List.mem_cons, List.not_mem_nil,
    or_false] at h
  rcases h with rfl | rfl | rfl | rfl | rfl | rfl | rfl | rfl | rfl | rfl
  · exact ⟨"python", by decide, rfl⟩
  · exact ⟨"python", by decide, rfl⟩
  · exact ⟨"c", by decide, rfl⟩
  · exact ⟨"cpp", by decide, rfl⟩
  · exact ⟨"cpp", by decide, rfl⟩
  · exact ⟨"cpp", by decide, rfl⟩
  · exact ⟨"cpp", by decide, rfl⟩
  · exact ⟨"cpp", by decide, rfl⟩
  · exact ⟨"rust", by decide, rfl⟩
  · exact ⟨"rust", by decide, rfl⟩

theorem supported_normal (host : Lower) {language : String}
    (h : language ∈ ["python", "cpp", "c", "rust"]) :
    classicLanguages.contains (host.lower language) = true := by
  have hnames : ∀ name ∈ ["python", "cpp", "c", "rust"],
      KeyName name ∧ classicLanguages.contains name = true := by
    decide
  obtain ⟨hname, hsupported⟩ := hnames language h
  rw [hname.lower_eq host]
  exact hsupported

theorem judgeUnless_of {check : Bool} (h : check = true) (message : PyStr) :
    judgeUnless check message = .ok () := if_pos h

theorem positiveInt_of_limit {host : ManifestHost} {package : TaskPackage} {default : Int}
    (hdefault : 1 ≤ default)
    (h : (package.classicLimit host.parseInt name default low high).1 = some limit) :
    positiveInt host (package.field name) default name = .ok limit ∧ 1 ≤ limit := by
  rw [TaskPackage.classicLimit] at h
  cases hfield : package.field name with
  | none =>
    rw [hfield] at h
    cases h
    refine ⟨?_, hdefault⟩
    exact bind_ok.2 ⟨_, rfl, bind_ok.2 ⟨(), judgeUnless_of (decide_eq_true hdefault) _, rfl⟩⟩
  | some value =>
    rw [hfield] at h
    dsimp only at h
    split at h
    · cases h
    · next parsed hparsed =>
      cases h
      obtain ⟨hparse, hpositive⟩ := Option.filter_eq_some_iff.1 hparsed
      refine ⟨?_, of_decide_eq_true hpositive⟩
      rw [positiveInt]
      dsimp only
      rw [toOption_eq_some.1 hparse]
      exact bind_ok.2 ⟨_, rfl, bind_ok.2 ⟨(), judgeUnless_of hpositive _, rfl⟩⟩

theorem textOr_of_ne {value : String} (h : value ≠ "") (other : Json) :
    (Json.text value).or other = .text value := if_pos (Json.text_truthy.2 h)

theorem declared_ne_empty {package : TaskPackage} (h : package.declared name = some value) :
    value ≠ "" :=
  of_decide_eq_true (Option.filter_eq_some_iff.1 h).2

theorem registrationSettings_runtime {package : TaskPackage} {settings : Dict}
    (hkind : package.kind ≠ some "model")
    (hsettings : settings.get "runtime" = .null ∨ settings.get "runtime" =
      .text ((package.declared "runtime").getD "python-3.13")) :
    (package.registrationSettings parseInt settings).get "runtime" =
      .text ((package.declared "runtime").getD "python-3.13") := by
  have hne : (package.declared "runtime").getD "python-3.13" ≠ "" := by
    cases hdeclared : package.declared "runtime" with
    | none => decide
    | some value => exact declared_ne_empty hdeclared
  rw [TaskPackage.registrationSettings, Dict.get_setSome_text _ _ (by decide), Dict.get_set_self,
    if_neg hkind, Dict.get_setSome_text _ _ (by decide)]
  obtain hnull | hruntime := hsettings
  · rw [hnull]
    rfl
  · rw [hruntime, textOr_of_ne hne]

theorem default_runtime {settings : Dict} {declared : Option String}
    (h : settings.lookup? "runtime" = declared.map Json.text) :
    (if settings.contains "runtime" then settings
      else settings.setSome "runtime" (some (.text "python-3.13"))).get "runtime" =
      .text (declared.getD "python-3.13") := by
  cases declared with
  | none =>
    rw [if_neg, Dict.get_setSome_self]
    · rfl
    · rw [Dict.contains_eq, h]
      decide
  | some value =>
    rw [if_pos, Dict.get_eq, h]
    · rfl
    · rw [Dict.contains_eq, h]
      rfl

theorem schedulingSettings_runtime (package : TaskPackage) :
    (package.schedulingSettings (some "python-3.13")).get "runtime" =
      .text ((package.declared "runtime").getD "python-3.13") := by
  rw [TaskPackage.schedulingSettings, Dict.get_setSome_text _ _ (by decide)]
  apply default_runtime
  simp only [List.foldl_cons, List.foldl_nil]
  rw [Dict.lookup?_setSome_text _ _ (by decide), Dict.lookup?_setSome_text _ _ (by decide),
    Dict.lookup?_setSome_text _ _ (by decide)]
  cases package.declared "runtime" with
  | none => rfl
  | some value => rfl

/-- What the acceptance of a package says about its manifest. -/
structure Accepted (host : ManifestHost) (text : List Char) (files : PackageFiles)
    (validation : TaskValidation) : Prop where
  kind : validation.kind = manifestKind host text
  version : (taskPackage host text files {}).versionErrors host.repr = []
  findings : manifestFindings host text files ((manifestKind host text).getD "") = .ok {}
  branch : ((taskPackage host text files {}).kindSettings host.lower host.parseInt
    ((manifestKind host text).getD "")).2 = []
  settings : validation.settings = (taskPackage host text files {}).registrationSettings
    host.parseInt ((taskPackage host text files {}).kindSettings host.lower host.parseInt
      ((manifestKind host text).getD "")).1

theorem manifestFindings_reported {package : TaskPackage} {found other : TaskFindings}
    (hfound : manifestFindings host text files kind = .ok found)
    (hpackage : package.findings = found.append other)
    (hbranch : (package.kindSettings lower parseInt kind).2 = []) : found = {} := by
  have hparts : package.findings.opening = [] ∧ package.findings.source = [] ∧
      (classicKinds.contains kind = true → package.findings.entrypoint = []) := by
    rw [TaskPackage.kindSettings] at hbranch
    split at hbranch
    · next hquiz =>
      subst hquiz
      simp only [List.append_eq_nil_iff] at hbranch
      exact ⟨hbranch.1.1, hbranch.2, fun hclassic => absurd hclassic (by decide)⟩
    · split at hbranch
      · simp only [TaskPackage.classicSettings, List.append_eq_nil_iff] at hbranch
        obtain ⟨⟨⟨⟨⟨⟨⟨⟨⟨⟨⟨hopening, _⟩, hsource⟩, hentrypoint⟩, _⟩, _⟩, _⟩, _⟩, _⟩, _⟩, _⟩, _⟩ :=
          hbranch
        exact ⟨hopening, hsource, fun _ => hentrypoint⟩
      · next hclassic =>
        have hopen : package.findings.opening ++ package.findings.source = [] := by
          split at hbranch
          · exact hbranch
          · split at hbranch <;> exact hbranch
        obtain ⟨hopening, hsource⟩ := List.append_eq_nil_iff.1 hopen
        exact ⟨hopening, hsource, fun h => absurd h hclassic⟩
  rw [hpackage] at hparts
  obtain ⟨hopening, hsource, hentrypoint⟩ := hparts
  have hopening := (List.append_eq_nil_iff.1 hopening).1
  have hsource := (List.append_eq_nil_iff.1 hsource).1
  rw [manifestFindings] at hfound
  split at hfound
  · cases hfound
    exact TaskFindings.ext hopening hsource rfl rfl rfl rfl rfl
  · split at hfound
    · rw [quizFindings] at hfound
      obtain ⟨document, _, hfound⟩ := bind_ok.1 hfound
      cases pure_ok.1 hfound
      exact TaskFindings.ext hopening hsource rfl rfl rfl rfl rfl
    · split at hfound
      · next hclassic =>
        cases hfound
        have hentrypoint := (List.append_eq_nil_iff.1 (hentrypoint hclassic)).1
        exact TaskFindings.ext hopening hsource hentrypoint rfl rfl rfl rfl
      · cases hfound
        rfl

theorem validatePackage_accepted (h : validatePackage host text files = .ok validation)
    (hvalid : validation.valid = true) : Accepted host text files validation := by
  obtain ⟨findings, hfindings, h⟩ := bind_ok.1 h
  cases pure_ok.1 h
  rw [TaskValidation.valid, TaskPackage.validateTask, List.isEmpty_iff] at hvalid
  simp only [List.append_eq_nil_iff] at hvalid
  obtain ⟨⟨⟨-, hversion⟩, hbranch⟩, -⟩ := hvalid
  cases manifestFindings_reported hfindings rfl hbranch
  exact ⟨rfl, hversion, hfindings, hbranch, rfl⟩

theorem accepted_version {host : ManifestHost} {text : List Char}
    (h : Accepted host text files validation) (hkind : manifestKind host text ≠ some "model") :
    manifestField host text "version" = some "1" := by
  have hversion := h.version
  have hexpected :
      (if (taskPackage host text files {}).kind = some "model" then "2" else "1") = "1" :=
    if_neg hkind
  have hfield : (taskPackage host text files {}).field = manifestField host text := rfl
  rw [TaskPackage.versionErrors, hexpected, hfield] at hversion
  cases hvalue : manifestField host text "version" with
  | none =>
    rw [hvalue] at hversion
    cases hversion
  | some value =>
    rw [hvalue] at hversion
    rw [of_decide_eq_true (finding_nil.1 hversion)]

/-- The fields the readers of a batch task look for. -/
def classicNames : List String :=
  ["kind", "version", "runner", "language", "answer_source", "scoring_mode", "reference_language",
    "time_limit_ms", "memory_limit_mb", "output_limit_bytes", "runtime"]

/-- What all readers of a batch task agree on. -/
structure ClassicAgreement (host : ManifestHost) (text : List Char) (validation : TaskValidation)
    (kind : String) (config : ClassicConfig) : Prop where
  dispatch : taskKind host text = kind
  runtime : Dict.get validation.settings "runtime" = .text (taskRuntime host text)
  sameKind : config.kind = kind
  language : normalizeLanguage host (fieldOr host text "language" "") "language" =
    .ok config.language
  referenceLanguage : normalizeLanguage host
    (fieldOr host text "reference_language" config.language) "reference_language" =
      .ok config.referenceLanguage
  timeLimit : Dict.get validation.settings "time_limit_ms" = .num (.int config.timeLimitMs)
  memoryLimit : Dict.get validation.settings "memory_limit_mb" = .num (.int config.memoryLimitMb)
  outputLimit : Dict.get validation.settings "output_limit_bytes" =
    .num (.int config.outputLimitBytes)
  answerSource : Dict.get validation.settings "answer_source" = .text config.answerSource
  scoringMode : Dict.get validation.settings "scoring_mode" = .text config.scoringMode.text

section
variable {host : ManifestHost} {text : List Char} {files : PackageFiles}
  {validation : TaskValidation}

theorem branch_classic (package : TaskPackage) (hkind : kind ∈ classicKinds) :
    package.kindSettings lower parseInt kind = package.classicSettings lower parseInt := by
  rw [TaskPackage.kindSettings, if_neg, if_pos (List.contains_iff_mem.2 hkind)]
  rintro rfl
  exact absurd hkind (by decide)

theorem accepted_classicFindings (h : Accepted host text files validation)
    (hkind : manifestKind host text = some kind) (hmem : kind ∈ classicKinds) :
    classicFindings host text = {} := by
  have hfindings := h.findings
  rw [hkind, Option.getD_some, manifestFindings, if_neg, if_neg,
    if_pos (List.contains_iff_mem.2 hmem)] at hfindings
  · exact Except.ok.inj hfindings
  · rintro rfl
    exact absurd hmem (by decide)
  · rintro rfl
    exact absurd hmem (by decide)

theorem limit_setting (value : Option Int) (hvalue : value = some limit) (hlimit : 1 ≤ limit)
    (other : Json) :
    ((value.map fun i => Json.num (.int i)).getD other) = .num (.int (limit.toNat : Nat)) := by
  rw [hvalue, Option.map_some, Option.getD_some, Int.toNat_of_nonneg (by omega)]

theorem scoringMode_text (h : ["all_or_nothing", "percentage"].contains mode = true) :
    mode = (if mode = "percentage" then ScoringMode.percentage else .allOrNothing).text := by
  simp only [List.contains_iff_mem, List.mem_cons, List.not_mem_nil, or_false] at h
  obtain rfl | rfl := h
  · rfl
  · rfl

theorem classic_agreement (h : Accepted host text files validation)
    (hkind : validation.kind = some kind) (hmem : kind ∈ classicKinds)
    (hflat : FlatManifest host.toLower text classicNames)
    (hreference : ∀ language, flatValue text "reference_language" = some language →
      classicLanguages.contains (host.lower language) = true) :
    ∃ config, classicConfig host text = .ok config ∧
      ClassicAgreement host text validation kind config := by
  rw [h.kind] at hkind
  have hfindings := accepted_classicFindings h hkind hmem
  have hbranch := h.branch
  have hsettings := h.settings
  rw [hkind, Option.getD_some, branch_classic _ hmem] at hbranch hsettings
  have hmodel : manifestKind host text ≠ some "model" := by
    rw [hkind]
    rintro he
    cases he
    exact absurd hmem (by decide)
  have hversion := accepted_version h hmodel
  simp only [TaskPackage.classicSettings, List.append_eq_nil_iff, finding_nil] at hbranch
  obtain ⟨⟨⟨⟨⟨⟨⟨⟨⟨⟨⟨-, hsource⟩, -⟩, -⟩, hmode⟩, -⟩, -⟩, -⟩, hlimits⟩, -⟩, -⟩, -⟩ := hbranch
  obtain ⟨htime, hmemory, houtput⟩ := classicLimits_nil hlimits
  have hnames : ∀ name ∈ classicNames, KeyName name := by decide
  have hfield : ∀ name ∈ classicNames, manifestField host text name = manifestValue text name :=
    fun name hname => (manifestField_flat hname (hnames name hname) hflat).trans
      (manifestValue_clean hname (hnames name hname) hflat.toCleanManifest).symm
  have hor : ∀ name ∈ classicNames, ∀ default,
      fieldOr host text name default = (manifestValue text name).getD default :=
    fun name hname => fieldOr_flat hname (hnames name hname) hflat
  obtain ⟨hdispatch, value, hvalue, hlower⟩ := manifestKind_flat hflat (by decide) hkind
  rw [← manifestValue_clean (by decide) (hnames _ (by decide)) hflat.toCleanManifest] at hvalue
  rw [hfield _ (by decide)] at hversion
  -- The limits, as the validator and the runner read them.
  obtain ⟨time, htime, htime₁⟩ := classicLimit_valid (by decide) htime
  obtain ⟨memory, hmemory, hmemory₁⟩ := classicLimit_valid (by decide) hmemory
  obtain ⟨output, houtput, houtput₁⟩ := classicLimit_valid (by decide) houtput
  have htime' := (positiveInt_of_limit (by decide) htime).1
  have hmemory' := (positiveInt_of_limit (by decide) hmemory).1
  have houtput' := (positiveInt_of_limit (by decide) houtput).1
  have hp : (taskPackage host text files {}).field = manifestField host text := rfl
  rw [hp, hfield _ (by decide)] at htime' hmemory' houtput'
  -- The languages.
  have hopening := congrArg TaskFindings.opening hfindings
  simp only [classicFindings, List.append_eq_nil_iff, runnerFindings, languageFindings,
    finding_nil] at hopening
  obtain ⟨hrunner, hlanguage⟩ := hopening
  obtain ⟨language, hfour, hnormal⟩ := normalizeLanguage_supported hlanguage "language"
  have hrefer : classicLanguages.contains
      (host.lower ((manifestValue text "reference_language").getD language)) = true := by
    rw [manifestValue_clean (by decide) (hnames _ (by decide)) hflat.toCleanManifest]
    cases hvalue : flatValue text "reference_language" with
    | none => exact supported_normal host.toLower hfour
    | some other => exact hreference other hvalue
  obtain ⟨referenceLanguage, -, hreferNormal⟩ :=
    normalizeLanguage_supported hrefer "reference_language"
  have hrunner' : host.lower ((manifestValue text "runner").getD "classic") = "classic" := by
    rw [hfield _ (by decide), List.contains_iff_mem] at hrunner
    have hclassic : host.lower "classic" = "classic" := KeyName.lower_eq (by decide) host.toLower
    obtain hnone | hsome := List.mem_cons.1 hrunner
    · rw [hnone]
      exact hclassic
    · rw [List.mem_singleton.1 hsome]
      exact hclassic
  have hkind' : host.lower ((manifestValue text "kind").getD "") = kind := by
    rw [hvalue]
    exact hlower
  have hsource' : TaskPackage.answerSource (taskPackage host text files {}) host.lower =
      host.lower ((manifestValue text "answer_source").getD "answer_key") :=
    congrArg host.lower (hor "answer_source" (by decide) "answer_key")
  have hmode' : TaskPackage.scoringMode (taskPackage host text files {}) host.lower
      "all_or_nothing" =
      host.lower ((manifestValue text "scoring_mode").getD "all_or_nothing") :=
    congrArg host.lower (hor "scoring_mode" (by decide) "all_or_nothing")
  rw [hsource'] at hsource
  rw [hmode'] at hmode
  rw [hor _ (by decide)] at hnormal
  have hthree : ["coding", "icpc", "interactive"].contains
      (host.lower ((manifestValue text "kind").getD "")) = true := by
    rw [hkind']
    exact (by decide : ∀ kind ∈ classicKinds,
      ["coding", "icpc", "interactive"].contains kind = true)
      kind hmem
  have hconfig : ∃ config, classicConfig host text = .ok config ∧
      config.kind = host.lower ((manifestValue text "kind").getD "") ∧
      config.language = language ∧ config.referenceLanguage = referenceLanguage ∧
      config.timeLimitMs = time.toNat ∧ config.memoryLimitMb = memory.toNat ∧
      config.outputLimitBytes = output.toNat ∧
      config.answerSource = host.lower ((manifestValue text "answer_source").getD "answer_key") ∧
      config.scoringMode =
        if host.lower ((manifestValue text "scoring_mode").getD "all_or_nothing") = "percentage"
        then .percentage else .allOrNothing := by
    apply Exists.intro
    apply And.intro
    · rw [classicConfig]
      exact bind_ok.2 ⟨(), judgeUnless_of hthree _,
        bind_ok.2 ⟨(), judgeUnless_of (decide_eq_true hversion) _,
        bind_ok.2 ⟨(), judgeUnless_of (decide_eq_true hrunner') _,
        bind_ok.2 ⟨language, hnormal,
        bind_ok.2 ⟨(), judgeUnless_of hsource _,
        bind_ok.2 ⟨(), judgeUnless_of hmode _,
        bind_ok.2 ⟨referenceLanguage, hreferNormal,
        bind_ok.2 ⟨time, htime', bind_ok.2 ⟨memory, hmemory', bind_ok.2 ⟨output, houtput',
        rfl⟩⟩⟩⟩⟩⟩⟩⟩⟩⟩
    · exact ⟨rfl, rfl, rfl, rfl, rfl, rfl, rfl, rfl⟩
  obtain ⟨config, hconfig, hsame, rfl, rfl, htime₂, hmemory₂, houtput₂, hsource₂, hmode₂⟩ := hconfig
  refine ⟨config, hconfig, ?_⟩
  have hdeclared : (taskPackage host text files {}).declared "runtime" =
      given (flatValue text "runtime") := by
    rw [TaskPackage.declared, hp, manifestField_flat (by decide) (hnames _ (by decide)) hflat]
  have hpkind : (taskPackage host text files {}).kind ≠ some "model" := hmodel
  refine ⟨hdispatch, ?_, hsame.trans hkind', hor "language" (by decide) "" ▸ hnormal,
    hor "reference_language" (by decide) config.language ▸ hreferNormal, ?_, ?_, ?_, ?_, ?_⟩
  · rw [hsettings, registrationSettings_runtime hpkind, hdeclared,
      taskRuntime_flat hflat (by decide)]
    right
    simp only [TaskPackage.classicSettings, Dict.get_set_text, Dict.get_setSome_text, ne_eq,
      String.reduceEq, not_false_eq_true]
    exact schedulingSettings_runtime _
  · rw [hsettings, registrationSettings_get _ (by decide)]
    simp only [TaskPackage.classicSettings, Dict.get_set_text, Dict.get_setSome_text,
      Dict.get_setSome_self, ne_eq, String.reduceEq, not_false_eq_true]
    rw [htime₂]
    exact limit_setting _ htime htime₁ _
  · rw [hsettings, registrationSettings_get _ (by decide)]
    simp only [TaskPackage.classicSettings, Dict.get_set_text, Dict.get_setSome_text,
      Dict.get_setSome_self, ne_eq, String.reduceEq, not_false_eq_true]
    rw [hmemory₂]
    exact limit_setting _ hmemory hmemory₁ _
  · rw [hsettings, registrationSettings_get _ (by decide)]
    simp only [TaskPackage.classicSettings, Dict.get_set_text, Dict.get_setSome_text,
      Dict.get_setSome_self, ne_eq, String.reduceEq, not_false_eq_true]
    rw [houtput₂]
    exact limit_setting _ houtput houtput₁ _
  · rw [hsettings, registrationSettings_get _ (by decide)]
    simp only [TaskPackage.classicSettings, Dict.get_set_text, Dict.get_set_self, ne_eq,
      String.reduceEq, not_false_eq_true]
    exact congrArg Json.text (hsource'.trans hsource₂.symm)
  · rw [hsettings, registrationSettings_get _ (by decide)]
    simp only [TaskPackage.classicSettings, Dict.get_set_text, Dict.get_set_self, ne_eq,
      String.reduceEq, not_false_eq_true]
    rw [hmode', hmode₂]
    exact congrArg Json.text (scoringMode_text hmode)

end

/-- The fields the readers of an optimization task look for. -/
def optimizationNames : List String :=
  ["kind", "version", "runner", "language", "time_limit_ms", "memory_limit_mb",
    "output_limit_bytes", "objective_direction", "score_mode", "aggregation", "baseline_enabled",
    "evaluator_entrypoint", "baseline_entrypoint", "runtime"]

/-- What all readers of an optimization task agree on. -/
structure OptimizationAgreement (host : ManifestHost) (text : List Char)
    (validation : TaskValidation) (config : OptimizationConfig) : Prop where
  dispatch : taskKind host text = "optimization"
  runtime : Dict.get validation.settings "runtime" = .text (taskRuntime host text)
  language : normalizeLanguage host (fieldOr host text "language" "") "language" =
    .ok config.language
  timeLimit : fieldInt host text "time_limit_ms" = some (config.timeLimitMs : Int)
  memoryLimit : fieldInt host text "memory_limit_mb" = some (config.memoryLimitMb : Int)
  outputLimit : fieldInt host text "output_limit_bytes" = some (config.outputLimitBytes : Int)
  objectiveDirection :
    objectiveDirection? (host.lower (fieldOr host text "objective_direction" "")) =
    some config.objectiveDirection
  scoreMode : scoreMode? (host.lower (fieldOr host text "score_mode" "")) = some config.scoreMode
  aggregation : aggregation? (host.lower (fieldOr host text "aggregation" "")) =
    some config.aggregation
  evaluator : config.evaluatorEntrypoint =
    fieldOr host text "evaluator_entrypoint" "private/evaluator.py"
  baseline : config.baselineEntrypoint = if baselineEnabled host text then
    some (fieldOr host text "baseline_entrypoint" "private/baseline.py") else none

theorem boundedInt_of_findings {host : ManifestHost} {name : String} {low high : Int}
    (hlow : 1 ≤ low) (hfield : manifestField host text name = manifestValue text name)
    (hint : fieldInt host text name = some i) (hbound : low ≤ i ∧ i ≤ high) (default : Int) :
    boundedInt host (manifestValue text name) default name low high = .ok i := by
  rw [fieldInt, hfield] at hint
  cases hvalue : manifestValue text name with
  | none =>
    rw [hvalue] at hint
    obtain rfl : (0 : Int) = i := Option.some.inj hint
    omega
  | some value =>
    rw [hvalue] at hint
    by_cases hempty : value = ""
    · subst hempty
      obtain rfl : (0 : Int) = i := Option.some.inj hint
      omega
    · have hgiven : given (some value) = some value := if_pos (decide_eq_true hempty)
      rw [hgiven] at hint
      have hparse := toOption_eq_some.1 hint
      have hpositive : positiveInt host (some value) default name = .ok i := by
        rw [positiveInt]
        dsimp only
        rw [hparse]
        exact bind_ok.2 ⟨i, rfl, bind_ok.2 ⟨(), judgeUnless_of (decide_eq_true (by omega)) _, rfl⟩⟩
      exact bind_ok.2 ⟨i, hpositive,
        bind_ok.2 ⟨(), judgeUnless_of (decide_eq_true hbound) _, rfl⟩⟩

theorem fieldInt_of_findings {host : ManifestHost}
    (h : positiveFieldFindings host text name = []) : ∃ i, fieldInt host text name = some i := by
  rw [positiveFieldFindings] at h
  rw [fieldInt]
  cases hvalue : manifestField host text name with
  | none => exact ⟨0, rfl⟩
  | some value =>
    rw [hvalue] at h
    by_cases hempty : value = ""
    · subst hempty
      exact ⟨0, rfl⟩
    · have hgiven : given (some value) = some value := if_pos (decide_eq_true hempty)
      rw [hgiven]
      have hcheck := finding_nil.1 h
      dsimp only
      cases hparse : host.parseInt value with
      | ok i => exact ⟨i, rfl⟩
      | error e =>
        rw [hparse] at hcheck
        cases hcheck

theorem judgeSome_ok {value : Option α} (h : value.isSome = true) (message : PyStr) :
    ∃ a, value = some a ∧ judgeSome value message = .ok a := by
  obtain ⟨a, rfl⟩ := Option.isSome_iff_exists.1 h
  exact ⟨a, rfl, rfl⟩

theorem scoreMode?_some (h : scoreMode? value = some mode) : mode.text = value :=
  of_decide_eq_true (List.find?_some h :)

section
variable {host : ManifestHost} {text : List Char} {files : PackageFiles}
  {validation : TaskValidation}

theorem baselineEnabled_flat (hfield : manifestField host text "baseline_enabled" =
      manifestValue text "baseline_enabled") :
    baselineEnabled host text =
      isTrueText (host.lower ((manifestValue text "baseline_enabled").getD "false")) := by
  rw [baselineEnabled, hfield]
  cases manifestValue text "baseline_enabled" with
  | none =>
    have hlower : host.lower "false" = "false" := KeyName.lower_eq (by decide) host.toLower
    rw [Option.getD_none, hlower]
    rfl
  | some value => rfl

theorem optimization_agreement (h : Accepted host text files validation)
    (hkind : validation.kind = some "optimization")
    (hflat : FlatManifest host.toLower text optimizationNames) :
    ∃ config, optimizationConfig host text = .ok config ∧
      OptimizationAgreement host text validation config := by
  rw [h.kind] at hkind
  have hfindings := h.findings
  have hsettings := h.settings
  rw [hkind, Option.getD_some] at hfindings hsettings
  have hmodel : manifestKind host text ≠ some "model" := by
    rw [hkind]
    decide
  have hversion := accepted_version h hmodel
  have hnames : ∀ name ∈ optimizationNames, KeyName name := by decide
  have hfield : ∀ name ∈ optimizationNames,
      manifestField host text name = manifestValue text name :=
    fun name hname => (manifestField_flat hname (hnames name hname) hflat).trans
      (manifestValue_clean hname (hnames name hname) hflat.toCleanManifest).symm
  have hor : ∀ name ∈ optimizationNames, ∀ default,
      fieldOr host text name default = (manifestValue text name).getD default :=
    fun name hname => fieldOr_flat hname (hnames name hname) hflat
  obtain ⟨hdispatch, value, hvalue, hlower⟩ := manifestKind_flat hflat (by decide) hkind
  rw [← manifestValue_clean (by decide) (hnames _ (by decide)) hflat.toCleanManifest] at hvalue
  rw [hfield _ (by decide)] at hversion
  replace hfindings := Except.ok.inj hfindings
  have hopening := congrArg TaskFindings.opening hfindings
  have hclosing := congrArg TaskFindings.source hfindings
  simp only [optimizationFindings, List.append_eq_nil_iff, runnerFindings, languageFindings,
    finding_nil, limitFields, List.flatMap_cons, List.flatMap_nil, and_true] at hopening hclosing
  obtain ⟨⟨⟨⟨⟨⟨⟨⟨hrunner, hlanguage⟩, htime, hmemory, houtput⟩, hbounds⟩, -⟩, hdirection⟩, hmode⟩,
    haggregation⟩, -⟩ := hopening
  obtain ⟨hbaseline, -⟩ := hclosing
  -- The limits.
  obtain ⟨time, htime⟩ := fieldInt_of_findings htime
  obtain ⟨memory, hmemory⟩ := fieldInt_of_findings hmemory
  obtain ⟨output, houtput⟩ := fieldInt_of_findings houtput
  rw [htime, hmemory, houtput] at hbounds
  simp only [boundFindings, List.append_eq_nil_iff, finding_nil, decide_eq_true_eq] at hbounds
  obtain ⟨⟨htime₁, hmemory₁⟩, houtput₁⟩ := hbounds
  have htime₂ := boundedInt_of_findings (by decide) (hfield _ (by decide)) htime htime₁ 2000
  have hmemory₂ := boundedInt_of_findings (by decide) (hfield _ (by decide)) hmemory hmemory₁ 512
  have houtput₂ :=
    boundedInt_of_findings (by decide) (hfield _ (by decide)) houtput houtput₁ 1048576
  -- The language and the objective.
  obtain ⟨language, -, hnormal⟩ := normalizeLanguage_supported hlanguage "language"
  rw [hor _ (by decide)] at hnormal hdirection hmode haggregation
  obtain ⟨direction, hdirection, hdirection₂⟩ := judgeSome_ok hdirection
    "objective_direction must be maximize or minimize"
  rw [hor _ (by decide)] at hbaseline
  obtain ⟨mode, hmode, hmode₂⟩ := judgeSome_ok hmode
    "score_mode must be checker_score or baseline_ratio"
  obtain ⟨aggregation, haggregation, haggregation₂⟩ := judgeSome_ok haggregation
    "aggregation must be mean, minimum, or geometric_mean"
  have hbaseline₂ := baselineEnabled_flat (hfield "baseline_enabled" (by decide))
  have hratio : (decide (mode ≠ .baselineRatio) ||
      isTrueText (host.lower ((manifestValue text "baseline_enabled").getD "false"))) = true := by
    rw [← hbaseline₂]
    rw [Bool.or_eq_true] at hbaseline ⊢
    apply hbaseline.imp _ id
    intro hne
    rw [decide_eq_true_eq] at hne ⊢
    rintro rfl
    exact hne (scoreMode?_some hmode).symm
  have hrunner₂ : host.lower ((manifestValue text "runner").getD "") = "optimization" := by
    rw [decide_eq_true_eq, hfield _ (by decide)] at hrunner
    rw [hrunner]
    exact KeyName.lower_eq (by decide) host.toLower
  have hkind₂ : host.lower ((manifestValue text "kind").getD "") = "optimization" := by
    rw [hvalue]
    exact hlower
  have hconfig : ∃ config, optimizationConfig host text = .ok config ∧
      config.language = language ∧ config.timeLimitMs = time.toNat ∧
      config.memoryLimitMb = memory.toNat ∧ config.outputLimitBytes = output.toNat ∧
      config.objectiveDirection = direction ∧ config.scoreMode = mode ∧
      config.aggregation = aggregation ∧ config.evaluatorEntrypoint =
        (given (manifestValue text "evaluator_entrypoint")).getD "private/evaluator.py" ∧
      config.baselineEntrypoint =
        if isTrueText (host.lower ((manifestValue text "baseline_enabled").getD "false")) then
          some ((given (manifestValue text "baseline_entrypoint")).getD "private/baseline.py")
        else none := by
    apply Exists.intro
    apply And.intro
    · rw [optimizationConfig]
      exact bind_ok.2 ⟨(), judgeUnless_of (decide_eq_true hkind₂) _,
        bind_ok.2 ⟨(), judgeUnless_of (decide_eq_true hversion) _,
        bind_ok.2 ⟨(), judgeUnless_of (decide_eq_true hrunner₂) _,
        bind_ok.2 ⟨language, mapError_ok.2 hnormal,
        bind_ok.2 ⟨direction, hdirection₂, bind_ok.2 ⟨mode, hmode₂,
        bind_ok.2 ⟨aggregation, haggregation₂, bind_ok.2 ⟨(), judgeUnless_of hratio _,
        bind_ok.2 ⟨time, htime₂, bind_ok.2 ⟨memory, hmemory₂, bind_ok.2 ⟨output, houtput₂,
        rfl⟩⟩⟩⟩⟩⟩⟩⟩⟩⟩⟩
    · exact ⟨rfl, rfl, rfl, rfl, rfl, rfl, rfl, rfl, rfl⟩
  obtain ⟨config, hconfig, rfl, htime₃, hmemory₃, houtput₃, rfl, rfl, rfl, hevaluator,
    hbaseline₃⟩ := hconfig
  have hdeclared : (taskPackage host text files {}).declared "runtime" =
      given (flatValue text "runtime") :=
    congrArg given (manifestField_flat (by decide) (hnames _ (by decide)) hflat)
  have hpkind : (taskPackage host text files {}).kind ≠ some "model" := hmodel
  refine ⟨config, hconfig, hdispatch, ?_, hor "language" (by decide) "" ▸ hnormal, ?_, ?_, ?_,
    hor "objective_direction" (by decide) "" ▸ hdirection, hor "score_mode" (by decide) "" ▸ hmode,
    hor "aggregation" (by decide) "" ▸ haggregation, ?_, ?_⟩
  · rw [hsettings, registrationSettings_runtime hpkind, hdeclared,
      taskRuntime_flat hflat (by decide)]
    exact .inl rfl
  · rw [htime, htime₃, Int.toNat_of_nonneg (by omega)]
  · rw [hmemory, hmemory₃, Int.toNat_of_nonneg (by omega)]
  · rw [houtput, houtput₃, Int.toNat_of_nonneg (by omega)]
  · rw [hevaluator, fieldOr, hfield _ (by decide)]
  · rw [hbaseline₃, hbaseline₂, fieldOr, hfield _ (by decide)]

end

/-- The fields the readers of a quiz task look for. -/
def quizNames : List String :=
  ["kind", "version", "runner", "answer_key", "scoring_mode", "free_text_normalization",
    "submission_file", "runtime"]

/-- What all readers of a quiz task agree on. -/
structure QuizAgreement (host : ManifestHost) (text : List Char) (validation : TaskValidation)
    (config : List QuizQuestion → QuizConfig) : Prop where
  dispatch : taskKind host text = "quiz"
  runtime : Dict.get validation.settings "runtime" = .text (taskRuntime host text)
  answerKey : ∀ questions, (config questions).answerKey =
    fieldOr host text "answer_key" "private/questions.json"
  scoringMode : ∀ questions, Dict.get validation.settings "scoring_mode" =
    .text (config questions).scoringMode
  normalization : ∀ questions, Dict.get validation.settings "free_text_normalization" =
    .text (config questions).textNormalization
  questions : ∀ questions, (config questions).questions = questions

section
variable {host : ManifestHost} {text : List Char} {files : PackageFiles}
  {validation : TaskValidation}

theorem bind_of_ok {x : Except ε α} (h : x = .ok a) (f : α → Except ε β) : (x >>= f) = f a := by
  rw [h]
  rfl

theorem quizFindings_nil {answerKey : String → AnswerKeyFile}
    (h : quizFindings host text answerKey = .ok {}) :
    manifestField host text "runner" = some "quiz" ∧
      isRelativePath (fieldOr host text "answer_key" "private/questions.json") = true ∧
      ∃ payload, answerKey (fieldOr host text "answer_key" "private/questions.json") =
        .document payload ∧ answerKeyFindings payload = .ok [] := by
  rw [quizFindings] at h
  obtain ⟨document, hdocument, h⟩ := bind_ok.1 h
  have hnil := pure_ok.1 h
  simp only [TaskFindings.mk.injEq, List.append_eq_nil_iff, runnerFindings, relativePathFindings,
    finding_nil, decide_eq_true_eq, and_true] at hnil
  obtain ⟨hrunner, ⟨hpath, -⟩, rfl⟩ := hnil
  refine ⟨hrunner, hpath, ?_⟩
  cases hkey : answerKey (fieldOr host text "answer_key" "private/questions.json") with
  | document payload =>
    rw [hkey] at hdocument
    exact ⟨payload, rfl, hdocument⟩
  | unreadable detail =>
    rw [hkey] at hdocument
    cases hdocument
  | outsideTask =>
    rw [hkey] at hdocument
    cases hdocument
  | outsidePrivate =>
    rw [hkey] at hdocument
    cases hdocument
  | missing =>
    rw [hkey] at hdocument
    cases hdocument

/-- The readers of an accepted quiz task agree. Only the questions can still fail to load. -/
theorem quiz_agreement (h : Accepted host text files validation)
    (hkind : validation.kind = some "quiz") (hflat : FlatManifest host.toLower text quizNames)
    (hsubmission : ∀ path, flatValue text "submission_file" = some path → isSubmissionFile path) :
    ∃ payload config,
      files.answerKey (fieldOr host text "answer_key" "private/questions.json") =
        .document payload ∧
      loadConfig host files.answerKey text = (loadQuestions payload).map config ∧
      QuizAgreement host text validation config := by
  rw [h.kind] at hkind
  have hfindings := h.findings
  have hsettings := h.settings
  have hbranch := h.branch
  rw [hkind, Option.getD_some] at hfindings hsettings hbranch
  have hmodel : manifestKind host text ≠ some "model" := by
    rw [hkind]
    decide
  have hversion := accepted_version h hmodel
  have hnames : ∀ name ∈ quizNames, KeyName name := by decide
  have hfield : ∀ name ∈ quizNames, manifestField host text name = manifestValue text name :=
    fun name hname => (manifestField_flat hname (hnames name hname) hflat).trans
      (manifestValue_clean hname (hnames name hname) hflat.toCleanManifest).symm
  have hor : ∀ name ∈ quizNames, ∀ default,
      fieldOr host text name default = (manifestValue text name).getD default :=
    fun name hname => fieldOr_flat hname (hnames name hname) hflat
  obtain ⟨hdispatch, value, hvalue, hlower⟩ := manifestKind_flat hflat (by decide) hkind
  rw [← manifestValue_clean (by decide) (hnames _ (by decide)) hflat.toCleanManifest] at hvalue
  rw [hfield _ (by decide)] at hversion
  obtain ⟨hrunner, hpath, payload, hkey, -⟩ := quizFindings_nil hfindings
  have hquiz : host.lower "quiz" = "quiz" := KeyName.lower_eq (by decide) host.toLower
  have hrunner₂ : host.lower ((manifestValue text "runner").getD "") = "quiz" := by
    rw [← hfield _ (by decide), hrunner]
    exact hquiz
  have hkind₂ : host.lower ((manifestValue text "kind").getD "") = "quiz" := by
    rw [hvalue]
    exact hlower
  have hmode : TaskPackage.scoringMode (taskPackage host text files {}) host.lower "weighted" =
      host.lower ((manifestValue text "scoring_mode").getD "weighted") :=
    congrArg host.lower (hor "scoring_mode" (by decide) "weighted")
  have hnormalization : host.lower
      (((taskPackage host text files {}).declared "free_text_normalization").getD "casefold_trim") =
      host.lower ((manifestValue text "free_text_normalization").getD "casefold_trim") :=
    congrArg host.lower (hor "free_text_normalization" (by decide) "casefold_trim")
  rw [TaskPackage.kindSettings, if_pos rfl] at hsettings hbranch
  simp only [List.append_eq_nil_iff] at hbranch
  replace hbranch := hbranch.1.2
  rw [TaskPackage.quizSettings, hmode, hnormalization] at hsettings hbranch
  obtain ⟨hmodes, hnormalizations⟩ := List.append_eq_nil_iff.1 hbranch
  have hfile : isSubmissionFile ((manifestValue text "submission_file").getD "answers.json") := by
    rw [manifestValue_clean (by decide) (hnames _ (by decide)) hflat.toCleanManifest]
    cases hdeclared : flatValue text "submission_file" with
    | none => decide
    | some path => exact hsubmission path hdeclared
  rw [hor _ (by decide)] at hpath hkey
  have hdeclared : (taskPackage host text files {}).declared "runtime" =
      given (flatValue text "runtime") :=
    congrArg given (manifestField_flat (by decide) (hnames _ (by decide)) hflat)
  have hpkind : (taskPackage host text files {}).kind ≠ some "model" := hmodel
  refine ⟨payload, fun questions =>
    ⟨(manifestValue text "answer_key").getD "private/questions.json",
    (manifestValue text "submission_file").getD "answers.json",
    host.lower ((manifestValue text "scoring_mode").getD "weighted"),
    host.lower ((manifestValue text "free_text_normalization").getD "casefold_trim"), questions⟩,
    hkey ▸ hor "answer_key" (by decide) _ ▸ rfl, ?_, hdispatch, ?_,
    fun _ => (hor "answer_key" (by decide) _).symm, fun _ => ?_, fun _ => ?_, fun _ => rfl⟩
  · rw [loadConfig]
    apply (bind_of_ok (judgeUnless_of (decide_eq_true hkind₂) _) _).trans
    apply (bind_of_ok (judgeUnless_of (decide_eq_true hversion) _) _).trans
    apply (bind_of_ok (judgeUnless_of (decide_eq_true hrunner₂) _) _).trans
    apply (bind_of_ok (judgeUnless_of hpath _) _).trans
    dsimp only
    rw [hkey]
    apply (bind_of_ok rfl _).trans
    apply (bind_of_ok (judgeUnless_of (finding_nil.1 hmodes) _) _).trans
    apply (bind_of_ok (judgeUnless_of (finding_nil.1 hnormalizations) _) _).trans
    apply (bind_of_ok (judgeUnless_of hfile _) _).trans
    apply (bind_of_ok rfl _).trans
    cases loadQuestions payload with
    | ok questions => rfl
    | error e => rfl
  · rw [hsettings, registrationSettings_runtime hpkind, hdeclared,
      taskRuntime_flat hflat (by decide)]
    right
    simp only [Dict.get_set_text, ne_eq, String.reduceEq, not_false_eq_true]
    exact schedulingSettings_runtime _
  · rw [hsettings, registrationSettings_get _ (by decide)]
    simp only [Dict.get_set_text, Dict.get_set_self, ne_eq, String.reduceEq, not_false_eq_true]
  · rw [hsettings, registrationSettings_get _ (by decide)]
    simp only [Dict.get_set_text, Dict.get_set_self, ne_eq, String.reduceEq, not_false_eq_true]

end

/-- The validator and the runners read the same manifest. -/
theorem readers_agree {host : ManifestHost}
    (hfound : validatePackage host text files = .ok validation)
    (hvalid : validation.valid = true) (hkind : validation.kind = some kind) :
    (kind ∈ classicKinds → FlatManifest host.toLower text classicNames →
      (∀ language, flatValue text "reference_language" = some language →
        classicLanguages.contains (host.lower language) = true) →
      ∃ config, classicConfig host text = .ok config ∧
        ClassicAgreement host text validation kind config) ∧
    (kind = "optimization" → FlatManifest host.toLower text optimizationNames →
      ∃ config, optimizationConfig host text = .ok config ∧
        OptimizationAgreement host text validation config) ∧
    (kind = "quiz" → FlatManifest host.toLower text quizNames →
      (∀ path, flatValue text "submission_file" = some path → isSubmissionFile path) →
      ∃ payload config,
        files.answerKey (fieldOr host text "answer_key" "private/questions.json") =
          .document payload ∧
        loadConfig host files.answerKey text = (loadQuestions payload).map config ∧
        QuizAgreement host text validation config) := by
  have haccepted := validatePackage_accepted hfound hvalid
  refine ⟨fun hmem hflat hreference => classic_agreement haccepted hkind hmem hflat hreference,
    fun he hflat => ?_, fun he hflat hsubmission => ?_⟩
  · subst he
    exact optimization_agreement haccepted hkind hflat
  · subst he
    exact quiz_agreement haccepted hkind hflat hsubmission

namespace Sample

def asciiHost : ManifestHost where
  lower s := String.ofList (s.toList.map Char.toLower)
  ascii _ _ := rfl
  parseInt s :=
    if s.all (fun c => 48 ≤ c.val && c.val ≤ 57) then
      .ok (s.foldl (fun n c => 10 * n + (c.val - 48 : Nat)) 0)
    else .error (.valueError [])
  repr s := s

/-- A package with one test, and one question in its answer key. -/
def oneTest : PackageFiles where
  testInputs := 1
  answerKey _ := .document (.obj [("questions", .arr [.obj
    [("id", .text "q1"), ("type", .text "free_text"), ("answer", .text "42")]])])
  findings := {}
  digest := ""

def manifest (lines : List String) : List Char := unlines (lines.map String.toList)

def batch (fields : List String) : List Char :=
  manifest (["kind: coding", "version: 1", "language: python"] ++ fields)

def optimization : List Char :=
  manifest ["kind: optimization", "version: 1", "runner: optimization", "language: rust",
    "time_limit_ms: 1000", "memory_limit_mb: 256", "output_limit_bytes: 65536",
    "evaluation: evaluator:evaluate", "objective_direction: minimize", "score_mode: checker_score",
    "aggregation: mean"]

def quiz (field : String) : List Char :=
    manifest ["kind: quiz", "version: 1", "runner: quiz", field]

/-- A setting of a task that is accepted. -/
def accepted (text : List Char) (key : String) : Option Json :=
  (validatePackage asciiHost text oneTest).toOption.bind fun validation =>
    if validation.valid then some (Dict.get validation.settings key) else none

/-- What the batch runner makes of a task. -/
def configured {α : Type} (text : List Char) (read : ClassicConfig → α) : Option α :=
  (classicConfig asciiHost text).toOption.map read

theorem accepted_kind (text : List Char) (kind : String)
    (h : ((validatePackage asciiHost text oneTest).toOption.any fun v =>
      v.valid && v.kind = some kind) = true) : ∃ validation,
      validatePackage asciiHost text oneTest = .ok validation ∧ validation.valid = true ∧
      validation.kind = some kind := by
  obtain ⟨validation, hsome, hvalid⟩ := (Option.any_eq_true _ _).1 h
  rw [Bool.and_eq_true, decide_eq_true_eq] at hvalid
  exact ⟨validation, toOption_eq_some.1 hsome, hvalid⟩

end Sample

/-- A field given twice, in upper case, after an empty one, on two lines, or after a line break of
another kind, and a kind before a blank, are read in two ways; and two fields only a
runner checks. -/
theorem readers_disagree :
    (Sample.accepted (Sample.batch ["time_limit_ms: 1000", "time_limit_ms: 2000"]) "time_limit_ms" =
        some (.num (.int 1000)) ∧
      Sample.configured (Sample.batch ["time_limit_ms: 1000", "time_limit_ms: 2000"])
        ClassicConfig.timeLimitMs = some 2000) ∧
    (Sample.accepted (Sample.batch ["Time_limit_ms: 1000"]) "time_limit_ms" =
        some (.num (.int 1000)) ∧
      Sample.configured (Sample.batch ["Time_limit_ms: 1000"]) ClassicConfig.timeLimitMs =
        some 2000) ∧
    (Sample.accepted (Sample.batch ["runtime:", "scoring_mode: percentage"]) "scoring_mode" =
        some (.text "all_or_nothing") ∧
      Sample.configured (Sample.batch ["runtime:", "scoring_mode: percentage"])
        ClassicConfig.scoringMode = some .percentage) ∧
    (Sample.accepted (Sample.batch ["scoring_mode", ": percentage"]) "scoring_mode" =
        some (.text "percentage") ∧
      Sample.configured (Sample.batch ["scoring_mode", ": percentage"]) ClassicConfig.scoringMode =
        some .allOrNothing) ∧
    (Sample.accepted (Sample.batch ["scoring: none\x0cscoring_mode: percentage"]) "scoring_mode" =
        some (.text "all_or_nothing") ∧
      Sample.configured (Sample.batch ["scoring: none\x0cscoring_mode: percentage"])
        ClassicConfig.scoringMode = some .percentage) ∧
    ((Sample.accepted (Sample.manifest ["kind : coding", "version: 1", "language: python"])
      "version").isSome ∧
      taskKind Sample.asciiHost
        (Sample.manifest ["kind : coding", "version: 1", "language: python"]) = "") ∧
    ((Sample.accepted (Sample.batch ["reference_language: java"]) "version").isSome ∧
      Sample.configured (Sample.batch ["reference_language: java"]) ClassicConfig.language = none) ∧
    (Sample.accepted (Sample.quiz "submission_file: /answers.json") "version").isSome ∧
      (loadConfig Sample.asciiHost Sample.oneTest.answerKey
        (Sample.quiz "submission_file: /answers.json")).toOption.isNone := by
  refine ⟨⟨?_, ?_⟩, ⟨?_, ?_⟩, ⟨?_, ?_⟩, ⟨?_, ?_⟩, ⟨?_, ?_⟩, ⟨?_, ?_⟩, ⟨?_, ?_⟩, ?_, ?_⟩ <;>
    decide +kernel

/-- One task of each kind. -/
theorem readers_agree_sample :
    (∃ validation config,
      classicConfig Sample.asciiHost (Sample.batch ["time_limit_ms: 1000"]) = .ok config ∧
      ClassicAgreement Sample.asciiHost (Sample.batch ["time_limit_ms: 1000"]) validation "coding"
        config) ∧
    (∃ validation config, optimizationConfig Sample.asciiHost Sample.optimization = .ok config ∧
      OptimizationAgreement Sample.asciiHost Sample.optimization validation config) ∧
    ∃ validation payload config,
      loadConfig Sample.asciiHost Sample.oneTest.answerKey (Sample.quiz "scoring_mode: weighted") =
        (loadQuestions payload).map config ∧
      QuizAgreement Sample.asciiHost (Sample.quiz "scoring_mode: weighted") validation config := by
  refine ⟨?_, ?_, ?_⟩
  · obtain ⟨validation, hfound, hvalid, hkind⟩ := Sample.accepted_kind
      (Sample.batch ["time_limit_ms: 1000"]) "coding" (by decide +kernel)
    obtain ⟨config, hconfig⟩ := (readers_agree hfound hvalid hkind).1 (by decide)
      (by decide +kernel) fun language hlanguage => by
        have hnone : flatValue (Sample.batch ["time_limit_ms: 1000"]) "reference_language" =
            none := by
          decide +kernel
        rw [hnone] at hlanguage
        cases hlanguage
    exact ⟨validation, config, hconfig⟩
  · obtain ⟨validation, hfound, hvalid, hkind⟩ := Sample.accepted_kind
      Sample.optimization "optimization" (by decide +kernel)
    obtain ⟨config, hconfig⟩ := (readers_agree hfound hvalid hkind).2.1 rfl (by decide +kernel)
    exact ⟨validation, config, hconfig⟩
  · obtain ⟨validation, hfound, hvalid, hkind⟩ := Sample.accepted_kind
      (Sample.quiz "scoring_mode: weighted") "quiz" (by decide +kernel)
    obtain ⟨payload, config, hkey, hconfig⟩ := (readers_agree hfound hvalid hkind).2.2 rfl
      (by decide +kernel) fun path hpath => by
        have hnone : flatValue (Sample.quiz "scoring_mode: weighted") "submission_file" = none := by
          decide +kernel
        rw [hnone] at hpath
        cases hpath
    exact ⟨validation, payload, config, hconfig⟩

end BrunostJudge
