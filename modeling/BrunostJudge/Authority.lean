import BrunostJudge.Endpoints
import BrunostJudge.PyDumpsInjective
import BrunostJudge.SubmissionSpec

namespace BrunostJudge
open Python Relational Transition JudgeStore
set_option autoImplicit true

/-- The optional settings that every classic package has. -/
def classicKeys : List String :=
  ["network", "time_limit_ms", "memory_limit_mb", "output_limit_bytes", "execution_timeout_seconds",
    "answer_source", "scoring_mode"]

/-- The optional settings that a valid package of this kind has. -/
def TaskPackage.declares (package : TaskPackage) (key : String) : Bool :=
  let named := (package.declared key).isSome
  let kind := package.kind.getD ""
  if kind = "quiz" then ["network", "scoring_mode"].contains key || key = "resource_class" && named
  else if classicKinds.contains kind then
    classicKeys.contains key || key = "resource_class" && named
  else if kind = "model" || scorerKinds.contains kind then
    ["network", "resource_class"].contains key && named
  else false

theorem declares_runtime_image (package : TaskPackage) :
    package.declares "runtime_image" = false := by
  rw [TaskPackage.declares]
  split
  · rfl
  · split
    · rfl
    · split <;> rfl

theorem finding_nil : TaskPackage.finding check message = [] ↔ check = true := by
  cases check <;> simp [TaskPackage.finding]

theorem overrideSettings_get (settings : Dict) (keys : List String) (manifest : Dict)
    (key : String) :
    (keys.foldl (overrideSetting settings) manifest).get key =
      if key ∈ keys ∧ (settings.get key).truthy then settings.get key else manifest.get key := by
  induction keys generalizing manifest with
  | nil => simp
  | cons first rest ih =>
    rw [List.foldl_cons, ih]
    by_cases hfirst : first = key
    · subst hfirst
      rw [overrideSetting, Dict.get_setSome_self]
      by_cases htruthy : (settings.get first).truthy <;> simp [htruthy]
    · rw [overrideSetting, Dict.get_setSome_text _ _ hfirst]
      simp [Ne.symm hfirst]

section
variable {package : TaskPackage} {lower : String → String} {parseInt : PyStr → Except PyError Int}
  {repr : String → String}

theorem registrationSettings_get (settings : Dict) {key : String}
    (hkey : key ∉ ["version", "runtime", "evaluator"]) :
    (package.registrationSettings parseInt settings).get key = settings.get key := by
  simp only [List.mem_cons, List.not_mem_nil, not_or, or_false] at hkey
  obtain ⟨hversion, hruntime, hevaluator⟩ := hkey
  rw [TaskPackage.registrationSettings, Dict.get_setSome_text _ _ (Ne.symm hevaluator),
    Dict.get_set_text _ _ (Ne.symm hruntime), Dict.get_setSome_text _ _ (Ne.symm hversion)]

theorem schedulingSettings_get (default : Option String) {key : String}
    (hkey : key ∉ ["runtime", "scoring", "required_capabilities"]) :
    (package.schedulingSettings default).get key =
      if key ∈ ["network", "resource_class"] then Json.textOrNull (package.declared key) else
        .null := by
  simp only [List.mem_cons, List.not_mem_nil, not_or, or_false] at hkey
  obtain ⟨hruntime, hscoring, hcapabilities⟩ := hkey
  have hdefault (settings : Dict) : (if settings.contains "runtime" then settings
      else settings.setSome "runtime" (default.map Json.text)).get key = settings.get key := by
    split
    · rfl
    · exact Dict.get_setSome_text _ _ (Ne.symm hruntime)
  rw [TaskPackage.schedulingSettings, Dict.get_setSome_text _ _ (Ne.symm hcapabilities), hdefault]
  simp only [List.foldl_cons, List.foldl_nil]
  by_cases hclass : key = "resource_class"
  · subst hclass
    rw [Dict.get_setSome_self, Dict.get_setSome_text _ _ (by decide),
      Dict.get_setSome_text _ _ (by decide), Dict.get_setSome_text _ _ (by decide)]
    rfl
  · rw [Dict.get_setSome_text _ _ (Ne.symm hclass)]
    by_cases hnetwork : key = "network"
    · subst hnetwork
      rw [Dict.get_setSome_self, Dict.get_setSome_text _ _ (by decide),
        Dict.get_setSome_text _ _ (by decide)]
      rfl
    · rw [Dict.get_setSome_text _ _ (Ne.symm hnetwork),
        Dict.get_setSome_text _ _ (Ne.symm hscoring),
        Dict.get_setSome_text _ _ (Ne.symm hruntime)]
      simp [hclass, hnetwork]
      rfl

theorem declared_truthy (key : String) :
    (Json.textOrNull (package.declared key)).truthy = (package.declared key).isSome := by
  cases hdeclared : package.declared key with
  | none => rfl
  | some value =>
    obtain ⟨_, hne⟩ := Option.filter_eq_some_iff.1 hdeclared
    exact Json.text_truthy.2 (of_decide_eq_true hne)

theorem positive_truthy {value : Option Int} (h : ∃ i, value = some i ∧ 1 ≤ i) (other : Json) :
    ((value.map fun i => Json.num (.int i)).getD other).truthy = true := by
  obtain ⟨i, hvalue, hpositive⟩ := h
  have hne : i ≠ 0 := by omega
  simpa [hvalue, Json.truthy] using hne

theorem classicLimit_valid {default : Int} (hdefault : 1 ≤ default)
    (h : (package.classicLimit parseInt name default low high).2 = []) :
    ∃ i, (package.classicLimit parseInt name default low high).1 = some i ∧ 1 ≤ i := by
  rw [TaskPackage.classicLimit] at h ⊢
  split at h
  · cases h
  · next limit hlimit =>
    refine ⟨limit, rfl, ?_⟩
    split at hlimit
    · cases hlimit
      exact hdefault
    · exact of_decide_eq_true (Option.filter_eq_some_iff.1 hlimit).2

theorem executionTimeout_valid (htime : (package.timeLimit parseInt).1.isSome)
    (hinputs : package.testInputs ≠ 0)
    (h : (package.executionTimeout lower parseInt).2 = []) :
    ∃ i, (package.executionTimeout lower parseInt).1 = some i ∧ 1 ≤ i := by
  obtain ⟨limit, hlimit⟩ := Option.isSome_iff_exists.1 htime
  have hfilter : (package.timeLimit parseInt).1.filter (fun _ => package.testInputs ≠ 0) =
      some limit := by
    rw [hlimit]
    exact if_pos (by simpa using hinputs)
  rw [TaskPackage.executionTimeout, hfilter] at h ⊢
  dsimp only at h ⊢
  split at h
  · cases h
  · next hbudget =>
    rw [if_neg hbudget]
    exact ⟨_, rfl, Int.le_max_left _ _⟩

theorem limitErrors_nil {limits : List (Option Int × List PyStr)} :
    TaskPackage.limitErrors limits = [] ↔ ∀ limit ∈ limits, limit.2 = [] := by
  rw [TaskPackage.limitErrors, List.append_eq_nil_iff, List.flatMap_eq_nil_iff,
    List.flatMap_eq_nil_iff]
  constructor
  · rintro ⟨hnone, hsome⟩ limit hlimit
    cases hvalue : limit.1 with
    | none => exact hnone limit (List.mem_filter.2 ⟨hlimit, by rw [hvalue]; rfl⟩)
    | some value => exact hsome limit (List.mem_filter.2 ⟨hlimit, by rw [hvalue]; rfl⟩)
  · intro h
    exact ⟨fun limit hlimit => h limit (List.mem_filter.1 hlimit).1,
      fun limit hlimit => h limit (List.mem_filter.1 hlimit).1⟩

theorem classicLimits_nil (h : TaskPackage.limitErrors [package.timeLimit parseInt,
      package.memoryLimit parseInt, package.outputLimit parseInt] = []) :
    (package.timeLimit parseInt).2 = [] ∧ (package.memoryLimit parseInt).2 = [] ∧
      (package.outputLimit parseInt).2 = [] := by
  have hall := limitErrors_nil.1 h
  simp only [List.forall_mem_cons, List.not_mem_nil, false_imp_iff, implies_true, and_true] at hall
  exact hall

/-- The classic branch without findings has every optional setting, but for the resource class. -/
theorem classicSettings_truthy (h : (package.classicSettings lower parseInt).2 = [])
    {key : String} (hkey : key ∈ optionalSettings) :
    ((package.classicSettings lower parseInt).1.get key).truthy =
      (classicKeys.contains key || key = "resource_class" && (package.declared key).isSome) := by
  simp only [TaskPackage.classicSettings, List.append_eq_nil_iff, finding_nil] at h
  obtain ⟨⟨⟨⟨⟨⟨⟨⟨⟨⟨⟨_, hsource⟩, _⟩, _⟩, hmode⟩, _⟩, _⟩, _⟩, hlimits⟩, hinputs⟩, _⟩, htimeout⟩ := h
  obtain ⟨htime, hmemory, houtput⟩ := classicLimits_nil hlimits
  have htime := classicLimit_valid (by decide) htime
  have hmemory := classicLimit_valid (by decide) hmemory
  have houtput := classicLimit_valid (by decide) houtput
  have hlimit : (package.timeLimit parseInt).1.isSome := by
    obtain ⟨limit, hlimit, _⟩ := htime
    exact Option.isSome_iff_exists.2 ⟨limit, hlimit⟩
  have htimeout := executionTimeout_valid hlimit (of_decide_eq_true hinputs) htimeout
  have htext {value : String} {texts : List String} (hmem : texts.contains value = true)
      (hne : "" ∉ texts) : (Json.text value).truthy = true :=
    Json.text_truthy.2 fun hempty => hne (hempty ▸ List.contains_iff_mem.1 hmem)
  have hown : ∀ key ∈ optionalSettings,
      key = "resource_class" ∨ classicKeys.contains key = true := by
    decide
  obtain hclass | hkey := hown key hkey
  · subst hclass
    simp only [TaskPackage.classicSettings, Dict.get_set_text, Dict.get_setSome_text, ne_eq,
      String.reduceEq, not_false_eq_true]
    rw [schedulingSettings_get _ (by decide), if_pos (by decide), declared_truthy]
    rfl
  · rw [hkey, Bool.true_or]
    simp only [classicKeys, List.contains_iff_mem, List.mem_cons, List.not_mem_nil,
      or_false] at hkey
    rcases hkey with hkey | hkey | hkey | hkey | hkey | hkey | hkey <;> subst hkey <;>
      simp only [TaskPackage.classicSettings, Dict.get_set_text, Dict.get_setSome_text,
        Dict.get_set_self, Dict.get_setSome_self, ne_eq, String.reduceEq, not_false_eq_true]
    · rfl
    · exact positive_truthy htime _
    · exact positive_truthy hmemory _
    · exact positive_truthy houtput _
    · exact positive_truthy htimeout _
    · exact htext hsource (by decide)
    · exact htext hmode (by decide)

theorem schedulingSettings_truthy (default : Option String) {key : String}
    (hkey : key ∈ optionalSettings) :
    ((package.schedulingSettings default).get key).truthy =
      (["network", "resource_class"].contains key && (package.declared key).isSome) := by
  have hother : ∀ key ∈ optionalSettings,
      key ∉ ["runtime", "scoring", "required_capabilities"] := by
    decide
  rw [schedulingSettings_get _ (hother key hkey)]
  split
  · next hmem => rw [List.contains_iff_mem.2 hmem, declared_truthy, Bool.true_and]
  · next hmem =>
    have hnot : ["network", "resource_class"].contains key = false := by
      simpa [List.contains_iff_mem] using hmem
    rw [hnot, Bool.false_and]
    rfl

theorem quizSettings_truthy (h : (package.quizSettings lower).2 = []) {key : String}
    (hkey : key ∈ optionalSettings) :
    ((package.quizSettings lower).1.get key).truthy =
      (["network", "scoring_mode"].contains key ||
        key = "resource_class" && (package.declared key).isSome) := by
  simp only [TaskPackage.quizSettings, List.append_eq_nil_iff, finding_nil] at h
  by_cases hmode : key = "scoring_mode"
  · subst hmode
    simp only [TaskPackage.quizSettings, Dict.get_set_text, Dict.get_set_self, ne_eq,
      String.reduceEq, not_false_eq_true]
    apply Json.text_truthy.2
    intro hempty
    rw [hempty] at h
    exact absurd h.1 (by decide)
  · by_cases hnetwork : key = "network"
    · subst hnetwork
      simp only [TaskPackage.quizSettings, Dict.get_set_text, Dict.get_set_self, ne_eq,
        String.reduceEq, not_false_eq_true]
      rfl
    · have hother : ∀ key ∈ optionalSettings,
          key ≠ "evaluator" ∧ key ≠ "free_text_normalization" := by
        decide
      obtain ⟨hevaluator, hnormalization⟩ := hother key hkey
      rw [TaskPackage.quizSettings, Dict.get_set_text _ _ (Ne.symm hevaluator),
        Dict.get_set_text _ _ (Ne.symm hnormalization), Dict.get_set_text _ _ (Ne.symm hmode),
        Dict.get_set_text _ _ (Ne.symm hnetwork), schedulingSettings_truthy _ hkey]
      simp [hmode, hnetwork]

/-- The optional settings of a valid package are those that its kind and its fields tell. -/
theorem settings_truthy (hvalid : (package.validateTask lower parseInt repr).valid = true)
    {key : String} (hkey : key ∈ optionalSettings) :
    ((package.validateTask lower parseInt repr).settings.get key).truthy =
      package.declares key := by
  have hidentity : ∀ key ∈ optionalSettings, key ∉ ["version", "runtime", "evaluator"] := by
    decide
  simp only [TaskValidation.valid, TaskPackage.validateTask, List.isEmpty_iff,
    List.append_eq_nil_iff] at hvalid
  obtain ⟨⟨_, hbranch⟩, _⟩ := hvalid
  rw [TaskPackage.validateTask, registrationSettings_get _ (hidentity key hkey)]
  rw [TaskPackage.kindSettings] at hbranch ⊢
  rw [TaskPackage.declares]
  split at hbranch
  · next hquiz =>
    rw [if_pos hquiz, if_pos hquiz]
    simp only [List.append_eq_nil_iff] at hbranch
    exact quizSettings_truthy hbranch.1.2 hkey
  · next hquiz =>
    rw [if_neg hquiz, if_neg hquiz]
    split at hbranch
    · next hclassic =>
      rw [if_pos hclassic, if_pos hclassic]
      exact classicSettings_truthy hbranch hkey
    · next hclassic =>
      rw [if_neg hclassic, if_neg hclassic]
      by_cases hmodel : package.kind.getD "" = "model"
      · rw [if_pos hmodel, if_pos (by simp [hmodel])]
        exact schedulingSettings_truthy _ hkey
      · rw [if_neg hmodel]
        by_cases hscorer : scorerKinds.contains (package.kind.getD "")
        · rw [if_pos hscorer, if_pos (by rw [hscorer, Bool.or_true])]
          exact schedulingSettings_truthy _ hkey
        · rw [if_neg hscorer, if_neg (by simpa [hmodel] using hscorer)]
          rfl

end

/-- The keys of the manifest that the package decides alone. -/
def identityKeys : List String :=
  ["kind", "version", "runtime", "evaluator", "required_capabilities", "digest"]

/-- The keys of the manifest that the control plane and its workers act on. -/
def consumedKeys : List String := identityKeys ++ "runtime_image" :: optionalSettings

section
variable {lower : String → String} {request request' : TaskRequest} {validation : TaskValidation}
  {record record' : TaskRecord}

theorem registeredKind_ok (h : registeredKind lower request validation = .ok kind) :
    kind = lower (validation.kind.getD "") := by
  rw [registeredKind] at h
  obtain ⟨hkind, h⟩ := check_ok.1 h
  exact (pure_ok.1 h).symm.trans (not_not.1 hkind)

theorem registeredRuntime_ok (h : registeredRuntime lower request runtime = .ok runtime') :
    runtime' = runtime := by
  rw [registeredRuntime] at h
  obtain ⟨_, h⟩ := check_ok.1 h
  obtain ⟨_, h⟩ := check_ok.1 h
  exact (pure_ok.1 h).symm

theorem taskRecord_ok (h : taskRecord lower request validation artifactId digest = .ok record) :
    ∃ version runtime declared capabilities, validation.valid = true ∧
      packageVersion validation.settings = .ok version ∧
      packageRuntime validation.settings = .ok runtime ∧
      (validation.settings.get "required_capabilities").setElements = .ok declared ∧
      sorted ((request.requiredCapabilities.map Json.text ++ declared).foldl setInsert []) =
        .ok capabilities ∧
      record.taskRef = request.taskRef ∧
      record.manifest = (optionalSettings.foldl (overrideSetting validation.settings)
        (baseManifest request (lower (validation.kind.getD "")) version runtime
          (validation.settings.get "evaluator") capabilities digest)).setSome "artifact_id"
            ((given (some artifactId)).map Json.text) := by
  rw [taskRecord] at h
  obtain ⟨hvalid, h⟩ := check_ok.1 h
  obtain ⟨kind, hkind, h⟩ := bind_ok.1 h
  obtain ⟨version, hversion, h⟩ := bind_ok.1 h
  obtain ⟨runtime, hruntime, h⟩ := bind_ok.1 h
  obtain ⟨_, h⟩ := check_ok.1 h
  obtain ⟨runtime', hsame, h⟩ := bind_ok.1 h
  obtain ⟨_, h⟩ := check_ok.1 h
  obtain ⟨declared, hdeclared, h⟩ := bind_ok.1 h
  obtain ⟨capabilities, hcapabilities, h⟩ := bind_ok.1 h
  obtain ⟨_, h⟩ := check_ok.1 h
  cases pure_ok.1 h
  cases registeredKind_ok hkind
  cases registeredRuntime_ok hsame
  exact ⟨version, runtime, declared, capabilities, by simpa using hvalid, unhandled_ok.1 hversion,
    unhandled_ok.1 hruntime, unhandled_ok.1 hdeclared, unhandled_ok.1 hcapabilities, rfl, rfl⟩

theorem record_get (h : taskRecord lower request validation artifactId digest = .ok record)
    {key : String} (hkey : key ∈ "runtime_image" :: optionalSettings) :
    record.manifest.get key =
      if key ∈ optionalSettings ∧ (validation.settings.get key).truthy then
        validation.settings.get key
      else request.metadata.get key := by
  have hfree : ∀ key ∈ "runtime_image" :: optionalSettings,
      key ∉ "artifact_id" :: "resource_profile" ::
      "resource_profile_mode" :: identityKeys := by
    decide
  have hfree := hfree key hkey
  simp only [identityKeys, List.mem_cons, List.not_mem_nil, not_or, or_false] at hfree
  obtain ⟨hartifact, hprofile, hmode, hkind, hversion, hruntime, hevaluator, hrequired, hdigest⟩ :=
    hfree
  obtain ⟨_, _, _, _, _, _, _, _, _, _, hmanifest⟩ := taskRecord_ok h
  rw [hmanifest, Dict.get_setSome_text _ _ (Ne.symm hartifact), overrideSettings_get, baseManifest,
    Dict.get_set_text _ _ (Ne.symm hdigest), Dict.get_set_text _ _ (Ne.symm hrequired),
    Dict.get_set_text _ _ (Ne.symm hmode), Dict.get_set_text _ _ (Ne.symm hprofile),
    Dict.get_set_text _ _ (Ne.symm hevaluator), Dict.get_set_text _ _ (Ne.symm hruntime),
    Dict.get_set_text _ _ (Ne.symm hversion), Dict.get_set_text _ _ (Ne.symm hkind)]

/-- What the package decides alone is the same for every request with the same requirements. -/
theorem record_identity (h : taskRecord lower request validation artifactId digest = .ok record)
    (h' : taskRecord lower request' validation artifactId' digest = .ok record')
    (hsame : request'.requiredCapabilities = request.requiredCapabilities)
    {key : String} (hkey : key ∈ identityKeys) :
    record.manifest.get key = record'.manifest.get key := by
  obtain ⟨version, runtime, declared, capabilities, _, hversion, hruntime, hdeclared,
    hcapabilities, _,
    hmanifest⟩ := taskRecord_ok h
  obtain ⟨version', runtime', declared', capabilities', _, hversion', hruntime', hdeclared',
    hcapabilities', _, hmanifest'⟩ := taskRecord_ok h'
  cases Except.ok.inj (hversion.symm.trans hversion')
  cases Except.ok.inj (hruntime.symm.trans hruntime')
  cases Except.ok.inj (hdeclared.symm.trans hdeclared')
  rw [hsame] at hcapabilities'
  cases Except.ok.inj (hcapabilities.symm.trans hcapabilities')
  have hkeys : ∀ key ∈ identityKeys, key ∉ optionalSettings ∧ key ≠ "artifact_id" := by
    decide
  obtain ⟨hoptional, hartifact⟩ := hkeys key hkey
  rw [hmanifest, hmanifest', Dict.get_setSome_text _ _ (Ne.symm hartifact),
    Dict.get_setSome_text _ _ (Ne.symm hartifact), overrideSettings_get, overrideSettings_get,
    if_neg (fun hand => hoptional hand.1), if_neg (fun hand => hoptional hand.1)]
  simp only [identityKeys, List.mem_cons, List.not_mem_nil, or_false] at hkey
  rcases hkey with hkey | hkey | hkey | hkey | hkey | hkey <;> subst hkey <;>
    simp only [baseManifest, Dict.get_set_text, Dict.get_set_self, ne_eq, String.reduceEq,
      not_false_eq_true]

end

section
variable {lower : String → String} {d : Deployment} {parseInt : PyStr → Except PyError Int}
  {repr : String → String} {server server' server₁ server₁' : Server} {package : TaskPackage}
  {snapshot snapshot' : String → Except Failure (String × TaskPackage)}
  {materialize materialize' : String → Except Failure TaskPackage} {request request' : TaskRequest}
  {stored stored' : TaskRecord}

theorem registerTaskRequest_ok
    (hpackage : request.package server snapshot materialize = .ok (artifactId, package))
    (h : registerTaskRequest lower d parseInt repr server snapshot materialize request =
      (.ok task, server₁))
    (hnew : server.store.getTask request.taskRef = none)
    (hstored : server₁.store.getTask request.taskRef = some stored) :
    taskRecord lower request (package.validateTask lower parseInt repr) artifactId package.digest =
      .ok stored := by
  rw [registerTaskRequest, hpackage] at h
  dsimp only at h
  split at h
  · cases (Prod.mk.inj h).1
  · next hregistered =>
    obtain ⟨record, hrecord, hregistered⟩ := bind_ok.1 hregistered
    have hstore := mapError_ok.1 hregistered
    have hkept : (if (given request.path).isSome = true then
        { server with artifacts := artifactId :: server.artifacts } else server).store =
        server.store := by
      split <;> rfl
    obtain ⟨_, _, _, _, _, _, _, _, _, href, _⟩ := taskRecord_ok hrecord
    rw [hkept, JudgeStore.registerTask, href] at hstore
    rw [JudgeStore.getTask] at hnew
    rw [hnew] at hstore
    dsimp only at hstore
    split at hstore
    · next hinsert =>
      cases hstore
      cases (Prod.mk.inj h).1
      rw [← (Prod.mk.inj h).2, JudgeStore.getTask] at hstored
      have hfind := (Table.find?_insert hinsert request.taskRef).trans (if_pos href)
      cases Option.some.inj (hfind.symm.trans hstored)
      exact hrecord
    · cases hstore

/-- Two registrations of a package that differ in their metadata store manifests that agree on all
that is acted on, just where the metadata agree on what the package leaves open. -/
theorem manifests_agree_iff
    (hpackage : request.package server snapshot materialize = .ok (artifactId, package))
    (hpackage' : request'.package server' snapshot' materialize' = .ok (artifactId', package))
    (hsame : request' = { request with metadata := request'.metadata })
    (hregister : registerTaskRequest lower d parseInt repr server snapshot materialize request =
      (.ok task, server₁))
    (hregister' :
      registerTaskRequest lower d parseInt repr server' snapshot' materialize' request' =
      (.ok task', server₁'))
    (hnew : server.store.getTask request.taskRef = none)
    (hnew' : server'.store.getTask request'.taskRef = none)
    (hstored : server₁.store.getTask request.taskRef = some stored)
    (hstored' : server₁'.store.getTask request'.taskRef = some stored') :
    (∀ key ∈ consumedKeys,
      stored.manifest.sortKeys.get key = stored'.manifest.sortKeys.get key) ↔
    ∀ key ∈ "runtime_image" :: optionalSettings, package.declares key = false →
      request.metadata.sortKeys.get key = request'.metadata.sortKeys.get key := by
  have hrecord := registerTaskRequest_ok hpackage hregister hnew hstored
  have hrecord' := registerTaskRequest_ok hpackage' hregister' hnew' hstored'
  obtain ⟨_, _, _, _, hvalid, _⟩ := taskRecord_ok hrecord
  have hdeclares {key : String} (hkey : key ∈ optionalSettings) := settings_truthy hvalid hkey
  simp only [Dict.get_sortKeys]
  constructor
  · intro hagree key hkey hopen
    have hconsumed : key ∈ consumedKeys := List.mem_append_right _ hkey
    have hsettings : ¬(key ∈ optionalSettings ∧ ((package.validateTask lower parseInt
        repr).settings.get key).truthy = true) := by
      rintro ⟨hoptional, htruthy⟩
      rw [hdeclares hoptional, hopen] at htruthy
      cases htruthy
    have hmanifests := hagree key hconsumed
    rwa [record_get hrecord hkey, record_get hrecord' hkey, if_neg hsettings, if_neg hsettings]
      at hmanifests
  · intro hagree key hconsumed
    obtain hidentity | hkey := List.mem_append.1 hconsumed
    · rw [record_identity hrecord hrecord' (by rw [hsame]) hidentity]
    · rw [record_get hrecord hkey, record_get hrecord' hkey]
      split
      · rfl
      · next hsettings =>
        apply hagree key hkey
        obtain himage | hoptional := List.mem_cons.1 hkey
        · subst himage
          exact declares_runtime_image package
        · rw [← hdeclares hoptional]
          exact Bool.eq_false_iff.2 fun htruthy => hsettings ⟨hoptional, htruthy⟩

end

namespace Sample

/-- A scorer package that names its runtime only. -/
def scorerPackage : TaskPackage where
  kind := some "ioai"
  field name := if name = "version" then some "1" else if name = "runtime" then some "python-3.13"
    else none
  testInputs := 0
  findings := {}
  digest := "5d41"

def lower (s : String) : String := String.ofList (s.toList.map Char.toLower)

/-- The only number in the package is its version. -/
def parseVersion (text : PyStr) : Except PyError Int :=
  if text = PyStr.ofString "1" then .ok 1 else .error (.valueError [])

def quoted (s : String) : String := "'" ++ s ++ "'"

def snapshot (_ : String) : Except Failure (String × TaskPackage) := .ok (artifact, scorerPackage)

def noArtifact (_ : String) : Except Failure TaskPackage := abort 404 []

def taskRequest (metadata : Dict) : TaskRequest where
  taskRef := "cats"
  path := some "/srv/tasks/cats"
  artifactId := none
  kind := none
  version := none
  runtime := none
  evaluator := none
  resourceProfile := []
  requiredCapabilities := []
  metadata := metadata

def packageRegistration (metadata : Dict) : Except Failure TaskRecord × Server :=
  registerTaskRequest lower deployment parseVersion quoted .empty snapshot noArtifact
    (taskRequest metadata)

/-- The manifest that an accepted registration stores. -/
def storedManifest (outcome : Except Failure TaskRecord × Server) : Option Dict :=
  outcome.1.toOption.bind fun _ => (outcome.2.store.getTask "cats").map TaskRecord.manifest

theorem registration_ok {metadata : Dict}
    (h : storedManifest (packageRegistration metadata) = some manifest) :
    ∃ task server stored, registerTaskRequest lower deployment parseVersion quoted .empty snapshot
        noArtifact (taskRequest metadata) = (.ok task, server) ∧
      server.store.getTask "cats" = some stored ∧ stored.manifest = manifest := by
  obtain ⟨task, htask, h⟩ := Option.bind_eq_some_iff.1 h
  obtain ⟨stored, hstored, hmanifest⟩ := Option.map_eq_some_iff.1 h
  exact ⟨task, _, stored, Prod.ext (toOption_eq_some.1 htask) rfl, hstored, hmanifest⟩

def ownImage : Dict := [("runtime_image", .text "registry.test/evaluator:latest")]

def note : Dict := [("note", .text "spring round")]

end Sample

/-- A request names the image of its evaluations. -/
theorem own_image_sample : ∃ task task' server server' stored stored',
    (Sample.scorerPackage.validateTask Sample.lower Sample.parseVersion Sample.quoted).valid =
      true ∧
    registerTaskRequest Sample.lower Sample.deployment Sample.parseVersion Sample.quoted .empty
      Sample.snapshot Sample.noArtifact (Sample.taskRequest []) = (.ok task, server) ∧
    registerTaskRequest Sample.lower Sample.deployment Sample.parseVersion Sample.quoted .empty
      Sample.snapshot Sample.noArtifact (Sample.taskRequest Sample.ownImage) =
        (.ok task', server') ∧
    server.store.getTask "cats" = some stored ∧ server'.store.getTask "cats" = some stored' ∧
    stored.manifest.get "runtime_image" = .null ∧
    stored'.manifest.get "runtime_image" = .text "registry.test/evaluator:latest" := by
  have hplain : (Sample.storedManifest (Sample.packageRegistration [])).any
      (fun manifest => manifest.get "runtime_image" = .null) = true := by
    decide +kernel
  have hown : (Sample.storedManifest (Sample.packageRegistration Sample.ownImage)).any
      (fun manifest =>
      manifest.get "runtime_image" = .text "registry.test/evaluator:latest") = true := by
    decide +kernel
  obtain ⟨_, hmanifest, hplain⟩ := (Option.any_eq_true _ _).1 hplain
  obtain ⟨_, hmanifest', hown⟩ := (Option.any_eq_true _ _).1 hown
  obtain ⟨task, server, stored, hregister, hstored, heq⟩ := Sample.registration_ok hmanifest
  obtain ⟨task', server', stored', hregister', hstored', heq'⟩ := Sample.registration_ok hmanifest'
  rw [← heq] at hplain
  rw [← heq'] at hown
  exact ⟨task, task', server, server', stored, stored', by decide +kernel, hregister,
    hregister', hstored,
    hstored', of_decide_eq_true hplain, of_decide_eq_true hown⟩

theorem manifests_agree_iff_sample : ∃ stored stored',
    (Sample.packageRegistration []).2.store.getTask "cats" = some stored ∧
    (Sample.packageRegistration Sample.note).2.store.getTask "cats" = some stored' ∧
    ∀ key ∈ consumedKeys,
      stored.manifest.sortKeys.get key = stored'.manifest.sortKeys.get key := by
  have hplain : (Sample.storedManifest (Sample.packageRegistration [])).isSome = true := by
    decide +kernel
  have hnote : (Sample.storedManifest (Sample.packageRegistration Sample.note)).isSome = true := by
    decide +kernel
  have hopen : ∀ key ∈ "runtime_image" :: optionalSettings,
      (Dict.sortKeys []).get key = Sample.note.sortKeys.get key := by
    decide +kernel
  obtain ⟨_, hmanifest⟩ := Option.isSome_iff_exists.1 hplain
  obtain ⟨_, hmanifest'⟩ := Option.isSome_iff_exists.1 hnote
  obtain ⟨task, server, stored, hregister, hstored, _⟩ := Sample.registration_ok hmanifest
  obtain ⟨task', server', stored', hregister', hstored', _⟩ := Sample.registration_ok hmanifest'
  have hpackage (metadata : Dict) : (Sample.taskRequest metadata).package .empty Sample.snapshot
      Sample.noArtifact = .ok (Sample.artifact, Sample.scorerPackage) := by rfl
  have hagree := (manifests_agree_iff (hpackage []) (hpackage Sample.note) rfl hregister
    hregister' rfl rfl hstored hstored').2 fun key hkey _ => hopen key hkey
  have hserver : (Sample.packageRegistration []).2 = server := congrArg Prod.snd hregister
  have hserver' : (Sample.packageRegistration Sample.note).2 = server' :=
    congrArg Prod.snd hregister'
  rw [hserver, hserver']
  exact ⟨stored, stored', hstored, hstored', hagree⟩

end BrunostJudge
