import BrunostJudge.ModelExposure

namespace BrunostJudge
open Python Plans ModelTask
set_option autoImplicit true

section
variable {host : ManifestHost} {text : List Char} {files : ModelFiles} {machine : ModelMachine}
  {profileName : Option String} {profile : EvaluationProfile} {task : ModelTask} {stop : ModelStop}
  {publicSplit baseline : Bool} {training prediction evaluator budget modelMaxBytes value : Int}

theorem modelInt_ok {name : String} {default : Int}
    (h : modelInt host text name default = .ok value) :
    harnessInt host text name default = some value := by
  rw [modelInt, modelField] at h
  rw [harnessInt]
  cases hgiven : given (harnessField host text name) with
  | none =>
    rw [hgiven] at h
    exact congrArg some (Except.ok.inj h)
  | some text' =>
    rw [hgiven] at h
    exact toOption_eq_some.2 (mapError_ok.1 h)

theorem buildModelTask_ok
    (h : buildModelTask profile publicSplit baseline training prediction evaluator budget
      modelMaxBytes = .ok task) :
    (1 ≤ budget ∧ 1 ≤ training ∧ 1 ≤ prediction ∧ 1 ≤ evaluator) ∧ task.profile = profile ∧
      task.publicSplit = publicSplit ∧ task.baseline = baseline ∧
      task.trainingTimeMs = training ∧ task.predictionTimeMs = prediction ∧
      task.evaluatorTimeMs = evaluator ∧ task.budgetMs = budget ∧
      task.modelMaxBytes = modelMaxBytes := by
  rw [buildModelTask] at h
  split at h
  · next hpositive =>
    cases h
    exact ⟨hpositive, rfl, rfl, rfl, rfl, rfl, rfl, rfl, rfl⟩
  · cases h

theorem modelUnless_ok {check : Bool} {reason : String}
    (h : modelUnless check reason = .ok ()) : check = true := by
  rw [modelUnless] at h
  split at h
  · assumption
  · cases h

theorem readPublicSplit_live (h : readPublicSplit host text files .live = .ok publicSplit) :
    (modelField host text "public_test_dataset").isSome = publicSplit ∧
      (modelField host text "public_labels_dataset").isSome = publicSplit := by
  obtain ⟨_, hboth, h⟩ := bind_ok.1 h
  have hsame := of_decide_eq_true (modelUnless_ok hboth)
  split at h
  · next htest hlabels =>
    obtain ⟨_, _, h⟩ := bind_ok.1 h
    obtain ⟨_, _, h⟩ := bind_ok.1 h
    cases h
    rw [htest, hlabels]
    exact ⟨rfl, rfl⟩
  · next hnot =>
    cases h
    cases htest : modelField host text "public_test_dataset" with
    | none =>
      rw [htest] at hsame
      exact ⟨rfl, hsame.symm⟩
    | some test =>
      rw [htest] at hsame
      obtain ⟨labels, hlabels⟩ := Option.isSome_iff_exists.1 hsame.symm
      exact absurd hlabels (hnot test labels htest)

/-- What a manifest that is read declares. -/
structure ModelManifest (host : ManifestHost) (text : List Char) (task : ModelTask) : Prop where
  enabled : profileEnabled host text task.profile = true
  training : modelInt host text (task.profile.opening ++ "training_time_limit_ms") 120000 =
    .ok task.trainingTimeMs
  prediction : modelInt host text (task.profile.opening ++ "prediction_time_limit_ms") 10000 =
    .ok task.predictionTimeMs
  evaluator : modelInt host text (task.profile.opening ++ "evaluator_time_limit_ms") 10000 =
    .ok task.evaluatorTimeMs
  memory : ∃ memory, modelInt host text "memory_limit_mb" 2048 = .ok memory
  modelMaxBytes : modelInt host text "model_max_bytes" 64000000 = .ok task.modelMaxBytes
  modelBounds : 1024 ≤ task.modelMaxBytes ∧ task.modelMaxBytes ≤ maxPredictionBytes
  publicSplit : ∃ files, readPublicSplit host text files task.profile = .ok task.publicSplit
  baseline : harnessSwitch host text "baseline_enabled" = task.baseline
  budget : ∃ declared, declaredBudgetMs host text (calculatedBudgetMs task.publicSplit task.baseline
      task.trainingTimeMs task.predictionTimeMs task.evaluatorTimeMs) = .ok declared ∧
    task.budgetMs = min (calculatedBudgetMs task.publicSplit task.baseline task.trainingTimeMs
      task.predictionTimeMs task.evaluatorTimeMs) declared

theorem readModelTask_ok (h : readModelTask host text files profileName = .ok task) :
    ModelManifest host text task := by
  obtain ⟨profile, _, h⟩ := bind_ok.1 h
  obtain ⟨_, henabled, h⟩ := bind_ok.1 h
  dsimp only at h
  split at h
  · obtain ⟨_, _, h⟩ := bind_ok.1 h
    obtain ⟨_, _, h⟩ := bind_ok.1 h
    obtain ⟨_, _, h⟩ := bind_ok.1 h
    obtain ⟨_, _, h⟩ := bind_ok.1 h
    obtain ⟨_, _, h⟩ := bind_ok.1 h
    obtain ⟨training, htraining, h⟩ := bind_ok.1 h
    obtain ⟨prediction, hprediction, h⟩ := bind_ok.1 h
    obtain ⟨evaluator, hevaluator, h⟩ := bind_ok.1 h
    obtain ⟨memory, hmemory, h⟩ := bind_ok.1 h
    obtain ⟨modelMaxBytes, hmodelMaxBytes, h⟩ := bind_ok.1 h
    obtain ⟨publicSplit, hpublicSplit, h⟩ := bind_ok.1 h
    obtain ⟨_, hbounds, h⟩ := bind_ok.1 h
    obtain ⟨baseline, hbaseline, h⟩ := bind_ok.1 h
    obtain ⟨declared, hdeclared, h⟩ := bind_ok.1 h
    obtain ⟨_, rfl, rfl, rfl, rfl, rfl, rfl, hbudget, rfl⟩ := buildModelTask_ok h
    have hswitch : harnessSwitch host text "baseline_enabled" = task.baseline := by
      rw [readBaseline] at hbaseline
      split at hbaseline
      · next htrue =>
        obtain ⟨_, _, hbaseline⟩ := bind_ok.1 hbaseline
        exact htrue.trans (pure_ok.1 hbaseline)
      · next hfalse =>
        exact (Bool.eq_false_iff.2 hfalse).trans (pure_ok.1 hbaseline)
    exact {
      enabled := modelUnless_ok henabled
      training := htraining
      prediction := hprediction
      evaluator := hevaluator
      memory := ⟨memory, hmemory⟩
      modelMaxBytes := hmodelMaxBytes
      modelBounds := by simpa using modelUnless_ok hbounds
      publicSplit := ⟨files, hpublicSplit⟩
      baseline := hswitch
      budget := ⟨declared, hdeclared, hbudget⟩ }
  · cases h

theorem ModelManifest.budget_ms (h : ModelManifest host text task) :
    modelBudgetMs host text task.profile = some task.budgetMs := by
  have htraining := modelInt_ok h.training
  have hprediction := modelInt_ok h.prediction
  have hevaluator := modelInt_ok h.evaluator
  obtain ⟨memory, hmemory⟩ := h.memory
  have hmemory := modelInt_ok hmemory
  have hmodelMaxBytes := modelInt_ok h.modelMaxBytes
  obtain ⟨declared, hdeclared, hbudget⟩ := h.budget
  have hdeclared := modelInt_ok (mapError_ok.1 hdeclared)
  obtain ⟨files, hpublic⟩ := h.publicSplit
  have hpositive := task.positive
  have hbounds : 1024 ≤ task.modelMaxBytes ∧ task.modelMaxBytes ≤ 64000000 := h.modelBounds
  rw [calculatedBudgetMs, ← h.baseline] at hbudget hdeclared
  rw [hbudget] at hpositive
  rw [modelBudgetMs.eq_def]
  cases hprofile : task.profile with
  | live =>
    rw [hprofile] at hpublic htraining hprediction hevaluator
    obtain ⟨htest, hlabels⟩ := readPublicSplit_live hpublic
    rw [modelField] at htest hlabels
    have hopening : EvaluationProfile.live.opening = "" := rfl
    rw [hopening] at htraining hprediction hevaluator
    simp only [htest, hlabels, if_true, Option.bind_eq_bind, Option.bind_some, htraining,
      hprediction, hevaluator, hmemory, hmodelMaxBytes, hdeclared]
    rw [guard, if_pos hbounds, hbudget]
    simp only [pure, Option.bind_some]
    rw [guard, if_pos hpositive]
    rfl
  | postCompetition =>
    rw [hprofile] at hpublic htraining hprediction hevaluator
    have henabled := h.enabled
    rw [hprofile, profileEnabled] at henabled
    have hopening : EvaluationProfile.postCompetition.opening = "post_" := rfl
    rw [hopening] at htraining hprediction hevaluator
    have hsplit := Except.ok.inj hpublic
    simp only [← hsplit, Bool.false_eq_true, if_false] at hdeclared hpositive hbudget
    simp only [henabled, if_true, Option.bind_eq_bind, Option.bind_some, htraining,
      hprediction, hevaluator, hmemory, hmodelMaxBytes, hdeclared]
    rw [guard, if_pos hbounds, hbudget]
    simp only [pure, Option.bind_some]
    rw [guard, if_pos hpositive]
    rfl

/-- What stops a reader of the manifest is not a completed result. -/
def Refuses (x : Except ModelStop α) : Prop := ∀ stop, x = .error stop → stop.notCompleted

theorem Refuses.ok (a : α) : Refuses (.ok a) := by
  intro stop h
  cases h

theorem Refuses.failed (reason : PyStr) : Refuses (.error (modelFailed reason) : Except _ α) := by
  intro stop h
  cases h
  exact scorerFailed_notCompleted _ _

theorem Refuses.bind {x : Except ModelStop α} {f : α → Except ModelStop β} (hx : Refuses x)
    (hf : ∀ a, Refuses (f a)) : Refuses (x >>= f) := by
  intro stop h
  rcases bind_error.1 h with hfirst | ⟨a, _, hrest⟩
  · exact hx stop hfirst
  · exact hf a stop hrest

theorem Refuses.mapError {x : Except ε α} {f : ε → ModelStop} (hf : ∀ err, (f err).notCompleted) :
    Refuses (x.mapError f) := by
  intro stop h
  cases x with
  | error err =>
    cases h
    exact hf err
  | ok a => cases h

theorem modelUnless_refuses (check : Bool) (reason : String) :
    Refuses (modelUnless check reason) := by
  cases check with
  | true => exact .ok ()
  | false => exact .failed _

theorem modelInt_refuses (host : ManifestHost) (text : List Char) (name : String) (default : Int) :
    Refuses (modelInt host text name default) := by
  rw [modelInt]
  split
  · exact .ok default
  · exact .mapError fun _ => scorerFailed_notCompleted _ _

theorem caughtFile_refuses (files : ModelFiles) (relative label : String) :
    Refuses (caughtFile files relative label) :=
  .mapError fun _ => scorerFailed_notCompleted _ _

theorem uncaughtFile_refuses (files : ModelFiles) (relative label : String) :
    Refuses (uncaughtFile files relative label) :=
  .mapError fun _ => trivial

theorem evaluationProfile_refuses (host : ManifestHost) (value : Option String) :
    Refuses (evaluationProfile host value) := by
  rw [evaluationProfile]
  split
  · exact .ok _
  · split
    · exact .ok _
    · exact .failed _

theorem readPublicSplit_refuses (host : ManifestHost) (text : List Char) (files : ModelFiles)
    (profile : EvaluationProfile) : Refuses (readPublicSplit host text files profile) := by
  cases profile with
  | postCompetition => exact .ok false
  | live =>
    apply Refuses.bind (modelUnless_refuses _ _)
    intro _
    split
    · apply Refuses.bind (uncaughtFile_refuses _ _ _)
      intro _
      apply Refuses.bind (uncaughtFile_refuses _ _ _)
      exact fun _ => .ok true
    · exact .ok false

theorem readModelTask_refuses (host : ManifestHost) (text : List Char) (files : ModelFiles)
    (profileName : Option String) : Refuses (readModelTask host text files profileName) := by
  apply Refuses.bind (evaluationProfile_refuses host profileName)
  intro profile
  apply Refuses.bind (modelUnless_refuses _ _)
  intro _
  dsimp only
  split
  · apply Refuses.bind
    · apply Refuses.bind (.mapError fun _ => scorerFailed_notCompleted _ _)
      exact fun _ => modelUnless_refuses _ _
    intro _
    apply Refuses.bind (caughtFile_refuses _ _ _)
    intro _
    apply Refuses.bind (caughtFile_refuses _ _ _)
    intro _
    apply Refuses.bind (caughtFile_refuses _ _ _)
    intro _
    apply Refuses.bind (caughtFile_refuses _ _ _)
    intro _
    apply Refuses.bind (modelInt_refuses _ _ _ _)
    intro training
    apply Refuses.bind (modelInt_refuses _ _ _ _)
    intro prediction
    apply Refuses.bind (modelInt_refuses _ _ _ _)
    intro evaluator
    apply Refuses.bind (modelInt_refuses _ _ _ _)
    intro _
    apply Refuses.bind (modelInt_refuses _ _ _ _)
    intro modelMaxBytes
    apply Refuses.bind (readPublicSplit_refuses _ _ _ _)
    intro publicSplit
    apply Refuses.bind (modelUnless_refuses _ _)
    intro _
    apply Refuses.bind
    · rw [readBaseline]
      split
      · exact .bind (caughtFile_refuses _ _ _) fun _ => .ok true
      · exact .ok false
    intro baseline
    apply Refuses.bind (.mapError fun _ => scorerFailed_notCompleted _ _)
    intro declared
    rw [buildModelTask]
    split
    · exact .ok _
    · exact .failed _
  · exact .failed _

end

namespace Sample

/-- A task with a baseline. -/
def modelText : List Char :=
  ("kind: model\ntraining_dataset: train.csv\nprivate_test_dataset: test.csv\n" ++
    "private_labels_dataset: labels.csv\nbaseline_enabled: true\n").toList

def modelFiles : ModelFiles := ⟨fun _ _ => .ok (), fun _ => .ok true⟩

/-- Every process takes a second and does what it is to do. -/
def modelMachine : ModelMachine where
  clockMs before := 1000 * (before.filter fun action => (timeoutMs? action).isSome).length
  submission _ := .exited 0 1000 (some 10)
  evaluator _ := .returned [("status", .text "completed"), ("score", .num (.int 1))] 1000
  float value := .ok value
  traceback := id

def modelTask : ModelTask :=
  ⟨.live, false, true, 120000, 10000, 10000, 285000, 64000000, by decide⟩

theorem modelText_read :
    readModelTask asciiHost modelText modelFiles (some "live") = .ok modelTask := by
  decide +kernel

def modelLog : List ModelAction := (modelTask.runModel modelMachine).2

/-- The participant is trained after all of the baseline. -/
def participantTraining : ModelAction :=
  .submission .participant .training 120000 (.exited 0 1000 (some 10))

theorem modelLog_split :
    (modelTask.runModel modelMachine).2 =
      modelLog.take 7 ++ participantTraining :: modelLog.drop 8 := by
  decide +kernel

end Sample

end BrunostJudge
