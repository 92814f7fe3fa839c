import BrunostJudge.PyCollections
import BrunostJudge.Registrations

namespace BrunostJudge
open Python Relational Transition JudgeStore
set_option autoImplicit true

theorem Dict.setdefault_present {d : Dict} {key : PyStr} (h : d.get key ≠ .null) (v : Json) :
    d.setdefault key v = d := by
  rw [Dict.setdefault]
  cases hc : Dict.contains d key with
  | true => rfl
  | false =>
    have hnone : d.find? (fun f => decide (f.1 = key)) = none := by
      apply List.find?_eq_none.2
      intro f hf hfk
      exact Bool.eq_false_iff.1 hc (List.any_eq_true.2 ⟨f, hf, hfk⟩)
    rw [Dict.get, Dict.getD, hnone] at h
    exact absurd rfl h

/-- The event that announces the result of an execution. -/
def resultEvent (E : String) : Json := .text ("execution:" ++ E ++ ":result")

theorem resultEvent_truthy (E : String) : (resultEvent E).truthy = true := by
  apply Json.text_truthy.2
  intro hempty
  have hlength := congrArg String.length hempty
  simp at hlength

theorem submittedMetadata_provenance (request : ExecutionRequest) (manifest : Dict) (E : String) :
    (submittedMetadata request manifest E).get "event_id" = resultEvent E ∧
    (submittedMetadata request manifest E).get "task_digest" = manifest.get "digest" ∧
    (submittedMetadata request manifest E).get "evaluator" = manifest.get "evaluator" ∧
    (submittedMetadata request manifest E).get "runtime_image" =
      (manifest.get "runtime_image").or (manifest.get "runtime") := by
  rw [submittedMetadata]
  split
  · simp [Dict.get_set_text, Dict.get_set_self, resultEvent]
  · simp [Dict.get_set_text, Dict.get_set_self, resultEvent]

/-- The submission was made for a task that is registered. -/
def SubmittedFor (sha256 : ByteArray → String) (s : JudgeStore) (r : Submission) : Prop :=
  ∃ request task now, requestFingerprint sha256 request = .ok r.requestFingerprint ∧
    s.tasks.find? request.taskRef = some task ∧
    r = (submittedRow request task.manifest r.executionId r.requestFingerprint now).toSubmission

section
variable {s s' t : JudgeStore} {r : Execution} {E : String} {e : Event} {h l : List Event}
  {sha256 : ByteArray → String}

theorem SubmittedFor.registered (h : Registered s t) {r : Submission}
    (hr : SubmittedFor sha256 s r) : SubmittedFor sha256 t r := by
  obtain ⟨request, task, now, hfp, htask, hrow⟩ := hr
  exact ⟨request, task, now, hfp, h.tasks _ _ htask, hrow⟩

/-- Every execution of a reachable store was submitted for a registered task. -/
theorem run_submittedFor (hrun : StoreRun sha256 h s) (hr : s.executions.find? E = some r) :
    SubmittedFor sha256 s r.toSubmission := by
  induction hrun generalizing r with
  | start hinit =>
    subst hinit
    cases hr
  | @next h s e t _ hs ih =>
    cases hold : s.executions.find? E with
    | none =>
      obtain ⟨request, task, fp, _, _, _, hfp, htask, _, hrow⟩ := store_new hs hold hr
      subst hrow
      exact ⟨request, task, e.now, hfp, (store_registered hs).tasks _ _ htask, rfl⟩
    | some q =>
      obtain ⟨r', hr', hsub⟩ := store_submission hs hold
      cases Option.some.inj (hr'.symm.trans hr)
      rw [hsub]
      exact (ih hold).registered (store_registered hs)

theorem path_registered (hpath : StorePath sha256 s l t) : Registered s t :=
  hpath.relates .refl (fun _ _ _ h h' => h.trans h') fun _ _ _ hs => store_registered hs

theorem path_submission (hpath : StorePath sha256 s l t) (hr : s.executions.find? E = some r) :
    ∃ r', t.executions.find? E = some r' ∧ r'.toSubmission = r.toSubmission := by
  induction hpath with
  | refl => exact ⟨r, hr, rfl⟩
  | next _ hs ih =>
    obtain ⟨q, hq, hsub⟩ := ih
    obtain ⟨r', hr', hsub'⟩ := store_submission hs hq
    exact ⟨r', hr', hsub'.trans hsub⟩

theorem getExecution_some : s.getExecution E = some x ↔
    ∃ r, s.executions.find? E = some r ∧ result r = x :=
  Option.map_eq_some_iff

theorem SubmittedFor.result_metadata (h : SubmittedFor sha256 s r.toSubmission) :
    (result r).metadata = .obj r.metadataJson ∧ (result r).eventId = resultEvent r.executionId := by
  obtain ⟨request, task, now, _, _, hrow⟩ := h
  have hmetadata : r.metadataJson = submittedMetadata request task.manifest r.executionId :=
    congrArg Submission.metadataJson hrow
  obtain ⟨hevent, _⟩ := submittedMetadata_provenance request task.manifest r.executionId
  rw [← hmetadata] at hevent
  have htruthy := resultEvent_truthy r.executionId
  have hne : r.metadataJson.get "event_id" ≠ .null := by
    intro hnull
    rw [← hevent, hnull] at htruthy
    cases htruthy
  constructor
  · simp only [result]
    rw [Dict.setdefault_present hne]
  · simp only [result]
    rw [hevent, Json.or, if_pos htruthy]

theorem SubmittedFor.result_provenance (h : SubmittedFor sha256 s r.toSubmission) :
    ∃ task, s.tasks.find? r.taskRef = some task ∧
      (result r).taskDigest = task.manifest.get "digest" ∧
      (result r).evaluator = task.manifest.get "evaluator" ∧
      (result r).runtimeImage =
        (task.manifest.get "runtime_image").or (task.manifest.get "runtime") := by
  have hpublished := Json.obj.inj h.result_metadata.1
  obtain ⟨request, task, now, _, htask, hrow⟩ := h
  have hmetadata : r.metadataJson = submittedMetadata request task.manifest r.executionId :=
    congrArg Submission.metadataJson hrow
  have href : r.taskRef = request.taskRef := congrArg Submission.taskRef hrow
  obtain ⟨_, hdigest, hevaluator, himage⟩ :=
    submittedMetadata_provenance request task.manifest r.executionId
  rw [← hmetadata] at hdigest hevaluator himage
  refine ⟨task, ?_, ?_, ?_, ?_⟩
  · rw [href]
    exact htask
  · rw [← hdigest, ← hpublished]
    rfl
  · rw [← hevaluator, ← hpublished]
    rfl
  · rw [← himage, ← hpublished]
    rfl

theorem submit_published
    (hs : StoreStep sha256 s ⟨now, .submit E request, .ok (.execution (some x))⟩ t) :
    t.getExecution x.executionId = some x := by
  obtain ⟨⟨_, _⟩, hp, he⟩ := map_ok.1 (step_ok.1 hs)
  cases he
  obtain ⟨fp, task, _, _, ⟨r, hr, _, hx, ht⟩ | ⟨_, table, hinsert, hx, ht⟩⟩ := submit_ok hp
  · subst hx ht
    exact getExecution_some.2 ⟨r, Table.find?_mem (List.mem_of_find?_eq_some hr), rfl⟩
  · subst hx ht
    exact getExecution_some.2 ⟨_, (Table.find?_insert hinsert _).trans (if_pos rfl), rfl⟩

/-- Neither clients nor workers rewrite where an execution comes from. -/
theorem provenance_kept (hrun : StoreRun sha256 h s) :
    -- a registered task stays as it is
    (∀ taskRef task l t, s.tasks.find? taskRef = some task → StorePath sha256 s l t →
      t.tasks.find? taskRef = some task) ∧
    -- an execution is inserted with what was asked for
    (∀ e E t y, StoreStep sha256 s e t → s.getExecution E = none → t.getExecution E = some y →
      ∃ request task, e.op = .submit E request ∧ s.tasks.find? request.taskRef = some task ∧
        y.taskRef = request.taskRef ∧
        y.metadata = .obj (submittedMetadata request task.manifest E) ∧
        y.queue = request.queue ∧ y.resourceClass = request.resourceClass ∧
        y.priority = request.priority) ∧
    -- the submission already answers with it
    (∀ now E request x t,
      StoreStep sha256 s ⟨now, .submit E request, .ok (.execution (some x))⟩ t →
      t.getExecution x.executionId = some x) ∧
    -- the rest comes from the task
    (∀ E x, s.getExecution E = some x → x.eventId = resultEvent E ∧
      ∃ task, s.tasks.find? x.taskRef = some task ∧
        x.taskDigest = task.manifest.get "digest" ∧
        x.evaluator = task.manifest.get "evaluator" ∧
        x.runtimeImage = (task.manifest.get "runtime_image").or (task.manifest.get "runtime")) ∧
    -- and all of it stays
    (∀ E x l t, s.getExecution E = some x → StorePath sha256 s l t →
      ∃ y, t.getExecution E = some y ∧ y.taskRef = x.taskRef ∧ y.metadata = x.metadata ∧
        y.queue = x.queue ∧ y.resourceClass = x.resourceClass ∧ y.priority = x.priority ∧
        y.eventId = x.eventId ∧ y.taskDigest = x.taskDigest ∧ y.evaluator = x.evaluator ∧
        y.runtimeImage = x.runtimeImage) := by
  refine ⟨?_, ?_, ?_, ?_, ?_⟩
  · intro taskRef task l t htask hpath
    exact (path_registered hpath).tasks _ _ htask
  · intro e E t y hs hnone hy
    have habsent : s.executions.find? E = none := Option.map_eq_none_iff.1 hnone
    obtain ⟨r, hr, hy⟩ := getExecution_some.1 hy
    obtain ⟨request, task, _, _, hop, _, _, htask, _, hrow⟩ := store_new hs habsent hr
    have hmetadata := (run_submittedFor (.next hrun hs) hr).result_metadata.1
    subst hy hrow
    exact ⟨request, task, hop, htask, rfl, hmetadata, rfl, rfl, rfl⟩
  · intro now E request x t hs
    exact submit_published hs
  · intro E x hx
    obtain ⟨r, hr, hx⟩ := getExecution_some.1 hx
    have hE : r.executionId = E := Table.key_of_find? hr
    have hsubmitted := run_submittedFor hrun hr
    subst hx hE
    exact ⟨hsubmitted.result_metadata.2, hsubmitted.result_provenance⟩
  · intro E x l t hx hpath
    obtain ⟨r, hr, hx⟩ := getExecution_some.1 hx
    obtain ⟨r', hr', hsub⟩ := path_submission hpath hr
    refine ⟨result r', getExecution_some.2 ⟨r', hr', rfl⟩, ?_⟩
    subst hx
    simp only [result, hsub, and_self]

/-- A task that names its runtime only. -/
def Sample.runtimeTask : TaskRecord :=
  { Sample.task with manifest := [("kind", .text "ml"), ("runtime", .text "python-3.13")] }

def Sample.onRuntime : List (Instant × Op) :=
  [(Sample.clock 0, .registerTask Sample.runtimeTask),
    (Sample.clock 1, .submit "e7" Sample.request)]

/-- An execution of it reports that runtime as its image. -/
theorem runtime_image_sample : ∃ h s x task, StoreRun Sample.sha256 h s ∧
    s.getExecution "e7" = some x ∧ s.tasks.find? x.taskRef = some task ∧
    x.runtimeImage ≠ task.manifest.get "runtime_image" := by
  have hrun := performAll_run Sample.sha256 Sample.onRuntime
  let s := (performAll Sample.sha256 .empty Sample.onRuntime).2
  have hreported : (s.getExecution "e7").any (fun x => (s.tasks.find? x.taskRef).any
      fun task => x.runtimeImage ≠ task.manifest.get "runtime_image") = true := by
    decide +kernel
  obtain ⟨x, hx, hreported⟩ := (Option.any_eq_true _ _).1 hreported
  obtain ⟨task, htask, hne⟩ := (Option.any_eq_true _ _).1 hreported
  exact ⟨_, s, x, task, hrun, hx, htask, of_decide_eq_true hne⟩

theorem provenance_kept_sample :
    (performAll Sample.sha256 .empty Sample.onRuntime).2.getExecution "e7" ≠ none ∧
    ∀ x, (performAll Sample.sha256 .empty Sample.onRuntime).2.getExecution "e7" = some x →
      x.eventId = resultEvent "e7" := by
  constructor
  · decide +kernel
  · intro x hx
    exact ((provenance_kept (performAll_run Sample.sha256 Sample.onRuntime)).2.2.2.1 "e7" x hx).1

end

end BrunostJudge
