import BrunostJudge.SubmissionSpec

namespace BrunostJudge
open Python Relational Transition JudgeStore
set_option autoImplicit true

section
variable {d : Deployment} {sha256 : ByteArray → String} {server server' : Server}
  {s s' store : JudgeStore} {task : TaskRecord} {payload : SubmitPayload} {now : Instant}

/-- The task of an execution is there, and a claim can read what the two require. -/
def Readable (s : JudgeStore) (r : Submission) : Prop :=
  ∃ task required, s.tasks.find? r.taskRef = some task ∧
    requiredCapabilities task.manifest r.metadataJson = .ok required

def AllReadable (s : JudgeStore) : Prop :=
  ∀ E r, s.executions.find? E = some r → Readable s r.toSubmission

theorem Readable.registered (h : Registered s s') (hr : Readable s r) : Readable s' r := by
  obtain ⟨task, required, htask, hrequired⟩ := hr
  exact ⟨task, required, h.tasks _ _ htask, hrequired⟩

theorem step_readable (hs : StoreStep sha256 s e s')
    (hop : ∀ E request, e.op ≠ .submit E request) (h : AllReadable s) : AllReadable s' := by
  intro E r' hr'
  cases hr : s.executions.find? E with
  | none =>
    obtain ⟨_, hnone | ⟨request, _, _, hsubmit, _⟩⟩ := store_absent hs hr
    · cases hnone.symm.trans hr'
    · exact absurd hsubmit (hop E request)
  | some r =>
    obtain ⟨q, hq, hsub⟩ := store_submission hs hr
    cases Option.some.inj (hq.symm.trans hr')
    rw [hsub]
    exact (h E r hr).registered (store_registered hs)

/-- The provenance that the store writes leaves the requirements of the client alone. -/
theorem submittedMetadata_requirements (request : ExecutionRequest) (manifest : Dict) (E : String) :
    (submittedMetadata request manifest E).get "required_capabilities" =
      request.metadata.get "required_capabilities" := by
  rw [submittedMetadata]
  split
  · simp only [Dict.get_set_text, ne_eq, String.reduceEq, not_false_eq_true]
  · simp only [Dict.get_set_text, ne_eq, String.reduceEq, not_false_eq_true]

/-- What the task and the participants require replaces what the client asked for. -/
theorem evaluationMetadata_requirements (payload : SubmitPayload) (kind : String)
    (agents : List Dict) (game : Option Dict) (capabilities : List Json) :
    (evaluationMetadata payload kind agents game capabilities).get "required_capabilities" =
      if capabilities = [] then payload.metadata.get "required_capabilities"
      else .arr capabilities := by
  simp only [evaluationMetadata, Dict.get_set_text, Dict.get_setSome_text, Dict.get_setSome_self,
    ne_eq, String.reduceEq, not_false_eq_true]
  split
  · rfl
  · rfl

theorem declaredCapabilities_ok (h : declaredCapabilities manifest agents game = .ok declared) :
    (∃ required, (manifest.get "required_capabilities").setElements = .ok required) ∧
      ∀ x ∈ declared, x.hashable := by
  obtain ⟨sets, hsets, h⟩ := bind_ok.1 h
  cases pure_ok.1 h
  obtain ⟨hall, hvalues⟩ := mapM_ok hsets
  constructor
  · exact hall manifest List.mem_cons_self
  · intro x hx
    obtain hnil | hx := mem_foldl_setInsert hx
    · cases hnil
    · obtain ⟨set, hset, hx⟩ := List.mem_flatten.1 hx
      obtain ⟨definition, _, hdefinition⟩ := hvalues set hset
      exact setElements_hashable hdefinition x hx

/-- The capabilities that a submission asks for cannot be read, and it names no task, agent or
game whose own take their place. -/
def Poisons (store : JudgeStore) (payload : SubmitPayload) : Prop :=
  ∃ task agents game err, store.tasks.find? payload.taskRef = some task ∧
    participants store task payload = .ok (agents, game) ∧
    declaredCapabilities task.manifest agents game = .ok [] ∧
    (payload.metadata.get "required_capabilities").setElements = .error err

theorem submitted_readable (htask : store.tasks.find? payload.taskRef = some task)
    (hrequest : executionRequest d store task path payload = .ok request)
    (hoverride : overrideResourceClass d task request = .ok request')
    (hpoisons : ¬Poisons store payload) (manifest : Dict) (E : String) :
    ∃ required, requiredCapabilities task.manifest (submittedMetadata request' manifest E) =
      .ok required := by
  obtain ⟨callbackUrl, kind, agents, game, declared, capabilities, _, _, hparticipants, hdeclared,
    hsorted, hrequest⟩ := executionRequest_ok hrequest
  obtain ⟨resourceClass, hoverride⟩ := overrideResourceClass_ok hoverride
  obtain ⟨⟨required, hmanifest⟩, hhashable⟩ := declaredCapabilities_ok hdeclared
  have hperm := sorted_perm hsorted
  have hown : ∃ own, ((submittedMetadata request' manifest E).get
      "required_capabilities").setElements = .ok own := by
    rw [submittedMetadata_requirements, hoverride, hrequest, evaluationMetadata_requirements]
    by_cases hnil : capabilities = []
    · rw [if_pos hnil]
      cases hclient : (payload.metadata.get "required_capabilities").setElements with
      | ok own => exact ⟨own, rfl⟩
      | error err =>
        rw [hnil] at hperm
        rw [← hperm.nil_eq] at hdeclared
        exact absurd ⟨task, agents, game, err, htask, hparticipants, hdeclared, hclient⟩ hpoisons
    · rw [if_neg hnil]
      exact ⟨capabilities, setElements_arr fun x hx => hhashable x (hperm.mem_iff.1 hx)⟩
  obtain ⟨own, hown⟩ := hown
  refine ⟨required ++ own, ?_⟩
  rw [requiredCapabilities, hmanifest, hown]
  rfl

theorem submission_readable (hpoisons : ¬Poisons server.store payload)
    (hsubmit : submitExecution d sha256 server now E header snapshot payload =
      (.ok reply, server')) (h : AllReadable server.store) : AllReadable server'.store := by
  obtain ⟨task, path, request, request', hcheck, _, hrequest, hoverride, hsubmit⟩ :=
    submitExecution_ok hsubmit
  obtain ⟨htask, _, _⟩ := checkRequest_ok hcheck
  have hregistered := (submit_keeps hsubmit).registered
  intro E' r' hr'
  cases hr : server.store.executions.find? E' with
  | some r =>
    cases Option.some.inj ((submit_row hsubmit hr).symm.trans hr')
    exact (h E' _ hr).registered hregistered
  | none =>
    obtain hnone | ⟨_, manifest, fp, hrow⟩ := submit_absent hsubmit hr
    · cases hnone.symm.trans hr'
    · cases Option.some.inj (hrow.symm.trans hr')
      obtain ⟨required, hrequired⟩ :=
        submitted_readable htask hrequest hoverride hpoisons manifest E'
      refine ⟨task, required, ?_, hrequired⟩
      obtain ⟨_, _, _, _, _, _, _, _, _, _, _, hfields⟩ := executionRequest_ok hrequest
      obtain ⟨_, hclass⟩ := overrideResourceClass_ok hoverride
      have href : request'.taskRef = payload.taskRef := by rw [hclass, hfields]
      rw [← href] at htask
      exact hregistered.tasks _ _ htask

/-- An accepted submission that poisons the queue. -/
def Poisoned (server : Server) (e : ServerEvent) : Prop :=
  ∃ now E header payload reply, e = .submission now E header payload (.ok reply) ∧
    Poisons server.store payload

/-- Runs in which no accepted submission poisons the queue. -/
abbrev WholesomeRun (d : Deployment) (sha256 : ByteArray → String) :
    List ServerEvent → Server → Prop :=
  Run (· = .empty) fun server e server' => ServerStep d sha256 server e server' ∧ ¬Poisoned server e

theorem run_readable (hrun : WholesomeRun d sha256 h server) : AllReadable server.store := by
  induction hrun with
  | start hinit =>
    subst hinit
    intro E r hr
    cases hr
  | next _ hs ih =>
    obtain ⟨hs, hclean⟩ := hs
    cases hs with
    | @submission now E header _ payload outcome _ hsubmit =>
      cases outcome with
      | error failure =>
        rw [submitExecution_refused hsubmit]
        exact ih
      | ok reply =>
        apply submission_readable _ hsubmit ih
        intro hpoisons
        exact hclean ⟨now, E, header, payload, reply, rfl, hpoisons⟩
    | operation hop hstep => exact step_readable hstep hop ih
    | upload => exact ih

/-- The scan of a store with readable rows finds a compatible candidate if there is one. -/
theorem claimNext_readable (h : AllReadable s) (request : ClaimRequest)
    (hfilters : bindFilters parameterLimit request = .ok ())
    (hworker : request.workerId = PyStr.ofString worker)
    (hlease : now.addSeconds (max 1 request.leaseSeconds) = .ok lease) :
    ∃ reply s', s.claimNext parameterLimit now request = .ok (reply, s') ∧
      ((∃ c ∈ (s.expireLeases now).candidates request.queues request.resourceClasses,
        compatible (request.capabilities.getD []) c = .ok true) → reply.isSome) := by
  have hscan : ((s.expireLeases now).candidates request.queues request.resourceClasses).findM?
      (compatible (request.capabilities.getD [])) =
        .ok (((s.expireLeases now).candidates request.queues request.resourceClasses).find?
          fun c => (compatible (request.capabilities.getD []) c).toOption.getD false) := by
    apply findM?_pure
    intro c hc
    obtain ⟨r', task⟩ := c
    obtain ⟨hr', _, htask⟩ := mem_candidates.1 hc
    obtain ⟨r, hr, hrow⟩ := List.mem_map.1 hr'
    have hsub : r'.toSubmission = r.toSubmission := by
      rw [← hrow]
      split
      · rfl
      · rfl
    obtain ⟨found, required, hfound, hrequired⟩ := h r.executionId r (Table.find?_mem hr)
    rw [← hsub] at hfound hrequired
    cases Option.some.inj (hfound.symm.trans htask)
    rw [compatible, hrequired]
    rfl
  rw [claimNext_eq, hfilters, ok_bind, hscan]
  cases hfind : ((s.expireLeases now).candidates request.queues request.resourceClasses).find?
      fun c => (compatible (request.capabilities.getD []) c).toOption.getD false with
  | none =>
    refine ⟨none, s.expireLeases now, rfl, ?_⟩
    rintro ⟨c, hc, hcompatible⟩
    have hnot := List.find?_eq_none.1 hfind c hc
    rw [hcompatible] at hnot
    exact absurd rfl hnot
  | some c =>
    obtain ⟨row, task⟩ := c
    refine ⟨some (claimReply now lease worker request row task),
      (s.expireLeases now).claimStore now lease worker row, ?_, fun _ => rfl⟩
    simp only [hlease, bindStr_ok.2 hworker]
    rfl

/-- No execution keeps the others from being claimed, as long as nobody submits requirements
that cannot be read. -/
theorem claims_not_poisoned (hrun : WholesomeRun d sha256 h server) (request : ClaimRequest)
    (hfilters : bindFilters parameterLimit request = .ok ())
    (hworker : request.workerId.encode?.isSome)
    (hlease : now.addSeconds (max 1 request.leaseSeconds) = .ok lease) :
    ∃ reply store', server.store.claimNext parameterLimit now request = .ok (reply, store') ∧
      ((∃ r ∈ server.store.executions.rows, ∃ task, r.status = .queued ∧
        r.cancelRequested = false ∧ inFilter request.queues r.queue ∧
        inFilter request.resourceClasses r.resourceClass ∧
        server.store.tasks.find? r.taskRef = some task ∧
        compatible (request.capabilities.getD []) (r, task) = .ok true) → reply.isSome) := by
  obtain ⟨worker, hworker⟩ := Option.isSome_iff_exists.1 hworker
  obtain ⟨reply, store', hclaim, hclaimed⟩ := claimNext_readable (run_readable hrun) request
    hfilters (PyStr.ofString_of_encode? hworker).symm hlease
  refine ⟨reply, store', hclaim, ?_⟩
  rintro ⟨r, hr, task, hqueued, hcancel, hqueue, hclass, htask, hcompatible⟩
  apply hclaimed
  refine ⟨(r, task), mem_candidates.2 ⟨?_, ?_, htask⟩, hcompatible⟩
  · apply List.mem_map.2
    refine ⟨r, hr, ?_⟩
    rw [if_neg]
    simp [leaseOver, hqueued]
  · exact selectable_iff.2 ⟨hqueued, hcancel, hqueue, hclass⟩

end

namespace Sample

def registration : Event := (perform sha256 .empty (clock 0) (.registerTask scorer)).1

theorem registration_step (artifacts : List String) :
    ServerStep deployment sha256 ⟨.empty, artifacts⟩ (.operation registration)
      ⟨registered.store, artifacts⟩ := by
  apply ServerStep.operation _ (perform_step sha256 .empty (clock 0) (.registerTask scorer))
  intro E request hop
  rw [registration, perform_op] at hop
  cases hop

theorem registered_run : WholesomeRun deployment sha256 [.operation registration, .upload artifact]
    registered := by
  have hstart : WholesomeRun deployment sha256 [] .empty := .start rfl
  have hupload : ¬Poisoned .empty (.upload artifact) := by
    rintro ⟨_, _, _, _, _, he, _⟩
    cases he
  have hregistration : ¬Poisoned ⟨.empty, [artifact]⟩ (.operation registration) := by
    rintro ⟨_, _, _, _, _, he, _⟩
    cases he
  exact (hstart.next ⟨.upload, hupload⟩).next ⟨registration_step _, hregistration⟩

theorem registered_serverRun :
    ServerRun deployment sha256 [.operation registration, .upload artifact] registered := by
  have hstart : ServerRun deployment sha256 [] .empty := .start rfl
  exact (hstart.next .upload).next (registration_step _)

end Sample

theorem claims_not_poisoned_sample :
    let server := (Sample.submitted Sample.registered "e1" "key-1" []).2
    ∃ reply store', server.store.claimNext Sample.parameterLimit (Sample.clock 5)
      (Sample.claim "w1" 60) =
      .ok (reply, store') ∧ reply.isSome := by
  intro server
  have hrow : server.store.executions.rows.any (fun r =>
      r.taskRef = "cats" && (r.status = .queued &&
      (!r.cancelRequested && compatible [] (r, Sample.scorer) = .ok true))) = true := by
    decide +kernel
  have htask : server.store.tasks.find? "cats" = some Sample.scorer := by decide +kernel
  have hclean : ¬Poisoned Sample.registered
      (Sample.submission Sample.registered "e1" "key-1" []) := by
    rintro ⟨_, _, _, _, _, he, _, _, _, err, _, _, _, herr⟩
    obtain ⟨_, _, _, hpayload, _⟩ := ServerEvent.submission.inj he
    subst hpayload
    have hnone : ((Sample.payload "key-1" []).metadata.get
        "required_capabilities").setElements = .ok [] := rfl
    cases hnone.symm.trans herr
  have hrun : WholesomeRun Sample.deployment Sample.sha256 _ server :=
    Sample.registered_run.next ⟨Sample.submitted_step _ "e1" "key-1" [], hclean⟩
  clear_value server
  have hlease : (Sample.clock 5).addSeconds (max 1 (Sample.claim "w1" 60).leaseSeconds) =
      .ok (Sample.clock 65) := by decide +kernel
  have hfilters : bindFilters Sample.parameterLimit (Sample.claim "w1" 60) = .ok () := by
    decide +kernel
  obtain ⟨reply, store', hclaim, hclaimed⟩ :=
    claims_not_poisoned hrun (Sample.claim "w1" 60) hfilters (by decide +kernel) hlease
  refine ⟨reply, store', hclaim, hclaimed ?_⟩
  obtain ⟨r, hr, hrow⟩ := List.any_eq_true.1 hrow
  simp only [Bool.and_eq_true, decide_eq_true_eq, Bool.not_eq_true'] at hrow
  obtain ⟨href, hqueued, hcancel, hcompatible⟩ := hrow
  exact ⟨r, hr, Sample.scorer, hqueued, hcancel, rfl, rfl, href ▸ htask, hcompatible⟩

/-- The requirements of the first execution are a number, and nobody can claim the second. -/
theorem claims_poisoned_sample : ∃ h server,
    ServerRun Sample.deployment Sample.sha256 h server ∧
    (∀ now E header payload failure, .submission now E header payload (.error failure) ∉ h) ∧
    server.store.claimNext Sample.parameterLimit (Sample.clock 5) (Sample.claim "w1" 60) =
      .error .typeError ∧
    ∃ r ∈ server.store.executions.rows, ∃ task, r.executionId = "e2" ∧ r.status = .queued ∧
      r.cancelRequested = false ∧ server.store.tasks.find? r.taskRef = some task ∧
      compatible [] (r, task) = .ok true := by
  let number : Dict := [("required_capabilities", .num (.int 5))]
  let poisoned := (Sample.submitted Sample.registered "e1" "key-1" number).2
  let server := (Sample.submitted poisoned "e2" "key-2" []).2
  have hfirst : (Sample.submitted Sample.registered "e1" "key-1" number).1.isOk = true := by
    decide +kernel
  have hsecond : (Sample.submitted poisoned "e2" "key-2" []).1.isOk = true := by decide +kernel
  have hclaim : (match server.store.claimNext Sample.parameterLimit (Sample.clock 5)
      (Sample.claim "w1" 60) with
    | .error err => decide (err = .typeError)
    | .ok _ => false) = true := by decide +kernel
  have hrow : server.store.executions.rows.any (fun r => r.executionId = "e2" &&
      (r.taskRef = "cats" && (r.status = .queued && (!r.cancelRequested &&
      compatible [] (r, Sample.scorer) = .ok true)))) = true := by
    decide +kernel
  have htask : server.store.tasks.find? "cats" = some Sample.scorer := by decide +kernel
  have hrun : ServerRun Sample.deployment Sample.sha256
      [Sample.submission poisoned "e2" "key-2" [],
        Sample.submission Sample.registered "e1" "key-1" number,
        .operation Sample.registration, .upload Sample.artifact] server :=
    (Sample.registered_serverRun.next (Sample.submitted_step _ "e1" "key-1" number)).next
      (Sample.submitted_step poisoned "e2" "key-2" [])
  have haccepted : ∀ now E header payload failure, .submission now E header payload
      (.error failure) ∉ [Sample.submission poisoned "e2" "key-2" [],
        Sample.submission Sample.registered "e1" "key-1" number,
        .operation Sample.registration, .upload Sample.artifact] := by
    intro now E header payload failure hmem
    simp only [List.mem_cons, List.not_mem_nil, reduceCtorEq, or_false, Sample.submission,
      ServerEvent.submission.injEq] at hmem
    obtain ⟨_, _, _, _, herr⟩ | ⟨_, _, _, _, herr⟩ := hmem
    · rw [← herr] at hsecond
      cases hsecond
    · rw [← herr] at hfirst
      cases hfirst
  clear_value server
  refine ⟨_, server, hrun, haccepted, ?_, ?_⟩
  · split at hclaim
    · next herr =>
      rw [herr, of_decide_eq_true hclaim]
    · cases hclaim
  · obtain ⟨r, hr, hrow⟩ := List.any_eq_true.1 hrow
    simp only [Bool.and_eq_true, decide_eq_true_eq, Bool.not_eq_true'] at hrow
    obtain ⟨hE, href, hqueued, hcancel, hcompatible⟩ := hrow
    exact ⟨r, hr, Sample.scorer, hE, hqueued, hcancel, href ▸ htask, hcompatible⟩

end BrunostJudge
