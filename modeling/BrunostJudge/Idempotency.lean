import BrunostJudge.PyDumpsInjective
import BrunostJudge.Claimability

namespace BrunostJudge
open Python Relational Transition JudgeStore
set_option autoImplicit true

/-- Two requests agree in all that an idempotency key protects; the order of the keys in their
metadata means nothing. -/
structure SameRequest (q q' : ExecutionRequest) : Prop where
  taskRef : q.taskRef = q'.taskRef
  submissionPath : q.submissionPath = q'.submissionPath
  callbackUrl : q.callbackUrl = q'.callbackUrl
  callbackToken : q.callbackToken = q'.callbackToken
  metadata : (Json.obj q.metadata).sortKeys = (Json.obj q'.metadata).sortKeys
  queue : q.queue = q'.queue
  resourceClass : q.resourceClass = q'.resourceClass
  priority : q.priority = q'.priority
  timeoutSeconds : q.timeoutSeconds = q'.timeoutSeconds

section
variable {sha256 : ByteArray → String} {s s' t : JudgeStore} {now : Instant}

theorem text_sortKeys {a b : String}
    (h : (Json.text a).sortKeys = (Json.text b).sortKeys) : a = b :=
  PyStr.ofString_inj.1 (Json.str.inj h)

theorem textOrNull_sortKeys {a b : Option String}
    (h : (Json.textOrNull a).sortKeys = (Json.textOrNull b).sortKeys) : a = b := by
  cases a with
  | none =>
    cases b with
    | none => rfl
    | some y => cases h
  | some x =>
    cases b with
    | none => cases h
    | some y => exact congrArg some (text_sortKeys h)

theorem int_sortKeys {i j : Int}
    (h : (Json.num (.int i)).sortKeys = (Json.num (.int j)).sortKeys) : i = j :=
  Number.int.inj (Json.num.inj h)

theorem fingerprintPayload_inj (h : dumps (fingerprintPayload q) = dumps (fingerprintPayload q')) :
    SameRequest q q' := by
  have hsorted := dumps_inj h
  rw [fingerprintPayload, fingerprintPayload] at hsorted
  have hfields := Json.sortKeys_obj_inj (by rfl) (of_decide_eq_true (by rfl)) hsorted
  simp only [List.map_cons, List.map_nil, List.cons.injEq, Prod.mk.injEq, true_and,
    and_true] at hfields
  obtain ⟨htask, hpath, hurl, htoken, hmetadata, hqueue, hclass, hpriority, htimeout⟩ := hfields
  refine ⟨text_sortKeys htask, text_sortKeys hpath, textOrNull_sortKeys hurl,
    textOrNull_sortKeys htoken, hmetadata,
    text_sortKeys hqueue, text_sortKeys hclass, int_sortKeys hpriority, ?_⟩
  cases hq : q.timeoutSeconds with
  | none =>
    cases hq' : q'.timeoutSeconds with
    | none => rfl
    | some j =>
      rw [hq, hq'] at htimeout
      cases htimeout
  | some i =>
    cases hq' : q'.timeoutSeconds with
    | none =>
      rw [hq, hq'] at htimeout
      cases htimeout
    | some j =>
      rw [hq, hq'] at htimeout
      exact congrArg some (int_sortKeys htimeout)

theorem requestFingerprint_ok (h : requestFingerprint sha256 q = .ok fp) :
    ∃ encoded, (dumps (fingerprintPayload q)).encode? = some encoded ∧
      fp = sha256 encoded.toByteArray := by
  rw [requestFingerprint] at h
  split at h
  · next encoded hencoded =>
    cases h
    exact ⟨encoded, hencoded, rfl⟩
  · cases h

theorem requestFingerprint_inj (hinj : Function.Injective sha256)
    (h : requestFingerprint sha256 q = .ok fp) (h' : requestFingerprint sha256 q' = .ok fp) :
    SameRequest q q' := by
  obtain ⟨encoded, hencoded, hfp⟩ := requestFingerprint_ok h
  obtain ⟨encoded', hencoded', hfp'⟩ := requestFingerprint_ok h'
  have heq : encoded = encoded' := String.toByteArray_inj.1 (hinj (hfp.symm.trans hfp'))
  rw [← heq] at hencoded'
  exact fingerprintPayload_inj (PyStr.encode?_inj hencoded hencoded')

/-- The accepted request that made an execution. -/
structure SubmittedBy (sha256 : ByteArray → String) (h : List Event) (s : JudgeStore)
    (r : Submission) (request : ExecutionRequest) : Prop where
  accepted : ∃ e ∈ h, ∃ reply, e.op = .submit r.executionId request ∧ e.outcome = .ok reply
  idempotencyKey : request.idempotencyKey = r.idempotencyKey
  fingerprint : requestFingerprint sha256 request = .ok r.requestFingerprint
  registered : ∃ task, s.tasks.find? request.taskRef = some task

theorem run_submitted (hrun : StoreRun sha256 h s) (hr : s.executions.find? E = some r) :
    ∃ request, SubmittedBy sha256 h s r.toSubmission request := by
  induction hrun generalizing r with
  | start hinit =>
    subst hinit
    cases hr
  | @next l s e s' _ hs ih =>
    have hregistered := store_registered hs
    cases hq : s.executions.find? E with
    | some q =>
      obtain ⟨_, hr', hsub⟩ := store_submission hs hq
      cases Option.some.inj (hr'.symm.trans hr)
      obtain ⟨request, ⟨e', he', haccepted⟩, hkey, hfp, task, htask⟩ := ih hq
      rw [hsub]
      exact ⟨request, ⟨e', List.mem_cons_of_mem _ he', haccepted⟩, hkey, hfp, task,
        hregistered.tasks _ _ htask⟩
    | none =>
      obtain ⟨request, task, fp, reply, hop, hreply, hfp, htask, _, hrow⟩ := store_new hs hq hr
      subst hrow
      exact ⟨request, ⟨e, List.mem_cons_self, reply, hop, hreply⟩, rfl, hfp, task,
        hregistered.tasks _ _ htask⟩

theorem keyed?_none (h : s.keyed? key = none) (hr : s.executions.find? E = some r) :
    r.idempotencyKey ≠ key := by
  have hnot := List.find?_eq_none.1 h r (Table.mem_of_find? hr)
  simpa using hnot

/-- One execution to a key. -/
def OneEach (s : JudgeStore) : Prop :=
  ∀ E E' r r', s.executions.find? E = some r → s.executions.find? E' = some r' →
    r.idempotencyKey = r'.idempotencyKey → E = E'

theorem step_oneEach (hs : StoreStep sha256 s e s') (h : OneEach s) : OneEach s' := by
  -- A new row has a key that no old row has.
  have hfresh : ∀ E E' r r' q', s.executions.find? E = none → s'.executions.find? E = some r →
      s.executions.find? E' = some q' → s'.executions.find? E' = some r' →
      r.idempotencyKey ≠ r'.idempotencyKey := by
    intro E E' r r' q' hnone hr hq' hr' hkey
    obtain ⟨request, _, _, _, _, _, _, _, hkeyed, hrow⟩ := store_new hs hnone hr
    obtain ⟨_, hq, hsub⟩ := store_submission hs hq'
    cases Option.some.inj (hq.symm.trans hr')
    apply keyed?_none hkeyed hq'
    rw [← congrArg Submission.idempotencyKey hsub, ← hkey, hrow]
    rfl
  intro E E' r r' hr hr' hkey
  cases hq : s.executions.find? E with
  | none =>
    cases hq' : s.executions.find? E' with
    | none =>
      obtain ⟨_, _, _, _, hop, _⟩ := store_new hs hq hr
      obtain ⟨_, _, _, _, hop', _⟩ := store_new hs hq' hr'
      cases hop.symm.trans hop'
      rfl
    | some q' => exact absurd hkey (hfresh E E' r r' q' hq hr hq' hr')
  | some q =>
    cases hq' : s.executions.find? E' with
    | none => exact absurd hkey.symm (hfresh E' E r' r q hq' hr' hq hr)
    | some q' =>
      obtain ⟨_, hrow, hsub⟩ := store_submission hs hq
      cases Option.some.inj (hrow.symm.trans hr)
      obtain ⟨_, hrow', hsub'⟩ := store_submission hs hq'
      cases Option.some.inj (hrow'.symm.trans hr')
      apply h E E' q q' hq hq'
      rw [← congrArg Submission.idempotencyKey hsub, ← congrArg Submission.idempotencyKey hsub']
      exact hkey

theorem run_oneEach (hrun : StoreRun sha256 h s) : OneEach s := by
  induction hrun with
  | start hinit =>
    subst hinit
    intro _ _ _ _ hr
    cases hr
  | next _ hs ih => exact step_oneEach hs ih

theorem OneEach.keyed? (h : OneEach s) (hr : s.executions.find? E = some r) :
    s.keyed? r.idempotencyKey = some r := by
  cases hq : s.keyed? r.idempotencyKey with
  | none => exact absurd rfl (keyed?_none hq hr)
  | some q =>
    have hkey : q.idempotencyKey = r.idempotencyKey := by simpa using List.find?_some hq
    have hq := Table.find?_mem (List.mem_of_find?_eq_some hq)
    have hE := h _ _ _ _ hq hr hkey
    rw [hE] at hq
    exact hq.symm.trans hr

theorem OneEach.nodup (h : OneEach s) :
    (s.executions.rows.map fun r => r.idempotencyKey).Nodup := by
  apply List.Nodup.map_on _ (List.Nodup.of_map _ s.executions.distinct)
  intro r hr q hq hkey
  have hfind := Table.find?_mem hr
  have hfind' := Table.find?_mem hq
  rw [h _ _ _ _ hfind hfind' hkey] at hfind
  exact Option.some.inj (hfind.symm.trans hfind')

theorem step_submit (hs : StoreStep sha256 s ⟨now, .submit E request, outcome⟩ t) :
    (∃ err, s.submit sha256 now E request = .error err ∧ outcome = .error err ∧ t = s) ∨
      ∃ reply, s.submit sha256 now E request = .ok (reply, t) ∧
        outcome = .ok (.execution (some reply)) := by
  cases hsubmit : s.submit sha256 now E request with
  | error err =>
    have hop : Op.run sha256 now s (.submit E request) = .error err := by
      rw [Op.run, hsubmit]
      rfl
    cases hs with
    | commit hrun => cases hop.symm.trans hrun
    | rollback hrun =>
      cases hop.symm.trans hrun
      exact .inl ⟨err, rfl, rfl, rfl⟩
  | ok p =>
    have hop : Op.run sha256 now s (.submit E request) = .ok (.execution (some p.1), p.2) := by
      rw [Op.run, hsubmit]
      rfl
    cases hs with
    | commit hrun =>
      cases hop.symm.trans hrun
      exact .inr ⟨p.1, rfl, rfl⟩
    | rollback hrun => cases hop.symm.trans hrun

theorem submit_same (hkey : s.keyed? request.idempotencyKey = some r)
    (htask : s.tasks.find? request.taskRef = some task)
    (hfp : requestFingerprint sha256 request = .ok r.requestFingerprint) (now : Instant)
    (E : String) : s.submit sha256 now E request = .ok (result r, s) := by
  rw [keyed?] at hkey
  rw [submit, hfp]
  simp only [bind, Except.bind, htask, hkey]
  rw [if_neg (fun h => h.2 rfl)]
  rfl

theorem submit_different (hkey : s.keyed? request.idempotencyKey = some r)
    (hdigest : r.requestFingerprint ≠ "")
    (hfp : requestFingerprint sha256 request ≠ .ok r.requestFingerprint) (now : Instant)
    (E : String) : ∃ err, s.submit sha256 now E request = .error err ∧
      (err.isValueError ∨ s.tasks.find? request.taskRef = none ∧
        ∃ message, err = .keyError message) := by
  rw [keyed?] at hkey
  rw [submit]
  cases hrequest : requestFingerprint sha256 request with
  | error err =>
    rw [requestFingerprint] at hrequest
    split at hrequest
    · cases hrequest
    · cases hrequest
      exact ⟨_, rfl, .inl rfl⟩
  | ok fp =>
    rw [hrequest] at hfp
    simp only [bind, Except.bind]
    cases htask : s.tasks.find? request.taskRef with
    | none => exact ⟨_, rfl, .inr ⟨rfl, _, rfl⟩⟩
    | some task =>
      simp only [hkey]
      rw [if_pos ⟨hdigest, fun h => hfp (congrArg Except.ok h.symm)⟩]
      exact ⟨_, rfl, .inl rfl⟩

theorem digest_nonempty (hdigest : ∀ b, sha256 b ≠ "")
    (h : requestFingerprint sha256 request = .ok fp) : fp ≠ "" := by
  obtain ⟨encoded, _, hfp⟩ := requestFingerprint_ok h
  rw [hfp]
  exact hdigest _

/-- The execution that a submission is answered with has its key and its fingerprint. -/
theorem submit_reply (hdigest : ∀ b, sha256 b ≠ "") (hrun : StoreRun sha256 h s)
    (hsubmit : s.submit sha256 now E request = .ok (reply, t)) :
    ∃ r, t.executions.find? reply.executionId = some r ∧
      r.idempotencyKey = request.idempotencyKey ∧
      requestFingerprint sha256 request = .ok r.requestFingerprint := by
  obtain ⟨fp, task, hfp, _, ⟨r, hkey, hsame, hreply, ht⟩ | ⟨_, _, hinsert, hreply, ht⟩⟩ :=
    submit_ok hsubmit
  · subst hreply
    subst ht
    have hr := Table.find?_mem (List.mem_of_find?_eq_some hkey)
    have hrow : r.idempotencyKey = request.idempotencyKey := by simpa using List.find?_some hkey
    obtain ⟨_, hsubmitted⟩ := run_submitted hrun hr
    obtain hempty | hsame := hsame
    · exact absurd hempty (digest_nonempty hdigest hsubmitted.fingerprint)
    · exact ⟨r, hr, hrow, hsame ▸ hfp⟩
  · subst hreply
    subst ht
    exact ⟨_, (Table.find?_insert hinsert _).trans (if_pos rfl), rfl, hfp⟩

theorem submit_again (hinj : Function.Injective sha256) (hdigest : ∀ b, sha256 b ≠ "")
    (hrun : StoreRun sha256 h s) (hr : r ∈ s.executions.rows)
    (hsubmitted : SubmittedBy sha256 h s r.toSubmission first)
    (hs : StoreStep sha256 s ⟨now, .submit E request, outcome⟩ t)
    (hkey : request.idempotencyKey = r.idempotencyKey) :
    t = s ∧ (requestFingerprint sha256 request = .ok r.requestFingerprint →
        outcome = .ok (.execution (some (result r)))) ∧
      (¬SameRequest first request → ∃ err, outcome = .error err ∧
        (err.isValueError ∨ s.tasks.find? request.taskRef = none ∧
          ∃ message, err = .keyError message)) := by
  have hkeyed := (run_oneEach hrun).keyed? (Table.find?_mem hr)
  rw [← hkey] at hkeyed
  have hfirst : requestFingerprint sha256 first = .ok r.requestFingerprint := hsubmitted.fingerprint
  have hnonempty := digest_nonempty hdigest hfirst
  by_cases hfp : requestFingerprint sha256 request = .ok r.requestFingerprint
  · have hsame := requestFingerprint_inj hinj hfirst hfp
    obtain ⟨task, htask⟩ := hsubmitted.registered
    rw [hsame.taskRef] at htask
    have hreturn := submit_same hkeyed htask hfp now E
    obtain ⟨err, hsubmit, _, _⟩ | ⟨reply, hsubmit, houtcome⟩ := step_submit hs
    · cases hsubmit.symm.trans hreturn
    · cases hsubmit.symm.trans hreturn
      exact ⟨rfl, fun _ => houtcome, fun hdiffers => absurd hsame hdiffers⟩
  · obtain ⟨err, hraise, herr⟩ := submit_different hkeyed hnonempty hfp now E
    obtain ⟨_, hsubmit, houtcome, ht⟩ | ⟨reply, hsubmit, houtcome⟩ := step_submit hs
    · cases hsubmit.symm.trans hraise
      exact ⟨ht, fun hsame => absurd hsame hfp, fun _ => ⟨err, houtcome, herr⟩⟩
    · cases hsubmit.symm.trans hraise

end

/-- The `Idempotency-Key` header that a deployment accepts with a body. -/
def HeaderMatches (d : Deployment) (header : Option String) (payload : SubmitPayload) : Prop :=
  (strip (header.getD "") = "" ∨ strip (header.getD "") = strip payload.idempotencyKey) ∧
    (d.requireIdempotencyHeader → strip (header.getD "") ≠ "")

/-- What a later state of the control plane keeps. -/
structure Kept (server server' : Server) : Prop where
  registered : Registered server.store server'.store
  artifacts : ∀ id, id ∈ server.artifacts → id ∈ server'.artifacts
  submissions : ∀ E r, server.store.executions.find? E = some r →
    ∃ r', server'.store.executions.find? E = some r' ∧ r'.toSubmission = r.toSubmission

section
variable {d : Deployment} {sha256 : ByteArray → String} {server server' : Server}
  {s s' store : JudgeStore} {task : TaskRecord} {payload : SubmitPayload} {now : Instant}

theorem Kept.refl (server : Server) : Kept server server :=
  ⟨.refl _, fun _ => id, fun _ r hr => ⟨r, hr, rfl⟩⟩

theorem Kept.trans (h : Kept server server₁) (h' : Kept server₁ server') : Kept server server' where
  registered := h.registered.trans h'.registered
  artifacts id hid := h'.artifacts id (h.artifacts id hid)
  submissions E r hr := by
    obtain ⟨q, hq, hsub⟩ := h.submissions E r hr
    obtain ⟨r', hr', hsub'⟩ := h'.submissions E q hq
    exact ⟨r', hr', hsub'.trans hsub⟩

theorem Kept.of_store (hs : StoreStep sha256 server.store e store)
    (hartifacts : ∀ id, id ∈ server.artifacts → id ∈ ids) : Kept server ⟨store, ids⟩ where
  registered := store_registered hs
  artifacts := hartifacts
  submissions _ _ hr := store_submission hs hr

theorem submission_artifacts
    (h : submitExecution d sha256 server now E header snapshot payload = (outcome, server')) :
    ∀ id, id ∈ server.artifacts → id ∈ server'.artifacts := by
  have hresolve : ∀ id, id ∈ server.artifacts →
      id ∈ (resolveSubmission server snapshot payload).2.artifacts := by
    intro id hid
    rw [resolveSubmission]
    split
    · split
      · exact List.mem_cons_of_mem _ hid
      · exact hid
    · exact hid
  simp only [submitExecution] at h
  split at h
  · cases h
    exact fun _ => id
  · split at h
    · cases h
      exact hresolve
    · cases h
      exact hresolve

theorem step_kept (hs : ServerStep d sha256 server e server') : Kept server server' := by
  cases hs with
  | submission hsubmit =>
    have hartifacts := submission_artifacts hsubmit
    obtain heq | ⟨_, _, hstep⟩ := submission_store hsubmit
    · obtain ⟨store, artifacts⟩ := server'
      cases heq
      exact ⟨.refl _, hartifacts, fun _ r hr => ⟨r, hr, rfl⟩⟩
    · exact .of_store hstep hartifacts
  | operation _ hstep => exact .of_store hstep fun _ => id
  | upload => exact ⟨.refl _, fun _ => List.mem_cons_of_mem _, fun _ r hr => ⟨r, hr, rfl⟩⟩

theorem path_kept (hpath : Path (ServerStep d sha256) server l server') : Kept server server' :=
  hpath.relates Kept.refl (fun _ _ _ => Kept.trans) fun _ _ _ => step_kept

theorem checkRequest_header (h : checkRequest d store header payload = .ok task) :
    HeaderMatches d header payload := by
  rw [checkRequest] at h
  obtain ⟨hmatch, h⟩ := check_ok.1 h
  obtain ⟨hrequired, _⟩ := check_ok.1 h
  constructor
  · by_cases hempty : strip (header.getD "") = ""
    · exact .inl hempty
    · by_cases hkey : strip (header.getD "") = strip payload.idempotencyKey
      · exact .inr hkey
      · exact absurd ⟨hempty, hkey⟩ hmatch
  · exact fun hrequire hempty => hrequired ⟨hrequire, hempty⟩

/-- A body that was let through is let through again, wherever its task is registered. -/
theorem checkRequest_again (h : checkRequest d store header payload = .ok task)
    (hheader : HeaderMatches d header' payload)
    (htask : s.tasks.find? payload.taskRef = some task) :
    checkRequest d s header' payload = .ok task := by
  obtain ⟨_, hkind, hone⟩ := checkRequest_ok h
  obtain ⟨hmatch, hrequired⟩ := hheader
  rw [checkRequest]
  apply check_ok.2
  constructor
  · rintro ⟨hnonempty, hdiffers⟩
    exact hmatch.elim hnonempty hdiffers
  · apply check_ok.2
    constructor
    · rintro ⟨hrequire, hempty⟩
      exact hrequired hrequire hempty
    · rw [JudgeStore.getTask, htask]
      apply check_ok.2
      constructor
      · simpa using hkind
      · exact check_ok.2 ⟨hone, rfl⟩

theorem agentDefinition_again (h : Registered s s') (hagent : agentDefinition s ref = .ok agent) :
    agentDefinition s' ref = .ok agent := by
  rw [agentDefinition, getDefinition] at hagent ⊢
  cases hfind : s.definitions.find? ("agent", ref) with
  | none =>
    rw [hfind] at hagent
    exact (abort_ok.1 hagent).elim
  | some definition =>
    rw [hfind] at hagent
    rw [h.definitions _ _ hfind]
    exact hagent

theorem gameDefinition_again (h : Registered s s') (hgame : gameDefinition s task ref = .ok game) :
    gameDefinition s' task ref = .ok game := by
  rw [gameDefinition, getDefinition] at hgame ⊢
  cases hfind : s.definitions.find? ("game", ref) with
  | none =>
    rw [hfind] at hgame
    exact (abort_ok.1 hgame).elim
  | some definition =>
    rw [hfind] at hgame
    rw [h.definitions _ _ hfind]
    exact hgame

theorem participants_again (h : Registered s s') (hp : participants s task payload = .ok p) :
    participants s' task payload = .ok p := by
  obtain ⟨agents, hagents, hp⟩ := bind_ok.1 hp
  apply bind_ok.2
  refine ⟨agents, mapM_of_ok (fun _ _ => agentDefinition_again h) hagents, ?_⟩
  split at hp
  · exact hp
  · obtain ⟨game, hgame, hp⟩ := bind_ok.1 hp
    exact bind_ok.2 ⟨game, gameDefinition_again h hgame, hp⟩

/-- Tasks and definitions never change, so neither does the request that a body comes to. -/
theorem executionRequest_again (h : Registered s s')
    (hrequest : executionRequest d s task path payload = .ok request) :
    executionRequest d s' task path payload = .ok request := by
  obtain ⟨callbackUrl, hcallback, hrequest⟩ := bind_ok.1 hrequest
  obtain ⟨kind, hkind, hrequest⟩ := bind_ok.1 hrequest
  obtain ⟨p, hparticipants, hrequest⟩ := bind_ok.1 hrequest
  exact bind_ok.2 ⟨callbackUrl, hcallback, bind_ok.2 ⟨kind, hkind,
    bind_ok.2 ⟨p, participants_again h hparticipants, hrequest⟩⟩⟩

theorem resolveSubmission_again (h : Kept server server')
    (hartifact : given payload.submissionPath = none)
    (hpath : (resolveSubmission server snapshot payload).1 = .ok path)
    (snapshot' : String → Except Failure String) :
    resolveSubmission server' snapshot' payload = (.ok path, server') := by
  rw [resolveSubmission, hartifact] at hpath ⊢
  simp only [Server.artifactPath] at hpath ⊢
  split at hpath
  · exact (abort_ok.1 hpath).elim
  · next id _ =>
    split at hpath
    · next hid =>
      have hid' := h.artifacts id (List.contains_iff_mem.1 hid)
      rw [if_pos (List.contains_iff_mem.2 hid')]
      exact congrArg (·, server') hpath
    · exact (abort_ok.1 hpath).elim

theorem submitExecution_eq (hcheck : checkRequest d server.store header payload = .ok task)
    (hpath : resolveSubmission server snapshot payload = (.ok path, server))
    (hrequest : executionRequest d server.store task path payload = .ok request)
    (hoverride : overrideResourceClass d task request = .ok request')
    (hsubmit : server.store.submit sha256 now E request' = .ok (reply, server.store)) :
    submitExecution d sha256 server now E header snapshot payload = (.ok reply, server) := by
  simp only [submitExecution, hcheck, hpath, bind, Except.bind, hrequest, hoverride, hsubmit]
  rfl

/-- A body with an artifact, sent again in a later state, is answered with the execution it had
before, and nothing changes. -/
theorem submission_again (hdigest : ∀ b, sha256 b ≠ "") (hrun : ServerRun d sha256 h server)
    (hartifact : given payload.submissionPath = none)
    (hsubmit : submitExecution d sha256 server now E header snapshot payload =
      (.ok reply, server₁))
    (hpath : Path (ServerStep d sha256) server₁ l server₂)
    (hheader : HeaderMatches d header' payload)
    (now' : Instant) (E' : String) (snapshot' : String → Except Failure String) :
    ∃ reply', submitExecution d sha256 server₂ now' E' header' snapshot' payload =
      (.ok reply', server₂) ∧ reply'.executionId = reply.executionId := by
  obtain ⟨task, path, request, request', hcheck, hresolve, hrequest, hoverride, hstored⟩ :=
    submitExecution_ok hsubmit
  have hfirst := step_kept (ServerStep.submission hsubmit)
  have hlater := path_kept hpath
  have hkept := hfirst.trans hlater
  obtain ⟨l₀, hrun₀⟩ := server_store_run hrun
  obtain ⟨l₂, hrun₂⟩ := server_store_run ((hrun.next (.submission hsubmit)).append hpath)
  obtain ⟨r, hr, hkey, hfp⟩ := submit_reply hdigest hrun₀ hstored
  obtain ⟨r', hr', hsub⟩ := hlater.submissions _ _ hr
  have hkey' : r'.idempotencyKey = request'.idempotencyKey :=
    (congrArg Submission.idempotencyKey hsub).trans hkey
  have hfp' : requestFingerprint sha256 request' = .ok r'.requestFingerprint := by
    rw [hfp, ← congrArg Submission.requestFingerprint hsub]
  have hkeyed := (run_oneEach hrun₂).keyed? hr'
  rw [hkey'] at hkeyed
  obtain ⟨_, _, _, htask, _⟩ := submit_ok hstored
  have htask' := hkept.registered.tasks _ _ htask
  obtain ⟨hbody, _, _⟩ := checkRequest_ok hcheck
  refine ⟨result r', ?_, Table.key_of_find? hr'⟩
  exact submitExecution_eq
    (checkRequest_again hcheck hheader (hkept.registered.tasks _ _ hbody))
    (resolveSubmission_again hkept hartifact hresolve snapshot')
    (executionRequest_again hkept.registered hrequest) hoverride
    (submit_same hkeyed htask' hfp' now' E')

/-- Submissions are idempotent where the digest is collision free. There is one execution to a
key. Under a key that is taken nothing changes: the same request is answered with the current
result, and another one raises, for its task where that is not registered and as a `ValueError`
otherwise. So a body with an artifact comes to the same execution whenever it is sent again. -/
theorem submit_idempotent (hinj : Function.Injective sha256) (hdigest : ∀ b, sha256 b ≠ "") :
    (∀ h s, StoreRun sha256 h s →
      (s.executions.rows.map fun r => r.idempotencyKey).Nodup ∧
      ∀ r ∈ s.executions.rows, ∃ first, SubmittedBy sha256 h s r.toSubmission first ∧
        ∀ now E request outcome t, StoreStep sha256 s ⟨now, .submit E request, outcome⟩ t →
          request.idempotencyKey = r.idempotencyKey →
          t = s ∧ (requestFingerprint sha256 request = .ok r.requestFingerprint →
              outcome = .ok (.execution (some (result r)))) ∧
            (¬SameRequest first request → ∃ err, outcome = .error err ∧
              (err.isValueError ∨ s.tasks.find? request.taskRef = none ∧
                ∃ message, err = .keyError message))) ∧
    ∀ d h server now E header snapshot payload reply server₁, ServerRun d sha256 h server →
      given payload.submissionPath = none →
      submitExecution d sha256 server now E header snapshot payload = (.ok reply, server₁) →
      ∀ l server₂, Path (ServerStep d sha256) server₁ l server₂ →
        ∀ now' E' header' snapshot', header' = header ∨ HeaderMatches d header' payload →
          ∃ reply', submitExecution d sha256 server₂ now' E' header' snapshot' payload =
            (.ok reply', server₂) ∧ reply'.executionId = reply.executionId := by
  constructor
  · intro h s hrun
    refine ⟨(run_oneEach hrun).nodup, ?_⟩
    intro r hr
    obtain ⟨first, hfirst⟩ := run_submitted hrun (Table.find?_mem hr)
    exact ⟨first, hfirst, fun _ _ _ _ _ hs hkey =>
      submit_again hinj hdigest hrun hr hfirst hs hkey⟩
  · intro d h server now E header snapshot payload reply server₁ hrun hartifact hsubmit l server₂
      hpath now' E' header' snapshot' hheader
    have hmatches : HeaderMatches d header' payload := by
      obtain hsame | hmatches := hheader
      · obtain ⟨_, _, _, _, hcheck, _⟩ := submitExecution_ok hsubmit
        rw [hsame]
        exact checkRequest_header hcheck
      · exact hmatches
    exact submission_again hdigest hrun hartifact hsubmit hpath hmatches now' E' snapshot'

end

namespace Sample

theorem sha256_known (h : ∃ d ∈ digests, d.1.toByteArray.data = b.data) :
    ∃ d ∈ digests, d.1.toByteArray.data = b.data ∧ sha256 b = d.2 := by
  cases hfind : digests.find? fun d => d.1.toByteArray.data = b.data with
  | none =>
    obtain ⟨d, hd, hb⟩ := h
    exact absurd hb (by simpa using List.find?_eq_none.1 hfind d hd)
  | some d =>
    refine ⟨d, List.mem_of_find?_eq_some hfind, by simpa using List.find?_some hfind, ?_⟩
    rw [sha256, hfind]

theorem sha256_unknown (h : ∀ d ∈ digests, d.1.toByteArray.data ≠ b.data) :
    sha256 b = String.ofList ('-' :: b.data.toList.map fun x => Char.ofNat x.toNat) := by
  have hfind : (digests.find? fun d => d.1.toByteArray.data = b.data) = none := by
    apply List.find?_eq_none.2
    intro d hd
    simpa using h d hd
  rw [sha256, hfind]

theorem char_ofNat_byte (x : UInt8) : (Char.ofNat x.toNat).toNat = x.toNat := by
  have hvalid : x.toNat.isValidChar := .inl (Nat.lt_trans x.toNat_lt (by decide))
  rw [Char.ofNat, dif_pos hvalid]
  rfl

theorem digest_head (h : d ∈ digests) (l : List Char) : d.2 ≠ String.ofList ('-' :: l) := by
  intro heq
  have hlist : d.2.toList = '-' :: l := by rw [heq, String.toList_ofList]
  cases List.mem_singleton.1 h
  exact absurd (List.cons.inj hlist).1 (by decide)

theorem sha256_injective : Function.Injective sha256 := by
  intro b c hbc
  have hdata : b.data = c.data := by
    by_cases hb : ∃ d ∈ digests, d.1.toByteArray.data = b.data
    · obtain ⟨d, hd, hdb, hb⟩ := sha256_known hb
      by_cases hc : ∃ d ∈ digests, d.1.toByteArray.data = c.data
      · obtain ⟨d', hd', hdc, _⟩ := sha256_known hc
        cases List.mem_singleton.1 hd
        cases List.mem_singleton.1 hd'
        exact hdb.symm.trans hdc
      · have hc := sha256_unknown fun d hd hdc => hc ⟨d, hd, hdc⟩
        exact absurd ((hb.symm.trans hbc).trans hc) (digest_head hd _)
    · have hb := sha256_unknown fun d hd hdb => hb ⟨d, hd, hdb⟩
      by_cases hc : ∃ d ∈ digests, d.1.toByteArray.data = c.data
      · obtain ⟨d, hd, _, hc⟩ := sha256_known hc
        exact absurd ((hc.symm.trans hbc.symm).trans hb) (digest_head hd _)
      · have hc := sha256_unknown fun d hd hdc => hc ⟨d, hd, hdc⟩
        have hlists := congrArg String.toList ((hb.symm.trans hbc).trans hc)
        rw [String.toList_ofList, String.toList_ofList] at hlists
        have hbyte : Function.Injective fun x : UInt8 => Char.ofNat x.toNat := by
          intro x y hxy
          have hnat := congrArg Char.toNat hxy
          simp only [char_ofNat_byte] at hnat
          exact UInt8.toNat_inj.1 hnat
        have hbytes := List.map_injective_iff.2 hbyte (List.cons.inj hlists).2
        exact Array.toList_inj.1 hbytes
  exact ByteArray.ext hdata

theorem sha256_nonempty (b : ByteArray) : sha256 b ≠ "" := by
  intro h
  have hlist := congrArg String.toList h
  by_cases hb : ∃ d ∈ digests, d.1.toByteArray.data = b.data
  · obtain ⟨d, hd, _, hb⟩ := sha256_known hb
    rw [hb] at hlist
    cases List.mem_singleton.1 hd
    cases hlist
  · rw [sha256_unknown fun d hd hdb => hb ⟨d, hd, hdb⟩, String.toList_ofList] at hlist
    cases hlist

def queuedStore : JudgeStore := (performAll sha256 .empty queued).2

theorem queued_run : StoreRun sha256 (performAll sha256 .empty queued).1 queuedStore :=
  performAll_run sha256 queued

theorem queued_submits
    (h : .submit E first ∈ (performAll sha256 .empty queued).1.map Event.op) : first = request := by
  rw [performAll_ops] at h
  obtain hop | hop := List.mem_cons.1 h
  · cases hop
    rfl
  · cases List.mem_singleton.1 hop

def unknownTask : ExecutionRequest := { request with taskRef := "dogs" }

end Sample

theorem submit_idempotent_sample :
    (Sample.queuedStore.executions.rows.map fun r => r.idempotencyKey).Nodup ∧
      (∃ r ∈ Sample.queuedStore.executions.rows, r.executionId = "e7" ∧
        ∀ now E outcome t, StoreStep Sample.sha256 Sample.queuedStore
            ⟨now, .submit E Sample.request, outcome⟩ t →
          t = Sample.queuedStore ∧ outcome = .ok (.execution (some (result r)))) ∧
      ∃ reply', submitExecution Sample.deployment Sample.sha256
          (Sample.submitted Sample.registered "e1" "key-1" []).2 (Sample.clock 9) "e2" none
          Sample.noDirectory (Sample.payload "key-1" []) =
        (.ok reply', (Sample.submitted Sample.registered "e1" "key-1" []).2) ∧
        reply'.executionId = "e1" := by
  obtain ⟨hstore, hserver⟩ := submit_idempotent Sample.sha256_injective Sample.sha256_nonempty
  obtain ⟨hnodup, hrows⟩ := hstore _ Sample.queuedStore Sample.queued_run
  have hrow : Sample.queuedStore.executions.rows.any (fun r => r.executionId = "e7") = true := by
    decide +kernel
  refine ⟨hnodup, ?_, ?_⟩
  · obtain ⟨r, hr, hrow⟩ := List.any_eq_true.1 hrow
    refine ⟨r, hr, of_decide_eq_true hrow, ?_⟩
    obtain ⟨first, hfirst, hagain⟩ := hrows r hr
    obtain ⟨e, he, _, hop, _⟩ := hfirst.accepted
    cases Sample.queued_submits (List.mem_map.2 ⟨e, he, hop⟩)
    intro now E outcome t hs
    obtain ⟨ht, hsame, _⟩ := hagain now E Sample.request outcome t hs hfirst.idempotencyKey
    exact ⟨ht, hsame hfirst.fingerprint⟩
  · have hfirst : (match (Sample.submitted Sample.registered "e1" "key-1" []).1 with
      | .ok reply => decide (reply.executionId = "e1")
      | .error _ => false) = true := by decide +kernel
    cases hsubmitted : Sample.submitted Sample.registered "e1" "key-1" [] with
    | mk outcome server₁ =>
      rw [hsubmitted] at hfirst
      cases outcome with
      | error failure => cases hfirst
      | ok reply =>
        obtain ⟨reply', hreply', hE⟩ := hserver Sample.deployment _ _ (Sample.clock 1) "e1" none
          Sample.noDirectory (Sample.payload "key-1" []) reply server₁
            Sample.registered_serverRun rfl
          hsubmitted [] server₁ .refl (Sample.clock 9) "e2" none Sample.noDirectory (.inl rfl)
        exact ⟨reply', hreply', hE.trans (of_decide_eq_true hfirst)⟩

/-- The key of the sample request, for a task that is not registered, raises a `KeyError`. -/
theorem submit_unknown_task_sample :
    Function.Injective Sample.sha256 ∧
      StoreRun Sample.sha256 (performAll Sample.sha256 .empty Sample.queued).1 Sample.queuedStore ∧
      (∃ r ∈ Sample.queuedStore.executions.rows, r.executionId = "e7" ∧
        r.idempotencyKey = Sample.unknownTask.idempotencyKey) ∧
      Sample.request.taskRef ≠ Sample.unknownTask.taskRef ∧
      ∃ err, StoreStep Sample.sha256 Sample.queuedStore
          ⟨Sample.clock 9, .submit "e8" Sample.unknownTask, .error err⟩ Sample.queuedStore ∧
        err = .keyError (PyStr.ofString "unknown task_ref: dogs") ∧ err.isValueError = false := by
  have hrow : Sample.queuedStore.executions.rows.any (fun r => r.executionId = "e7" &&
      r.idempotencyKey = Sample.unknownTask.idempotencyKey) = true := by decide +kernel
  have hraise : (match Op.run Sample.sha256 (Sample.clock 9) Sample.queuedStore
      (.submit "e8" Sample.unknownTask) with
    | .error err => decide (err = .keyError (PyStr.ofString "unknown task_ref: dogs"))
    | .ok _ => false) = true := by decide +kernel
  refine ⟨Sample.sha256_injective, Sample.queued_run, ?_, by decide, ?_⟩
  · obtain ⟨r, hr, hrow⟩ := List.any_eq_true.1 hrow
    simp only [Bool.and_eq_true, decide_eq_true_eq] at hrow
    exact ⟨r, hr, hrow⟩
  · cases hrun : Op.run Sample.sha256 (Sample.clock 9) Sample.queuedStore
        (.submit "e8" Sample.unknownTask) with
    | ok p =>
      rw [hrun] at hraise
      cases hraise
    | error err =>
      rw [hrun] at hraise
      have herr := of_decide_eq_true hraise
      exact ⟨err, .rollback hrun, herr, by rw [herr]; rfl⟩

end BrunostJudge
