import BrunostJudge.PyCollections
import BrunostJudge.Registrations
import BrunostJudge.Submission

namespace BrunostJudge
open Python Relational Transition JudgeStore
set_option autoImplicit true

section
variable {d : Deployment} {sha256 : ByteArray → String} {server server' : Server}
  {store : JudgeStore} {task : TaskRecord} {payload : SubmitPayload} {now : Instant}

theorem unhandled_ok {x : Except PyError α} : unhandled x = .ok a ↔ x = .ok a := mapError_ok

theorem abort_ok : (abort status detail : Except Failure α) = .ok a ↔ False := by
  simp [abort]

theorem check_ok {p : Prop} [Decidable p] {k : PUnit → Except Failure α} :
    (if p then abort status detail >>= k else k ⟨⟩) = .ok a ↔ ¬p ∧ k ⟨⟩ = .ok a := by
  by_cases hp : p
  · simp [hp, bind_ok, abort_ok]
  · simp [hp]

theorem checkRequest_ok (h : checkRequest d store header payload = .ok task) :
    store.tasks.find? payload.taskRef = some task ∧ builtinKinds.contains task.kind ∧
      (given payload.submissionPath).isSome ≠ (given payload.submissionArtifactId).isSome := by
  rw [checkRequest] at h
  obtain ⟨_, h⟩ := check_ok.1 h
  obtain ⟨_, h⟩ := check_ok.1 h
  cases htask : store.getTask payload.taskRef with
  | none =>
    rw [htask] at h
    exact (abort_ok.1 h).elim
  | some found =>
    rw [htask] at h
    obtain ⟨hkind, h⟩ := check_ok.1 h
    obtain ⟨hone, h⟩ := check_ok.1 h
    cases pure_ok.1 h
    exact ⟨htask, by simpa using hkind, hone⟩

theorem resolveSubmission_store (server : Server) (snapshot : String → Except Failure String)
    (payload : SubmitPayload) :
    (resolveSubmission server snapshot payload).2.store = server.store := by
  rw [resolveSubmission]
  split
  · split
    · rfl
    · rfl
  · rfl

theorem executionRequest_ok (h : executionRequest d store task path payload = .ok request) :
    ∃ callbackUrl kind agents game declared capabilities,
      d.validateCallbackUrl payload.callbackUrl = .ok callbackUrl ∧
      evaluationKind task payload = .ok kind ∧
      participants store task payload = .ok (agents, game) ∧
      declaredCapabilities task.manifest agents game = .ok declared ∧
      sorted declared = .ok capabilities ∧
      request = ⟨payload.taskRef, path, payload.idempotencyKey, callbackUrl, payload.callbackToken,
        evaluationMetadata payload kind agents game capabilities, payload.queue,
        payload.resourceClass, payload.priority, payload.timeoutSeconds⟩ := by
  obtain ⟨callbackUrl, hcallback, h⟩ := bind_ok.1 h
  obtain ⟨kind, hkind, h⟩ := bind_ok.1 h
  obtain ⟨⟨agents, game⟩, hparticipants, h⟩ := bind_ok.1 h
  obtain ⟨declared, hdeclared, h⟩ := bind_ok.1 h
  obtain ⟨capabilities, hsorted, h⟩ := bind_ok.1 h
  exact ⟨callbackUrl, kind, agents, game, declared, capabilities, hcallback, hkind, hparticipants,
    unhandled_ok.1 hdeclared, unhandled_ok.1 hsorted, (pure_ok.1 h).symm⟩

theorem overrideResourceClass_ok (h : overrideResourceClass d task request = .ok request') :
    ∃ resourceClass, request' = { request with resourceClass := resourceClass } := by
  rw [overrideResourceClass] at h
  split at h
  · split at h
    · cases h
      exact ⟨_, rfl⟩
    · cases h
  · cases h
    exact ⟨_, rfl⟩

/-- An accepted submission: its task, its artifact, and the request that the store took. -/
theorem submitExecution_ok
    (h : submitExecution d sha256 server now E header snapshot payload = (.ok reply, server')) :
    ∃ task path request request',
      checkRequest d server.store header payload = .ok task ∧
      (resolveSubmission server snapshot payload).1 = .ok path ∧
      executionRequest d server.store task path payload = .ok request ∧
      overrideResourceClass d task request = .ok request' ∧
      server.store.submit sha256 now E request' = .ok (reply, server'.store) := by
  have hstore := resolveSubmission_store server snapshot payload
  simp only [submitExecution] at h
  cases hcheck : checkRequest d server.store header payload with
  | error failure =>
    rw [hcheck] at h
    cases (Prod.mk.inj h).1
  | ok task =>
    simp only [hcheck, hstore] at h
    split at h
    · cases (Prod.mk.inj h).1
    · next hsubmitted =>
      obtain ⟨path, hpath, hsubmitted⟩ := bind_ok.1 hsubmitted
      obtain ⟨request, hrequest, hsubmitted⟩ := bind_ok.1 hsubmitted
      obtain ⟨request', hoverride, hsubmit⟩ := bind_ok.1 (mapError_ok.1 hsubmitted)
      obtain ⟨hreply, hserver⟩ := Prod.mk.inj h
      cases hreply
      subst hserver
      exact ⟨task, path, request, request', rfl, hpath, hrequest, hoverride, hsubmit⟩

theorem submitExecution_refused {failure : Failure}
    (h : submitExecution d sha256 server now E header snapshot payload =
      (.error failure, server')) : server'.store = server.store := by
  have hstore := resolveSubmission_store server snapshot payload
  simp only [submitExecution] at h
  split at h
  · cases h
    rfl
  · split at h
    · cases h
      exact hstore
    · cases (Prod.mk.inj h).1

theorem submission_store
    (h : submitExecution d sha256 server now E header snapshot payload = (outcome, server')) :
    server'.store = server.store ∨ ∃ request reply,
      StoreStep sha256 server.store ⟨now, .submit E request, .ok (.execution (some reply))⟩
        server'.store := by
  cases outcome with
  | error failure => exact .inl (submitExecution_refused h)
  | ok reply =>
    obtain ⟨_, _, _, request, _, _, _, _, hsubmit⟩ := submitExecution_ok h
    refine .inr ⟨request, reply, .commit ?_⟩
    rw [Op.run, hsubmit]
    rfl

/-- The store of a control plane goes through a run of its own. -/
theorem server_store_run (hrun : ServerRun d sha256 h server) :
    ∃ l, StoreRun sha256 l server.store := by
  induction hrun with
  | start hinit =>
    subst hinit
    exact ⟨[], .start rfl⟩
  | next _ hs ih =>
    obtain ⟨l, hl⟩ := ih
    cases hs with
    | submission hsubmit =>
      obtain heq | ⟨request, reply, hstep⟩ := submission_store hsubmit
      · rw [heq]
        exact ⟨l, hl⟩
      · exact ⟨_, .next hl hstep⟩
    | operation _ hstep => exact ⟨_, .next hl hstep⟩
    | upload => exact ⟨l, hl⟩

theorem performAll_server (server : Server) (ops : List (Instant × Op))
    (hops : ∀ o ∈ ops, ∀ E request, o.2 ≠ .submit E request) :
    Path (ServerStep d sha256) server ((performAll sha256 server.store ops).1.map .operation)
      { server with store := (performAll sha256 server.store ops).2 } := by
  induction ops using List.reverseRecOn with
  | nil => exact .refl
  | append_singleton ops o ih =>
    have hpath := ih fun o ho => hops o (List.mem_append_left _ ho)
    simp only [performAll, List.foldl_append, List.foldl_cons, List.foldl_nil] at hpath ⊢
    apply hpath.next
    apply ServerStep.operation _ (perform_step sha256 _ o.1 o.2)
    intro E request hop
    rw [perform_op] at hop
    exact hops o (List.mem_append_right _ List.mem_cons_self) E request hop

end

end BrunostJudge
