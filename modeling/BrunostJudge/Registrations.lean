import BrunostJudge.Lifecycle

namespace BrunostJudge
open Python Relational Transition JudgeStore
set_option autoImplicit true

/-- What one store has registered is registered in another. -/
structure Registered (s s' : JudgeStore) : Prop where
  tasks : ∀ taskRef task, s.tasks.find? taskRef = some task → s'.tasks.find? taskRef = some task
  definitions : ∀ key definition, s.definitions.find? key = some definition →
    s'.definitions.find? key = some definition

section
variable {s s' t : JudgeStore} {now : Instant} {sha256 : ByteArray → String}

theorem Registered.of_eq (htasks : s'.tasks = s.tasks)
    (hdefinitions : s'.definitions = s.definitions) :
    Registered s s' := by
  constructor
  · rw [htasks]
    exact fun _ _ => id
  · rw [hdefinitions]
    exact fun _ _ => id

theorem Registered.refl (s : JudgeStore) : Registered s s := .of_eq rfl rfl

theorem Registered.trans (h : Registered s t) (h' : Registered t s') : Registered s s' where
  tasks taskRef task htask := h'.tasks taskRef task (h.tasks taskRef task htask)
  definitions key definition hdefinition :=
    h'.definitions key definition (h.definitions key definition hdefinition)

theorem Registered.getDefinition (h : Registered s s')
    (hdefinition : s.getDefinition definitionType definitionId = some definition) :
    s'.getDefinition definitionType definitionId = some definition := by
  obtain ⟨row, hrow, hdict⟩ := Option.map_eq_some_iff.1 hdefinition
  exact Option.map_eq_some_iff.2 ⟨row, h.definitions _ _ hrow, hdict⟩

/-- What is registered stays, and no join token is issued or used. -/
structure Keeps (s s' : JudgeStore) : Prop where
  registered : Registered s s'
  enrollmentTokens : s'.enrollmentTokens = s.enrollmentTokens

theorem Keeps.of_eq (htasks : s'.tasks = s.tasks) (hdefinitions : s'.definitions = s.definitions)
    (htokens : s'.enrollmentTokens = s.enrollmentTokens) : Keeps s s' :=
  ⟨.of_eq htasks hdefinitions, htokens⟩

theorem Keeps.refl (s : JudgeStore) : Keeps s s := .of_eq rfl rfl rfl

theorem registerTask_keeps (h : s.registerTask task = .ok (reply, s')) : Keeps s s' := by
  rw [JudgeStore.registerTask] at h
  split at h
  · split at h
    · cases h
      exact .refl s
    · cases h
  · split at h
    · next hinsert =>
      cases h
      exact ⟨⟨fun _ _ => Table.find?_of_insert hinsert, fun _ _ => id⟩, rfl⟩
    · cases h

theorem registerDefinition_keeps (h : s.registerDefinition definition = .ok (reply, s')) :
    Keeps s s' := by
  rw [JudgeStore.registerDefinition] at h
  split at h
  · split at h
    · cases h
      exact .refl s
    · cases h
  · split at h
    · next hinsert =>
      cases h
      exact ⟨⟨fun _ _ => id, fun _ _ => Table.find?_of_insert hinsert⟩, rfl⟩
    · cases h

theorem submit_keeps (h : s.submit sha256 now E request = .ok (reply, s')) : Keeps s s' := by
  obtain ⟨_, _, _, _, ⟨_, _, _, _, hs⟩ | ⟨_, _, _, _, hs⟩⟩ := submit_ok h
  · subst hs
    exact .refl _
  · subst hs
    exact .of_eq rfl rfl rfl

theorem createEnrollmentToken_ok
    (h : s.createEnrollmentToken tokenId tokenHash payload expiresAt = .ok s') :
    (∀ t ∈ s.enrollmentTokens.rows, t.tokenHash ≠ tokenHash) ∧
      ∃ tokens, s.enrollmentTokens.insert? ⟨tokenId, tokenHash, payload, expiresAt, none⟩ =
        some tokens ∧ s' = { s with enrollmentTokens := tokens } := by
  rw [JudgeStore.createEnrollmentToken] at h
  split at h
  · cases h
  · next hfresh =>
    split at h
    · next tokens hinsert =>
      cases h
      refine ⟨?_, tokens, hinsert, rfl⟩
      intro t ht he
      exact hfresh (List.any_eq_true.2 ⟨t, ht, decide_eq_true he⟩)
    · cases h

theorem store_keeps (hs : StoreStep sha256 s e s') : Keeps s s' ∨
    (∃ now tokenId tokenHash payload expiresAt,
      e = ⟨now, .createEnrollmentToken tokenId tokenHash payload expiresAt, .ok .unit⟩ ∧
      s.createEnrollmentToken tokenId tokenHash payload expiresAt = .ok s') ∨
    ∃ token, e.op = .consumeEnrollmentToken token := by
  cases hs with
  | rollback => exact .inl (.refl _)
  | @commit now op s reply s' hrun =>
    cases op with
    | registerTask task =>
      obtain ⟨⟨_, _⟩, hp, he⟩ := map_ok.1 hrun
      cases he
      exact .inl (registerTask_keeps hp)
    | registerDefinition definition =>
      obtain ⟨⟨_, _⟩, hp, he⟩ := map_ok.1 hrun
      cases he
      exact .inl (registerDefinition_keeps hp)
    | createEnrollmentToken tokenId tokenHash payload expiresAt =>
      obtain ⟨_, hp, he⟩ := map_ok.1 hrun
      cases he
      exact .inr (.inl ⟨now, tokenId, tokenHash, payload, expiresAt, rfl, hp⟩)
    | consumeEnrollmentToken token => exact .inr (.inr ⟨token, rfl⟩)
    | submit E request =>
      obtain ⟨⟨_, _⟩, hp, he⟩ := map_ok.1 hrun
      cases he
      exact .inl (submit_keeps hp)
    | claimNext _ request =>
      obtain ⟨⟨_, _⟩, hp, he⟩ := map_ok.1 hrun
      cases he
      obtain ⟨_, hs⟩ | ⟨_, _, _, _, _, _, _, _, _, hs⟩ := claimNext_ok hp
      · subst hs
        exact .inl (.of_eq rfl rfl rfl)
      · subst hs
        exact .inl (.of_eq rfl rfl rfl)
    | finish _ E result w =>
      obtain ⟨⟨_, _⟩, hp, he⟩ := map_ok.1 hrun
      cases he
      obtain ⟨_, ⟨_, hs⟩ | ⟨_, _, _, _, _, _, _, _, _, hs⟩⟩ := finish_ok hp
      · subst hs
        exact .inl (.refl _)
      · subst hs
        exact .inl (.of_eq rfl rfl rfl)
    | renewLease E w seconds =>
      obtain ⟨⟨_, _⟩, hp, he⟩ := map_ok.1 hrun
      cases he
      obtain ⟨_, _, _, hs⟩ := renewLease_ok hp
      subst hs
      exact .inl (.of_eq rfl rfl rfl)
    | cancel E =>
      cases hrun
      obtain ⟨_, hc⟩ | ⟨_, _, hc⟩ := cancel_eq s now E
      · rw [hc]
        exact .inl (.refl _)
      · rw [hc]
        exact .inl (.of_eq rfl rfl rfl)
    | createWorkerCredential =>
      obtain ⟨_, hp, he⟩ := map_ok.1 hrun
      cases he
      rw [JudgeStore.createWorkerCredential] at hp
      split at hp
      · cases hp
        exact .inl (.of_eq rfl rfl rfl)
      · cases hp
    | enqueueCallback =>
      obtain ⟨_, hp, he⟩ := map_ok.1 hrun
      cases he
      rw [JudgeStore.enqueueCallback] at hp
      split at hp
      · cases hp
        exact .inl (.of_eq rfl rfl rfl)
      · cases hp
    | claimCallback =>
      obtain ⟨⟨_, _⟩, hp, he⟩ := map_ok.1 hrun
      cases he
      obtain ⟨_, _, hp⟩ := bind_ok.1 hp
      cases hp
      exact .inl (.of_eq rfl rfl rfl)
    | markCallbackFailed =>
      obtain ⟨⟨_, _⟩, hp, he⟩ := map_ok.1 hrun
      cases he
      obtain ⟨_, _, hp⟩ := bind_ok.1 hp
      cases hp
      exact .inl (.of_eq rfl rfl rfl)
    | replayCallback E =>
      cases hrun
      rw [JudgeStore.replayCallback]
      split
      · exact .inl (.refl _)
      · split
        · exact .inl (.of_eq rfl rfl rfl)
        · exact .inl (.refl _)
    | _ =>
      cases hrun
      exact .inl (.of_eq rfl rfl rfl)

theorem store_registered (hs : StoreStep sha256 s e s') : Registered s s' := by
  obtain hkeeps | ⟨_, _, _, _, _, _, hp⟩ | ⟨token, hop⟩ := store_keeps hs
  · exact hkeeps.registered
  · obtain ⟨_, tokens, _, hs⟩ := createEnrollmentToken_ok hp
    subst hs
    exact .of_eq rfl rfl
  · cases hs with
    | rollback => exact .refl _
    | commit hrun =>
      cases hop
      cases hrun
      rw [JudgeStore.consumeEnrollmentToken]
      split
      · split
        · exact .refl _
        · exact .of_eq rfl rfl
      · exact .refl _

theorem store_submission (hs : StoreStep sha256 s e s') (hr : s.executions.find? E = some r) :
    ∃ r', s'.executions.find? E = some r' ∧ r'.toSubmission = r.toSubmission := by
  obtain ⟨r', _, hr', hpath, _⟩ := store_row hs hr
  exact ⟨r', hr', RowStep.path_submission hpath⟩

theorem store_new (hs : StoreStep sha256 s e s') (hnone : s.executions.find? E = none)
    (hr : s'.executions.find? E = some r) :
    ∃ request task fp reply, e.op = .submit E request ∧ e.outcome = .ok reply ∧
      requestFingerprint sha256 request = .ok fp ∧ s.tasks.find? request.taskRef = some task ∧
      s.keyed? request.idempotencyKey = none ∧
      r = submittedRow request task.manifest E fp e.now := by
  obtain ⟨_, hnone' | ⟨request, _, _, hop, _⟩⟩ := store_absent hs hnone
  · cases hnone'.symm.trans hr
  · cases hs with
    | rollback => cases hnone.symm.trans hr
    | @commit now op s reply s' hrun =>
      cases hop
      obtain ⟨⟨_, _⟩, hsubmit, he⟩ := map_ok.1 hrun
      cases he
      obtain ⟨fp, task, hfp, htask, ⟨_, _, _, _, hs⟩ | ⟨hkey, _, hinsert, _, hs⟩⟩ :=
        submit_ok hsubmit
      · subst hs
        cases hnone.symm.trans hr
      · subst hs
        have hfind := (Table.find?_insert hinsert E).trans (if_pos rfl)
        cases Option.some.inj (hfind.symm.trans hr)
        exact ⟨request, task, fp, _, rfl, rfl, hfp, htask, hkey, rfl⟩

end

end BrunostJudge
