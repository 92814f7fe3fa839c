import BrunostJudge.Finality

namespace BrunostJudge
open Python Relational Transition LeasedWork JudgeStore
set_option autoImplicit true

/-- The execution has a row in the callback outbox. -/
def JudgeStore.notified (s : JudgeStore) (E : String) : Bool :=
  (s.callbackDeliveries.find? E).isSome

/-- `enqueue_callback` is called for executions whose `finish` returned a result before. -/
def enqueuesAfterFinish : List Event → Bool
  | [] => true
  | e :: h =>
    (match e.op with
      | .enqueueCallback E _ _ => h.any (Event.acceptedFinish E)
      | _ => true) && enqueuesAfterFinish h

theorem upsert_isSome {t : Table CallbackDelivery} {c : CallbackDelivery}
    {f : CallbackDelivery → CallbackDelivery} {hf : ∀ c, Keyed.key (f c) = Keyed.key c} :
    ((t.upsert c f hf).find? E).isSome ↔ (t.find? E).isSome ∨ c.executionId = E := by
  rw [Table.find?_upsert]
  by_cases hE : c.executionId = E
  · simp [hE]
  · simp [hE]

theorem notifyTerminal_isSome {t : Table CallbackDelivery} {r : Submission} :
    ((notifyTerminal t r now).find? E).isSome ↔
      (t.find? E).isSome ∨ r.executionId = E ∧ r.callback?.isSome := by
  rw [notifyTerminal]
  cases r.callback? with
  | none => simp
  | some url =>
    simp only [upsertPending]
    rw [upsert_isSome]
    simp [CallbackDelivery.fresh]

theorem foldl_notifyTerminal_isSome {rows : List Execution} {t : Table CallbackDelivery} :
    ((rows.foldl (fun t r => notifyTerminal t r.toSubmission now) t).find? E).isSome ↔
      (t.find? E).isSome ∨ ∃ r ∈ rows, r.executionId = E ∧ r.callback?.isSome := by
  induction rows generalizing t with
  | nil => simp
  | cons r rows ih =>
    rw [List.foldl_cons, ih, notifyTerminal_isSome, or_assoc]
    simp

theorem expireLeases_notified (s : JudgeStore) (now : Instant) (E : String) :
    (s.expireLeases now).notified E ↔ s.notified E ∨
      ∃ r, s.executions.find? E = some r ∧ leaseOver now r ∧ r.cancelRequested ∧
        r.callback?.isSome := by
  rw [notified, expireLeases, foldl_notifyTerminal_isSome, notified]
  constructor
  · rintro (hold | ⟨r, hr, hE, hcallback⟩)
    · exact .inl hold
    · obtain ⟨hrow, hover⟩ := List.mem_filter.1 hr
      obtain ⟨hover, hcancel⟩ := Bool.and_eq_true_iff.1 hover
      subst hE
      exact .inr ⟨r, Table.find?_mem hrow, hover, hcancel, hcallback⟩
  · rintro (hold | ⟨r, hr, hover, hcancel, hcallback⟩)
    · exact .inl hold
    · refine .inr ⟨r, List.mem_filter.2 ⟨Table.mem_of_find? hr, ?_⟩, Table.key_of_find? hr,
        hcallback⟩
      rw [hover, hcancel]
      rfl

/-- What an operation may do to the outbox entry of one execution. -/
structure OutboxStep (s t : JudgeStore) (E : String) (enqueued : Prop) : Prop where
  keeps : s.notified E → t.notified E
  origin : t.notified E → s.notified E ∨ enqueued ∨
    ∃ r, t.executions.find? E = some r ∧ r.status.terminal
  covers : ∀ r r', s.executions.find? E = some r → t.executions.find? E = some r' →
    ¬r.status.terminal → r'.status.terminal → r.callback?.isSome → t.notified E

section
variable {s s' t : JudgeStore} {r : Execution} {E : String} {now : Instant} {enqueued : Prop}
  {sha256 : ByteArray → String}

theorem OutboxStep.of_eq (hc : t.notified E = s.notified E) (he : t.executions = s.executions) :
    OutboxStep s t E enqueued where
  keeps hs := hc ▸ hs
  origin ht := .inl (hc ▸ ht)
  covers r r' hr hr' hlive hterminal _ := by
    rw [he] at hr'
    cases Option.some.inj (hr.symm.trans hr')
    exact absurd hterminal hlive

theorem claimNext_outbox (h : s.claimNext parameterLimit now request = .ok (reply, s'))
    (E : String) :
    OutboxStep s s' E enqueued := by
  have hcallbacks : s'.notified E = (s.expireLeases now).notified E := by
    obtain ⟨_, hs⟩ | ⟨_, _, _, _, _, _, _, _, _, hs⟩ := claimNext_ok h
    · rw [hs]
    · rw [hs]
      rfl
  have hexpire := expireLeases_notified s now E
  rw [← hcallbacks] at hexpire
  refine ⟨fun hs => hexpire.2 (.inl hs), ?_, ?_⟩
  · intro ht
    obtain hs | ⟨r, hr, hover, hcancel, _⟩ := hexpire.1 ht
    · exact .inl hs
    · have hexpired : (afterExpiry now r).status = .canceled := by
        simp [afterExpiry, hover, giveBack, hcancel]
      obtain ⟨hr', _⟩ | ⟨_, _, _, hqueued, _⟩ := claimNext_cases h hr
      · exact .inr (.inr ⟨_, hr', by rw [hexpired]; rfl⟩)
      · rw [hexpired] at hqueued
        cases hqueued
  · intro r r' hr hr' hlive hterminal hcallback
    apply hexpire.2
    obtain ⟨hr'', _⟩ | ⟨_, _, hr'', _, _, _⟩ := claimNext_cases h hr
    · cases Option.some.inj (hr'.symm.trans hr'')
      cases hover : leaseOver now r with
      | false =>
        rw [afterExpiry, hover] at hterminal
        exact absurd hterminal hlive
      | true =>
        cases hcancel : r.cancelRequested with
        | false => simp [afterExpiry, hover, giveBack, hcancel, Status.terminal] at hterminal
        | true => exact .inr ⟨r, hr, hover, hcancel, hcallback⟩
    · cases Option.some.inj (hr'.symm.trans hr'')
      cases hterminal

theorem submit_outbox (h : s.submit sha256 now E' request = .ok (reply, s')) (E : String) :
    OutboxStep s s' E enqueued := by
  have hc : s'.notified E = s.notified E := by
    obtain ⟨_, _, _, _, ⟨_, _, _, _, hs⟩ | ⟨_, _, _, _, hs⟩⟩ := submit_ok h
    · rw [hs]
    · rw [hs]
      rfl
  refine ⟨fun hs => hc ▸ hs, fun ht => .inl (hc ▸ ht), ?_⟩
  intro r r' hr hr' hlive hterminal _
  cases Option.some.inj (hr'.symm.trans (submit_row h hr))
  exact absurd hterminal hlive

theorem renewLease_outbox (h : s.renewLease now E' w seconds = .ok (reply, s')) (E : String) :
    OutboxStep s s' E enqueued := by
  obtain ⟨lease, _, _, hs⟩ := renewLease_ok h
  subst hs
  refine ⟨id, .inl, ?_⟩
  intro r r' hr hr' hlive hterminal _
  rw [Table.find?_update, hr] at hr'
  cases Option.some.inj hr'
  simp only at hterminal
  split at hterminal
  · exact absurd hterminal hlive
  · exact absurd hterminal hlive

theorem finish_outbox (h : s.finish room now E' res w = .ok (reply, s')) (E : String) :
    OutboxStep s s' E enqueued := by
  obtain ⟨_, ⟨_, hs⟩ | ⟨status, columns, q, hstatus, hq, _, _, hheld, _, hs⟩⟩ := finish_ok h
  · subst hs
    exact .of_eq rfl rfl
  · subst hs
    have hkey : q.executionId = E' := Table.key_of_find? hq
    have hnotified : (s.finishStore now w status columns q).notified E ↔
        s.notified E ∨ q.executionId = E ∧ q.callback?.isSome := notifyTerminal_isSome
    have hrow := finishStore_row status columns hq hheld
    refine ⟨fun hs => hnotified.2 (.inl hs), ?_, ?_⟩
    · intro ht
      obtain hs | ⟨hE, _⟩ := hnotified.1 ht
      · exact .inl hs
      · subst hE
        rw [← hkey] at hrow
        refine .inr (.inr ⟨_, hrow, ?_⟩)
        obtain ⟨hterminal, _⟩ := among_terminal hstatus
        cases hcancel : q.cancelRequested with
        | false => simpa [finished, hcancel] using hterminal
        | true => simp [finished, hcancel, Status.terminal]
    · intro r r' hr hr' hlive hterminal hcallback
      apply hnotified.2
      by_cases hE : E' = E
      · subst hE
        cases Option.some.inj (hq.symm.trans hr)
        exact .inr ⟨hkey, hcallback⟩
      · have hnot : heldBy now q.executionId w r = false := by
          rw [Bool.eq_false_iff]
          intro hr''
          exact hE (hkey.symm.trans ((heldBy_key hr'').symm.trans (Table.key_of_find? hr)))
        rw [finishStore, Table.find?_update, hr] at hr'
        simp only [Option.map_some, hnot] at hr'
        cases Option.some.inj hr'
        exact absurd hterminal hlive

theorem cancel_outbox (s : JudgeStore) (now : Instant) (E' E : String) :
    OutboxStep s (s.cancel now E').2 E enqueued := by
  obtain ⟨_, hc⟩ | ⟨q, hq, hc⟩ := cancel_eq s now E'
  · rw [hc]
    exact .of_eq rfl rfl
  · have hkey : q.executionId = E' := Table.key_of_find? hq
    have hrow : ∀ r, s.executions.find? E = some r → (s.cancel now E').2.executions.find? E =
        some (if r.executionId = E' then cancelRow now r else r) := by
      intro r hr
      rw [hc, Table.find?_update, hr]
      simp
    have hnotified : (s.cancel now E').2.notified E ↔
        s.notified E ∨ q.status = .queued ∧ q.executionId = E ∧ q.callback?.isSome := by
      rw [hc, notified, notified]
      by_cases hqueued : q.status = .queued
      · simp only [hqueued, if_true, true_and]
        exact notifyTerminal_isSome
      · simp only [hqueued, if_false, false_and, or_false]
    refine ⟨fun hs => hnotified.2 (.inl hs), ?_, ?_⟩
    · intro ht
      obtain hs | ⟨hqueued, hE, _⟩ := hnotified.1 ht
      · exact .inl hs
      · rw [← hkey, hE] at hq
        refine .inr (.inr ⟨_, hrow q hq, ?_⟩)
        simp [hkey, cancelRow, hqueued, Status.terminal]
    · intro r r' hr hr' hlive hterminal hcallback
      rw [hrow r hr] at hr'
      cases Option.some.inj hr'
      by_cases hE : r.executionId = E'
      · rw [if_pos hE] at hterminal
        by_cases hqueued : r.status = .queued
        · have hEE : E' = E := hE.symm.trans (Table.key_of_find? hr)
          subst hEE
          cases Option.some.inj (hq.symm.trans hr)
          exact hnotified.2 (.inr ⟨hqueued, hE, hcallback⟩)
        · rw [cancelRow, if_neg hqueued] at hterminal
          exact absurd hterminal hlive
      · rw [if_neg hE] at hterminal
        exact absurd hterminal hlive

/-- An upsert of the outbox for an execution that is over, or that `enqueue_callback` names. -/
theorem upsert_outbox {c : CallbackDelivery} {f : CallbackDelivery → CallbackDelivery}
    {hf : ∀ c, Keyed.key (f c) = Keyed.key c}
    (hc : c.executionId = E → enqueued ∨ ∃ r, s.executions.find? E = some r ∧ r.status.terminal) :
    OutboxStep s { s with callbackDeliveries := s.callbackDeliveries.upsert c f hf } E
      enqueued where
  keeps hs := upsert_isSome.2 (.inl hs)
  origin ht := (upsert_isSome.1 ht).imp_right hc
  covers r r' hr hr' hlive hterminal _ := by
    cases Option.some.inj (hr.symm.trans hr')
    exact absurd hterminal hlive

theorem replayCallback_outbox (s : JudgeStore) (now : Instant) (E' E : String) :
    OutboxStep s (s.replayCallback now E').2 E enqueued := by
  cases hr : s.executions.find? E' with
  | none =>
    simp only [replayCallback, hr]
    exact .of_eq rfl rfl
  | some r =>
    cases ht : r.status.terminal with
    | false =>
      simp only [replayCallback, hr, ht]
      exact .of_eq rfl rfl
    | true =>
      cases hcallback : r.callback? with
      | none =>
        simp only [replayCallback, hr, ht, hcallback]
        exact .of_eq rfl rfl
      | some url =>
        simp only [replayCallback, hr, ht, hcallback]
        apply upsert_outbox
        intro hE
        cases hE
        exact .inr ⟨r, hr, ht⟩

theorem update_outbox {p : CallbackDelivery → Bool} {f : CallbackDelivery → CallbackDelivery}
    {hf : ∀ c, Keyed.key (f c) = Keyed.key c} :
    OutboxStep s { s with callbackDeliveries := s.callbackDeliveries.update p f hf } E
      enqueued := by
  refine .of_eq ?_ rfl
  rw [notified, Table.find?_update, Option.isSome_map]
  rfl

theorem store_outbox (hs : StoreStep sha256 s e t) (E : String) :
    OutboxStep s t E (∃ url token, e.op = .enqueueCallback E url token) := by
  cases hs with
  | rollback => exact .of_eq rfl rfl
  | @commit now op s reply t hrun =>
    cases op with
    | submit E' request =>
      obtain ⟨⟨x, s'⟩, hp, he⟩ := map_ok.1 hrun
      cases he
      exact submit_outbox hp E
    | claimNext _ request =>
      obtain ⟨⟨x, s'⟩, hp, he⟩ := map_ok.1 hrun
      cases he
      exact claimNext_outbox hp E
    | finish room E' res w =>
      obtain ⟨⟨x, s'⟩, hp, he⟩ := map_ok.1 hrun
      cases he
      exact finish_outbox hp E
    | renewLease E' w seconds =>
      obtain ⟨⟨x, s'⟩, hp, he⟩ := map_ok.1 hrun
      cases he
      exact renewLease_outbox hp E
    | cancel E' =>
      cases hrun
      exact cancel_outbox s now E' E
    | enqueueCallback E' url token =>
      obtain ⟨s', hp, he⟩ := map_ok.1 hrun
      cases he
      rw [enqueueCallback] at hp
      split at hp
      · cases hp
        apply upsert_outbox
        intro hE
        cases hE
        exact .inl ⟨url, token, rfl⟩
      · cases hp
    | claimCallback E' w seconds =>
      obtain ⟨⟨x, s'⟩, hp, he⟩ := map_ok.1 hrun
      cases he
      obtain ⟨lease, _, hp⟩ := bind_ok.1 hp
      cases hp
      exact update_outbox
    | markCallbackDelivered E' =>
      cases hrun
      exact update_outbox
    | markCallbackDeliveredByOwner E' w =>
      cases hrun
      exact update_outbox
    | markCallbackFailed E' error w =>
      obtain ⟨⟨x, s'⟩, hp, he⟩ := map_ok.1 hrun
      cases he
      obtain ⟨next, _, hp⟩ := bind_ok.1 hp
      cases hp
      exact update_outbox
    | replayCallback E' =>
      cases hrun
      exact replayCallback_outbox s now E' E
    | _ =>
      obtain ⟨he, hc⟩ := Op.run_registry hrun rfl rfl
      exact .of_eq (by rw [notified, hc]; rfl) he

/-- The outbox has an entry for exactly the executions that are over and want a callback, apart
from entries for executions that are over and want none. -/
structure OutboxInvariant (s : JudgeStore) : Prop where
  ended : ∀ E, s.notified E → ∃ r, s.executions.find? E = some r ∧ r.status.terminal
  notified : ∀ E r, s.executions.find? E = some r → r.status.terminal → r.callback?.isSome →
    s.notified E

theorem terminal_step (hrun : StoreRun sha256 h s) (hs : StoreStep sha256 s e t)
    (hr : s.executions.find? E = some r) (ht : r.status.terminal) :
    ∃ r', t.executions.find? E = some r' ∧ r'.status.terminal := by
  obtain ⟨r', hr', hstatus, _⟩ := terminal_path hrun hr ht (Path.single hs)
  exact ⟨r', hr', by rw [hstatus]; exact ht⟩

theorem step_outboxInvariant (hrun : StoreRun sha256 h s) (hs : StoreStep sha256 s e t)
    (hinv : OutboxInvariant s)
    (henqueue : ∀ E url token, e.op = .enqueueCallback E url token →
      ∃ r, s.executions.find? E = some r ∧ r.status.terminal) : OutboxInvariant t where
  ended E hE := by
    obtain hold | ⟨url, token, hop⟩ | hterminal := (store_outbox hs E).origin hE
    · obtain ⟨r, hr, ht⟩ := hinv.ended E hold
      exact terminal_step hrun hs hr ht
    · obtain ⟨r, hr, ht⟩ := henqueue E url token hop
      exact terminal_step hrun hs hr ht
    · exact hterminal
  notified E r' hr' ht' hcallback := by
    cases hr : s.executions.find? E with
    | none =>
      obtain ⟨_, hnone | ⟨request, manifest, fp, _, hnew⟩⟩ := store_absent hs hr
      · cases hnone.symm.trans hr'
      · cases Option.some.inj (hnew.symm.trans hr')
        cases ht'
    | some r =>
      obtain ⟨p, hp⟩ := run_represents hrun hr
      obtain ⟨q, _, _, hq, hsub, _⟩ := path_lifecycle (Path.single hs) hr hp
      cases Option.some.inj (hq.symm.trans hr')
      rw [hsub] at hcallback
      by_cases ht : r.status.terminal
      · exact (store_outbox hs E).keeps (hinv.notified E r hr ht hcallback)
      · exact (store_outbox hs E).covers r r' hr hr' ht ht' hcallback

theorem acceptedFinish_terminal (hrun : StoreRun sha256 h s) (he : e ∈ h)
    (hfinish : e.acceptedFinish E) : ∃ r, s.executions.find? E = some r ∧ r.status.terminal := by
  have hpos : 0 < h.countP (Event.acceptedFinish E) := List.countP_pos_iff.2 ⟨e, he, hfinish⟩
  rw [countP_acceptedFinish] at hpos
  obtain ⟨_, hnil⟩ | ⟨r, p, acts, hr, hp, hacts, hrequests⟩ := run_requests hrun E
  · rw [hnil] at hpos
    cases hpos
  · rw [← hrequests] at hpos
    obtain ⟨o, hdone⟩ := (finish_once hacts).2 hpos
    subst hdone
    obtain ⟨ht, _⟩ := hp.done_inv
    exact ⟨r, hr, ht⟩

theorem run_outboxInvariant (hrun : StoreRun sha256 h s) (henqueues : enqueuesAfterFinish h) :
    OutboxInvariant s := by
  induction hrun with
  | start hinit =>
    subst hinit
    exact ⟨fun _ => nofun, fun _ _ => nofun⟩
  | next hrun hs ih =>
    obtain ⟨hnow, hbefore⟩ := Bool.and_eq_true_iff.1 henqueues
    apply step_outboxInvariant hrun hs (ih hbefore)
    intro E url token hop
    rw [hop] at hnow
    obtain ⟨f, hf, hfinish⟩ := List.any_eq_true.1 hnow
    exact acceptedFinish_terminal hrun hf hfinish

theorem callback?_isSome {r : Submission} (hurl : r.callbackUrl = some url) (hne : url ≠ "") :
    r.callback?.isSome := by
  rw [Submission.callback?, hurl, Option.filter_some, if_pos (decide_eq_true hne)]
  rfl

/-- No terminal notification is lost, and none is there early. -/
theorem outbox_iff_terminal (hrun : StoreRun sha256 h s) (henqueues : enqueuesAfterFinish h) :
    (∀ r ∈ s.executions.rows, ∀ url, r.callbackUrl = some url → url ≠ "" →
      (s.notified r.executionId ↔ r.status.terminal)) ∧
    (∀ c ∈ s.callbackDeliveries.rows,
      ∃ r, s.executions.find? c.executionId = some r ∧ r.status.terminal) ∧
    ∀ E e t r r' url, StoreStep sha256 s e t → s.executions.find? E = some r →
      ¬r.status.terminal → t.executions.find? E = some r' → r'.status.terminal →
      r.callbackUrl = some url → url ≠ "" → s.notified E = false ∧ t.notified E := by
  have hinv := run_outboxInvariant hrun henqueues
  refine ⟨?_, ?_, ?_⟩
  · intro r hmem url hurl hne
    have hr : s.executions.find? r.executionId = some r := Table.find?_mem hmem
    constructor
    · intro hnotified
      obtain ⟨q, hq, ht⟩ := hinv.ended _ hnotified
      cases Option.some.inj (hq.symm.trans hr)
      exact ht
    · intro ht
      exact hinv.notified _ r hr ht (callback?_isSome hurl hne)
  · intro c hc
    apply hinv.ended
    rw [notified, show s.callbackDeliveries.find? c.executionId = some c from Table.find?_mem hc]
    rfl
  · intro E e t r r' url hs hr hlive hr' hterminal hurl hne
    constructor
    · rw [Bool.eq_false_iff]
      intro hnotified
      obtain ⟨q, hq, ht⟩ := hinv.ended _ hnotified
      cases Option.some.inj (hq.symm.trans hr)
      exact hlive ht
    · exact (store_outbox hs E).covers r r' hr hr' hlive hterminal (callback?_isSome hurl hne)

/-- A canceled execution whose lease runs out is over inside the claim of another worker. -/
theorem outbox_iff_terminal_sample :
    let s := (performAll Sample.sha256 .empty
      (Sample.claimed ++ [(Sample.clock 5, .cancel "e7")])).2
    let t := (perform Sample.sha256 s (Sample.clock 90)
      (.claimNext Sample.parameterLimit (Sample.claim "w2" 60))).2
    s.notified "e7" = false ∧ t.notified "e7" := by
  intro s t
  have hrun := performAll_run Sample.sha256 (Sample.claimed ++ [(Sample.clock 5, .cancel "e7")])
  have hlive : (s.executions.find? "e7").any (fun r => !r.status.terminal &&
    r.callbackUrl = some "https://example.org/results") = true := by decide +kernel
  have hover : (t.executions.find? "e7").any (fun r => r.status.terminal) = true := by
    decide +kernel
  obtain ⟨r, hr, hrow⟩ := (Option.any_eq_true _ _).1 hlive
  obtain ⟨hstatus, hurl⟩ := Bool.and_eq_true_iff.1 hrow
  obtain ⟨r', hr', hterminal⟩ := (Option.any_eq_true _ _).1 hover
  have henqueues : enqueuesAfterFinish (performAll Sample.sha256 .empty
      (Sample.claimed ++ [(Sample.clock 5, .cancel "e7")])).1 := by decide +kernel
  exact (outbox_iff_terminal hrun henqueues).2.2 "e7" _ t r r' _ (perform_step _ _ _ _) hr
    (by simpa using hstatus) hr' hterminal (of_decide_eq_true hurl) (by decide)

end

end BrunostJudge
