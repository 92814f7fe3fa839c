import BrunostJudge.Finality

namespace BrunostJudge
open Python Relational Transition LeasedWork JudgeStore
set_option autoImplicit true

/-- The caller was told no, or got an exception. -/
def Event.refused (e : Event) : Bool :=
  match e.outcome with
  | .ok (.execution none) | .ok (.flag false) | .error _ => true
  | _ => false

/-- A request a worker sends for an execution it claimed. It carries the worker's id and
nothing else that would name the claim. -/
def Op.fromWorker (E w : String) (op : Op) : Prop :=
  (∃ room res, op = .finish room E res w) ∨ ∃ seconds, op = .renewLease E w seconds

/-- The event gives an execution back to the queue because its lease ran out. The same event
may claim it again. -/
def Event.requeues (E : String) (s : JudgeStore) (e : Event) : Bool :=
  match e.op, e.outcome with
  | .claimNext _ _, .ok _ =>
    (s.executions.find? E).any fun r => leaseOver e.now r && !r.cancelRequested
  | _, _ => false

/-- The execution is running, and the worker holds a lease that has not run out. -/
def HoldsLease (s : JudgeStore) (now : Instant) (E w : String) : Prop :=
  ∃ r l, s.executions.find? E = some r ∧ r.status = .running ∧ r.workerId = some w ∧
    r.leaseExpiresAt = some l ∧ now ≤ l

section
variable {s t u u' : JudgeStore} {c e a : Event} {E w : String} {h l l' : List Event}
  {sha256 : ByteArray → String}

theorem requeues_iff : e.requeues E s ↔
    ∃ parameterLimit request reply r, e.op = .claimNext parameterLimit request ∧
      e.outcome = .ok reply ∧ s.executions.find? E = some r ∧ leaseOver e.now r ∧
      r.cancelRequested = false := by
  obtain ⟨now, op, outcome⟩ := e
  simp only [Event.requeues]
  split
  · simp [Option.any_eq_true]
  · next hno =>
    refine iff_of_false Bool.false_ne_true ?_
    rintro ⟨parameterLimit, request, reply, _, hop, houtcome, _⟩
    exact hno parameterLimit request reply hop houtcome

theorem holdsLease_of_heldBy (hr : s.executions.find? E = some r) (hheld : heldBy now E w r) :
    HoldsLease s now E w := by
  obtain ⟨hw, hstatus, l, hl, hle⟩ := (heldBy_iff (Table.key_of_find? hr)).1 hheld
  exact ⟨r, l, hr, hstatus, hw, hl, hle⟩

theorem worker_request (hs : StoreStep sha256 s a t) (ha : a.op.fromWorker E w) :
    (a.refused ∧ t.executions.find? E = s.executions.find? E) ∨ HoldsLease s a.now E w := by
  cases hs with
  | rollback => exact .inl ⟨rfl, rfl⟩
  | @commit now op s reply s' hrun =>
    obtain ⟨room, res, hop⟩ | ⟨seconds, hop⟩ := ha
    · cases hop
      obtain ⟨⟨reply, s'⟩, hp, he⟩ := map_ok.1 hrun
      cases he
      obtain ⟨_, ⟨hreply, hs⟩ | ⟨status, columns, r, _, hr, _, _, hheld, _⟩⟩ := finish_ok hp
      · subst hreply hs
        exact .inl ⟨rfl, rfl⟩
      · exact .inr (holdsLease_of_heldBy hr hheld)
    · cases hop
      obtain ⟨⟨flag, s'⟩, hp, he⟩ := map_ok.1 hrun
      cases he
      obtain ⟨lease, _, hflag, hs⟩ := renewLease_ok hp
      subst hs
      cases hr : s.executions.find? E with
      | none =>
        rw [hr, Option.any_none] at hflag
        subst hflag
        refine .inl ⟨rfl, ?_⟩
        rw [Table.find?_update, hr]
        rfl
      | some r =>
        by_cases hheld : heldBy now E w r = true
        · exact .inr (holdsLease_of_heldBy hr hheld)
        · have hsel : (heldBy now E w r && !r.cancelRequested) = false := by simp [hheld]
          rw [hr, Option.any_some, hsel] at hflag
          subst hflag
          refine .inl ⟨rfl, ?_⟩
          rw [Table.find?_update, hr]
          simp [hheld]

theorem holder_after_requeue (hrun : StoreRun sha256 h s) (he : StoreStep sha256 s e u)
    (hrequeue : e.requeues E s) (hpath : StorePath sha256 u l t)
    (hholds : HoldsLease t now E w) :
    (l ++ [e]).findSome? (Event.claimant? E) = some w := by
  obtain ⟨parameterLimit, request, reply, r, hop, houtcome, hr, hover, hcancel⟩ :=
    requeues_iff.1 hrequeue
  obtain ⟨p, hp⟩ := run_represents hrun hr
  obtain ⟨now', op, outcome⟩ := e
  cases hop
  cases houtcome
  obtain ⟨⟨claim, u'⟩, hclaim, heq⟩ := map_ok.1 (step_ok.1 he)
  cases heq
  obtain ⟨r', labels, hr', hrow, hlabels⟩ := claimNext_expired hclaim hr
  rw [afterExpiry, if_pos hover] at hrow
  have hqueued : Represents (giveBack now' r) .queued := by
    obtain ⟨hstatus, _⟩ := leaseOver_iff.1 hover
    obtain ⟨w', l', _, _, hc, _⟩ := hp.of_running hstatus
    exact .queued (by simp [giveBack, hcancel]) hcancel rfl rfl hc
  obtain ⟨acts, p', hacts, hp', hrequests⟩ := RowStep.path_refines hrow hqueued
  obtain ⟨q, p'', acts', hq, _, hp'', hacts', hrequests'⟩ := path_lifecycle hpath hr' hp'
  obtain ⟨q', l', hq', hstatus, hw, _, _⟩ := hholds
  cases Option.some.inj (hq'.symm.trans hq)
  obtain ⟨w', _, hw', _, _, hp''⟩ := hp''.of_running hstatus
  rw [hp''] at hacts'
  have howner := owner_path (hacts.trans hacts')
  rw [requests_append, hrequests', hrequests, hlabels] at howner
  rw [findSome?_claimant, List.filterMap_append, List.filterMap_cons, List.filterMap_nil]
  rw [hw] at hw'
  cases hw'
  cases hrequest : Event.request? E ⟨now', .claimNext parameterLimit request,
    .ok (.claim claim)⟩ with
  | none => rw [hrequest] at howner; exact howner
  | some q => rw [hrequest] at howner; exact howner

/-- A result is accepted only from the worker who claimed last and still holds the lease.
Whatever a worker asks about an execution that was requeued after that worker's claim is
refused, unless the same worker has claimed the execution again and holds a live lease. -/
theorem requeued_attempt_fenced (hrun : StoreRun sha256 h s) :
    (∀ E a t, StoreStep sha256 s a t → a.acceptedFinish E →
      ∃ room res w, a.op = .finish room E res w ∧ HoldsLease s a.now E w ∧
        h.findSome? (Event.claimant? E) = some w) ∧
    ∀ E w c s₁ l₁ s₂ e s₃ l₂ s₄ a t, StoreStep sha256 s c s₁ → c.claimant? E = some w →
      StorePath sha256 s₁ l₁ s₂ → StoreStep sha256 s₂ e s₃ → e.requeues E s₂ →
      StorePath sha256 s₃ l₂ s₄ → StoreStep sha256 s₄ a t → a.op.fromWorker E w →
      (a.refused ∧ t.executions.find? E = s₄.executions.find? E) ∨
        ((l₂ ++ [e]).findSome? (Event.claimant? E) = some w ∧ HoldsLease s₄ a.now E w) := by
  constructor
  · intro E a t hs ha
    obtain ⟨room, res, w, status, columns, r, hop, _, _, hr, _, _, hheld, _⟩ :=
      acceptedFinish_cases hs ha
    have hholds := holdsLease_of_heldBy hr hheld
    refine ⟨room, res, w, hop, hholds, ?_⟩
    obtain ⟨r', _, hr', hstatus, hw, _⟩ := hholds
    obtain ⟨p, acts, hp, hacts, hrequests⟩ := run_lifecycle hrun hr'
    obtain ⟨w', _, hw', _, _, hp'⟩ := hp.of_running hstatus
    rw [hp'] at hacts
    rw [findSome?_claimant, ← hrequests, owner_path hacts]
    exact hw'.symm.trans hw
  · intro E w c s₁ l₁ s₂ e s₃ l₂ s₄ a t hc _ hpath₁ he hrequeue hpath₂ ha hfrom
    obtain hrefused | hholds := worker_request ha hfrom
    · exact .inl hrefused
    · have hrun₂ := (Run.next hrun hc).append hpath₁
      exact .inr ⟨holder_after_requeue hrun₂ he hrequeue hpath₂ hholds, hholds⟩

/-- A claim whose lease lasts a second. -/
def Sample.firstClaim : Op :=
  .claimNext parameterLimit (claim "w1" 1)

def Sample.secondClaim (workerId : String) : Op :=
  .claimNext parameterLimit (claim workerId 60)

theorem requeued_attempt_fenced_sample :
    let s := (performAll Sample.sha256 .empty Sample.queued).2
    let s₁ := (perform Sample.sha256 s (Sample.clock 2) Sample.firstClaim).2
    let s₂ := (perform Sample.sha256 s₁ (Sample.clock 4) (Sample.secondClaim "w2")).2
    let finish := perform Sample.sha256 s₂ Sample.finish.1 Sample.finish.2
    finish.1.refused ∧ finish.2.executions.find? "e7" = s₂.executions.find? "e7" := by
  intro s s₁ s₂ finish
  have hfinish := perform_step Sample.sha256 s₂ Sample.finish.1 Sample.finish.2
  have hfrom : finish.1.op.fromWorker "e7" "w1" := by
    rw [perform_op]
    exact .inl ⟨_, _, rfl⟩
  obtain hrefused | ⟨hclaimed, _⟩ :=
    (requeued_attempt_fenced (performAll_run Sample.sha256 Sample.queued)).2 "e7" "w1" _ s₁ [] s₁
      _ s₂ [] s₂ finish.1 finish.2 (perform_step _ _ _ _) (by decide +kernel) .refl
      (perform_step _ _ (Sample.clock 4) (Sample.secondClaim "w2")) (by decide +kernel)
      .refl hfinish hfrom
  · exact hrefused
  · exact absurd hclaimed (by decide +kernel)

/-- A worker whose lease ran out and who claimed the execution again hands in the result of the
first claim under the second. -/
theorem stale_attempt_accepted_sample :
    ¬∀ (sha256 : ByteArray → String) h s E w c s₁ l₁ s₂ e s₃ l₂ s₄ a t, StoreRun sha256 h s →
      StoreStep sha256 s c s₁ → c.claimant? E = some w → StorePath sha256 s₁ l₁ s₂ →
      StoreStep sha256 s₂ e s₃ → e.requeues E s₂ → StorePath sha256 s₃ l₂ s₄ →
      StoreStep sha256 s₄ a t → a.op.fromWorker E w →
      a.refused ∧ t.executions.find? E = s₄.executions.find? E := by
  intro hall
  let s := (performAll Sample.sha256 .empty Sample.queued).2
  let s₁ := (perform Sample.sha256 s (Sample.clock 2) Sample.firstClaim).2
  let s₂ := (perform Sample.sha256 s₁ (Sample.clock 4) (Sample.secondClaim "w1")).2
  let finish := perform Sample.sha256 s₂ Sample.finish.1 Sample.finish.2
  have hfinish := perform_step Sample.sha256 s₂ Sample.finish.1 Sample.finish.2
  have hfrom : finish.1.op.fromWorker "e7" "w1" := by
    rw [perform_op]
    exact .inl ⟨_, _, rfl⟩
  have hrefused := hall Sample.sha256 _ s "e7" "w1" _ s₁ [] s₁ _ s₂ [] s₂ finish.1 finish.2
    (performAll_run _ _) (perform_step _ _ _ _) (by decide +kernel) .refl
    (perform_step _ _ _ _) (by decide +kernel) .refl hfinish hfrom
  have haccepted : finish.1.refused = false := by decide +kernel
  rw [haccepted] at hrefused
  cases hrefused.1

end

end BrunostJudge
