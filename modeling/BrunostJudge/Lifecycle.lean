import BrunostJudge.StoreSpec
import BrunostJudge.LeasedWork
import Mathlib.Data.List.ReduceOption

namespace BrunostJudge
open Python Relational Transition LeasedWork JudgeStore
set_option autoImplicit true

/-- What a terminal execution shows: its status and its result columns. -/
abbrev Outcome := Status × ResultColumns

/-- Columns that publish no result. The failure reason may say why. -/
structure ResultColumns.Unpublished (c : ResultColumns) : Prop where
  score : c.score = none
  metrics : c.metricsJson = .obj []
  scores : c.scoresJson = .obj []
  winner : c.winner = none
  artifacts : c.artifactsJson = .obj []

def Outcome.Void (o : Outcome) : Prop := o.1 = .canceled ∧ o.2.Unpublished

theorem Outcome.void_empty : Outcome.Void (.canceled, .empty) := ⟨rfl, ⟨rfl, rfl, rfl, rfl, rfl⟩⟩

abbrev Execution.outcome (r : Execution) : Outcome := (r.status, r.toResultColumns)

/-- The rows that stand for a phase of the lifecycle. A row that stands for none is broken. -/
inductive Represents : Execution → Phase String Instant Outcome → Prop
  | queued : r.status = .queued → r.cancelRequested = false → r.workerId = none →
      r.leaseExpiresAt = none → r.toResultColumns = .empty → Represents r .queued
  | running : r.status = .running → r.workerId = some w → r.leaseExpiresAt = some l →
      r.toResultColumns = .empty → Represents r (.running w l r.cancelRequested)
  | done : r.status.terminal → r.workerId = none → r.leaseExpiresAt = none →
      Represents r (.done r.outcome)

/-- What an event asked of an execution, if the store did it. -/
def Event.request? (E : String) (e : Event) : Option (Request String Instant) :=
  match e.op, e.outcome with
  | .claimNext _ request, .ok (.claim (some c)) =>
    if c.execution.executionId = E then request.workerId.encode?.map .claim else none
  | .finish _ E' _ w, .ok (.execution (some _)) => if E' = E then some (.finish w e.now) else none
  | .renewLease E' w _, .ok (.flag true) => if E' = E then some (.renew w e.now) else none
  | .cancel E', .ok (.execution (some _)) => if E' = E then some .cancel else none
  | _, _ => none

/-- The changes one row can undergo. -/
inductive RowStep (now : Instant) (r : Execution) :
    Option (Request String Instant) → Execution → Prop
  | expire : leaseOver now r → RowStep now r none (giveBack now r)
  | claim (w lease) : r.status = .queued → r.cancelRequested = false →
      RowStep now r (some (.claim w)) (claimed now lease w r)
  | renew (w lease) : heldBy now r.executionId w r → r.cancelRequested = false →
      RowStep now r (some (.renew w now)) (renewed now lease r)
  | cancel : RowStep now r (some .cancel) (cancelRow now r)
  | finish (w) (status : Status) (columns) : status.terminal →
      heldBy now r.executionId w r →
      RowStep now r (some (.finish w now)) (finished now status columns r)

theorem RowStep.submission (h : RowStep now r q r') : r'.toSubmission = r.toSubmission := by
  cases h <;> rfl

theorem leaseOver_iff : leaseOver now r = true ↔
    r.status = .running ∧ ∃ l, r.leaseExpiresAt = some l ∧ l ≤ now := by
  simp [leaseOver, Option.any_eq_true]

theorem Represents.of_running (h : Represents r p) (hstatus : r.status = .running) :
    ∃ w l, r.workerId = some w ∧ r.leaseExpiresAt = some l ∧ r.toResultColumns = .empty ∧
      p = .running w l r.cancelRequested := by
  cases h with
  | queued hq => rw [hq] at hstatus; cases hstatus
  | running _ hw hl hc => exact ⟨_, _, hw, hl, hc, rfl⟩
  | done ht => rw [hstatus] at ht; cases ht

theorem Represents.of_queued (h : Represents r p) (hstatus : r.status = .queued) :
    r.cancelRequested = false ∧ r.workerId = none ∧ r.leaseExpiresAt = none ∧
      r.toResultColumns = .empty ∧ p = .queued := by
  cases h with
  | queued _ hcancel hw hl hc => exact ⟨hcancel, hw, hl, hc, rfl⟩
  | running hr => rw [hr] at hstatus; cases hstatus
  | done ht => rw [hstatus] at ht; cases ht

theorem Represents.of_terminal (h : Represents r p) (hstatus : r.status.terminal) :
    r.workerId = none ∧ r.leaseExpiresAt = none ∧ p = .done r.outcome := by
  cases h with
  | queued hq => rw [hq] at hstatus; cases hstatus
  | running hr => rw [hr] at hstatus; cases hstatus
  | done _ hw hl => exact ⟨hw, hl, rfl⟩

theorem Represents.running_inv (h : Represents r (.running w l c)) :
    r.status = .running ∧ r.workerId = some w ∧ r.leaseExpiresAt = some l ∧
      r.cancelRequested = c ∧ r.toResultColumns = .empty := by
  generalize hp : Phase.running w l c = p at h
  cases h with
  | queued => cases hp
  | running hr hw hl hc =>
    obtain ⟨he, he', he''⟩ := Phase.running.inj hp
    rw [he, he', he'']
    exact ⟨hr, hw, hl, rfl, hc⟩
  | done => cases hp

theorem Represents.done_inv (h : Represents r (.done o)) : r.status.terminal ∧ r.outcome = o := by
  generalize hp : Phase.done o = p at h
  cases h with
  | queued => cases hp
  | running => cases hp
  | done ht => exact ⟨ht, (Phase.done.inj hp).symm⟩

theorem RowStep.refines (h : RowStep now r q r') (hp : Represents r p) :
    ∃ a p', Step Outcome.Void p a p' ∧ Represents r' p' ∧ a.request? = q := by
  cases h with
  | expire hover =>
    obtain ⟨hstatus, l, hlease, hle⟩ := leaseOver_iff.1 hover
    obtain ⟨w, l', hw, hl, hc, hp'⟩ := hp.of_running hstatus
    have hll : l' = l := Option.some.inj (hl.symm.trans hlease)
    subst hll
    cases hcancel : r.cancelRequested with
    | false =>
      rw [hp', hcancel]
      refine ⟨.expire now, .queued, .requeue hle, ?_, rfl⟩
      exact .queued (by simp [giveBack, hcancel]) hcancel rfl rfl hc
    | true =>
      rw [hp', hcancel]
      have hdone : (giveBack now r).outcome = (.canceled, .empty) := by
        simp [giveBack, Execution.outcome, hcancel, hc]
      refine ⟨.expire now, .done (.canceled, .empty), .abandon hle Outcome.void_empty, ?_, rfl⟩
      rw [← hdone]
      exact .done (by simp [giveBack, hcancel, Status.terminal]) rfl rfl
  | claim w lease hq hcancel =>
    obtain ⟨_, _, _, hc, hp'⟩ := hp.of_queued hq
    rw [hp']
    refine ⟨.claim w lease, .running w lease false, .claim, ?_, rfl⟩
    rw [← hcancel]
    exact .running rfl rfl rfl hc
  | renew w lease hheld hcancel =>
    obtain ⟨hw, hstatus, l, hlease, hle⟩ := (heldBy_iff rfl).1 hheld
    obtain ⟨w', l', hw', hl', hc, hp'⟩ := hp.of_running hstatus
    rw [hw] at hw'
    rw [hlease] at hl'
    cases hw'
    cases hl'
    rw [hp', hcancel]
    refine ⟨.renew w now lease, .running w lease false, .renew hle, ?_, rfl⟩
    rw [← hcancel]
    exact .running hstatus hw rfl hc
  | cancel =>
    cases hp with
    | queued hq _ hw hl hc =>
      have hdone : (cancelRow now r).outcome = (.canceled, .empty) := by
        simp [cancelRow, Execution.outcome, hq, hc]
      refine ⟨.cancel, .done (.canceled, .empty), .cancelQueued Outcome.void_empty, ?_, rfl⟩
      rw [← hdone]
      exact .done (by simp [cancelRow, hq, Status.terminal]) hw hl
    | running hr hw hl hc =>
      refine ⟨.cancel, _, .cancelRunning, ?_, rfl⟩
      exact .running (by simp [cancelRow, hr]) hw hl hc
    | done ht hw hl =>
      have hne : r.status ≠ .queued := by
        intro hq
        rw [hq] at ht
        cases ht
      have hsame : (cancelRow now r).outcome = r.outcome := by
        simp [cancelRow, Execution.outcome, hne]
      refine ⟨.cancel, _, .cancelDone, ?_, rfl⟩
      rw [← hsame]
      exact .done (by simpa [cancelRow, hne] using ht) hw hl
  | finish w status columns ht hheld =>
    obtain ⟨hw, hstatus, l, hlease, hle⟩ := (heldBy_iff rfl).1 hheld
    obtain ⟨w', l', hw', hl', hc, hp'⟩ := hp.of_running hstatus
    rw [hw] at hw'
    rw [hlease] at hl'
    cases hw'
    cases hl'
    have hdone : Represents (finished now status columns r)
        (.done (finished now status columns r).outcome) := by
      refine .done ?_ rfl rfl
      cases hcancel : r.cancelRequested with
      | false => simpa [finished, hcancel] using ht
      | true => simp [finished, hcancel, Status.terminal]
    cases hcancel : r.cancelRequested with
    | false =>
      rw [hp', hcancel]
      exact ⟨.finish w now _, _, .finish hle, hdone, rfl⟩
    | true =>
      rw [hp', hcancel]
      refine ⟨.finish w now _, _, .finishCanceled hle ?_, hdone, rfl⟩
      have hvoid : (finished now status columns r).outcome = (.canceled,
          { ResultColumns.empty with
            failureReason := some "execution canceled while running" }) := by
        simp [finished, Execution.outcome, hcancel]
      rw [hvoid]
      exact ⟨rfl, ⟨rfl, rfl, rfl, rfl, rfl⟩⟩

/-- The operations that may change an execution. -/
def Op.onExecutions : Op → Bool
  | .submit _ _ | .claimNext _ _ | .finish _ _ _ _ | .renewLease _ _ _ | .cancel _ => true
  | _ => false

/-- The operations on the callback outbox alone. -/
def Op.onOutbox : Op → Bool
  | .enqueueCallback _ _ _ | .claimCallback _ _ _ | .markCallbackDelivered _
  | .markCallbackDeliveredByOwner _ _ | .markCallbackFailed _ _ _ | .replayCallback _ => true
  | _ => false

theorem Op.run_registry {op : Op} (h : op.run sha256 now s = .ok (reply, s'))
    (hop : op.onExecutions = false) (hop' : op.onOutbox = false) :
    s'.executions = s.executions ∧ s'.callbackDeliveries = s.callbackDeliveries := by
  cases op with
  | registerTask task =>
    obtain ⟨p, hp, he⟩ := map_ok.1 h
    cases he
    simp only [JudgeStore.registerTask] at hp
    split at hp
    · split at hp <;> cases hp
      exact ⟨rfl, rfl⟩
    · split at hp <;> cases hp
      exact ⟨rfl, rfl⟩
  | registerDefinition =>
    obtain ⟨p, hp, he⟩ := map_ok.1 h
    cases he
    simp only [JudgeStore.registerDefinition] at hp
    split at hp
    · split at hp <;> cases hp
      exact ⟨rfl, rfl⟩
    · split at hp <;> cases hp
      exact ⟨rfl, rfl⟩
  | createEnrollmentToken =>
    obtain ⟨p, hp, he⟩ := map_ok.1 h
    cases he
    simp only [JudgeStore.createEnrollmentToken] at hp
    split at hp
    · cases hp
    · split at hp <;> cases hp
      exact ⟨rfl, rfl⟩
  | createWorkerCredential =>
    obtain ⟨p, hp, he⟩ := map_ok.1 h
    cases he
    simp only [JudgeStore.createWorkerCredential] at hp
    split at hp <;> cases hp
    exact ⟨rfl, rfl⟩
  | consumeEnrollmentToken token =>
    cases h
    simp only [JudgeStore.consumeEnrollmentToken]
    split
    · split <;> exact ⟨rfl, rfl⟩
    · exact ⟨rfl, rfl⟩
  | registerWorker | heartbeatWorker | drainWorker | revokeWorkerCredential =>
    cases h
    exact ⟨rfl, rfl⟩
  | submit | claimNext | finish | renewLease | cancel => cases hop
  | _ => cases hop'

theorem Op.run_outbox {op : Op} (h : op.run sha256 now s = .ok (reply, s'))
    (hop : op.onOutbox) : s'.executions = s.executions := by
  cases op with
  | enqueueCallback =>
    obtain ⟨p, hp, he⟩ := map_ok.1 h
    cases he
    simp only [JudgeStore.enqueueCallback] at hp
    split at hp <;> cases hp
    rfl
  | claimCallback =>
    obtain ⟨p, hp, he⟩ := map_ok.1 h
    cases he
    obtain ⟨lease, _, hp⟩ := bind_ok.1 hp
    cases hp
    rfl
  | markCallbackFailed =>
    obtain ⟨p, hp, he⟩ := map_ok.1 h
    cases he
    obtain ⟨lease, _, hp⟩ := bind_ok.1 hp
    cases hp
    rfl
  | replayCallback E =>
    cases h
    simp only [JudgeStore.replayCallback]
    split
    · rfl
    · split <;> rfl
  | markCallbackDelivered | markCallbackDeliveredByOwner =>
    cases h
    rfl
  | _ => cases hop

theorem Op.run_executions {op : Op} (h : op.run sha256 now s = .ok (reply, s'))
    (hop : op.onExecutions = false) : s'.executions = s.executions := by
  cases houtbox : op.onOutbox with
  | true => exact op.run_outbox h houtbox
  | false => exact (op.run_registry h hop houtbox).1

theorem Op.request?_of_frame {op : Op} (hop : op.onExecutions = false)
    (now : Instant) (outcome : Except PyError Reply) (E : String) :
    Event.request? E ⟨now, op, outcome⟩ = none := by
  cases op <;> first | rfl | cases hop

section
variable {s s' : JudgeStore} {r : Execution} {e : Event} {now : Instant} {E : String}
  {sha256 : ByteArray → String}

/-- A row after the expiries of a claim. -/
def afterExpiry (now : Instant) (r : Execution) : Execution :=
  if leaseOver now r then giveBack now r else r

theorem expireLeases_row (hr : s.executions.find? E = some r) (now : Instant) :
    (s.expireLeases now).executions.find? E = some (afterExpiry now r) := by
  rw [expireLeases, Table.find?_update, hr]
  rfl

theorem expire_path (now : Instant) (r : Execution) :
    ∃ labels, Path (RowStep now) r labels (afterExpiry now r) ∧ labels.reduceOption = [] := by
  by_cases hover : leaseOver now r = true
  · rw [afterExpiry, if_pos hover]
    exact ⟨[none], Path.single (.expire hover), rfl⟩
  · rw [afterExpiry, if_neg hover]
    exact ⟨[], .refl, rfl⟩

theorem claimNext_cases (h : s.claimNext parameterLimit now request = .ok (reply, s'))
    (hr : s.executions.find? E = some r) :
    (s'.executions.find? E = some (afterExpiry now r) ∧
      Event.request? E ⟨now, .claimNext parameterLimit request, .ok (.claim reply)⟩ = none) ∨
    ∃ lease worker, s'.executions.find? E = some (claimed now lease worker (afterExpiry now r)) ∧
      (afterExpiry now r).status = .queued ∧ (afterExpiry now r).cancelRequested = false ∧
      Event.request? E ⟨now, .claimNext parameterLimit request, .ok (.claim reply)⟩ =
        some (.claim worker) := by
  have hexpired := expireLeases_row hr now
  obtain ⟨hreply, hs⟩ | ⟨row, task, lease, worker, hmem, _, _, hworker, hreply, hs⟩ :=
    claimNext_ok h
  · subst hreply hs
    exact .inl ⟨hexpired, rfl⟩
  · subst hreply hs
    obtain ⟨hrow, hsel, _⟩ := mem_candidates.1 hmem
    have hrow' : (s.expireLeases now).executions.find? row.executionId = some row :=
      Table.find?_mem hrow
    by_cases hE : row.executionId = E
    · subst hE
      obtain ⟨hqueued, hcancel, _⟩ := selectable_iff.1 hsel
      have heq : row = afterExpiry now r := Option.some.inj (hrow'.symm.trans hexpired)
      refine .inr ⟨lease, worker, ?_, heq ▸ hqueued, heq ▸ hcancel, ?_⟩
      · rw [claimStore, Table.find?_update, hrow', ← heq]
        simp
      · simp [Event.request?, claimReply, result, claimed, hworker]
    · have hne : (afterExpiry now r).executionId ≠ row.executionId := by
        intro he
        exact hE (he.symm.trans (Table.key_of_find? hexpired))
      refine .inl ⟨?_, ?_⟩
      · rw [claimStore, Table.find?_update, hexpired]
        simp [hne]
      · simp [Event.request?, claimReply, result, claimed, hE]

theorem claimNext_expired (h : s.claimNext parameterLimit now request = .ok (reply, s'))
    (hr : s.executions.find? E = some r) :
    ∃ r' labels, s'.executions.find? E = some r' ∧
      Path (RowStep now) (afterExpiry now r) labels r' ∧
      labels.reduceOption =
        (Event.request? E ⟨now, .claimNext parameterLimit request, .ok (.claim reply)⟩).toList := by
  obtain ⟨hr', hnone⟩ | ⟨lease, worker, hr', hqueued, hcancel, hclaim⟩ := claimNext_cases h hr
  · exact ⟨_, [], hr', .refl, by rw [hnone]; rfl⟩
  · refine ⟨_, [some (.claim worker)], hr', ?_, by rw [hclaim]; rfl⟩
    exact Path.single (.claim _ _ hqueued hcancel)

theorem claimNext_row (h : s.claimNext parameterLimit now request = .ok (reply, s'))
    (hr : s.executions.find? E = some r) :
    ∃ r' labels, s'.executions.find? E = some r' ∧ Path (RowStep now) r labels r' ∧
      labels.reduceOption =
        (Event.request? E ⟨now, .claimNext parameterLimit request, .ok (.claim reply)⟩).toList := by
  obtain ⟨expiry, hexpiry, hnil⟩ := expire_path now r
  obtain ⟨r', labels, hr', hpath, hlabels⟩ := claimNext_expired h hr
  refine ⟨r', labels ++ expiry, hr', hexpiry.trans hpath, ?_⟩
  rw [List.reduceOption_append, hnil, hlabels, List.append_nil]

theorem finish_row (h : s.finish room now E' res w = .ok (reply, s'))
    (hr : s.executions.find? E = some r) :
    ∃ r' labels, s'.executions.find? E = some r' ∧ Path (RowStep now) r labels r' ∧
      labels.reduceOption =
        (Event.request? E ⟨now, .finish room E' res w, .ok (.execution reply)⟩).toList := by
  obtain ⟨_, ⟨hreply, hs⟩ | ⟨status, columns, q, hstatus, hq, _, _, hheld, hreply, hs⟩⟩ :=
    finish_ok h
  · subst hreply hs
    exact ⟨r, [], hr, .refl, rfl⟩
  · subst hreply hs
    have hkey := heldBy_key hheld
    by_cases hE : E' = E
    · subst hE
      cases Option.some.inj (hq.symm.trans hr)
      refine ⟨_, [some (.finish w now)], ?_, Path.single (.finish w status columns ?_ ?_), ?_⟩
      · rw [finishStore, Table.find?_update, hr, hkey]
        simp [hheld]
      · exact (among_terminal hstatus).1
      · rw [hkey]
        exact hheld
      · simp [Event.request?]
    · have hnot : heldBy now q.executionId w r = false := by
        rw [Bool.eq_false_iff]
        intro hr'
        exact hE (hkey.symm.trans ((heldBy_key hr').symm.trans (Table.key_of_find? hr)))
      refine ⟨r, [], ?_, .refl, ?_⟩
      · rw [finishStore, Table.find?_update, hr]
        simp [hnot]
      · simp [Event.request?, hE]

theorem renewLease_row (h : s.renewLease now E' w seconds = .ok (reply, s'))
    (hr : s.executions.find? E = some r) :
    ∃ r' labels, s'.executions.find? E = some r' ∧ Path (RowStep now) r labels r' ∧
      labels.reduceOption =
        (Event.request? E ⟨now, .renewLease E' w seconds, .ok (.flag reply)⟩).toList := by
  obtain ⟨lease, _, hreply, hs⟩ := renewLease_ok h
  subst hs
  have hkey : r.executionId = E := Table.key_of_find? hr
  have hrow := Table.find?_update s.executions
    (fun r => heldBy now E' w r && !r.cancelRequested) (renewed now lease)
    (renewed_key now lease) E
  rw [hr] at hrow
  by_cases hsel : (heldBy now E' w r && !r.cancelRequested) = true
  · rw [Option.map_some, if_pos hsel] at hrow
    obtain ⟨hheld, hcancel⟩ := Bool.and_eq_true_iff.1 hsel
    have hE : E' = E := (heldBy_key hheld).symm.trans hkey
    subst hE
    rw [hr, Option.any_some, hsel] at hreply
    subst hreply
    refine ⟨_, [some (.renew w now)], hrow, Path.single (.renew w lease ?_ ?_), ?_⟩
    · rw [hkey]
      exact hheld
    · simpa using hcancel
    · simp [Event.request?]
  · rw [Option.map_some, if_neg hsel] at hrow
    refine ⟨r, [], hrow, .refl, ?_⟩
    by_cases hE : E' = E
    · subst hE
      rw [hr, Option.any_some, Bool.eq_false_iff.2 hsel] at hreply
      subst hreply
      rfl
    · cases reply <;> simp [Event.request?, hE]

theorem cancel_row (E' : String) (now : Instant) (hr : s.executions.find? E = some r) :
    ∃ r' labels, (s.cancel now E').2.executions.find? E = some r' ∧
      Path (RowStep now) r labels r' ∧
      labels.reduceOption =
        (Event.request? E ⟨now, .cancel E', .ok (.execution (s.cancel now E').1)⟩).toList := by
  have hkey : r.executionId = E := Table.key_of_find? hr
  obtain ⟨_, hc⟩ | ⟨q, hq, hc⟩ := cancel_eq s now E'
  · rw [hc]
    exact ⟨r, [], hr, .refl, rfl⟩
  · rw [hc]
    by_cases hE : E' = E
    · subst hE
      refine ⟨_, [some .cancel], ?_, Path.single .cancel, ?_⟩
      · rw [Table.find?_update, hr]
        simp [hkey]
      · simp [Event.request?]
    · refine ⟨r, [], ?_, .refl, ?_⟩
      · rw [Table.find?_update, hr]
        simp [hkey, Ne.symm hE]
      · simp [Event.request?, hE]

theorem submit_row (h : s.submit sha256 now E' request = .ok (reply, s'))
    (hr : s.executions.find? E = some r) : s'.executions.find? E = some r := by
  obtain ⟨fp, task, _, _, ⟨q, _, _, _, hs⟩ | ⟨_, t, hinsert, _, hs⟩⟩ := submit_ok h
  · subst hs
    exact hr
  · subst hs
    have hfresh := Table.insert?_fresh hinsert
    have hne : E' ≠ E := by
      intro hE
      subst hE
      cases hfresh.symm.trans hr
    exact (Table.find?_insert hinsert E).trans (by simp [Keyed.key, submittedRow, hne, hr])

theorem store_row (hs : StoreStep sha256 s e s') (hr : s.executions.find? E = some r) :
    ∃ r' labels, s'.executions.find? E = some r' ∧ Path (RowStep e.now) r labels r' ∧
      labels.reduceOption = (e.request? E).toList := by
  cases hs with
  | @rollback now op _ err _ => exact ⟨r, [], hr, .refl, by cases op <;> rfl⟩
  | @commit now op _ reply _ hrun =>
    by_cases hop : op.onExecutions = false
    · refine ⟨r, [], ?_, .refl, ?_⟩
      · rw [op.run_executions hrun hop]
        exact hr
      · rw [op.request?_of_frame hop]
        rfl
    · cases op with
      | submit E' request =>
        obtain ⟨p, hp, he⟩ := map_ok.1 hrun
        cases he
        exact ⟨r, [], submit_row hp hr, .refl, rfl⟩
      | claimNext _ request =>
        obtain ⟨p, hp, he⟩ := map_ok.1 hrun
        cases he
        exact claimNext_row hp hr
      | finish room E' res w =>
        obtain ⟨p, hp, he⟩ := map_ok.1 hrun
        cases he
        exact finish_row hp hr
      | renewLease E' w seconds =>
        obtain ⟨p, hp, he⟩ := map_ok.1 hrun
        cases he
        exact renewLease_row hp hr
      | cancel E' =>
        cases hrun
        exact cancel_row E' now hr
      | _ => exact absurd rfl hop

theorem expireLeases_absent (hnone : s.executions.find? E = none) (now : Instant) :
    (s.expireLeases now).executions.find? E = none := by
  rw [expireLeases, Table.find?_update, hnone]
  rfl

theorem claimNext_absent (h : s.claimNext parameterLimit now request = .ok (reply, s'))
    (hnone : s.executions.find? E = none) :
    s'.executions.find? E = none ∧
      Event.request? E ⟨now, .claimNext parameterLimit request, .ok (.claim reply)⟩ = none := by
  have hexpired := expireLeases_absent hnone now
  obtain ⟨hreply, hs⟩ | ⟨row, task, lease, worker, hmem, _, _, _, hreply, hs⟩ := claimNext_ok h
  · subst hreply hs
    exact ⟨hexpired, rfl⟩
  · subst hreply hs
    obtain ⟨hrow, _, _⟩ := mem_candidates.1 hmem
    have hE : row.executionId ≠ E := Table.find?_eq_none.1 hexpired row hrow
    constructor
    · rw [claimStore, Table.find?_update, hexpired]
      rfl
    · simp [Event.request?, claimReply, result, claimed, hE]

theorem finish_absent (h : s.finish room now E' res w = .ok (reply, s'))
    (hnone : s.executions.find? E = none) :
    s'.executions.find? E = none ∧
      Event.request? E ⟨now, .finish room E' res w, .ok (.execution reply)⟩ = none := by
  obtain ⟨_, ⟨hreply, hs⟩ | ⟨status, columns, q, _, hq, _, _, _, hreply, hs⟩⟩ := finish_ok h
  · subst hreply hs
    exact ⟨hnone, rfl⟩
  · subst hreply hs
    have hE : E' ≠ E := by
      intro hE
      subst hE
      cases hnone.symm.trans hq
    constructor
    · rw [finishStore, Table.find?_update, hnone]
      rfl
    · simp [Event.request?, hE]

theorem renewLease_absent (h : s.renewLease now E' w seconds = .ok (reply, s'))
    (hnone : s.executions.find? E = none) :
    s'.executions.find? E = none ∧
      Event.request? E ⟨now, .renewLease E' w seconds, .ok (.flag reply)⟩ = none := by
  obtain ⟨lease, _, hreply, hs⟩ := renewLease_ok h
  subst hs
  constructor
  · rw [Table.find?_update, hnone]
    rfl
  · by_cases hE : E' = E
    · subst hE
      rw [hnone, Option.any_none] at hreply
      subst hreply
      rfl
    · cases reply <;> simp [Event.request?, hE]

theorem cancel_absent (E' : String) (now : Instant) (hnone : s.executions.find? E = none) :
    (s.cancel now E').2.executions.find? E = none ∧
      Event.request? E ⟨now, .cancel E', .ok (.execution (s.cancel now E').1)⟩ = none := by
  obtain ⟨_, hc⟩ | ⟨q, hq, hc⟩ := cancel_eq s now E'
  · rw [hc]
    exact ⟨hnone, rfl⟩
  · rw [hc]
    have hE : E' ≠ E := by
      intro hE
      subst hE
      cases hnone.symm.trans hq
    constructor
    · rw [Table.find?_update, hnone]
      rfl
    · simp [Event.request?, hE]

theorem submit_absent (h : s.submit sha256 now E' request = .ok (reply, s'))
    (hnone : s.executions.find? E = none) :
    s'.executions.find? E = none ∨ E' = E ∧ ∃ manifest fp,
      s'.executions.find? E = some (submittedRow request manifest E fp now) := by
  obtain ⟨fp, task, _, _, ⟨q, _, _, _, hs⟩ | ⟨_, t, hinsert, _, hs⟩⟩ := submit_ok h
  · subst hs
    exact .inl hnone
  · subst hs
    have hfind := Table.find?_insert hinsert E
    by_cases hE : E' = E
    · subst hE
      exact .inr ⟨rfl, task.manifest, fp, hfind.trans (if_pos rfl)⟩
    · exact .inl (hfind.trans ((if_neg hE).trans hnone))

/-- A row comes from a submission, and nobody is answered about a row that is not there. -/
theorem store_absent (hs : StoreStep sha256 s e s') (hnone : s.executions.find? E = none) :
    e.request? E = none ∧ (s'.executions.find? E = none ∨
      ∃ request manifest fp, e.op = .submit E request ∧ s'.executions.find? E =
        some (submittedRow request manifest E fp e.now)) := by
  cases hs with
  | @rollback now op _ err _ => exact ⟨by cases op <;> rfl, .inl hnone⟩
  | @commit now op _ reply _ hrun =>
    by_cases hop : op.onExecutions = false
    · rw [op.run_executions hrun hop]
      exact ⟨op.request?_of_frame hop _ _ E, .inl hnone⟩
    · cases op with
      | submit E' request =>
        obtain ⟨p, hp, he⟩ := map_ok.1 hrun
        cases he
        obtain hnone' | ⟨hE, manifest, fp, hrow⟩ := submit_absent hp hnone
        · exact ⟨rfl, .inl hnone'⟩
        · subst hE
          exact ⟨rfl, .inr ⟨request, manifest, fp, rfl, hrow⟩⟩
      | claimNext _ request =>
        obtain ⟨p, hp, he⟩ := map_ok.1 hrun
        cases he
        obtain ⟨hnone', hrequest⟩ := claimNext_absent hp hnone
        exact ⟨hrequest, .inl hnone'⟩
      | finish room E' res w =>
        obtain ⟨p, hp, he⟩ := map_ok.1 hrun
        cases he
        obtain ⟨hnone', hrequest⟩ := finish_absent hp hnone
        exact ⟨hrequest, .inl hnone'⟩
      | renewLease E' w seconds =>
        obtain ⟨p, hp, he⟩ := map_ok.1 hrun
        cases he
        obtain ⟨hnone', hrequest⟩ := renewLease_absent hp hnone
        exact ⟨hrequest, .inl hnone'⟩
      | cancel E' =>
        cases hrun
        obtain ⟨hnone', hrequest⟩ := cancel_absent E' now hnone
        exact ⟨hrequest, .inl hnone'⟩
      | _ => exact absurd rfl hop

theorem submittedRow_represents (request : ExecutionRequest) (manifest : Dict)
    (executionId fp : String) (now : Instant) :
    Represents (submittedRow request manifest executionId fp now) .queued :=
  .queued rfl rfl rfl rfl rfl

theorem RowStep.path_refines (h : Path (RowStep now) r labels r') (hp : Represents r p) :
    ∃ acts p', Path (Step Outcome.Void) p acts p' ∧ Represents r' p' ∧
      requests acts = labels.reduceOption := by
  induction h with
  | refl => exact ⟨[], p, .refl, hp, rfl⟩
  | next _ hs ih =>
    obtain ⟨acts, p', hpath, hp', hacts⟩ := ih
    obtain ⟨a, q, hstep, hq, ha⟩ := hs.refines hp'
    subst ha
    refine ⟨a :: acts, q, .next hpath hstep, hq, ?_⟩
    rw [requests_cons, hacts]
    cases a.request? <;> simp

theorem RowStep.path_submission (h : Path (RowStep now) r labels r') :
    r'.toSubmission = r.toSubmission := by
  induction h with
  | refl => rfl
  | next _ hs ih => exact hs.submission.trans ih

/-- Along any stretch of a run a row keeps its submission and moves by the lifecycle, asked by
exactly the requests the store answered about it. -/
theorem path_lifecycle (hpath : StorePath sha256 s l s') (hr : s.executions.find? E = some r)
    (hp : Represents r p) :
    ∃ r' p' acts, s'.executions.find? E = some r' ∧ r'.toSubmission = r.toSubmission ∧
      Represents r' p' ∧ Path (Step Outcome.Void) p acts p' ∧
      requests acts = l.filterMap (Event.request? E) := by
  induction hpath with
  | refl => exact ⟨r, p, [], hr, rfl, hp, .refl, rfl⟩
  | @next l t e _ _ hs ih =>
    obtain ⟨q, p', acts, hq, hsub, hp', hacts, hrequests⟩ := ih
    obtain ⟨r', labels, hr', hrow, hlabels⟩ := store_row hs hq
    obtain ⟨acts', p'', hacts', hp'', hrequests'⟩ := RowStep.path_refines hrow hp'
    refine ⟨r', p'', acts' ++ acts, hr', (RowStep.path_submission hrow).trans hsub, hp'',
      hacts.trans hacts', ?_⟩
    rw [requests_append, hrequests', hlabels, hrequests, List.filterMap_cons]
    cases e.request? E <;> rfl

theorem run_requests (hrun : StoreRun sha256 h s) (E : String) :
    (s.executions.find? E = none ∧ h.filterMap (Event.request? E) = []) ∨
      ∃ r p acts, s.executions.find? E = some r ∧ Represents r p ∧
        Path (Step Outcome.Void) .queued acts p ∧
        requests acts = h.filterMap (Event.request? E) := by
  induction hrun with
  | start hinit =>
    subst hinit
    exact .inl ⟨rfl, rfl⟩
  | next _ hs ih =>
    obtain ⟨hnone, hrequests⟩ | ⟨r, p, acts, hr, hp, hacts, hrequests⟩ := ih
    · obtain ⟨hrequest, hnone' | ⟨request, manifest, fp, _, hr'⟩⟩ := store_absent hs hnone
      · exact .inl ⟨hnone', by rw [List.filterMap_cons, hrequest, hrequests]⟩
      · refine .inr ⟨_, .queued, [], hr', submittedRow_represents _ _ _ _ _, .refl, ?_⟩
        rw [List.filterMap_cons, hrequest, hrequests]
        rfl
    · obtain ⟨r', p', acts', hr', _, hp', hacts', hrequests'⟩ :=
        path_lifecycle (Path.single hs) hr hp
      refine .inr ⟨r', p', acts' ++ acts, hr', hp', hacts.trans hacts', ?_⟩
      rw [requests_append, hrequests', hrequests, ← List.filterMap_append]
      rfl

/-- Every row of a reachable store went through the lifecycle, asked by exactly the requests
the store answered about it. -/
theorem run_lifecycle (hrun : StoreRun sha256 h s) (hr : s.executions.find? E = some r) :
    ∃ p acts, Represents r p ∧ Path (Step Outcome.Void) .queued acts p ∧
      requests acts = h.filterMap (Event.request? E) := by
  obtain ⟨hnone, _⟩ | ⟨r', p, acts, hr', hp, hacts, hrequests⟩ := run_requests hrun E
  · cases hnone.symm.trans hr
  · cases Option.some.inj (hr'.symm.trans hr)
    exact ⟨p, acts, hp, hacts, hrequests⟩

end

end BrunostJudge
