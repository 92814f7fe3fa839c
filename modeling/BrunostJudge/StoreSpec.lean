import BrunostJudge.StoreRun
import BrunostJudge.Raising

namespace BrunostJudge
open Python Relational Transition
set_option autoImplicit true

namespace JudgeStore
variable {s s' : JudgeStore} {now lease : Instant} {sha256 : ByteArray → String}

/-- The row an idempotency key already has. -/
def keyed? (s : JudgeStore) (key : String) : Option Execution :=
  s.executions.rows.find? fun r => r.idempotencyKey = key

theorem submit_ok (h : s.submit sha256 now E request = .ok (reply, s')) :
    ∃ fp task, requestFingerprint sha256 request = .ok fp ∧
      s.tasks.find? request.taskRef = some task ∧
      ((∃ r, s.keyed? request.idempotencyKey = some r ∧
          (r.requestFingerprint = "" ∨ r.requestFingerprint = fp) ∧
          reply = result r ∧ s' = s) ∨
        (s.keyed? request.idempotencyKey = none ∧
          ∃ t, s.executions.insert? (submittedRow request task.manifest E fp now) = some t ∧
            reply = result (submittedRow request task.manifest E fp now) ∧
            s' = { s with executions := t })) := by
  obtain ⟨fp, hfp, h⟩ := bind_ok.1 h
  cases htask : s.tasks.find? request.taskRef with
  | none => simp [htask, throw_ok] at h
  | some task =>
    refine ⟨fp, task, hfp, rfl, ?_⟩
    simp only [htask] at h
    cases hkey : s.executions.rows.find? fun r => r.idempotencyKey = request.idempotencyKey with
    | some r =>
      simp only [hkey] at h
      split at h
      · simp [throw_ok] at h
      · rename_i hfree
        obtain ⟨hreply, hs⟩ := Prod.mk.inj (pure_ok.1 h)
        exact .inl ⟨r, hkey, by tauto, hreply.symm, hs.symm⟩
    | none =>
      simp only [hkey] at h
      obtain ⟨_, _, h⟩ := bind_ok.1 h
      cases ht : s.executions.insert? (submittedRow request task.manifest E fp now) with
      | none => simp [ht, throw_ok] at h
      | some t =>
        simp only [ht] at h
        obtain ⟨hreply, hs⟩ := Prod.mk.inj (pure_ok.1 h)
        exact .inr ⟨hkey, t, rfl, hreply.symm, hs.symm⟩

theorem scan_eq_findM? {rows : List (Execution × TaskRecord)} (h : rows.length < offset + fuel) :
    scan available rows fuel offset = (rows.drop offset).findM? (compatible available) := by
  induction fuel generalizing offset with
  | zero =>
    have hnil : rows.drop offset = [] := List.drop_eq_nil_of_le (by omega)
    rw [hnil]
    rfl
  | succ fuel ih =>
    rw [scan]
    by_cases hoff : rows.length ≤ offset
    · have hnil : rows.drop offset = [] := List.drop_eq_nil_of_le hoff
      simp [hnil]
    · have hpage : ((rows.drop offset).take pageSize).length ≠ 0 := by
        simp [pageSize]
        omega
      have hne : ((rows.drop offset).take pageSize).isEmpty = false := by
        simpa [List.isEmpty_iff, ← List.length_eq_zero_iff] using hpage
      have hsplit := List.take_append_drop pageSize (rows.drop offset)
      have hrest : (rows.drop offset).drop pageSize =
          rows.drop (offset + ((rows.drop offset).take pageSize).length) := by
        by_cases hlong : pageSize ≤ (rows.drop offset).length
        · rw [List.length_take, Nat.min_eq_left hlong, List.drop_drop]
        · have hlast : ((rows.drop offset).take pageSize).length = rows.length - offset := by
            rw [List.length_take, List.length_drop] at *
            omega
          rw [hlast, List.drop_eq_nil_of_le (by omega), List.drop_eq_nil_of_le (by omega)]
      conv_rhs => rw [← hsplit, findM?_append, hrest]
      simp only [hne, Bool.false_eq_true, ↓reduceIte]
      rw [ih (by omega)]
      congr
      funext found
      cases found <;> rfl

theorem mem_candidates {r : Execution} {task : TaskRecord} :
    (r, task) ∈ s.candidates queues resourceClasses ↔
      r ∈ s.executions.rows ∧ selectable queues resourceClasses r ∧
        s.tasks.find? r.taskRef = some task := by
  simp only [candidates, List.mem_insertionSort, List.mem_filterMap, List.mem_filter,
    Option.map_eq_some_iff, Prod.mk.injEq]
  constructor
  · rintro ⟨q, ⟨hq, hsel⟩, t, ht, rfl, rfl⟩
    exact ⟨hq, hsel, ht⟩
  · rintro ⟨hr, hsel, ht⟩
    exact ⟨r, ⟨hr, hsel⟩, task, ht, rfl, rfl⟩

theorem selectable_iff : selectable queues resourceClasses r = true ↔
    r.status = .queued ∧ r.cancelRequested = false ∧ inFilter queues r.queue ∧
      inFilter resourceClasses r.resourceClass := by
  simp [selectable, and_assoc]

/-- The store and the reply after a candidate is claimed. -/
def claimStore (s : JudgeStore) (now lease : Instant) (workerId : String) (row : Execution) :
    JudgeStore :=
  { s with
    executions := s.executions.update (fun r => decide (r.executionId = row.executionId))
      (claimed now lease workerId) (claimed_key now lease workerId) }

def claimReply (now lease : Instant) (worker : String) (request : ClaimRequest) (row : Execution)
    (task : TaskRecord) : Claim where
  execution := result (claimed now lease worker row)
  task := task
  context := {
    callbackUrl := row.callbackUrl
    callbackToken := row.callbackToken
    submissionPath := row.submissionPath
    queue := row.queue
    resourceClass := row.resourceClass
    leaseSeconds := max 1 request.leaseSeconds }

theorem bindStr_ok : bindStr text = .ok stored ↔ text = PyStr.ofString stored := by
  rw [bindStr]
  constructor
  · intro h
    split at h
    · next hencoded =>
      cases h
      exact (PyStr.ofString_of_encode? hencoded).symm
    · cases h
  · rintro rfl
    rw [PyStr.encode?_ofString]

theorem bindFilters_ok : bindFilters parameterLimit request = .ok () ↔
    request.filters.length + 2 ≤ parameterLimit ∧
      ∀ text ∈ request.filters, text.encode?.isSome := by
  rw [bindFilters]
  split
  · next hmany => simp [Nat.not_le.2 hmany]
  · next hfew => simp [Nat.not_lt.1 hfew, Option.isSome_iff_ne_none]

theorem claimNext_eq (s : JudgeStore) (parameterLimit : Nat) (now : Instant)
    (request : ClaimRequest) :
    s.claimNext parameterLimit now request = (do
      bindFilters parameterLimit request
      let found ← ((s.expireLeases now).candidates request.queues request.resourceClasses).findM?
        (compatible (request.capabilities.getD []))
      match found with
      | none => pure (none, s.expireLeases now)
      | some (row, task) =>
        let lease ← now.addSeconds (max 1 request.leaseSeconds)
        let worker ← bindStr request.workerId
        pure (some (claimReply now lease worker request row task),
          (s.expireLeases now).claimStore now lease worker row)) := by
  simp only [claimNext]
  rw [scan_eq_findM? (by omega), List.drop_zero]
  rfl

theorem claimNext_ok (h : s.claimNext parameterLimit now request = .ok (reply, s')) :
    (reply = none ∧ s' = s.expireLeases now) ∨
      ∃ row task lease worker,
        (row, task) ∈ (s.expireLeases now).candidates request.queues request.resourceClasses ∧
        compatible (request.capabilities.getD []) (row, task) = .ok true ∧
        now.addSeconds (max 1 request.leaseSeconds) = .ok lease ∧
        request.workerId = PyStr.ofString worker ∧
        reply = some (claimReply now lease worker request row task) ∧
        s' = (s.expireLeases now).claimStore now lease worker row := by
  rw [claimNext_eq] at h
  obtain ⟨_, _, h⟩ := bind_ok.1 h
  obtain ⟨found, hfound, h⟩ := bind_ok.1 h
  cases found with
  | none =>
    obtain ⟨hreply, hs⟩ := Prod.mk.inj (pure_ok.1 h)
    exact .inl ⟨hreply.symm, hs.symm⟩
  | some c =>
    obtain ⟨row, task⟩ := c
    obtain ⟨hmem, hcompatible⟩ := findM?_some hfound
    obtain ⟨lease, hlease, h⟩ := bind_ok.1 h
    obtain ⟨worker, hworker, h⟩ := bind_ok.1 h
    obtain ⟨hreply, hs⟩ := Prod.mk.inj (pure_ok.1 h)
    exact .inr ⟨row, task, lease, worker, hmem, hcompatible, hlease, bindStr_ok.1 hworker,
      hreply.symm, hs.symm⟩

/-- The store after a worker's result is accepted. -/
def finishStore (s : JudgeStore) (now : Instant) (workerId : String) (status : Status)
    (columns : ResultColumns) (existing : Execution) : JudgeStore :=
  { s with
    executions := s.executions.update (heldBy now existing.executionId workerId)
      (finished now status columns) (finished_key now status columns)
    callbackDeliveries := notifyTerminal s.callbackDeliveries existing.toSubmission now }

theorem among_terminal {value : Json}
    (h : Status.among (Status.all.filter Status.terminal) value = .ok (some status)) :
    status.terminal ∧ value = .text status.text := by
  simp only [Status.among] at h
  split at h
  · have hfind := Except.ok.inj h
    have hmem := List.mem_of_find?_eq_some hfind
    have htext := List.find?_some hfind
    exact ⟨(List.mem_filter.1 hmem).2, by simpa using (of_decide_eq_true htext).symm⟩
  · cases h

theorem heldBy_key (h : heldBy now E w r = true) : r.executionId = E := by
  simp only [heldBy, Bool.and_eq_true, decide_eq_true_eq] at h
  exact h.1

theorem heldBy_iff (hr : r.executionId = E) :
    heldBy now E w r = true ↔
      r.workerId = some w ∧ r.status = .running ∧ ∃ l, r.leaseExpiresAt = some l ∧ now ≤ l := by
  simp [heldBy, hr, Option.any_eq_true, and_assoc]

theorem count_heldBy (s : JudgeStore) (now : Instant) (E w : String) (p : Execution → Bool) :
    s.executions.count (fun r => heldBy now E w r && p r) =
      if (s.executions.find? E).any fun r => heldBy now E w r && p r then 1 else 0 := by
  have hk := s.executions.count_key E fun r => heldBy now E w r && p r
  have heq : (fun r => decide (Keyed.key r = E) && (heldBy now E w r && p r)) =
      fun r => heldBy now E w r && p r := by
    funext r
    by_cases hr : r.executionId = E <;> simp [Keyed.key, heldBy, hr]
  rw [heq] at hk
  exact hk

theorem finish_ok (h : s.finish room now E res w = .ok (reply, s')) :
    strip w ≠ "" ∧ ((reply = none ∧ s' = s) ∨
      ∃ status columns r,
        Status.among (Status.all.filter Status.terminal) res.status = .ok (some status) ∧
        s.executions.find? E = some r ∧
        validateFinishResult room E r.taskRef res = .ok () ∧
        bindResult room.encoder res = .ok columns ∧
        heldBy now E w r ∧
        reply = some (result (finished now status columns r)) ∧
        s' = s.finishStore now w status columns r) := by
  rw [finish] at h
  obtain ⟨hw, h⟩ := guard_ok.1 h
  refine ⟨hw, ?_⟩
  obtain ⟨status?, hstatus, h⟩ := bind_ok.1 h
  cases status? with
  | none => exact (throw_ok.1 h).elim
  | some status =>
    cases hr : s.executions.find? E with
    | none =>
      simp only [hr] at h
      obtain ⟨hreply, hs⟩ := Prod.mk.inj (pure_ok.1 h)
      exact .inl ⟨hreply.symm, hs.symm⟩
    | some r =>
      simp only [hr] at h
      obtain ⟨_, hvalid, h⟩ := bind_ok.1 h
      obtain ⟨columns, hcolumns, h⟩ := bind_ok.1 h
      have hcount := count_heldBy s now E w fun _ => true
      simp only [Bool.and_true, hr, Option.any_some] at hcount
      by_cases hheld : heldBy now E w r = true
      · have hkey := heldBy_key hheld
        rw [if_pos (by simp [hcount, hheld])] at h
        obtain ⟨hreply, hs⟩ := Prod.mk.inj (pure_ok.1 h)
        refine .inr ⟨status, columns, r, hstatus, rfl, hvalid, hcolumns, hheld, ?_, ?_⟩
        · rw [← hreply]
          simp [getExecution, hr, hheld]
        · rw [← hs, finishStore, hkey]
      · rw [if_neg (by simp [hcount, hheld])] at h
        obtain ⟨hreply, hs⟩ := Prod.mk.inj (pure_ok.1 h)
        exact .inl ⟨hreply.symm, hs.symm⟩

theorem finishStore_row (status : Status) (columns : ResultColumns)
    (hr : s.executions.find? E = some r) (hheld : heldBy now E w r) :
    (s.finishStore now w status columns r).executions.find? E =
      some (finished now status columns r) := by
  have hkey := heldBy_key hheld
  rw [finishStore, Table.find?_update, hr]
  simp [hkey, hheld]

theorem finish_accepts (hw : strip w ≠ "")
    (hstatus : Status.among (Status.all.filter Status.terminal) res.status = .ok (some status))
    (hr : s.executions.find? E = some r)
    (hvalid : validateFinishResult room E r.taskRef res = .ok ())
    (hcolumns : bindResult room.encoder res = .ok columns) (hheld : heldBy now E w r) :
    s.finish room now E res w = .ok (some (result (finished now status columns r)),
      s.finishStore now w status columns r) := by
  have hkey := heldBy_key hheld
  have hcount := count_heldBy s now E w fun _ => true
  simp only [Bool.and_true, hr, Option.any_some, hheld, if_true] at hcount
  have hget : (s.finishStore now w status columns r).getExecution E =
      some (result (finished now status columns r)) := by
    rw [getExecution, finishStore_row status columns hr hheld]
    rfl
  rw [← hget, finishStore, hkey]
  rw [finish, if_neg hw, hstatus]
  simp only [hr, hvalid, hcolumns, hcount, if_true, Except.bind, bind]
  rfl

theorem renewLease_ok (h : s.renewLease now E w seconds = .ok (renewed?, s')) :
    ∃ lease, now.addSeconds (max 1 seconds) = .ok lease ∧
      renewed? = (s.executions.find? E).any (fun r => heldBy now E w r && !r.cancelRequested) ∧
      s' = { s with
        executions := s.executions.update (fun r => heldBy now E w r && !r.cancelRequested)
          (renewed now lease) (renewed_key now lease) } := by
  obtain ⟨lease, hlease, h⟩ := bind_ok.1 h
  obtain ⟨hflag, hs⟩ := Prod.mk.inj (pure_ok.1 h)
  refine ⟨lease, hlease, ?_, hs.symm⟩
  rw [← hflag, count_heldBy s now E w]
  split <;> simp_all

theorem cancel_eq (s : JudgeStore) (now : Instant) (E : String) :
    (s.executions.find? E = none ∧ s.cancel now E = (none, s)) ∨
      ∃ r, s.executions.find? E = some r ∧
        s.cancel now E = (some (result (cancelRow now r)), { s with
          executions := s.executions.update (fun r => decide (r.executionId = E))
            (cancelRow now) (cancelRow_key now)
          callbackDeliveries := if r.status = .queued then
            notifyTerminal s.callbackDeliveries r.toSubmission now else
            s.callbackDeliveries }) := by
  cases hr : s.executions.find? E with
  | none => exact .inl ⟨rfl, by simp [cancel, hr]⟩
  | some r =>
    have hkey : r.executionId = E := Table.key_of_find? hr
    exact .inr ⟨r, rfl, by simp [cancel, getExecution, hr, hkey]⟩

/-- The outbox entry of an execution after it is notified. -/
def notifiedEntry (r : Submission) (now : Instant) (entry : Option CallbackDelivery) :
    Option CallbackDelivery :=
  match r.callback? with
  | some url => some ((entry.map fun c => if c.deliveredAt = none then
      { c with callbackUrl := url, callbackToken := r.callbackToken } else c).getD
        (.fresh r.executionId url r.callbackToken now))
  | none => entry

theorem notifyTerminal_find? (table : Table CallbackDelivery) (r : Submission) (now : Instant)
    (E : String) :
    (notifyTerminal table r now).find? E =
      if r.executionId = E then notifiedEntry r now (table.find? E) else table.find? E := by
  rw [notifyTerminal, notifiedEntry]
  cases r.callback? with
  | none => simp
  | some url =>
    simp only [upsertPending]
    rw [Table.find?_upsert]
    rfl

theorem foldl_notifyTerminal_absent {rows : List Execution} (table : Table CallbackDelivery)
    (h : ∀ r ∈ rows, r.executionId ≠ E) :
    (rows.foldl (fun t r => notifyTerminal t r.toSubmission now) table).find? E =
      table.find? E := by
  induction rows generalizing table with
  | nil => rfl
  | cons r rows ih =>
    rw [List.foldl_cons, ih _ fun r hr => h r (List.mem_cons_of_mem _ hr), notifyTerminal_find?,
      if_neg (h r List.mem_cons_self)]

theorem foldl_notifyTerminal_mem {rows : List Execution} (table : Table CallbackDelivery)
    (hdistinct : (rows.map fun r => r.executionId).Nodup) (hr : r ∈ rows) :
    (rows.foldl (fun t r => notifyTerminal t r.toSubmission now) table).find? r.executionId =
      notifiedEntry r.toSubmission now (table.find? r.executionId) := by
  induction rows generalizing table with
  | nil => cases hr
  | cons q rows ih =>
    obtain ⟨hq, hrows⟩ := List.nodup_cons.1 hdistinct
    rw [List.foldl_cons]
    rcases List.mem_cons.1 hr with heq | hmem
    · subst heq
      have habsent : ∀ q ∈ rows, q.executionId ≠ r.executionId := by
        intro q hmem heq
        exact hq (List.mem_map.2 ⟨q, hmem, heq⟩)
      rw [foldl_notifyTerminal_absent _ habsent, notifyTerminal_find?, if_pos rfl]
    · have hne : q.executionId ≠ r.executionId := by
        intro heq
        exact hq (List.mem_map.2 ⟨r, hmem, heq.symm⟩)
      rw [ih _ hrows hmem, notifyTerminal_find?, if_neg hne]

end JudgeStore

end BrunostJudge
