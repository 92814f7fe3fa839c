import BrunostJudge.Backends

namespace BrunostJudge
open Python Relational Transition JudgeStore
set_option autoImplicit true

/-- The capabilities that a manifest or the metadata of an execution lists. -/
def listedCapabilities (d : Dict) : List Json :=
  match d.get "required_capabilities" with
  | .arr items => items
  | _ => []

/-- A queued execution that a worker may take, and its task. -/
structure Eligible (s : JudgeStore) (request : ClaimRequest) (r : Execution) (t : TaskRecord) :
    Prop where
  stored : r ∈ s.executions.rows
  queued : r.status = .queued
  wanted : r.cancelRequested = false
  queue : inFilter request.queues r.queue = true
  resourceClass : inFilter request.resourceClasses r.resourceClass = true
  task : s.tasks.find? r.taskRef = some t
  capable : ∀ c ∈ listedCapabilities t.manifest ++ listedCapabilities r.metadataJson,
    ∃ a ∈ request.capabilities.getD [], c = .str a

section
variable {s : JudgeStore} {now : Instant} {request : ClaimRequest}

theorem capable_iff (available : List PyStr) (c : Execution × TaskRecord) :
    PostgresJudgeStore.Serial.capable (sortedTexts available) c = true ↔
      ∀ x ∈ listedCapabilities c.2.manifest ++ listedCapabilities c.1.metadataJson,
        ∃ a ∈ available, x = .str a := by
  have hitems : ∀ d : Dict, PostgresJudgeStore.Serial.jsonbItems (d.get "required_capabilities") =
      listedCapabilities d := by
    intro d
    rw [listedCapabilities]
    cases d.get "required_capabilities" with
    | arr items => rfl
    | _ => rfl
  rw [PostgresJudgeStore.Serial.capable, PostgresJudgeStore.Serial.jsonbContains, hitems, hitems]
  simp only [List.all_eq_true, List.any_eq_true, mem_sortedTexts, decide_eq_true_eq]

theorem eligible_iff :
    (r, t) ∈ s.candidates request.queues request.resourceClasses ∧
        PostgresJudgeStore.Serial.capable (sortedTexts (request.capabilities.getD [])) (r, t) =
          true ↔
      Eligible s request r t := by
  rw [mem_candidates, selectable_iff, capable_iff]
  constructor
  · rintro ⟨⟨hstored, ⟨hqueued, hwanted, hqueue, hclass⟩, htask⟩, hcapable⟩
    exact ⟨hstored, hqueued, hwanted, hqueue, hclass, htask, hcapable⟩
  · intro h
    exact ⟨⟨h.stored, ⟨h.queued, h.wanted, h.queue, h.resourceClass⟩, h.task⟩, h.capable⟩

/-- What the scan finds, page after page, is the first eligible execution of the whole queue. -/
theorem scan_least (s : JudgeStore) (request : ClaimRequest)
    (htasks : ∀ task ∈ s.tasks.rows, ListsCapabilities task.manifest)
    (hexecutions : ∀ r ∈ s.executions.rows, ListsCapabilities r.metadataJson) :
    (s.candidates request.queues request.resourceClasses).findM?
        (compatible (request.capabilities.getD [])) = .ok none ∧
      (∀ r t, ¬Eligible s request r t) ∨
    ∃ r t, (s.candidates request.queues request.resourceClasses).findM?
        (compatible (request.capabilities.getD [])) = .ok (some (r, t)) ∧
      Eligible s request r t ∧ ∀ r' t', Eligible s request r' t' → claimOrder (r, t) (r', t') := by
  have hscan : (s.candidates request.queues request.resourceClasses).findM?
      (compatible (request.capabilities.getD [])) =
      .ok ((s.candidates request.queues request.resourceClasses).find?
        (PostgresJudgeStore.Serial.capable (sortedTexts (request.capabilities.getD [])))) := by
    apply findM?_pure
    rintro ⟨r, t⟩ hc
    obtain ⟨hrow, -, htask⟩ := mem_candidates.1 hc
    exact compatible_eq (htasks t (Table.mem_of_find? htask)) (hexecutions r hrow) _
  rw [hscan]
  cases hfind : (s.candidates request.queues request.resourceClasses).find?
      (PostgresJudgeStore.Serial.capable (sortedTexts (request.capabilities.getD []))) with
  | none =>
    refine .inl ⟨rfl, fun r t h => ?_⟩
    obtain ⟨hmem, hcapable⟩ := eligible_iff.2 h
    exact List.find?_eq_none.1 hfind (r, t) hmem hcapable
  | some c =>
    obtain ⟨r, t⟩ := c
    refine .inr ⟨r, t, rfl, ?_, fun r' t' h => ?_⟩
    · exact eligible_iff.1 ⟨List.mem_of_find?_eq_some hfind, List.find?_some hfind⟩
    · obtain ⟨hmem, hcapable⟩ := eligible_iff.2 h
      exact orderBy_find? hfind ((List.perm_insertionSort claimOrder _).mem_iff.1 hmem) hcapable

/-- What a claim answers and what it leaves behind. -/
inductive Claimed (s : JudgeStore) (parameterLimit : Nat) (now : Instant) (request : ClaimRequest) :
    Except PyError (Option Claim × JudgeStore) → Prop
  /-- There is nothing to take. -/
  | nothing : bindFilters parameterLimit request = .ok () →
      (∀ r t, ¬Eligible (s.expireLeases now) request r t) →
      Claimed s parameterLimit now request (.ok (none, s.expireLeases now))
  /-- The least of the eligible executions is taken, and no other row changes. -/
  | taken (r t lease worker s') : bindFilters parameterLimit request = .ok () →
      Eligible (s.expireLeases now) request r t →
      (∀ r' t', Eligible (s.expireLeases now) request r' t' → claimOrder (r, t) (r', t')) →
      now.addSeconds (max 1 request.leaseSeconds) = .ok lease →
      request.workerId = PyStr.ofString worker →
      s' = { s.expireLeases now with executions := s'.executions } →
      s'.executions.find? r.executionId = some (claimed now lease worker r) →
      (∀ E, E ≠ r.executionId →
        s'.executions.find? E = (s.expireLeases now).executions.find? E) →
      Claimed s parameterLimit now request
        (.ok (some (claimReply now lease worker request r t), s'))
  /-- There is something to take, but the lease would end after the last instant. -/
  | overflow (r t) : bindFilters parameterLimit request = .ok () →
      Eligible (s.expireLeases now) request r t →
      now.addSeconds (max 1 request.leaseSeconds) = .error .overflowError →
      Claimed s parameterLimit now request (.error .overflowError)
  /-- There is something to take, but the name of the worker has no encoding. -/
  | unnamed (r t lease) : bindFilters parameterLimit request = .ok () →
      Eligible (s.expireLeases now) request r t →
      now.addSeconds (max 1 request.leaseSeconds) = .ok lease → request.workerId.encode? = none →
      Claimed s parameterLimit now request (.error .unicodeEncodeError)
  /-- The filters are more than one statement takes. -/
  | crowded : parameterLimit < request.filters.length + 2 →
      Claimed s parameterLimit now request
        (.error (.operationalError ("too many SQL variables" : String)))
  /-- A filter has no encoding. -/
  | unbound (text) : request.filters.length + 2 ≤ parameterLimit → text ∈ request.filters →
      text.encode? = none → Claimed s parameterLimit now request (.error .unicodeEncodeError)

/-- The rows of a store after expired leases have been given back: nothing else changes. -/
theorem expireLeases_find? (s : JudgeStore) (now : Instant) (E : String) :
    (s.expireLeases now).executions.find? E =
      (s.executions.find? E).map fun r => if leaseOver now r then giveBack now r else r := by
  rw [expireLeases, Table.find?_update]

theorem addSeconds_error {now : Instant} (h : now.addSeconds seconds = .error err) :
    err = .overflowError := by
  rw [Instant.addSeconds] at h
  split at h
  · cases h
  · cases h
    rfl

/-- A claim gives the expired leases back and takes the first eligible execution of the whole
queue, whatever its length. -/
theorem claimNext_least (htasks : ∀ task ∈ s.tasks.rows, ListsCapabilities task.manifest)
    (hexecutions : ∀ r ∈ s.executions.rows, ListsCapabilities r.metadataJson)
    (parameterLimit : Nat) (now : Instant) (request : ClaimRequest) :
    Claimed s parameterLimit now request (s.claimNext parameterLimit now request) ∧
      ∀ E, (s.expireLeases now).executions.find? E =
        (s.executions.find? E).map fun r => if leaseOver now r then giveBack now r else r := by
  refine ⟨?_, expireLeases_find? s now⟩
  have hexpired : ∀ r ∈ (s.expireLeases now).executions.rows, ListsCapabilities r.metadataJson := by
    intro r hr
    obtain ⟨q, hq, rfl⟩ := List.mem_map.1 hr
    split
    · exact hexecutions q hq
    · exact hexecutions q hq
  rw [claimNext_eq]
  by_cases hcount : parameterLimit < request.filters.length + 2
  · rw [bindFilters, if_pos hcount]
    exact .crowded hcount
  by_cases htexts : ∀ text ∈ request.filters, text.encode?.isSome
  case neg =>
    obtain ⟨text, htext, hnone⟩ : ∃ text ∈ request.filters, text.encode? = none := by
      simpa using htexts
    have hunbound : bindFilters parameterLimit request = .error .unicodeEncodeError := by
      rw [bindFilters, if_neg hcount, if_neg]
      rw [List.all_eq_true]
      exact htexts
    rw [hunbound]
    exact .unbound text (Nat.not_lt.1 hcount) htext hnone
  have hfilters := bindFilters_ok.2 ⟨Nat.not_lt.1 hcount, htexts⟩
  rw [hfilters, ok_bind]
  obtain ⟨hscan, hnone⟩ | ⟨r, t, hscan, heligible, hleast⟩ :=
    scan_least (s.expireLeases now) request htasks hexpired
  · rw [hscan]
    exact .nothing hfilters hnone
  · rw [hscan, ok_bind]
    cases hlease : now.addSeconds (max 1 request.leaseSeconds) with
    | error err =>
      obtain rfl := addSeconds_error hlease
      exact .overflow r t hfilters heligible hlease
    | ok lease =>
      cases hworker : request.workerId.encode? with
      | none =>
        have hunnamed : bindStr request.workerId = .error .unicodeEncodeError := by
          rw [bindStr, hworker]
        dsimp only
        rw [ok_bind, hunnamed]
        exact .unnamed r t lease hfilters heligible hlease hworker
      | some worker =>
        have hnamed := (PyStr.ofString_of_encode? hworker).symm
        dsimp only
        rw [ok_bind, bindStr_ok.2 hnamed, ok_bind]
        apply Claimed.taken r t lease worker _ hfilters heligible hleast hlease hnamed rfl
        · have hfound : (s.expireLeases now).executions.find? r.executionId = some r :=
            Table.find?_mem heligible.stored
          rw [claimStore, Table.find?_update, hfound, Option.map_some, if_pos (decide_eq_true rfl)]
        · intro E hE
          rw [claimStore, Table.find?_update]
          cases hrow : (s.expireLeases now).executions.find? E with
          | none => rfl
          | some q =>
            have hkey : q.executionId = E := Table.key_of_find? hrow
            rw [Option.map_some, if_neg]
            rw [decide_eq_true_eq, hkey]
            exact hE

end

/-- The first in the order lacks a capability, and the row that an expired lease gave back comes
last. -/
theorem claimNext_least_sample :
    let s := (performAll Sample.sha256 .empty Sample.backlog).2
    let claimed := s.claimNext Sample.parameterLimit (Sample.clock 60) Sample.capableClaim
    Claimed s Sample.parameterLimit (Sample.clock 60) Sample.capableClaim claimed ∧
      (claimed.toOption.any fun p =>
        (p.1.any fun c => c.execution.executionId = "e4") &&
          (((p.2.executions.find? "e1").any fun r => r.status = .canceled) &&
          ((p.2.executions.find? "e2").any fun r => r.status = .queued))) = true := by
  intro s claimed
  exact ⟨(claimNext_least Sample.backlog_lists.1 Sample.backlog_lists.2 Sample.parameterLimit
    (Sample.clock 60) Sample.capableClaim).1, by decide +kernel⟩

/-- A lease of 32 million years: a queued execution is there for the worker, and is not claimed. -/
theorem claimNext_overflow_sample :
    let s := (performAll Sample.sha256 .empty Sample.queued).2
    (s.claimNext Sample.parameterLimit (Sample.clock 2) (Sample.claim "w1" 1000000000000000)).isOk =
        false ∧
      ((s.claimNext Sample.parameterLimit (Sample.clock 2) (Sample.claim "w1" 60)).toOption.any
        fun p => p.1.isSome) = true := by
  intro s
  exact ⟨by decide +kernel, by decide +kernel⟩

end BrunostJudge
