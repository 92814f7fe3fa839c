import BrunostJudge.Claimability
import BrunostJudge.Nodes
import Mathlib.Data.List.Dedup

namespace BrunostJudge
open Python Relational Transition JudgeStore
set_option autoImplicit true

/-- The calls of a worker, and whatever happens meanwhile to anything but its registration. -/
inductive WorkerCall where
  | advertise
  | heartbeat
  | claim
  | elsewhere

inductive WorkerStep (workerId : String) (s : JudgeStore) : WorkerCall → JudgeStore → Prop
  | advertise {now capabilities reply s'} :
      advertiseWorkerCapabilities s now false workerId capabilities = .ok (reply, s') →
      WorkerStep workerId s .advertise s'
  | heartbeat {now status reply s'} : heartbeat s now workerId status = (reply, s') →
      WorkerStep workerId s .heartbeat s'
  | claim {parameterLimit now leaseSeconds reply s'} :
      claimWorker s parameterLimit now workerId leaseSeconds = .ok (reply, s') →
      WorkerStep workerId s .claim s'
  | elsewhere {s'} : s'.workers.find? workerId = s.workers.find? workerId →
      WorkerStep workerId s .elsewhere s'

/-- The execution that a claim hands out is one that the token grants. -/
def WithinGrant (grant : EnrollmentPayload) (s : JudgeStore) (claim : Claim) : Prop :=
  ∃ r required, s.executions.find? claim.execution.executionId = some r ∧
    s.tasks.find? r.taskRef = some claim.task ∧
    r.queue ∈ grant.grantedQueues ∧ r.resourceClass ∈ grant.approvedResourceClasses ∧
    requiredCapabilities claim.task.manifest r.metadataJson = .ok required ∧
    ∀ x ∈ required, ∃ a ∈ grant.capabilities, x = .text a

/-- Whatever happens later, the worker is handed out only what the token grants. -/
def Confined (grant : EnrollmentPayload) (s : JudgeStore) : Prop :=
  ∀ h t parameterLimit now leaseSeconds claim t', Path (WorkerStep grant.workerId) s h t →
    claimWorker t parameterLimit now grant.workerId leaseSeconds = .ok (some claim, t') →
    WithinGrant grant t claim

/-- A registration within a grant. -/
structure Granted (grant : EnrollmentPayload) (w : WorkerRecord) : Prop where
  queues : w.queues ⊆ grant.grantedQueues
  queues_ne : w.queues ≠ []
  resourceClasses : w.resourceClasses ⊆ grant.approvedResourceClasses
  resourceClasses_ne : w.resourceClasses ≠ []
  capabilities : w.capabilities ⊆ grant.capabilities
  approved : ∀ l, approvedCapabilities w = .ok l → ∀ x ∈ l, ∃ a ∈ grant.capabilities, x = .text a

section
variable {sha256 : ByteArray → String} {s s' t : JudgeStore} {now later : Instant}
  {grant : EnrollmentPayload} {w w' : WorkerRecord} {workerId : String}

theorem registerWorker_row (s : JudgeStore) (now : Instant) (hkey : w.workerId = workerId) :
    (s.registerWorker now w).workers.find? workerId = some (workerRow now w) := by
  subst hkey
  have hkey : Keyed.key (workerRow now w) = w.workerId := rfl
  rw [JudgeStore.registerWorker, Table.find?_upsert, if_pos hkey]
  cases hold : s.workers.find? w.workerId with
  | none => rfl
  | some old =>
    have hold : old.workerId = w.workerId := Table.key_of_find? hold
    rw [Option.map_some, Option.getD_some, hold]
    rfl

theorem createWorkerCredential_workers
    (h : s.createWorkerCredential sha256 workerId token = .ok s') : s'.workers = s.workers := by
  simp only [JudgeStore.createWorkerCredential] at h
  split at h
  · cases h
    rfl
  · cases h

theorem texts_setElements (items : List String) :
    (texts items).setElements = .ok (items.map Json.text) := by
  apply setElements_arr
  intro x hx
  obtain ⟨a, _, ha⟩ := List.mem_map.1 hx
  subst ha
  rfl

theorem granted_of_perm (hgranted : Granted grant w)
    (hqueues : w'.queues.Perm w.queues) (hclasses : w'.resourceClasses.Perm w.resourceClasses)
    (hcapabilities : w'.capabilities ⊆ grant.capabilities)
    (happroved : ∀ l, approvedCapabilities w' = .ok l →
      ∀ x ∈ l, ∃ a ∈ grant.capabilities, x = .text a) :
    Granted grant w' where
  queues _ hq := hgranted.queues (hqueues.mem_iff.1 hq)
  queues_ne hnil := by
    rw [hnil] at hqueues
    exact hgranted.queues_ne hqueues.nil_eq.symm
  resourceClasses _ hc := hgranted.resourceClasses (hclasses.mem_iff.1 hc)
  resourceClasses_ne hnil := by
    rw [hnil] at hclasses
    exact hgranted.resourceClasses_ne hclasses.nil_eq.symm
  capabilities := hcapabilities
  approved := happroved

theorem approvedCapabilities_granted (hgranted : Granted grant w)
    (hmetadata : Dict.get w'.metadata "enrollment_capabilities" =
      Dict.get w.metadata "enrollment_capabilities")
    (hcapabilities : w'.capabilities ⊆ grant.capabilities)
    (h : approvedCapabilities w' = .ok l) : ∀ x ∈ l, ∃ a ∈ grant.capabilities, x = .text a := by
  have hold := hgranted.approved l
  rw [approvedCapabilities] at h hold
  rw [hmetadata] at h
  split at h
  · next htruthy =>
    rw [if_pos htruthy] at hold
    exact hold h
  · cases h
    intro x hx
    obtain ⟨a, ha, hax⟩ := List.mem_map.1 hx
    exact ⟨a, hcapabilities ha, hax.symm⟩

theorem advertise_granted (hw : s.workers.find? workerId = some w) (hgranted : Granted grant w)
    (h : advertiseWorkerCapabilities s now false workerId capabilities = .ok (reply, s')) :
    ∃ w', s'.workers.find? workerId = some w' ∧ Granted grant w' := by
  have hkey : w.workerId = workerId := Table.key_of_find? hw
  simp only [advertiseWorkerCapabilities, getWorker, hw, Bool.not_false, if_true] at h
  obtain ⟨approved, happroved, h⟩ := bind_ok.1 h
  have happroved := unhandled_ok.1 happroved
  obtain ⟨hwithin, h⟩ := check_ok.1 h
  have hwithin := not_not.1 hwithin
  cases pure_ok.1 h
  have hcapabilities :
      (((capabilities.map strip).filter (· ≠ "")).eraseDups.insertionSort (· ≤ ·)) ⊆
      grant.capabilities := by
    intro x hx
    obtain ⟨a, ha, hxa⟩ := hgranted.approved approved happroved (.text x)
      (hwithin (List.mem_map.2 ⟨x, (List.mem_insertionSort _).1 hx, rfl⟩))
    exact Json.text_inj hxa ▸ ha
  refine ⟨_, registerWorker_row s now hkey, granted_of_perm hgranted ?_ ?_ hcapabilities ?_⟩
  · exact List.perm_insertionSort _ _
  · exact List.perm_insertionSort _ _
  · intro l hl
    exact approvedCapabilities_granted hgranted (Dict.get_set_text _ _ (by decide)) hcapabilities hl

theorem heartbeatWorker_row (s : JudgeStore) (now : Instant) (status : String)
    (hw : s.workers.find? workerId = some w) :
    (s.heartbeatWorker now workerId status).workers.find? workerId =
      some { w with status := status, lastSeen := some now } := by
  have hkey : w.workerId = workerId := Table.key_of_find? hw
  rw [JudgeStore.heartbeatWorker, Table.find?_update, hw, Option.map_some, if_pos]
  simp [hkey]

theorem heartbeat_granted (hw : s.workers.find? workerId = some w) (hgranted : Granted grant w)
    (now : Instant) (status : String) :
    ∃ w', (heartbeat s now workerId status).2.workers.find? workerId = some w' ∧
      Granted grant w' := by
  have hrow := heartbeatWorker_row s now status hw
  refine ⟨{ w with status := status, lastSeen := some now }, ?_, ?_⟩
  · rw [heartbeat]
    split
    · exact hrow
    · exact hrow
  · exact granted_of_perm hgranted (.refl _) (.refl _) hgranted.capabilities hgranted.approved

theorem claimWorker_ok
    (h : claimWorker s parameterLimit now workerId leaseSeconds = .ok (reply, s')) :
    ∃ w, s.workers.find? workerId = some w ∧
      ((reply = none ∧ s' = s) ∨
        s.claimNext parameterLimit now (w.claim workerId leaseSeconds) = .ok (reply, s')) := by
  rw [claimWorker] at h
  cases hw : s.getWorker workerId with
  | none =>
    rw [hw] at h
    exact (abort_ok.1 h).elim
  | some w =>
    simp only [hw] at h
    refine ⟨w, hw, ?_⟩
    split at h
    · obtain ⟨hreply, hs⟩ := Prod.mk.inj (pure_ok.1 h)
      exact .inl ⟨hreply.symm, hs.symm⟩
    · exact .inr (unhandled_ok.1 h)

theorem claimWorker_workers
    (h : claimWorker s parameterLimit now workerId leaseSeconds = .ok (reply, s')) :
    s'.workers = s.workers := by
  obtain ⟨_, _, ⟨_, hs⟩ | hclaim⟩ := claimWorker_ok h
  · rw [hs]
  · obtain ⟨_, hs⟩ | ⟨_, _, _, _, _, _, _, _, _, hs⟩ := claimNext_ok hclaim
    · rw [hs]
      rfl
    · rw [hs]
      rfl

theorem workerStep_granted (hs : WorkerStep workerId s e s')
    (h : ∃ w, s.workers.find? workerId = some w ∧ Granted grant w) :
    ∃ w, s'.workers.find? workerId = some w ∧ Granted grant w := by
  obtain ⟨w, hw, hgranted⟩ := h
  cases hs with
  | advertise hadvertise =>
    obtain ⟨w', hw', hgranted'⟩ := advertise_granted hw hgranted hadvertise
    exact ⟨w', hw', hgranted'⟩
  | heartbeat hbeat =>
    obtain ⟨w', hw', hgranted'⟩ := heartbeat_granted hw hgranted _ _
    rw [hbeat] at hw'
    exact ⟨w', hw', hgranted'⟩
  | claim hclaim => exact ⟨w, claimWorker_workers hclaim ▸ hw, hgranted⟩
  | elsewhere hsame => exact ⟨w, hsame.trans hw, hgranted⟩

theorem mem_texts {items : List String} : PyStr.ofString x ∈ items.map PyStr.ofString ↔
    x ∈ items := by
  constructor
  · intro h
    obtain ⟨y, hy, heq⟩ := List.mem_map.1 h
    exact PyStr.ofString_inj.1 heq ▸ hy
  · exact List.mem_map_of_mem

theorem inFilter_some {items : List String} (hne : items ≠ [])
    (h : inFilter (some (items.map PyStr.ofString)) x) : x ∈ items := by
  cases items with
  | nil => exact absurd rfl hne
  | cons a items => exact mem_texts.1 (List.contains_iff_mem.1 h)

theorem claim_withinGrant (hw : s.workers.find? workerId = some w) (hgranted : Granted grant w)
    (h : claimWorker s parameterLimit now workerId leaseSeconds = .ok (some claim, s')) :
    WithinGrant grant s claim := by
  obtain ⟨_, hw', ⟨hreply, _⟩ | hclaim⟩ := claimWorker_ok h
  · cases hreply
  · cases Option.some.inj (hw'.symm.trans hw)
    obtain ⟨hreply, _⟩ | ⟨row, task, lease, worker, hmem, hcompatible, _, _, hreply, _⟩ :=
      claimNext_ok hclaim
    · cases hreply
    · cases hreply
      obtain ⟨hrow, hselectable, htask⟩ := mem_candidates.1 hmem
      obtain ⟨_, _, hqueue, hclass⟩ := selectable_iff.1 hselectable
      have hrow := Table.find?_mem hrow
      rw [expireLeases, Table.find?_update] at hrow
      obtain ⟨r, hr, hrow⟩ := Option.map_eq_some_iff.1 hrow
      have hsub : row.toSubmission = r.toSubmission := by
        rw [← hrow]
        split
        · rfl
        · rfl
      obtain ⟨required, hrequired, hall⟩ := bind_ok.1 hcompatible
      have hall := pure_ok.1 hall
      rw [hsub] at hqueue hclass htask hrequired
      refine ⟨r, required, hr, htask, hgranted.queues (inFilter_some hgranted.queues_ne hqueue),
        hgranted.resourceClasses (inFilter_some hgranted.resourceClasses_ne hclass), hrequired, ?_⟩
      intro x hx
      obtain ⟨text, htext, hx⟩ := List.any_eq_true.1 (List.all_eq_true.1 hall x hx)
      obtain ⟨a, ha, heq⟩ := List.mem_map.1 htext
      rw [← heq] at hx
      exact ⟨a, hgranted.capabilities ha, of_decide_eq_true hx⟩

theorem granted_confined (h : ∃ w, s.workers.find? grant.workerId = some w ∧ Granted grant w) :
    Confined grant s := by
  intro l t parameterLimit now leaseSeconds claim t' hpath hclaim
  obtain ⟨w, hw, hgranted⟩ := hpath.preserves h fun _ _ _ h hs => workerStep_granted hs h
  exact claim_withinGrant hw hgranted hclaim

theorem checkEnrollment_ok (h : checkEnrollment sha256 s now request = .ok grant) :
    s.getEnrollmentToken sha256 now request.joinToken = some grant ∧
      request.capabilities.getD [] ⊆ grant.capabilities ∧
      request.resourceClasses.getD [] ⊆ grant.approvedResourceClasses := by
  rw [checkEnrollment] at h
  cases hgrant : s.getEnrollmentToken sha256 now request.joinToken with
  | none =>
    rw [hgrant] at h
    exact (abort_ok.1 h).elim
  | some grant =>
    rw [hgrant] at h
    obtain ⟨hcapabilities, h⟩ := check_ok.1 h
    obtain ⟨hclasses, h⟩ := check_ok.1 h
    cases pure_ok.1 h
    exact ⟨rfl, not_not.1 hcapabilities, not_not.1 hclasses⟩

theorem consumeEnrollmentToken_ok (hgrant : s.getEnrollmentToken sha256 now token = some grant)
    (h : s.consumeEnrollmentToken sha256 later token = (some consumed, s')) :
    consumed = grant := by
  rw [JudgeStore.getEnrollmentToken] at hgrant
  rw [JudgeStore.consumeEnrollmentToken] at h
  cases ht : s.unusedToken (digestSecret sha256 token) with
  | none =>
    rw [ht] at hgrant
    cases hgrant
  | some t =>
    simp only [ht] at hgrant h
    split at hgrant
    · cases hgrant
    · split at h
      · cases (Prod.mk.inj h).1
      · cases hgrant
        exact (Option.some.inj (Prod.mk.inj h).1).symm

/-- An accepted enrollment registers the worker that its token and its request make. -/
theorem enrollNode_ok (h : enrollNode sha256 s now later workerToken request = (.ok node, s')) :
    ∃ grant, s.getEnrollmentToken sha256 now request.joinToken = some grant ∧
      request.capabilities.getD [] ⊆ grant.capabilities ∧
      request.resourceClasses.getD [] ⊆ grant.approvedResourceClasses ∧
      s'.workers.find? grant.workerId =
        some (workerRow later (enrolledWorker grant grant request)) := by
  rw [enrollNode] at h
  split at h
  · cases (Prod.mk.inj h).1
  · next grant hcheck =>
    obtain ⟨hgrant, hcapabilities, hclasses⟩ := checkEnrollment_ok hcheck
    refine ⟨grant, hgrant, hcapabilities, hclasses, ?_⟩
    split at h
    · cases (Prod.mk.inj h).1
    · next consumed store hconsumed =>
      cases consumeEnrollmentToken_ok hgrant hconsumed
      simp only at h
      split at h
      · cases (Prod.mk.inj h).1
      · next hcredential =>
        rw [← (Prod.mk.inj h).2, createWorkerCredential_workers hcredential]
        exact registerWorker_row store later rfl

theorem enrolledMetadata_approved (payload consumed : EnrollmentPayload)
    (request : NodeEnrollment) :
    (enrolledMetadata payload consumed request).get "enrollment_capabilities" =
      texts (sortedSet payload.capabilities) :=
  Dict.get_set_self _ _ _

theorem grantedQueues_ne (p : EnrollmentPayload) : p.grantedQueues ≠ [] := by
  rw [EnrollmentPayload.grantedQueues]
  split
  · exact List.cons_ne_nil _ _
  · assumption

theorem approvedResourceClasses_ne (p : EnrollmentPayload) : p.approvedResourceClasses ≠ [] := by
  rw [EnrollmentPayload.approvedResourceClasses]
  split
  · exact List.cons_ne_nil _ _
  · assumption

/-- What an enrollment registers is within its token, unless the node reports that it has no
resource class. -/
theorem enrolled_granted (hcapabilities : request.capabilities.getD [] ⊆ grant.capabilities)
    (hclasses : request.resourceClasses.getD [] ⊆ grant.approvedResourceClasses)
    (hreported : request.resourceClasses ≠ some []) (later : Instant) :
    Granted grant (workerRow later (enrolledWorker grant grant request)) := by
  have hown : (workerRow later (enrolledWorker grant grant request)).capabilities ⊆
      grant.capabilities := by
    intro x hx
    have hx := mem_sortedSet.1 ((List.mem_insertionSort _).1 hx)
    cases hreport : request.capabilities with
    | none =>
      rw [hreport] at hx
      exact hx
    | some reported =>
      rw [hreport] at hx hcapabilities
      exact hcapabilities hx
  refine ⟨?_, ?_, ?_, ?_, hown, ?_⟩
  · intro x hx
    exact (List.mem_insertionSort _).1 hx
  · intro hnil
    have hperm := List.perm_insertionSort (· ≤ ·) grant.grantedQueues
    exact grantedQueues_ne grant (List.perm_nil.1 (hnil ▸ hperm.symm))
  · intro x hx
    have hx := mem_sortedSet.1 ((List.mem_insertionSort _).1 hx)
    cases hreport : request.resourceClasses with
    | none =>
      rw [hreport] at hx
      exact hx
    | some reported =>
      rw [hreport] at hx hclasses
      exact hclasses hx
  · intro hnil
    have hmem : ∃ x, x ∈ request.resourceClasses.getD grant.approvedResourceClasses := by
      apply List.exists_mem_of_ne_nil
      cases hreport : request.resourceClasses with
      | none => exact approvedResourceClasses_ne grant
      | some reported =>
        intro he
        exact hreported (hreport.trans (congrArg some he))
    obtain ⟨x, hx⟩ := hmem
    have hrow : x ∈ (workerRow later (enrolledWorker grant grant request)).resourceClasses :=
      (List.mem_insertionSort _).2 (mem_sortedSet.2 hx)
    rw [hnil] at hrow
    cases hrow
  · intro l hl x hx
    have hmetadata : (workerRow later (enrolledWorker grant grant request)).metadata.get
        "enrollment_capabilities" = texts (sortedSet grant.capabilities) :=
      enrolledMetadata_approved grant grant request
    rw [approvedCapabilities, hmetadata, texts_setElements] at hl
    split at hl
    · cases hl
      obtain ⟨a, ha, hxa⟩ := List.mem_map.1 hx
      exact ⟨a, mem_sortedSet.1 ha, hxa.symm⟩
    · cases hl
      obtain ⟨a, ha, hxa⟩ := List.mem_map.1 hx
      exact ⟨a, hown ha, hxa.symm⟩

theorem exists_fresh (l : List String) : ∃ x : String, x ∉ l := by
  refine ⟨String.ofList ('x' :: (l.map String.toList).flatten), ?_⟩
  intro hmem
  have hsub : (String.ofList ('x' :: (l.map String.toList).flatten)).toList.Sublist
      (l.map String.toList).flatten :=
    List.sublist_flatten_of_mem (List.mem_map_of_mem hmem)
  have hlength := hsub.length_le
  rw [String.toList_ofList, List.length_cons] at hlength
  omega

def requestFor (queue resourceClass : String) : ExecutionRequest :=
  ⟨"task", "", "", none, none, [], queue, resourceClass, 0, none⟩

/-- A queued execution of a task that requires nothing. -/
def queuedFor (queue resourceClass : String) : Execution :=
  submittedRow (requestFor queue resourceClass) [] "execution" "" 0

/-- The store with nothing to do but that execution. -/
def awaiting (s : JudgeStore) (queue resourceClass : String) : JudgeStore :=
  { s with
    tasks := ⟨[⟨"task", "", "", []⟩], List.nodup_singleton _⟩
    executions := ⟨[queuedFor queue resourceClass], List.nodup_singleton _⟩ }

theorem queuedFor_requires (manifest : Dict) (hmanifest : manifest = [])
    (queue resourceClass : String) :
    requiredCapabilities manifest (queuedFor queue resourceClass).metadataJson = .ok [] := by
  have hown := submittedMetadata_requirements (requestFor queue resourceClass) [] "execution"
  rw [requiredCapabilities, queuedFor, submittedRow, hown, hmanifest]
  rfl

theorem awaiting_readable (s : JudgeStore) (queue resourceClass : String) :
    AllReadable (awaiting s queue resourceClass) := by
  intro E r hr
  cases List.mem_singleton.1 (Table.mem_of_find? hr)
  exact ⟨_, [], rfl, queuedFor_requires _ rfl queue resourceClass⟩

theorem unclassed_claims (hw : s.workers.find? workerId = some w)
    (hclasses : w.resourceClasses = []) (hqueue : queue ∈ w.queues)
    (hready : w.status = "ready") (hdraining : w.draining = false) (resourceClass : String) :
    ∃ claim t, claimWorker (awaiting s queue resourceClass) (w.queues.length + 2) 0 workerId 300 =
      .ok (some claim, t) := by
  have hw' : (awaiting s queue resourceClass).getWorker workerId = some w := hw
  have hinqueue : inFilter (some (w.queues.map PyStr.ofString)) queue := by
    cases hqueues : w.queues with
    | nil => rfl
    | cons a items => exact List.contains_iff_mem.2 (mem_texts.2 (hqueues ▸ hqueue))
  have hfilters : (w.claim workerId 300).filters = w.queues.map PyStr.ofString := by
    rw [ClaimRequest.filters, WorkerRecord.claim, hclasses]
    exact List.append_nil _
  have hbound : bindFilters (w.queues.length + 2) (w.claim workerId 300) = .ok () := by
    rw [bindFilters_ok, hfilters, List.length_map]
    refine ⟨Nat.le_refl _, ?_⟩
    intro text htext
    obtain ⟨q, _, hq⟩ := List.mem_map.1 htext
    rw [← hq, PyStr.encode?_ofString]
    rfl
  have hlease : (0 : Instant).addSeconds (max 1 300) = .ok 300000000 := by decide
  obtain ⟨reply, t, hclaim, hclaimed⟩ := claimNext_readable
    (awaiting_readable s queue resourceClass) (w.claim workerId 300) hbound rfl hlease
  have hsome : reply.isSome := by
    apply hclaimed
    refine ⟨(queuedFor queue resourceClass, ⟨"task", "", "", []⟩),
      mem_candidates.2 ⟨?_, ?_, rfl⟩, ?_⟩
    · exact List.mem_singleton_self _
    · have hinclass : inFilter (some (w.resourceClasses.map PyStr.ofString)) resourceClass := by
        rw [hclasses]
        rfl
      exact selectable_iff.2 ⟨rfl, rfl, hinqueue, hinclass⟩
    · rw [compatible, queuedFor_requires _ rfl]
      rfl
  obtain ⟨claim, hreply⟩ := Option.isSome_iff_exists.1 hsome
  subst hreply
  refine ⟨claim, t, ?_⟩
  rw [claimWorker, hw']
  have hfree : ¬(w.draining ∨ w.status = "offline") := by simp [hdraining, hready]
  simp only [if_neg hfree, hclaim]
  rfl

/-- A worker stays within its token from an enrollment on, unless the node reported that it has
no resource class: then nothing confines the classes it is handed out. -/
theorem enrollment_confined_iff
    (h : enrollNode sha256 s now later workerToken request = (.ok node, s'))
    (hgrant : s.getEnrollmentToken sha256 now request.joinToken = some grant) :
    Confined grant s' ↔ request.resourceClasses ≠ some [] := by
  obtain ⟨grant', hgrant', hcapabilities, hclasses, hrow⟩ := enrollNode_ok h
  cases Option.some.inj (hgrant'.symm.trans hgrant)
  constructor
  · intro hconfined hreported
    obtain ⟨resourceClass, hfresh⟩ := exists_fresh grant.approvedResourceClasses
    obtain ⟨queue, hqueue⟩ := List.exists_mem_of_ne_nil _ (grantedQueues_ne grant)
    have hnone : (workerRow later (enrolledWorker grant grant request)).resourceClasses = [] := by
      rw [workerRow, enrolledWorker, hreported]
      rfl
    obtain ⟨claim, t, hclaim⟩ := unclassed_claims hrow hnone
      ((List.mem_insertionSort _).2 hqueue) rfl rfl resourceClass
    have helsewhere : WorkerStep grant.workerId s' .elsewhere (awaiting s' queue resourceClass) :=
      .elsewhere rfl
    obtain ⟨r, _, hr, _, _, hclass, _⟩ :=
      hconfined _ _ _ _ _ _ _ (Path.single helsewhere) hclaim
    cases List.mem_singleton.1 (Table.mem_of_find? hr)
    exact hfresh hclass
  · intro hreported
    exact granted_confined ⟨_, hrow, enrolled_granted hcapabilities hclasses hreported later⟩

end

namespace Sample

def grant : EnrollmentPayload :=
  ⟨"n1", "w1", "worker", ["runtime:local"], ["default"], ["cpu"], none, []⟩

def joinToken : String := "join-token-of-node-n1"

/-- A token is issued for the node, and an execution is queued that needs a GPU. -/
def invited : JudgeStore :=
  (performAll sha256 .empty [
    (clock 0, .createEnrollmentToken "t1" (digestSecret sha256 joinToken) grant (clock 900)),
    (clock 1, .registerTask task),
    (clock 2, .submit "e7" { request with resourceClass := "gpu" })]).2

def enrollment (resourceClasses : Option (List String)) : NodeEnrollment :=
  ⟨joinToken, none, some [], resourceClasses, []⟩

def enrolled (resourceClasses : Option (List String)) : Except Failure EnrolledNode × JudgeStore :=
  enrollNode sha256 invited (clock 10) (clock 11) "worker-token" (enrollment resourceClasses)

end Sample

theorem eq_pair {p : α × β} {a : α} (h : p.1 = a) : p = (a, p.2) := by
  rw [← h]

theorem enrollment_confined_iff_sample : Confined Sample.grant (Sample.enrolled none).2 := by
  have hok : (Sample.enrolled none).1.isOk = true := by decide +kernel
  have hgrant : Sample.invited.getEnrollmentToken Sample.sha256 (Sample.clock 10)
      Sample.joinToken = some Sample.grant := by decide +kernel
  obtain ⟨node, hnode⟩ := isOk_iff.1 hok
  have h : enrollNode Sample.sha256 Sample.invited (Sample.clock 10) (Sample.clock 11)
      "worker-token" (Sample.enrollment none) = (.ok node, (Sample.enrolled none).2) :=
    eq_pair hnode
  have hreported : (Sample.enrollment none).resourceClasses ≠ some [] := by decide
  exact (enrollment_confined_iff h hgrant).2 hreported

/-- A node that reports that it has no resource class is handed out the execution for a GPU. -/
theorem enrollment_unconfined_sample : (Sample.enrolled (some [])).1.isOk ∧
    "gpu" ∉ Sample.grant.approvedResourceClasses ∧ ∃ claim t,
      claimWorker (Sample.enrolled (some [])).2 Sample.parameterLimit (Sample.clock 20) "w1" 300 =
        .ok (some claim, t) ∧
      claim.context.resourceClass = "gpu" := by
  refine ⟨by decide +kernel, by decide, ?_⟩
  have hclaim : (claimWorker (Sample.enrolled (some [])).2 Sample.parameterLimit (Sample.clock 20)
      "w1" 300).toOption.any (fun p => p.1.any fun claim => claim.context.resourceClass = "gpu") =
        true := by
    decide +kernel
  obtain ⟨⟨reply, t⟩, hreply, hany⟩ := (Option.any_eq_true _ _).1 hclaim
  obtain ⟨claim, hsome, hclass⟩ := (Option.any_eq_true _ _).1 hany
  cases hsome
  exact ⟨claim, t, toOption_eq_some.1 hreply, of_decide_eq_true hclass⟩

end BrunostJudge
