import BrunostJudge.PostgresClaims
import BrunostJudge.PyCollections
import BrunostJudge.StoreSpec

namespace BrunostJudge
open Python Relational Transition JudgeStore
set_option autoImplicit true

instance : Std.Total claimOrder where
  total a b := by
    rcases lt_trichotomy a.1.priority b.1.priority with hlt | heq | hgt
    · exact .inr (.inl hlt)
    · rcases lt_trichotomy a.1.createdAt b.1.createdAt with hlt | heq' | hgt
      · exact .inl (.inr ⟨heq.symm, .inl hlt⟩)
      · rcases String.le_total a.1.executionId b.1.executionId with hle | hle
        · exact .inl (.inr ⟨heq.symm, .inr ⟨heq', hle⟩⟩)
        · exact .inr (.inr ⟨heq, .inr ⟨heq'.symm, hle⟩⟩)
      · exact .inr (.inr ⟨heq, .inl hgt⟩)
    · exact .inl (.inl hgt)

instance : IsTrans (Execution × TaskRecord) claimOrder where
  trans a b c hab hbc := by
    rcases hab with hab | ⟨hp, hab⟩
    · rcases hbc with hbc | ⟨hp', _⟩
      · exact .inl (hbc.trans hab)
      · exact .inl (hp' ▸ hab)
    · rcases hbc with hbc | ⟨hp', hbc⟩
      · exact .inl (hp ▸ hbc)
      · refine .inr ⟨hp'.trans hp, ?_⟩
        rcases hab with hab | ⟨hc, hab⟩
        · rcases hbc with hbc | ⟨hc', _⟩
          · exact .inl (hab.trans hbc)
          · exact .inl (hc' ▸ hab)
        · rcases hbc with hbc | ⟨hc', hbc⟩
          · exact .inl (hc ▸ hbc)
          · exact .inr ⟨hc.trans hc', String.le_trans hab hbc⟩

theorem claimOrder_antisymm (hab : claimOrder a b) (hba : claimOrder b a) :
    a.1.executionId = b.1.executionId := by
  rcases hab with hab | ⟨hp, hab⟩
  · rcases hba with hba | ⟨hp', _⟩
    · exact absurd hab hba.asymm
    · exact absurd hab (hp' ▸ lt_irrefl _)
  · rcases hba with hba | ⟨_, hba⟩
    · exact absurd hba (hp ▸ lt_irrefl _)
    · rcases hab with hab | ⟨hc, hab⟩
      · rcases hba with hba | ⟨hc', _⟩
        · exact absurd hab hba.asymm
        · exact absurd hab (hc' ▸ lt_irrefl _)
      · rcases hba with hba | ⟨_, hba⟩
        · exact absurd hba (hc ▸ lt_irrefl _)
        · exact String.le_antisymm hab hba

/-- The capabilities a manifest or the metadata of an execution requires: none, or strings. -/
def ListsCapabilities (d : Dict) : Prop :=
  d.get "required_capabilities" = .null ∨
    ∃ items : List PyStr, d.get "required_capabilities" = .arr (items.map .str)

theorem ListsCapabilities.setElements {d : Dict} (h : ListsCapabilities d) :
    (d.get "required_capabilities").setElements =
      .ok (PostgresJudgeStore.Serial.jsonbItems (d.get "required_capabilities")) := by
  rcases h with hnull | ⟨items, hitems⟩
  · rw [hnull]
    rfl
  · rw [hitems]
    apply setElements_arr
    intro x hx
    obtain ⟨t, _, ht⟩ := List.mem_map.1 hx
    rw [← ht]
    rfl

/-- The containment of `jsonb` arrays decides what the scan of the other store decides. -/
theorem compatible_eq {c : Execution × TaskRecord} (hmanifest : ListsCapabilities c.2.manifest)
    (hmetadata : ListsCapabilities c.1.metadataJson) (available : List PyStr) :
    compatible available c =
      .ok (PostgresJudgeStore.Serial.capable (sortedTexts available) c) := by
  have hsorted : ∀ x : Json, (sortedTexts available).any (fun a => x = .str a) =
      available.any fun a => x = .str a := by
    intro x
    rw [Bool.eq_iff_iff]
    simp only [List.any_eq_true, mem_sortedTexts]
  rw [compatible, requiredCapabilities, hmanifest.setElements, hmetadata.setElements]
  simp only [PostgresJudgeStore.Serial.capable, PostgresJudgeStore.Serial.jsonbContains, hsorted]
  rfl

section
variable {s t : JudgeStore} {now : Instant} {request : ClaimRequest}

theorem expireLeases_postgres (s : JudgeStore) (now : Instant) :
    PostgresJudgeStore.Serial.expireLeases s now = s.expireLeases now := by
  have habandoned : PostgresJudgeStore.Serial.leaseAbandoned now =
      fun r => leaseOver now r && r.cancelRequested := by
    funext r
    rw [PostgresJudgeStore.Serial.leaseAbandoned, leaseOver, Bool.and_right_comm]
  have hexecutions : ((s.executions.update (PostgresJudgeStore.Serial.leaseAbandoned now)
      (PostgresJudgeStore.Serial.abandoned now)
        (PostgresJudgeStore.Serial.abandoned_key now)).update
      (leaseOver now) (giveBack now) (giveBack_key now)) =
      s.executions.update (leaseOver now) (giveBack now) (giveBack_key now) := by
    apply Table.ext_rows
    simp only [Table.update, List.map_map]
    apply List.map_congr_left
    intro r _
    rw [Function.comp_apply, habandoned]
    cases hover : leaseOver now r with
    | false => simp [hover]
    | true =>
      cases hcancel : r.cancelRequested with
      | false => simp [hover, hcancel]
      | true =>
        have hnot : leaseOver now (PostgresJudgeStore.Serial.abandoned now r) = false := rfl
        simp only [hover, hcancel, Bool.and_self, if_true, hnot, Bool.false_eq_true, if_false]
        simp [PostgresJudgeStore.Serial.abandoned, giveBack, hcancel]
  rw [PostgresJudgeStore.Serial.expireLeases, JudgeStore.expireLeases, hexecutions, habandoned,
    List.foldl_map]
  rfl

/-- Executions in the queue order that come before and after each other are the same. -/
theorem joined_unique {l : List Execution} (hl : ∀ r ∈ l, r ∈ s.executions.rows)
    (ha : a ∈ l.filterMap fun r => (s.tasks.find? r.taskRef).map fun task => (r, task))
    (hb : b ∈ l.filterMap fun r => (s.tasks.find? r.taskRef).map fun task => (r, task))
    (hab : claimOrder a b) (hba : claimOrder b a) : a = b := by
  obtain ⟨r, hr, htask⟩ := List.mem_filterMap.1 ha
  obtain ⟨r', hr', htask'⟩ := List.mem_filterMap.1 hb
  obtain ⟨task, hfind, heq⟩ := Option.map_eq_some_iff.1 htask
  obtain ⟨task', hfind', heq'⟩ := Option.map_eq_some_iff.1 htask'
  have hkey : r.executionId = r'.executionId := by
    have hkey := claimOrder_antisymm hab hba
    rw [← heq, ← heq'] at hkey
    exact hkey
  have hrow : r = r' := by
    have hfound : s.executions.find? r.executionId = some r := Table.find?_mem (hl r hr)
    have hfound' : s.executions.find? r'.executionId = some r' := Table.find?_mem (hl r' hr')
    rw [hkey] at hfound
    exact Option.some.inj (hfound.symm.trans hfound')
  subst hrow
  cases hfind.symm.trans hfind'
  exact heq.symm.trans heq'

theorem nextCandidate_eq (s : JudgeStore) (request : ClaimRequest) (available : List PyStr) :
    PostgresJudgeStore.Serial.nextCandidate s request available =
      (s.candidates request.queues request.resourceClasses).find?
        (PostgresJudgeStore.Serial.capable available) := by
  have hjoined : (s.executions.rows.filterMap fun r =>
      (s.tasks.find? r.taskRef).map fun task => (r, task)).filter
        (fun c => selectable request.queues request.resourceClasses c.1) =
      (s.executions.rows.filter (selectable request.queues request.resourceClasses)).filterMap
        fun r => (s.tasks.find? r.taskRef).map fun task => (r, task) := by
    rw [List.filter_filterMap, List.filterMap_filter]
    apply List.filterMap_congr
    intro r _
    cases s.tasks.find? r.taskRef with
    | none => simp
    | some task =>
      cases hselectable : selectable request.queues request.resourceClasses r with
      | false => simp [hselectable]
      | true => simp [hselectable]
  have hsplit : (fun c : Execution × TaskRecord =>
      selectable request.queues request.resourceClasses c.1 &&
        PostgresJudgeStore.Serial.capable available c) = fun c =>
      PostgresJudgeStore.Serial.capable available c &&
        selectable request.queues request.resourceClasses c.1 := by
    funext c
    exact Bool.and_comm _ _
  rw [PostgresJudgeStore.Serial.nextCandidate, candidates]
  simp only [hsplit, ← List.filter_filter, hjoined]
  rw [orderBy_filter, List.head?_filter]
  intro a ha b hb
  exact joined_unique (fun r hr => (List.mem_filter.1 hr).1) ha hb

/-- A text that SQLite and PostgreSQL both take. -/
def CommonText (text : PyStr) : Prop := text.encodable = true ∧ 0 ∉ text

instance : DecidablePred CommonText := fun _ => inferInstanceAs (Decidable (_ ∧ _))

theorem CommonText.sendText (h : CommonText text) :
    PostgresJudgeStore.sendText text = bindStr text := by
  rw [PostgresJudgeStore.sendText, if_neg]
  rw [List.contains_iff_mem]
  exact h.2

theorem CommonText.cons_iff : CommonText (c :: text) ↔
    (c ≠ 0 ∧ c.isSurrogate = false) ∧ CommonText text := by
  rw [CommonText, CommonText, PyStr.encodable_cons, Bool.and_eq_true, Bool.not_eq_true',
    List.mem_cons, not_or, ne_comm]
  tauto

theorem isPair_eq (h : c.isSurrogate = false) (d : CodePoint) :
    PostgresJudgeStore.isPair c d = false := by
  rw [CodePoint.isSurrogate, Bool.and_eq_false_iff, decide_eq_false_iff_not,
    decide_eq_false_iff_not] at h
  rw [PostgresJudgeStore.isPair, Bool.and_eq_false_iff, Bool.and_eq_false_iff,
    decide_eq_false_iff_not, decide_eq_false_iff_not]
  omega

theorem CommonText.jsonbText (h : CommonText text) :
    PostgresJudgeStore.jsonbText text = .ok text := by
  induction text using PostgresJudgeStore.jsonbText.induct with
  | case1 => rfl
  | case2 c hrefused =>
    obtain ⟨⟨hzero, hsurrogate⟩, -⟩ := CommonText.cons_iff.1 h
    simp [hzero, hsurrogate] at hrefused
  | case3 c htaken =>
    rw [PostgresJudgeStore.jsonbText, if_neg htaken]
    rfl
  | case4 c d text hpair =>
    obtain ⟨⟨-, hsurrogate⟩, -⟩ := CommonText.cons_iff.1 h
    rw [isPair_eq hsurrogate] at hpair
    cases hpair
  | case5 c d text hpair hrefused =>
    obtain ⟨⟨hzero, hsurrogate⟩, -⟩ := CommonText.cons_iff.1 h
    simp [hzero, hsurrogate] at hrefused
  | case6 c d text hpair htaken ih =>
    obtain ⟨-, htext⟩ := CommonText.cons_iff.1 h
    rw [PostgresJudgeStore.jsonbText, if_neg hpair, if_neg htaken, ih htext]
    rfl

/-- The arguments of a claim that both stores can bind. -/
structure ClaimRequest.Bindable (parameterLimit : Nat) (request : ClaimRequest) : Prop where
  worker : CommonText request.workerId
  filters : ∀ text ∈ request.filters, CommonText text
  capabilities : ∀ text ∈ request.capabilities.getD [], CommonText text
  count : request.filters.length + 2 ≤ parameterLimit

theorem ClaimRequest.Bindable.bindFilters (h : request.Bindable parameterLimit) :
    JudgeStore.bindFilters parameterLimit request = .ok () :=
  bindFilters_ok.2 ⟨h.count, fun text htext =>
    (PyStr.encode?_isSome text).trans (h.filters text htext).1⟩

theorem ClaimRequest.Bindable.bindScan (h : request.Bindable parameterLimit) :
    PostgresJudgeStore.bindScan request = .ok (sortedTexts (request.capabilities.getD [])) := by
  have hfilters : ∃ sent, request.filters.mapM PostgresJudgeStore.sendText = .ok sent := by
    apply mapM_exists
    intro text htext
    have hcommon := h.filters text htext
    obtain ⟨sent, hsent⟩ := Option.isSome_iff_exists.1
      ((PyStr.encode?_isSome text).trans hcommon.1)
    exact ⟨sent, hcommon.sendText.trans (bindStr_ok.2 (PyStr.ofString_of_encode? hsent).symm)⟩
  obtain ⟨sent, hsent⟩ := hfilters
  rw [PostgresJudgeStore.bindScan, hsent, ok_bind]
  apply mapM_self
  intro text htext
  exact (h.capabilities text (mem_sortedTexts.1 htext)).jsonbText

/-- The stores agree on one database. -/
theorem claimNext_postgres (htasks : ∀ task ∈ s.tasks.rows, ListsCapabilities task.manifest)
    (hexecutions : ∀ r ∈ s.executions.rows, ListsCapabilities r.metadataJson) (now : Instant)
    (request : ClaimRequest) (hrequest : request.Bindable parameterLimit) :
    PostgresJudgeStore.Serial.claimNext s now request = s.claimNext parameterLimit now request := by
  have hscan : ((s.expireLeases now).candidates request.queues request.resourceClasses).findM?
      (compatible (request.capabilities.getD [])) =
      .ok (PostgresJudgeStore.Serial.nextCandidate (s.expireLeases now) request
        (sortedTexts (request.capabilities.getD []))) := by
    rw [nextCandidate_eq]
    apply findM?_pure
    rintro ⟨row, task⟩ hc
    obtain ⟨hrow, _, htask⟩ := mem_candidates.1 hc
    apply compatible_eq (htasks task (Table.mem_of_find? htask))
    obtain ⟨r, hr, hexpired⟩ := List.mem_map.1 hrow
    have hmetadata : row.metadataJson = r.metadataJson := by
      rw [← hexpired]
      split
      · rfl
      · rfl
    rw [hmetadata]
    exact hexecutions r hr
  obtain ⟨worker, hworker⟩ := Option.isSome_iff_exists.1
    ((PyStr.encode?_isSome request.workerId).trans hrequest.worker.1)
  have hbound : bindStr request.workerId = .ok worker :=
    bindStr_ok.2 (PyStr.ofString_of_encode? hworker).symm
  rw [claimNext_eq, hscan, PostgresJudgeStore.Serial.claimNext, expireLeases_postgres,
    hrequest.bindFilters, hrequest.bindScan, ok_bind, ok_bind, ok_bind]
  simp only [hrequest.worker.sendText, hbound]
  cases hnext : PostgresJudgeStore.Serial.nextCandidate (s.expireLeases now) request
      (sortedTexts (request.capabilities.getD [])) with
  | none => rfl
  | some c =>
    obtain ⟨row, task⟩ := c
    rw [nextCandidate_eq] at hnext
    obtain ⟨hrow, _, htask⟩ := mem_candidates.1 (List.mem_of_find?_eq_some hnext)
    cases hlease : now.addSeconds (max 1 request.leaseSeconds) with
    | error err => rfl
    | ok lease =>
      have hrow' : (s.expireLeases now).executions.find? row.executionId = some row :=
        Table.find?_mem hrow
      have hget : ((s.expireLeases now).claimStore now lease worker row).getExecution
          row.executionId = some (result (claimed now lease worker row)) := by
        rw [getExecution, claimStore, Table.find?_update, hrow']
        simp
      rw [claimStore] at hget
      simp only [Except.bind, bind, pure, Except.pure, htask, hget]
      rfl

/-- The databases hold the same tasks, executions and outbox entries, in whatever order. -/
structure SameRows (s t : JudgeStore) : Prop where
  tasks : ∀ taskRef, s.tasks.find? taskRef = t.tasks.find? taskRef
  executions : ∀ E, s.executions.find? E = t.executions.find? E
  callbackDeliveries : ∀ E, s.callbackDeliveries.find? E = t.callbackDeliveries.find? E

/-- Two calls return the same and leave the same rows, or raise the same exception. -/
inductive SameClaim : Except PyError (Option Claim × JudgeStore) →
    Except PyError (Option Claim × JudgeStore) → Prop
  | returned (reply) : SameRows u v → SameClaim (.ok (reply, u)) (.ok (reply, v))
  | raised (err) : SameClaim (.error err) (.error err)

theorem SameRows.expireLeases (h : SameRows s t) (now : Instant) :
    SameRows (s.expireLeases now) (t.expireLeases now) where
  tasks := h.tasks
  executions E := by
    rw [JudgeStore.expireLeases, JudgeStore.expireLeases, Table.find?_update, Table.find?_update,
      h.executions]
  callbackDeliveries E := by
    let expired (r : Execution) := leaseOver now r && r.cancelRequested
    have hperm : (s.executions.rows.filter expired).Perm (t.executions.rows.filter expired) :=
      (Table.rows_perm h.executions).filter _
    have hdistinct : ∀ u : JudgeStore,
        ((u.executions.rows.filter expired).map fun r => r.executionId).Nodup := by
      intro u
      exact u.executions.distinct.sublist (List.filter_sublist.map _)
    by_cases hexpired : ∃ r ∈ s.executions.rows.filter expired, r.executionId = E
    · obtain ⟨r, hr, hE⟩ := hexpired
      subst hE
      rw [JudgeStore.expireLeases, JudgeStore.expireLeases,
        foldl_notifyTerminal_mem _ (hdistinct s) hr,
        foldl_notifyTerminal_mem _ (hdistinct t) (hperm.mem_iff.1 hr), h.callbackDeliveries]
    · have habsent : ∀ r ∈ s.executions.rows.filter expired, r.executionId ≠ E :=
        fun r hr hE => hexpired ⟨r, hr, hE⟩
      rw [JudgeStore.expireLeases, JudgeStore.expireLeases, foldl_notifyTerminal_absent _ habsent,
        foldl_notifyTerminal_absent _ fun r hr => habsent r (hperm.mem_iff.2 hr),
        h.callbackDeliveries]

theorem SameRows.candidates (h : SameRows s t) (queues resourceClasses : Option (List PyStr)) :
    s.candidates queues resourceClasses = t.candidates queues resourceClasses := by
  have hjoin : (fun r : Execution => (s.tasks.find? r.taskRef).map fun task => (r, task)) =
      fun r : Execution => (t.tasks.find? r.taskRef).map fun task => (r, task) := by
    funext r
    rw [h.tasks]
  have hperm := ((Table.rows_perm h.executions).filter
    (selectable queues resourceClasses)).filterMap
      fun r : Execution => (s.tasks.find? r.taskRef).map fun task => (r, task)
  rw [JudgeStore.candidates, JudgeStore.candidates, ← hjoin]
  apply orderBy_perm hperm
  intro a ha b hb
  exact joined_unique (fun r hr => (List.mem_filter.1 hr).1) ha hb

theorem SameRows.claimNext (h : SameRows s t) (now : Instant) (request : ClaimRequest) :
    SameClaim (s.claimNext parameterLimit now request)
      (t.claimNext parameterLimit now request) := by
  have hexpired := h.expireLeases now
  rw [claimNext_eq, claimNext_eq, hexpired.candidates]
  cases JudgeStore.bindFilters parameterLimit request with
  | error err => exact .raised err
  | ok _ =>
    cases ((t.expireLeases now).candidates request.queues request.resourceClasses).findM?
      (compatible (request.capabilities.getD [])) with
    | error err => exact .raised err
    | ok found =>
      cases found with
      | none => exact .returned none hexpired
      | some c =>
        cases now.addSeconds (max 1 request.leaseSeconds) with
        | error err => exact .raised err
        | ok lease =>
          cases bindStr request.workerId with
          | error err => exact .raised err
          | ok worker =>
            apply SameClaim.returned
            refine ⟨hexpired.tasks, ?_, hexpired.callbackDeliveries⟩
            intro E
            rw [claimStore, claimStore, Table.find?_update, Table.find?_update, hexpired.executions]

/-- The stores claim the same execution, or none, and leave the same rows. -/
theorem stores_claim_alike (hsame : SameRows s t)
    (htasks : ∀ task ∈ s.tasks.rows, ListsCapabilities task.manifest)
    (hexecutions : ∀ r ∈ s.executions.rows, ListsCapabilities r.metadataJson) (now : Instant)
    (request : ClaimRequest) (hrequest : request.Bindable parameterLimit) :
    SameClaim (s.claimNext parameterLimit now request)
      (PostgresJudgeStore.Serial.claimNext t now request) := by
  rw [claimNext_postgres _ _ now request hrequest]
  · exact hsame.claimNext now request
  · intro task htask
    exact htasks task ((Table.rows_perm hsame.tasks).mem_iff.2 htask)
  · intro r hr
    exact hexecutions r ((Table.rows_perm hsame.executions).mem_iff.2 hr)

end

namespace Sample

/-- An execution of a task of the sample deployment, with what it requires of its worker. -/
def requiring (key : String) (priority : Int) (capabilities : List String) : ExecutionRequest :=
  { request with
    idempotencyKey := key
    priority := priority
    metadata := [("required_capabilities", .arr (capabilities.map Json.text))] }

/-- Four executions are queued. The worker `w0` claims the first two for ten seconds and is not
heard of again, and the first one is canceled. -/
def backlog : List (Instant × Op) :=
  [(clock 0, .registerTask task), (clock 1, .submit "e1" (requiring "key-1" 0 [])),
    (clock 2, .claimNext parameterLimit (claim "w0" 10)),
    (clock 3, .submit "e2" (requiring "key-2" 0 [])),
    (clock 4, .claimNext parameterLimit (claim "w0" 10)), (clock 5, .cancel "e1"),
    (clock 6, .submit "e3" (requiring "key-3" 9 ["cpu", "gpu"])),
    (clock 7, .submit "e4" (requiring "key-4" 5 ["cpu"]))]

/-- A worker that asks for what it can run. -/
def capableClaim : ClaimRequest where
  workerId := "w1"
  queues := some [PyStr.ofString "default", PyStr.ofString "training"]
  resourceClasses := none
  capabilities := some [PyStr.ofString "linux", PyStr.ofString "cpu"]
  leaseSeconds := 60

theorem backlog_lists :
    let s := (performAll sha256 .empty backlog).2
    (∀ task ∈ s.tasks.rows, ListsCapabilities task.manifest) ∧
      ∀ r ∈ s.executions.rows, ListsCapabilities r.metadataJson := by
  intro s
  have htasks : (s.tasks.rows.all fun task =>
      task.manifest.get "required_capabilities" = .null) = true := by decide +kernel
  have hexecutions : (s.executions.rows.all fun r =>
      [[], ["cpu", "gpu"], ["cpu"]].any fun items =>
        r.metadataJson.get "required_capabilities" = .arr (items.map Json.text)) = true := by
    decide +kernel
  constructor
  · intro task htask
    exact .inl (of_decide_eq_true (List.all_eq_true.1 htasks task htask))
  · intro r hr
    obtain ⟨items, _, hitems⟩ := List.any_eq_true.1 (List.all_eq_true.1 hexecutions r hr)
    refine .inr ⟨items.map PyStr.ofString, ?_⟩
    rw [of_decide_eq_true hitems, List.map_map]
    rfl

theorem capableClaim_bindable : capableClaim.Bindable parameterLimit where
  worker := by decide +kernel
  filters := by decide +kernel
  capabilities := by decide +kernel
  count := by decide

end Sample

/-- The first execution is canceled, the second requeued and the third out of reach; the fourth is
claimed. -/
theorem stores_claim_alike_sample :
    let s := (performAll Sample.sha256 .empty Sample.backlog).2
    let claimed := s.claimNext Sample.parameterLimit (Sample.clock 60) Sample.capableClaim
    SameClaim claimed (PostgresJudgeStore.Serial.claimNext s (Sample.clock 60)
      Sample.capableClaim) ∧
      (claimed.toOption.any fun p =>
        (p.1.any fun c => c.execution.executionId = "e4") &&
          (((p.2.executions.find? "e1").any fun r => r.status = .canceled) &&
          (((p.2.executions.find? "e2").any fun r => r.status = .queued) &&
          (p.2.callbackDeliveries.find? "e1").isSome))) = true := by
  intro s claimed
  constructor
  · exact stores_claim_alike ⟨fun _ => rfl, fun _ => rfl, fun _ => rfl⟩ Sample.backlog_lists.1
      Sample.backlog_lists.2 (Sample.clock 60) Sample.capableClaim Sample.capableClaim_bindable
  · decide +kernel

/-- A capability that PostgreSQL cannot read, and that SQLite never sees. -/
theorem stores_claim_unlike_sample :
    let s := (performAll Sample.sha256 .empty Sample.backlog).2
    let request := { Sample.capableClaim with capabilities := some ["cpu", [0]] }
    ((s.claimNext Sample.parameterLimit (Sample.clock 60) request).toOption.any fun p =>
        p.1.any fun c => c.execution.executionId = "e4") = true ∧
      PostgresJudgeStore.Serial.claimNext s (Sample.clock 60) request = .error .dataError := by
  intro s request
  have hscan : PostgresJudgeStore.bindScan request = .error .dataError := by decide +kernel
  constructor
  · decide +kernel
  · rw [PostgresJudgeStore.Serial.claimNext, hscan]
    rfl

end BrunostJudge
