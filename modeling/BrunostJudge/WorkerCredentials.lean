import BrunostJudge.StoreSpec

namespace BrunostJudge
open Python Relational Transition JudgeStore
set_option autoImplicit true

/-- What an event makes of the credential of a worker: a new token, or none. -/
def Event.credential (workerId : String) : Event → Option (Option String)
  | ⟨_, .createWorkerCredential w token, .ok _⟩ => if w = workerId then some (some token) else none
  | ⟨_, .revokeWorkerCredential w, .ok (.flag true)⟩ => if w = workerId then some none else none
  | _ => none

section
variable {sha256 : ByteArray → String} {s s' : JudgeStore}

theorem expireLeases_workerCredentials (now : Instant) :
    (s.expireLeases now).workerCredentials = s.workerCredentials := rfl

theorem run_workerCredentials (h : Op.run sha256 now s op = .ok (reply, s')) :
    (∃ w token, op = .createWorkerCredential w token) ∨ (∃ w, op = .revokeWorkerCredential w) ∨
      (s'.workerCredentials = s.workerCredentials ∧
        ∀ w, Event.credential w ⟨now, op, .ok reply⟩ = none) := by
  cases op with
  | createWorkerCredential w token => exact .inl ⟨w, token, rfl⟩
  | revokeWorkerCredential w => exact .inr (.inl ⟨w, rfl⟩)
  | registerTask task =>
    refine .inr (.inr ⟨?_, fun _ => rfl⟩)
    obtain ⟨⟨_, _⟩, hp, he⟩ := map_ok.1 h
    cases he
    rw [JudgeStore.registerTask] at hp
    split at hp
    · split at hp
      · cases hp
        rfl
      · cases hp
    · split at hp
      · cases hp
        rfl
      · cases hp
  | registerDefinition definition =>
    refine .inr (.inr ⟨?_, fun _ => rfl⟩)
    obtain ⟨⟨_, _⟩, hp, he⟩ := map_ok.1 h
    cases he
    rw [JudgeStore.registerDefinition] at hp
    split at hp
    · split at hp
      · cases hp
        rfl
      · cases hp
    · split at hp
      · cases hp
        rfl
      · cases hp
  | registerWorker | heartbeatWorker | drainWorker | markCallbackDelivered |
      markCallbackDeliveredByOwner =>
    cases h
    exact .inr (.inr ⟨rfl, fun _ => rfl⟩)
  | createEnrollmentToken =>
    refine .inr (.inr ⟨?_, fun _ => rfl⟩)
    obtain ⟨_, hp, he⟩ := map_ok.1 h
    cases he
    rw [JudgeStore.createEnrollmentToken] at hp
    split at hp
    · cases hp
    · split at hp
      · cases hp
        rfl
      · cases hp
  | consumeEnrollmentToken =>
    cases h
    refine .inr (.inr ⟨?_, fun _ => rfl⟩)
    rw [JudgeStore.consumeEnrollmentToken]
    split
    · split <;> rfl
    · rfl
  | submit E request =>
    refine .inr (.inr ⟨?_, fun _ => rfl⟩)
    obtain ⟨⟨_, _⟩, hp, he⟩ := map_ok.1 h
    cases he
    obtain ⟨_, _, _, _, ⟨_, _, _, _, hs⟩ | ⟨_, _, _, _, hs⟩⟩ := submit_ok hp
    · rw [hs]
    · rw [hs]
  | claimNext _ request =>
    refine .inr (.inr ⟨?_, fun _ => rfl⟩)
    obtain ⟨⟨_, _⟩, hp, he⟩ := map_ok.1 h
    cases he
    obtain ⟨_, hs⟩ | ⟨_, _, _, _, _, _, _, _, _, hs⟩ := claimNext_ok hp
    · rw [hs, expireLeases_workerCredentials]
    · rw [hs]
      rfl
  | finish _ E result w =>
    refine .inr (.inr ⟨?_, fun _ => rfl⟩)
    obtain ⟨⟨_, _⟩, hp, he⟩ := map_ok.1 h
    cases he
    obtain ⟨_, ⟨_, hs⟩ | ⟨_, _, _, _, _, _, _, _, _, hs⟩⟩ := finish_ok hp
    · rw [hs]
    · rw [hs]
      rfl
  | renewLease E w seconds =>
    refine .inr (.inr ⟨?_, fun _ => rfl⟩)
    obtain ⟨⟨_, _⟩, hp, he⟩ := map_ok.1 h
    cases he
    obtain ⟨_, _, _, hs⟩ := renewLease_ok hp
    rw [hs]
  | cancel E =>
    refine .inr (.inr ⟨?_, fun _ => rfl⟩)
    cases h
    obtain ⟨_, hc⟩ | ⟨_, _, hc⟩ := cancel_eq s now E
    · rw [hc]
    · rw [hc]
  | enqueueCallback =>
    refine .inr (.inr ⟨?_, fun _ => rfl⟩)
    obtain ⟨_, hp, he⟩ := map_ok.1 h
    cases he
    rw [JudgeStore.enqueueCallback] at hp
    split at hp
    · cases hp
      rfl
    · cases hp
  | claimCallback | markCallbackFailed =>
    refine .inr (.inr ⟨?_, fun _ => rfl⟩)
    obtain ⟨⟨_, _⟩, hp, he⟩ := map_ok.1 h
    cases he
    obtain ⟨_, _, hp⟩ := bind_ok.1 hp
    cases hp
    rfl
  | replayCallback E =>
    cases h
    refine .inr (.inr ⟨?_, fun _ => rfl⟩)
    rw [JudgeStore.replayCallback]
    split
    · rfl
    · split <;> rfl

/-- What the credential of a worker is, after the last that was done to it. -/
def HasCredential (sha256 : ByteArray → String) (row : Option WorkerCredential) :
    Option (Option String) → Prop
  | none => row = none
  | some none => ∃ c, row = some c ∧ c.revokedAt ≠ none
  | some (some token) => ∃ c, row = some c ∧ c.revokedAt = none ∧
      c.tokenHash = digestSecret sha256 token

theorem create_credential (h : s.createWorkerCredential sha256 w token = .ok s') :
    HasCredential sha256 (s'.workerCredentials.find? w) (some (some token)) ∧
      ∀ other, w ≠ other → s'.workerCredentials.find? other = s.workerCredentials.find? other := by
  rw [JudgeStore.createWorkerCredential] at h
  split at h
  · cases h
    constructor
    · rw [Table.find?_upsert, if_pos (by rfl)]
      cases s.workerCredentials.find? w with
      | none => exact ⟨_, rfl, rfl, rfl⟩
      | some c => exact ⟨_, rfl, rfl, rfl⟩
    · intro other hne
      rw [Table.find?_upsert]
      exact if_neg hne
  · cases h

theorem revoke_credential (now : Instant) (w : String) :
    (∃ c, s.workerCredentials.find? w = some c ∧ c.revokedAt = none ∧
        (s.revokeWorkerCredential now w).1 = true ∧
        (s.revokeWorkerCredential now w).2.workerCredentials.find? w =
          some { c with revokedAt := some now } ∧
        ∀ other, w ≠ other → (s.revokeWorkerCredential now w).2.workerCredentials.find? other =
          s.workerCredentials.find? other) ∨
      ((s.revokeWorkerCredential now w).1 = false ∧
        (s.revokeWorkerCredential now w).2.workerCredentials = s.workerCredentials) := by
  have hcount := s.workerCredentials.count_key w fun c => decide (c.revokedAt = none)
  have hkey (c : WorkerCredential) : Keyed.key c = c.workerId := rfl
  simp only [hkey] at hcount
  by_cases hlive : (s.workerCredentials.find? w).any (fun c => decide (c.revokedAt = none)) = true
  · rw [if_pos hlive] at hcount
    obtain ⟨c, hc, hnone⟩ := (Option.any_eq_true _ _).1 hlive
    have hid : c.workerId = w := Table.key_of_find? hc
    refine .inl ⟨c, hc, of_decide_eq_true hnone, ?_, ?_, ?_⟩
    · rw [JudgeStore.revokeWorkerCredential]
      dsimp only
      rw [hcount]
      rfl
    · rw [JudgeStore.revokeWorkerCredential, Table.find?_update, hc, Option.map_some, if_pos]
      rw [hid, decide_eq_true rfl, hnone]
      rfl
    · intro other hne
      rw [JudgeStore.revokeWorkerCredential, Table.find?_update]
      cases hother : s.workerCredentials.find? other with
      | none => rfl
      | some d =>
        have hd : d.workerId = other := Table.key_of_find? hother
        rw [Option.map_some, if_neg]
        rw [hd, decide_eq_false (Ne.symm hne), Bool.false_and]
        exact Bool.false_ne_true
  · rw [if_neg hlive] at hcount
    refine .inr ⟨?_, ?_⟩
    · rw [JudgeStore.revokeWorkerCredential]
      dsimp only
      rw [hcount]
      rfl
    · rw [JudgeStore.revokeWorkerCredential]
      apply Table.update_of_none
      · intro _
        rfl
      · exact Table.count_eq_zero.1 hcount

theorem credential_row (h : StoreRun sha256 history s) (workerId : String) :
    HasCredential sha256 (s.workerCredentials.find? workerId)
      (history.findSome? (Event.credential workerId)) := by
  induction h with
  | start hstart =>
    rw [hstart]
    rfl
  | @next history s e s' _ hstep ih =>
    rw [List.findSome?_cons]
    cases hstep with
    | @rollback now op s err =>
      have he : Event.credential workerId ⟨now, op, .error err⟩ = none := by
        cases op <;> rfl
      rw [he]
      exact ih
    | @commit now op s reply s' hrun =>
      rcases run_workerCredentials hrun with ⟨w, token, hop⟩ | ⟨w, hop⟩ | ⟨hsame, he⟩
      · subst hop
        obtain ⟨_, hcreate, he⟩ := map_ok.1 hrun
        cases he
        obtain ⟨hnew, hother⟩ := create_credential hcreate
        by_cases heq : w = workerId
        · subst heq
          rw [Event.credential, if_pos rfl]
          exact hnew
        · rw [Event.credential, if_neg heq, hother workerId heq]
          exact ih
      · subst hop
        cases hrun
        rcases revoke_credential (s := s) now w with ⟨c, _, _, hflag, hnew, hother⟩ | ⟨hflag, hsame⟩
        · rw [hflag, Event.credential]
          by_cases heq : w = workerId
          · subst heq
            rw [if_pos rfl]
            exact ⟨_, hnew, Option.some_ne_none now⟩
          · rw [if_neg heq, hother workerId heq]
            exact ih
        · rw [hflag, hsame]
          exact ih
      · rw [he, hsame]
        exact ih

/-- A worker's token is good while it is the last one made for the worker and was not revoked. -/
theorem worker_token_verifies_iff (h : StoreRun sha256 history s) (workerId token : String) :
    s.verifyWorkerToken sha256 workerId token = true ↔
      ∃ current, history.findSome? (Event.credential workerId) = some (some current) ∧
        digestSecret sha256 current = digestSecret sha256 token := by
  have hrow := credential_row h workerId
  rw [JudgeStore.verifyWorkerToken]
  rcases hlast : history.findSome? (Event.credential workerId) with _ | _ | current
  · rw [hlast] at hrow
    rw [hrow]
    simp
  · rw [hlast] at hrow
    obtain ⟨row, hfind, hrevoked⟩ := hrow
    rw [hfind]
    simp [hrevoked]
  · rw [hlast] at hrow
    obtain ⟨row, hfind, hlive, hhash⟩ := hrow
    rw [hfind]
    simp [hlive, hhash]

end

namespace Sample

/-- A node enrolls, its credential is revoked, and it enrolls again. -/
def enrollments : List (Instant × Op) :=
  [(0, .registerWorker ⟨"w1", [], [], [], none, "ready", false, [], none⟩),
    (1, .createWorkerCredential "w1" "first"), (2, .revokeWorkerCredential "w1"),
    (3, .createWorkerCredential "w1" "second")]

theorem enrollments_credential :
    (performAll sha256 .empty enrollments).1.findSome? (Event.credential "w1") =
      some (some "second") := by
  decide +kernel

end Sample

theorem worker_token_replaced :
    (performAll Sample.sha256 .empty Sample.enrollments).2.verifyWorkerToken Sample.sha256 "w1"
        "second" = true ∧
      (performAll Sample.sha256 .empty Sample.enrollments).2.verifyWorkerToken Sample.sha256 "w1"
        "first" ≠ true := by
  refine ⟨?_, ?_⟩
  · exact (worker_token_verifies_iff (performAll_run Sample.sha256 _) "w1" "second").2
      ⟨"second", Sample.enrollments_credential, rfl⟩
  · rw [ne_eq, worker_token_verifies_iff (performAll_run Sample.sha256 _)]
    rintro ⟨current, hcurrent, hsame⟩
    rw [Sample.enrollments_credential] at hcurrent
    cases hcurrent
    exact absurd hsame (by decide +kernel)

end BrunostJudge
