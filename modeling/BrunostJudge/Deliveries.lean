import BrunostJudge.LeasedDelivery
import BrunostJudge.Lifecycle

namespace BrunostJudge
open Python Relational Transition JudgeStore LeasedDelivery
set_option autoImplicit true

/-- The operations on the outbox entry of an execution that ask who holds it, and everything that
is not about this entry. Left out are the calls that mark a delivery in nobody's name. -/
def Op.guardedFor (E : String) : Op → Bool
  | .markCallbackDelivered E' => E' ≠ E
  | .markCallbackFailed E' _ worker => E' ≠ E || worker.isSome
  | _ => true

/-- The acknowledgements and failure reports of a deliverer for an execution. -/
def Op.reports (E w : String) : Op → Bool
  | .markCallbackDeliveredByOwner E' w' => E' = E && w' = w
  | .markCallbackFailed E' _ worker => E' = E && worker = some w
  | _ => false

/-- What an event did to the outbox entry of an execution: a claim that succeeded, an
acknowledgement or a failure that was accepted, a replay. -/
def Event.delivery? (E : String) (e : Event) : Option (Act String Instant) :=
  match e.op, e.outcome with
  | .claimCallback E' w seconds, .ok (.flag true) =>
    if E' = E then (e.now.addSeconds (max 1 seconds)).toOption.map (.claim w e.now) else none
  | .markCallbackDeliveredByOwner E' w, .ok (.flag true) =>
    if E' = E then some (.acknowledge w e.now) else none
  | .markCallbackFailed E' _ (some w), .ok (.flag true) =>
    if E' = E then some (.fail w e.now) else none
  | .replayCallback E', .ok (.flag true) => if E' = E then some (.replay e.now) else none
  | _, _ => none

/-- A failed delivery is tried again within the hour. -/
def latestRetry (now : Instant) : Instant := now + 3600 * 1000000

/-- The rows that stand for an entry. -/
structure Stands (c : CallbackDelivery) (d : Entry String Instant) : Prop where
  owner : c.leaseOwner = d.holder.map Prod.fst
  expires : c.leaseExpiresAt = d.holder.map Prod.snd
  delivered : c.deliveredAt.isSome = d.delivered
  due : c.nextAttemptAt = d.due

/-- The changes an outbox entry can undergo. -/
inductive EntryChange (now : Instant) : Option CallbackDelivery → Option (Act String Instant) →
    Option CallbackDelivery → Prop
  | same : EntryChange now c none c
  | inserted : EntryChange now none none (some (.fresh E url token now))
  | addressed : EntryChange now (some c) none
    (some { c with callbackUrl := url, callbackToken := token })
  | claimed : claimableCallback now c → EntryChange now (some c) (some (.claim w now lease))
      (some { c with leaseOwner := some w, leaseExpiresAt := some lease })
  | delivered : c.deliveredAt = none → c.leaseOwner = some w →
      EntryChange now (some c) (some (.acknowledge w now)) (some (CallbackDelivery.delivered now c))
  | failed : c.leaseOwner = some w → due ≤ latestRetry now →
      EntryChange now (some c) (some (.fail w now)) (some { c with
        attempts := attempts
        nextAttemptAt := due
        lastError := error
        leaseOwner := none
        leaseExpiresAt := none })
  | replayed : c'.deliveredAt = none → c'.leaseOwner = none → c'.leaseExpiresAt = none →
      c'.nextAttemptAt = now → EntryChange now c (some (.replay now)) (some c')

/-- What the rows of an execution have gone through. -/
inductive EntryRun : List (Act String Instant) → Option CallbackDelivery → Prop
  | absent : EntryRun [] none
  | present : Run Entry.Fresh (Step latestRetry) acts d → Stands c d → EntryRun acts (some c)

section
variable {s s' t : JudgeStore} {now : Instant} {e : Event} {E : String} {h : List Event}
  {sha256 : ByteArray → String} {c c' : CallbackDelivery} {d : Entry String Instant}

/-- Every change of a row is a move of its entry, or none. -/
theorem EntryChange.refines (h : EntryChange now (some c) a? (some c')) (hd : Stands c d) :
    (a? = none ∧ Stands c' d) ∨
      ∃ a d', a? = some a ∧ a.now = now ∧ Step latestRetry d a d' ∧ Stands c' d' := by
  generalize hc : some c = c? at h
  generalize hc' : some c' = c?' at h
  cases h with
  | same =>
    cases hc
    cases hc'
    exact .inl ⟨rfl, hd⟩
  | inserted => cases hc
  | addressed =>
    cases hc
    cases hc'
    exact .inl ⟨rfl, hd.owner, hd.expires, hd.delivered, hd.due⟩
  | @claimed c w lease hclaimable =>
    cases hc
    cases hc'
    simp only [claimableCallback, Bool.and_eq_true, decide_eq_true_eq, Bool.or_eq_true]
      at hclaimable
    obtain ⟨⟨hopen, hdue⟩, hfree⟩ := hclaimable
    refine .inr ⟨_, { d with holder := some (w, lease) }, rfl, rfl, .claim ?_ ?_ ?_, ?_⟩
    · rw [← hd.delivered, hopen]
      rfl
    · rw [← hd.due]
      exact hdue
    · intro w' l hheld
      have howner := hd.owner
      have hexpires := hd.expires
      rw [hheld] at howner hexpires
      rcases hfree with hnone | hexpired
      · rw [hnone] at howner
        cases howner
      · rw [hexpires] at hexpired
        exact of_decide_eq_true hexpired
    · exact ⟨rfl, rfl, hd.delivered, hd.due⟩
  | @delivered c w hopen howner =>
    cases hc
    cases hc'
    obtain ⟨⟨w', l⟩, hheld, hw⟩ := Option.map_eq_some_iff.1 (hd.owner.symm.trans howner)
    cases hw
    refine .inr ⟨_, { d with holder := none, delivered := true }, rfl, rfl,
      .acknowledge hheld ?_, ?_⟩
    · rw [← hd.delivered, hopen]
      rfl
    · exact ⟨rfl, rfl, rfl, hd.due⟩
  | failed howner hdue =>
    cases hc
    cases hc'
    obtain ⟨⟨w', l⟩, hheld, hw⟩ := Option.map_eq_some_iff.1 (hd.owner.symm.trans howner)
    cases hw
    exact .inr ⟨_, { d with holder := none, due := _ }, rfl, rfl, .fail hheld hdue,
      rfl, rfl, hd.delivered, rfl⟩
  | replayed hopen howner hexpires hdue =>
    cases hc'
    refine .inr ⟨_, ⟨none, false, now⟩, rfl, rfl, .replay, howner, hexpires, ?_, hdue⟩
    rw [hopen]
    rfl

theorem Stands.fresh (E url : String) (token : Option String) (now : Instant) :
    Stands (.fresh E url token now) ⟨none, false, now⟩ :=
  ⟨rfl, rfl, rfl, rfl⟩

theorem notifiedEntry_change (r : Submission) (now : Instant) (c? : Option CallbackDelivery) :
    EntryChange now c? none (notifiedEntry r now c?) := by
  rw [notifiedEntry]
  cases r.callback? with
  | none => exact .same
  | some url =>
    cases c? with
    | none => exact .inserted
    | some c =>
      simp only [Option.map_some, Option.getD_some]
      split
      · exact .addressed
      · exact .same

theorem notifyTerminal_change (table : Table CallbackDelivery) (r : Submission) (now : Instant)
    (E : String) :
    EntryChange now (table.find? E) none ((notifyTerminal table r now).find? E) := by
  rw [notifyTerminal_find?]
  split
  · exact notifiedEntry_change r now _
  · exact .same

theorem expireLeases_change (s : JudgeStore) (now : Instant) (E : String) :
    EntryChange now (s.callbackDeliveries.find? E) none
      ((s.expireLeases now).callbackDeliveries.find? E) := by
  let expired (r : Execution) := leaseOver now r && r.cancelRequested
  have hdistinct : ((s.executions.rows.filter expired).map fun r => r.executionId).Nodup :=
    s.executions.distinct.sublist (List.filter_sublist.map _)
  by_cases hexpired : ∃ r ∈ s.executions.rows.filter expired, r.executionId = E
  · obtain ⟨r, hr, hE⟩ := hexpired
    subst hE
    rw [expireLeases, foldl_notifyTerminal_mem _ hdistinct hr]
    exact notifiedEntry_change _ now _
  · rw [expireLeases, foldl_notifyTerminal_absent _ fun r hr hE => hexpired ⟨r, hr, hE⟩]
    exact .same

theorem claimNext_change (h : s.claimNext parameterLimit now request = .ok (reply, s'))
    (E : String) :
    EntryChange now (s.callbackDeliveries.find? E) none (s'.callbackDeliveries.find? E) := by
  have hexpired := expireLeases_change s now E
  obtain ⟨_, hs⟩ | ⟨_, _, _, _, _, _, _, _, _, hs⟩ := claimNext_ok h
  · rw [hs]
    exact hexpired
  · rw [hs]
    exact hexpired

theorem finish_change (h : s.finish room now E' res w = .ok (reply, s')) (E : String) :
    EntryChange now (s.callbackDeliveries.find? E) none (s'.callbackDeliveries.find? E) := by
  obtain ⟨_, ⟨_, hs⟩ | ⟨_, _, r, _, _, _, _, _, _, hs⟩⟩ := finish_ok h
  · rw [hs]
    exact .same
  · rw [hs]
    exact notifyTerminal_change _ r.toSubmission now E

theorem cancel_change (s : JudgeStore) (now : Instant) (E' E : String) :
    EntryChange now (s.callbackDeliveries.find? E) none
      ((s.cancel now E').2.callbackDeliveries.find? E) := by
  obtain ⟨_, hc⟩ | ⟨r, _, hc⟩ := cancel_eq s now E'
  · rw [hc]
    exact .same
  · rw [hc]
    simp only
    split
    · exact notifyTerminal_change _ r.toSubmission now E
    · exact .same

theorem count_delivery (table : Table CallbackDelivery) (E : String) (p : CallbackDelivery → Bool) :
    table.count (fun c => decide (c.executionId = E) && p c) =
      if (table.find? E).any p then 1 else 0 :=
  table.count_key E p

theorem update_delivery (table : Table CallbackDelivery) (E' E : String)
    (p : CallbackDelivery → Bool) (f : CallbackDelivery → CallbackDelivery)
    (hf : ∀ c, Keyed.key (f c) = Keyed.key c) :
    (table.update (fun c => decide (c.executionId = E') && p c) f hf).find? E =
      if E' = E then (table.find? E).map fun c => if p c then f c else c else table.find? E := by
  rw [Table.find?_update]
  cases hc : table.find? E with
  | none => simp
  | some c =>
    have hkey : c.executionId = E := Table.key_of_find? hc
    by_cases hE : E' = E
    · simp [hkey, hE]
    · simp [hkey, hE, Ne.symm hE]

theorem guarded_change (table : Table CallbackDelivery) (E' E : String)
    (p : CallbackDelivery → Bool) (f : CallbackDelivery → CallbackDelivery)
    (hf : ∀ c, Keyed.key (f c) = Keyed.key c) {a : Act String Instant}
    (hchange : ∀ c, p c = true → EntryChange now (some c) (some a) (some (f c))) :
    EntryChange now (table.find? E)
      (if E' = E ∧ table.count (fun c => decide (c.executionId = E') && p c) = 1 then
        some a else none)
      ((table.update (fun c => decide (c.executionId = E') && p c) f hf).find? E) := by
  rw [update_delivery, count_delivery]
  by_cases hE : E' = E
  · subst hE
    rw [if_pos rfl]
    cases hc : table.find? E' with
    | none => simpa using EntryChange.same
    | some c =>
      cases hp : p c with
      | true => simpa [hp] using hchange c hp
      | false => simpa [hp] using EntryChange.same
  · simpa [hE] using EntryChange.same

theorem claimCallback_change (h : s.claimCallback now E' w seconds = .ok (flag, s')) (E : String) :
    EntryChange now (s.callbackDeliveries.find? E)
      (Event.delivery? E ⟨now, .claimCallback E' w seconds, .ok (.flag flag)⟩)
      (s'.callbackDeliveries.find? E) := by
  obtain ⟨lease, hlease, h⟩ := bind_ok.1 h
  obtain ⟨hflag, hs⟩ := Prod.mk.inj (pure_ok.1 h)
  subst hs
  have hact : Event.delivery? E ⟨now, .claimCallback E' w seconds, .ok (.flag flag)⟩ =
      if E' = E ∧ flag = true then some (.claim w now lease) else none := by
    cases flag <;> simp [Event.delivery?, hlease, Except.toOption]
  rw [hact, ← hflag]
  simp only [decide_eq_true_eq]
  apply guarded_change
  intro c hc
  exact .claimed hc

theorem markCallbackDeliveredByOwner_change (s : JudgeStore) (now : Instant) (E' w E : String) :
    EntryChange now (s.callbackDeliveries.find? E)
      (Event.delivery? E ⟨now, .markCallbackDeliveredByOwner E' w,
        .ok (.flag (s.markCallbackDeliveredByOwner now E' w).1)⟩)
      ((s.markCallbackDeliveredByOwner now E' w).2.callbackDeliveries.find? E) := by
  have hact : ∀ flag,
      Event.delivery? E ⟨now, .markCallbackDeliveredByOwner E' w, .ok (.flag flag)⟩ =
      if E' = E ∧ flag = true then some (.acknowledge w now) else none := by
    intro flag
    cases flag <;> simp [Event.delivery?]
  rw [hact]
  simp only [markCallbackDeliveredByOwner, decide_eq_true_eq]
  apply guarded_change
  intro c hc
  obtain ⟨hopen, howner⟩ := Bool.and_eq_true_iff.1 hc
  exact .delivered (of_decide_eq_true hopen) (of_decide_eq_true howner)

theorem retryDelay_le (attempts : Nat) : retryDelay attempts ≤ 3600 := Nat.min_le_left _ _

theorem addSeconds_ok {n : Nat} {later : Instant} (h : now.addSeconds n = .ok later) :
    later = now + n * 1000000 := by
  simp only [Instant.addSeconds] at h
  split at h
  · cases h
    have hcast : (now : Int) + (n : Int) * 1000000 = ((now + n * 1000000 : Nat) : Int) := by
      push_cast
      rfl
    rw [hcast]
    rfl
  · cases h

theorem markCallbackFailed_change
    (h : s.markCallbackFailed now E' error worker? = .ok (flag, s'))
    (hguarded : Op.guardedFor E (.markCallbackFailed E' error worker?)) :
    EntryChange now (s.callbackDeliveries.find? E)
      (Event.delivery? E ⟨now, .markCallbackFailed E' error worker?, .ok (.flag flag)⟩)
      (s'.callbackDeliveries.find? E) := by
  obtain ⟨due, hdue, h⟩ := bind_ok.1 h
  obtain ⟨hflag, hs⟩ := Prod.mk.inj (pure_ok.1 h)
  subst hs
  have hlatest : due ≤ latestRetry now := by
    rw [addSeconds_ok hdue]
    exact Nat.add_le_add_left (Nat.mul_le_mul_right _ (retryDelay_le (s.callbackAttempts E'))) now
  cases worker? with
  | none =>
    have hE : E' ≠ E := by simpa [Op.guardedFor] using hguarded
    have hact : Event.delivery? E ⟨now, .markCallbackFailed E' error none, .ok (.flag flag)⟩ =
        none := by
      cases flag <;> rfl
    rw [hact, update_delivery, if_neg hE]
    exact .same
  | some w =>
    have hact : Event.delivery? E ⟨now, .markCallbackFailed E' error (some w), .ok (.flag flag)⟩ =
        if E' = E ∧ flag = true then some (.fail w now) else none := by
      cases flag <;> simp [Event.delivery?]
    rw [hact, ← hflag]
    simp only [decide_eq_true_eq]
    apply guarded_change
    intro c hc
    exact .failed (of_decide_eq_true hc) hlatest

theorem upsert_delivery (table : Table CallbackDelivery) (E' url : String) (token : Option String)
    (now : Instant) (f : CallbackDelivery → CallbackDelivery)
    (hf : ∀ c, Keyed.key (f c) = Keyed.key c) (E : String) :
    (table.upsert (.fresh E' url token now) f hf).find? E =
      if E' = E then some (((table.find? E).map f).getD (.fresh E' url token now))
      else table.find? E :=
  table.find?_upsert _ f hf E

theorem enqueueCallback_change (h : s.enqueueCallback now E' url token = .ok s') (E : String) :
    EntryChange now (s.callbackDeliveries.find? E) none (s'.callbackDeliveries.find? E) := by
  simp only [enqueueCallback] at h
  split at h
  · cases h
    rw [upsert_delivery]
    by_cases hE : E' = E
    · rw [if_pos hE]
      cases s.callbackDeliveries.find? E with
      | none => exact .inserted
      | some c => exact .addressed
    · rw [if_neg hE]
      exact .same
  · cases h

theorem replayCallback_change (s : JudgeStore) (now : Instant) (E' E : String) :
    EntryChange now (s.callbackDeliveries.find? E)
      (Event.delivery? E ⟨now, .replayCallback E', .ok (.flag (s.replayCallback now E').1)⟩)
      ((s.replayCallback now E').2.callbackDeliveries.find? E) := by
  simp only [replayCallback]
  split
  · exact .same
  · split
    · simp only [Event.delivery?]
      rw [upsert_delivery]
      by_cases hE : E' = E
      · rw [if_pos hE, if_pos hE]
        cases s.callbackDeliveries.find? E with
        | none => exact .replayed rfl rfl rfl rfl
        | some c => exact .replayed rfl rfl rfl rfl
      · rw [if_neg hE, if_neg hE]
        exact .same
    · exact .same

theorem run_change (hrun : op.run sha256 now s = .ok (reply, s')) (hguarded : op.guardedFor E) :
    EntryChange now (s.callbackDeliveries.find? E) (Event.delivery? E ⟨now, op, .ok reply⟩)
      (s'.callbackDeliveries.find? E) := by
  cases op with
  | submit E' request =>
    obtain ⟨⟨_, _⟩, hp, he⟩ := map_ok.1 hrun
    cases he
    obtain ⟨_, _, _, _, ⟨_, _, _, _, hs⟩ | ⟨_, _, _, _, hs⟩⟩ := submit_ok hp
    · rw [hs]
      exact .same
    · rw [hs]
      exact .same
  | claimNext _ request =>
    obtain ⟨⟨_, _⟩, hp, he⟩ := map_ok.1 hrun
    cases he
    exact claimNext_change hp E
  | finish room E' res w =>
    obtain ⟨⟨_, _⟩, hp, he⟩ := map_ok.1 hrun
    cases he
    exact finish_change hp E
  | renewLease E' w seconds =>
    obtain ⟨⟨_, _⟩, hp, he⟩ := map_ok.1 hrun
    cases he
    obtain ⟨_, _, _, hs⟩ := renewLease_ok hp
    rw [hs]
    exact .same
  | cancel E' =>
    cases hrun
    exact cancel_change s now E' E
  | enqueueCallback E' url token =>
    obtain ⟨_, hp, he⟩ := map_ok.1 hrun
    cases he
    exact enqueueCallback_change hp E
  | claimCallback E' w seconds =>
    obtain ⟨⟨_, _⟩, hp, he⟩ := map_ok.1 hrun
    cases he
    exact claimCallback_change hp E
  | markCallbackDelivered E' =>
    cases hrun
    have hE : E' ≠ E := by simpa [Op.guardedFor] using hguarded
    have hother := update_delivery s.callbackDeliveries E' E (fun _ => true)
      (CallbackDelivery.delivered now) (by intro _; rfl)
    rw [if_neg hE] at hother
    simp only [Bool.and_true] at hother
    simp only [markCallbackDelivered]
    rw [hother]
    exact .same
  | markCallbackDeliveredByOwner E' w =>
    cases hrun
    exact markCallbackDeliveredByOwner_change s now E' w E
  | markCallbackFailed E' error worker? =>
    obtain ⟨⟨_, _⟩, hp, he⟩ := map_ok.1 hrun
    cases he
    exact markCallbackFailed_change hp hguarded
  | replayCallback E' =>
    cases hrun
    exact replayCallback_change s now E' E
  | _ =>
    obtain ⟨_, hs⟩ := Op.run_registry hrun rfl rfl
    rw [hs]
    exact .same

theorem storeStep_change (hs : StoreStep sha256 s e t) (hguarded : e.op.guardedFor E) :
    EntryChange e.now (s.callbackDeliveries.find? E) (e.delivery? E)
      (t.callbackDeliveries.find? E) := by
  cases hs with
  | commit hrun => exact run_change hrun hguarded
  | @rollback now op s err hrun =>
    have hact : Event.delivery? E ⟨now, op, .error err⟩ = none := by
      cases op with
      | markCallbackFailed E' error worker? => cases worker? <;> rfl
      | _ => rfl
    rw [hact]
    exact .same

theorem EntryRun.entry (hrun : EntryRun acts (some c)) :
    ∃ d, Run Entry.Fresh (Step latestRetry) acts d ∧ Stands c d := by
  cases hrun with
  | present hacts hstands => exact ⟨_, hacts, hstands⟩

theorem EntryRun.exists_run {acts : List (Act String Instant)} (hrun : EntryRun acts c?) :
    ∃ d, Run Entry.Fresh (Step latestRetry) acts d := by
  cases hrun with
  | absent => exact ⟨⟨none, false, 0⟩, .start ⟨rfl, rfl⟩⟩
  | present hacts _ => exact ⟨_, hacts⟩

theorem EntryRun.next (hrun : EntryRun acts c?) (hc : EntryChange now c? a? c'?) :
    EntryRun (a?.toList ++ acts) c'? := by
  cases hrun with
  | absent =>
    cases hc with
    | same => exact .absent
    | @inserted E url token => exact .present (.start ⟨rfl, rfl⟩) (.fresh E url token now)
    | replayed hopen howner hexpires hdue =>
      have hfresh : Entry.Fresh (⟨none, false, now⟩ : Entry String Instant) := ⟨rfl, rfl⟩
      refine .present (.next (.start hfresh) .replay) ⟨howner, hexpires, ?_, hdue⟩
      rw [hopen]
      rfl
  | present hrun hstands =>
    cases c'? with
    | none => cases hc
    | some c' =>
      obtain ⟨ha, hstands'⟩ | ⟨a, d', ha, _, hs, hstands'⟩ := hc.refines hstands
      · rw [ha]
        exact .present hrun hstands'
      · rw [ha]
        exact .present (.next hrun hs) hstands'

/-- The outbox entry of an execution is a run of its claims, reports and replays. -/
theorem run_delivery (hrun : StoreRun sha256 h s) (hguarded : ∀ e ∈ h, e.op.guardedFor E) :
    EntryRun (h.filterMap (Event.delivery? E)) (s.callbackDeliveries.find? E) := by
  induction hrun with
  | start hs =>
    rw [hs]
    exact .absent
  | @next h s e t hrun hs ih =>
    have hrow := ih fun e he => hguarded e (List.mem_cons_of_mem _ he)
    have hnext := hrow.next (storeStep_change hs (hguarded _ List.mem_cons_self))
    rw [List.filterMap_cons]
    cases ha : e.delivery? E with
    | none => simpa [ha] using hnext
    | some a => simpa [ha] using hnext

theorem report_change (hs : StoreStep sha256 s e t) (hreport : e.op.reports E w) :
    t.callbackDeliveries.find? E = s.callbackDeliveries.find? E ∨
      ∃ c, s.callbackDeliveries.find? E = some c ∧ c.leaseOwner = some w := by
  have hupdate (p : CallbackDelivery → Bool) (f : CallbackDelivery → CallbackDelivery)
      (hf : ∀ c, Keyed.key (f c) = Keyed.key c) (howner : ∀ c, p c = true → c.leaseOwner = some w) :
      (s.callbackDeliveries.update (fun c => decide (c.executionId = E) && p c) f hf).find? E =
        s.callbackDeliveries.find? E ∨
      ∃ c, s.callbackDeliveries.find? E = some c ∧ c.leaseOwner = some w := by
    rw [update_delivery, if_pos rfl]
    cases s.callbackDeliveries.find? E with
    | none => exact .inl rfl
    | some c =>
      cases hp : p c with
      | true => exact .inr ⟨c, rfl, howner c hp⟩
      | false => exact .inl (by simp [hp])
  cases hs with
  | @commit now op s reply s' hrun =>
    cases op with
    | markCallbackDeliveredByOwner E' w' =>
      obtain ⟨hE, hw⟩ : E' = E ∧ w' = w := by simpa [Op.reports] using hreport
      subst hE hw
      cases hrun
      refine hupdate _ _ (by intro _; rfl) ?_
      intro c hc
      exact of_decide_eq_true (Bool.and_eq_true_iff.1 hc).2
    | markCallbackFailed E' error worker? =>
      obtain ⟨hE, hw⟩ : E' = E ∧ worker? = some w := by simpa [Op.reports] using hreport
      subst hE hw
      obtain ⟨⟨_, _⟩, hp, he⟩ := map_ok.1 hrun
      cases he
      obtain ⟨due, _, hp⟩ := bind_ok.1 hp
      cases pure_ok.1 hp
      refine hupdate _ _ (by intro _; rfl) ?_
      intro c hc
      exact of_decide_eq_true hc
    | _ => cases hreport
  | rollback => exact .inl rfl

/-- The lease an entry is under was given by the last claim, and nothing has ended it. -/
theorem lastAct_claim (hrun : StoreRun sha256 h s) (hguarded : ∀ e ∈ h, e.op.guardedFor E)
    (hc : s.callbackDeliveries.find? E = some c) (howner : c.leaseOwner = some w) :
    ∃ now lease, h.findSome? (Event.delivery? E) = some (.claim w now lease) := by
  have hentry := run_delivery hrun hguarded
  rw [hc] at hentry
  obtain ⟨d, hacts, hstands⟩ := hentry.entry
  obtain ⟨⟨w', lease⟩, hheld, hw⟩ := Option.map_eq_some_iff.1 (hstands.owner.symm.trans howner)
  cases hw
  rw [run_holder hacts] at hheld
  obtain ⟨now, hlast⟩ := head_of_holder hheld
  rw [List.head?_filterMap] at hlast
  exact ⟨now, lease, hlast⟩

theorem report_stands (hrun : StoreRun sha256 h s) (hguarded : ∀ e ∈ h, e.op.guardedFor E)
    (hs : StoreStep sha256 s e t) (hreport : e.op.reports E w) :
    (∃ now lease, h.findSome? (Event.delivery? E) = some (.claim w now lease)) ∨
      t.callbackDeliveries.find? E = s.callbackDeliveries.find? E := by
  obtain hsame | ⟨c, hc, howner⟩ := report_change hs hreport
  · exact .inr hsame
  · exact .inl (lastAct_claim hrun hguarded hc howner)

theorem lastAct_after_replay {later earlier : List Event} {r : Event}
    (hr : r.delivery? E = some (.replay now))
    (hlast : (later ++ r :: earlier).findSome? (Event.delivery? E) = some (.claim w since lease)) :
    ∃ x ∈ later, x.delivery? E = some (.claim w since lease) := by
  rw [List.findSome?_append] at hlast
  cases hlater : later.findSome? (Event.delivery? E) with
  | some a =>
    rw [hlater] at hlast
    cases hlast
    exact List.exists_of_findSome?_eq_some hlater
  | none =>
    rw [hlater, List.findSome?_cons, hr] at hlast
    cases hlast

theorem delivery_replay (h : e.delivery? E = some (.replay now)) : e.op = .replayCallback E := by
  obtain ⟨t, op, outcome⟩ := e
  simp only [Event.delivery?] at h
  split at h
  · split at h
    · obtain ⟨_, _, he⟩ := Option.map_eq_some_iff.1 h
      cases he
    · cases h
  · split at h <;> cases h
  · split at h <;> cases h
  · split at h
    · rename_i hE
      rw [hE]
    · cases h
  · cases h

theorem reopened (hrun : StoreRun sha256 h s) (hguarded : ∀ e ∈ h, e.op.guardedFor E)
    (hs : StoreStep sha256 s e t) (hguard : e.op.guardedFor E)
    (hc : s.callbackDeliveries.find? E = some c) (hc' : t.callbackDeliveries.find? E = some c')
    (hdelivered : c.deliveredAt ≠ none) (hopen : c'.deliveredAt = none) :
    e.op = .replayCallback E := by
  have hentry := run_delivery hrun hguarded
  have hchange := storeStep_change hs hguard
  rw [hc] at hentry
  rw [hc, hc'] at hchange
  obtain ⟨d, _, hstands⟩ := hentry.entry
  have hd := hstands.delivered
  rw [Option.isSome_iff_ne_none.2 hdelivered] at hd
  obtain ⟨_, hstands'⟩ | ⟨a, d', ha, _, hstep, hstands'⟩ := hchange.refines hstands
  · have hd' := hstands'.delivered
    rw [← hd, hopen] at hd'
    cases hd'
  · have hd' := hstands'.delivered
    rw [hopen] at hd'
    obtain ⟨now, ha'⟩ := hstep.reopens hd.symm hd'.symm
    rw [ha'] at ha
    exact delivery_replay ha

theorem delivery_now (h : e.delivery? E = some a) : a.now = e.now := by
  obtain ⟨t, op, outcome⟩ := e
  simp only [Event.delivery?] at h
  split at h
  · split at h
    · obtain ⟨_, _, he⟩ := Option.map_eq_some_iff.1 h
      cases he
      rfl
    · cases h
  all_goals
    first
    | (split at h <;> cases h; rfl)
    | cases h

theorem claimCallback_due (hc : s.callbackDeliveries.find? E = some c)
    (hopen : c.deliveredAt = none) (hdue : c.nextAttemptAt ≤ now)
    (hlease : ∀ l, c.leaseExpiresAt = some l → l ≤ now) (w : String) (seconds : Int) :
    (s.claimCallback now E w seconds).map Prod.fst =
      (now.addSeconds (max 1 seconds)).map fun _ => true := by
  have hclaimable : claimableCallback now c = true := by
    cases hl : c.leaseExpiresAt with
    | none => simp [claimableCallback, hopen, hdue, hl]
    | some l => simp [claimableCallback, hopen, hdue, hl, hlease l hl]
  rw [claimCallback]
  cases now.addSeconds (max 1 seconds) with
  | error err => rfl
  | ok lease =>
    have hcount := count_delivery s.callbackDeliveries E (claimableCallback now)
    rw [hc, Option.any_some, if_pos hclaimable] at hcount
    exact congrArg Except.ok (decide_eq_true hcount)

theorem nextAttempt_change (h : EntryChange now c? a? (some c')) :
    (∃ c, c? = some c ∧ c'.nextAttemptAt = c.nextAttemptAt) ∨
      c'.nextAttemptAt ≤ now + 3600 * 1000000 := by
  generalize hc' : some c' = c'? at h
  cases h with
  | same => exact .inl ⟨c', hc'.symm, rfl⟩
  | inserted =>
    cases hc'
    exact .inr (Nat.le_add_right _ _)
  | addressed =>
    cases hc'
    exact .inl ⟨_, rfl, rfl⟩
  | claimed =>
    cases hc'
    exact .inl ⟨_, rfl, rfl⟩
  | delivered =>
    cases hc'
    exact .inl ⟨_, rfl, rfl⟩
  | failed _ hlatest =>
    cases hc'
    exact .inr hlatest
  | replayed _ _ _ hdue =>
    cases hc'
    rw [hdue]
    exact .inr (Nat.le_add_right _ _)

theorem claims_of_filterMap {last between first : List Event} {c d : Event}
    (hacts : Run Entry.Fresh (Step latestRetry)
      ((last ++ d :: between ++ c :: first).filterMap (Event.delivery? E)) x)
    (hc : c.delivery? E = some (.claim w t₁ lease))
    (hd : d.delivery? E = some (.claim w' t₂ lease'))
    (hclaims : ∀ x ∈ between, ∀ a, x.delivery? E = some a → a.releases = false)
    (hclock : (last ++ d :: between ++ c :: first).Pairwise fun later earlier =>
      earlier.now ≤ later.now) : lease ≤ t₂ := by
  have hacts_clock : ((last ++ d :: between ++ c :: first).filterMap (Event.delivery? E)).Pairwise
      fun later earlier => earlier.now ≤ later.now := by
    rw [List.pairwise_filterMap]
    apply hclock.imp
    intro x y hle a ha b hb
    rw [delivery_now ha, delivery_now hb]
    exact hle
  have hsplit : (last ++ d :: between ++ c :: first).filterMap (Event.delivery? E) =
      last.filterMap (Event.delivery? E) ++ (.claim w' t₂ lease' ::
        between.filterMap (Event.delivery? E) ++ .claim w t₁ lease ::
          first.filterMap (Event.delivery? E)) := by
    simp [hc, hd]
  rw [hsplit] at hacts hacts_clock
  obtain ⟨y, hacts, _⟩ := hacts.split
  apply claims_apart hacts
  · intro a ha
    obtain ⟨x, hx, hax⟩ := List.mem_filterMap.1 ha
    exact hclaims x hx a hax
  · exact (List.pairwise_append.1 hacts_clock).2.1

/-- The delivery protocol of one outbox entry. -/
theorem callback_delivery_protocol (hrun : StoreRun sha256 h s)
    (hguarded : ∀ e ∈ h, e.op.guardedFor E)
    (hclock : h.Pairwise fun later earlier => earlier.now ≤ later.now) :
    -- a report counts if its sender made the last claim, and nothing has happened since
    (∀ e t w, StoreStep sha256 s e t → e.op.reports E w →
      (∃ now lease, h.findSome? (Event.delivery? E) = some (.claim w now lease)) ∨
        t.callbackDeliveries.find? E = s.callbackDeliveries.find? E) ∧
    -- a claim while the entry is held waits for the lease to run out
    (∀ last d between c first w now lease w' now' lease', h = last ++ d :: between ++ c :: first →
      c.delivery? E = some (.claim w now lease) → d.delivery? E = some (.claim w' now' lease') →
      (∀ x ∈ between, ∀ a, x.delivery? E = some a → a.releases = false) → lease ≤ d.now) ∧
    -- only a replay takes a delivery back
    (∀ e t c c', StoreStep sha256 s e t → e.op.guardedFor E →
      s.callbackDeliveries.find? E = some c → t.callbackDeliveries.find? E = some c' →
      c.deliveredAt ≠ none → c'.deliveredAt = none → e.op = .replayCallback E) ∧
    -- and it shuts out everyone who has not claimed again
    (∀ later r earlier now w e t, h = later ++ r :: earlier → r.delivery? E = some (.replay now) →
      (∀ x ∈ later, ∀ now lease, x.delivery? E ≠ some (.claim w now lease)) →
      StoreStep sha256 s e t → e.op.reports E w →
      t.callbackDeliveries.find? E = s.callbackDeliveries.find? E) ∧
    -- an entry that is due and free can be claimed
    (∀ c now w seconds, s.callbackDeliveries.find? E = some c → c.deliveredAt = none →
      c.nextAttemptAt ≤ now → (∀ l, c.leaseExpiresAt = some l → l ≤ now) →
      (s.claimCallback now E w seconds).map Prod.fst =
        (now.addSeconds (max 1 seconds)).map fun _ => true) ∧
    -- and is due within the hour
    (∀ e t c', StoreStep sha256 s e t → e.op.guardedFor E →
      t.callbackDeliveries.find? E = some c' →
      (∃ c, s.callbackDeliveries.find? E = some c ∧ c'.nextAttemptAt = c.nextAttemptAt) ∨
        c'.nextAttemptAt ≤ e.now + 3600 * 1000000) := by
  refine ⟨?_, ?_, ?_, ?_, ?_, ?_⟩
  · intro e t w hs hreport
    exact report_stands hrun hguarded hs hreport
  · intro last d between c first w now lease w' now' lease' hh hc hd hclaims
    subst hh
    have hnow : now' = d.now := delivery_now hd
    have hentry := run_delivery hrun hguarded
    rw [← hnow]
    obtain ⟨x, hacts⟩ := hentry.exists_run
    exact claims_of_filterMap hacts hc hd hclaims hclock
  · intro e t c c' hs hguard hc hc' hdelivered hopen
    exact reopened hrun hguarded hs hguard hc hc' hdelivered hopen
  · intro later r earlier now w e t hh hr hclaims hs hreport
    obtain ⟨since, lease, hlast⟩ | hsame := report_stands hrun hguarded hs hreport
    · rw [hh] at hlast
      obtain ⟨x, hx, hclaim⟩ := lastAct_after_replay hr hlast
      exact absurd hclaim (hclaims x hx since lease)
    · exact hsame
  · intro c now w seconds hc hopen hdue hlease
    exact claimCallback_due hc hopen hdue hlease w seconds
  · intro e t c' hs hguard hc'
    have hchange := storeStep_change hs hguard
    rw [hc'] at hchange
    exact nextAttempt_change hchange

/-- The acknowledgement of a delivery that was replayed meanwhile comes too late. -/
theorem callback_delivery_protocol_sample :
    let s := (performAll Sample.sha256 .empty (Sample.claimed ++ [Sample.finish,
      (Sample.clock 31, .claimCallback "e7" "d1" 60),
      (Sample.clock 40, .replayCallback "e7")])).2
    let t := (perform Sample.sha256 s (Sample.clock 41)
      (.markCallbackDeliveredByOwner "e7" "d1")).2
    t.callbackDeliveries.find? "e7" = s.callbackDeliveries.find? "e7" := by
  intro s t
  have hrun := performAll_run Sample.sha256 (Sample.claimed ++ [Sample.finish,
    (Sample.clock 31, .claimCallback "e7" "d1" 60), (Sample.clock 40, .replayCallback "e7")])
  have hguarded : ∀ e ∈ (performAll Sample.sha256 .empty (Sample.claimed ++ [Sample.finish,
      (Sample.clock 31, .claimCallback "e7" "d1" 60),
      (Sample.clock 40, .replayCallback "e7")])).1, e.op.guardedFor "e7" := by decide +kernel
  have hclock : (performAll Sample.sha256 .empty (Sample.claimed ++ [Sample.finish,
      (Sample.clock 31, .claimCallback "e7" "d1" 60),
      (Sample.clock 40, .replayCallback "e7")])).1.Pairwise
        fun later earlier => earlier.now ≤ later.now := by decide +kernel
  have hreplayed : ((performAll Sample.sha256 .empty (Sample.claimed ++ [Sample.finish,
      (Sample.clock 31, .claimCallback "e7" "d1" 60),
      (Sample.clock 40, .replayCallback "e7")])).1.findSome?
        (Event.delivery? "e7")).any Act.releases = true := by decide +kernel
  obtain ⟨since, lease, hlast⟩ | hsame := (callback_delivery_protocol hrun hguarded hclock).1
    _ t "d1" (perform_step _ _ _ _) (by rw [perform_op]; rfl)
  · rw [hlast] at hreplayed
    cases hreplayed
  · exact hsame

end

end BrunostJudge
