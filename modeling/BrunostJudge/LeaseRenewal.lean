import BrunostJudge.Lifecycle
import Mathlib.Tactic.Linarith

namespace BrunostJudge
open Python Relational Transition JudgeStore
set_option autoImplicit true

inductive WorkerKind where
  | local
  | remote
deriving DecidableEq

/-- What renews the lease of a claimed execution while it is evaluated. -/
structure LeaseRenewer where
  kind : WorkerKind
  executionId : String
  workerId : String
  /-- What the claim asked for. -/
  leaseSeconds : Int

/-- The `lease_seconds` of the claim's context. -/
def LeaseRenewer.contextSeconds (r : LeaseRenewer) : Int := max 1 r.leaseSeconds

/-- What a renewal asks for: a local worker takes the lease of the context, and the server the
bounded setting. -/
def LeaseRenewer.renewSeconds (r : LeaseRenewer) : Int :=
  match r.kind with
  | .local => r.contextSeconds
  | .remote => max 1 (min 100000 r.leaseSeconds)

/-- The seconds between two renewals. -/
def LeaseRenewer.interval (r : LeaseRenewer) : ℚ :=
  max (1 / 4) (min 30 (max 1 (r.contextSeconds : ℚ) / 3))

/-- The claimed execution, its renewer and everybody else on the store. The renewer has stopped, or
the store last gave it the lease at some clock reading. -/
structure RenewerState where
  store : JudgeStore
  taken : Option Instant

inductive RenewerEvent where
  | renewal (e : Event)
  | lost
  | other (e : Event)

/-- The renewer is not held up: two renewals are an interval apart, but for a delay. The first one
follows on the claim, whatever the worker has to fetch before it starts. -/
def LeaseRenewer.inTime (r : LeaseRenewer) (delay : ℚ) (taken now : Instant) : Prop :=
  (now : ℚ) ≤ taken + (r.interval + delay) * 1000000

/-- What others do. The worker finishes after it has stopped the renewer. -/
def LeaseRenewer.leaves (r : LeaseRenewer) (op : Op) : Prop :=
  op ≠ .cancel r.executionId ∧
    (∀ room result, op ≠ .finish room r.executionId result r.workerId) ∧
    ∀ seconds, op ≠ .renewLease r.executionId r.workerId seconds

def renewalAccepted : Except PyError Reply → Bool
  | .ok (.flag renewed) => renewed
  | _ => false

/-- `_renew_execution_lease`. A refusal and an exception both end it. -/
inductive RenewerStep (sha256 : ByteArray → String) (r : LeaseRenewer) (delay : ℚ) :
    RenewerState → RenewerEvent → RenewerState → Prop
  | renewal {s s' taken e} : StoreStep sha256 s e s' →
      e.op = .renewLease r.executionId r.workerId r.renewSeconds → r.inTime delay taken e.now →
      RenewerStep sha256 r delay ⟨s, some taken⟩ (.renewal e)
        ⟨s', if renewalAccepted e.outcome then some e.now else none⟩
  | lost {s taken} : RenewerStep sha256 r delay ⟨s, some taken⟩ .lost ⟨s, none⟩
  | other {s s' taken e} : StoreStep sha256 s e s' →
      (∀ t ∈ taken, r.inTime delay t e.now ∧ r.leaves e.op) →
      RenewerStep sha256 r delay ⟨s, taken⟩ (.other e) ⟨s', taken⟩

/-- Any run of the store that ends with the claim. -/
def LeaseRenewer.Claimed (sha256 : ByteArray → String) (r : LeaseRenewer) (x : RenewerState) :
    Prop :=
  ∃ history e parameterLimit request, e.op = .claimNext parameterLimit request ∧
    request.leaseSeconds = r.leaseSeconds ∧ e.request? r.executionId = some (.claim r.workerId) ∧
    StoreRun sha256 (e :: history) x.store ∧ x.taken = some e.now

abbrev RenewerRun (sha256 : ByteArray → String) (r : LeaseRenewer) (delay : ℚ) :
    List RenewerEvent → RenewerState → Prop :=
  Run (r.Claimed sha256) (RenewerStep sha256 r delay)

section
variable {sha256 : ByteArray → String} {r : LeaseRenewer} {delay : ℚ} {s s' : JudgeStore}
  {row row' : Execution} {e : Event} {now taken lease : Instant} {E w : String} {n : Int}

theorem LeaseRenewer.renewSeconds_pos : 1 ≤ r.renewSeconds := by
  rw [renewSeconds]
  cases r.kind with
  | «local» => exact le_max_left _ _
  | remote => exact le_max_left _ _

theorem LeaseRenewer.renewSeconds_le : r.renewSeconds ≤ r.contextSeconds := by
  rw [renewSeconds]
  cases r.kind with
  | «local» => exact le_rfl
  | remote => exact max_le_max_left 1 (min_le_right _ _)

theorem LeaseRenewer.interval_le : r.interval ≤ r.renewSeconds / 3 := by
  have hpos : (1 : ℚ) ≤ r.renewSeconds := by exact_mod_cast r.renewSeconds_pos
  have hle : (r.renewSeconds : ℚ) ≤ r.contextSeconds := by exact_mod_cast r.renewSeconds_le
  rw [interval, max_eq_right (hpos.trans hle)]
  apply max_le
  · linarith
  · rcases Int.le_total r.leaseSeconds 100000 with hsmall | hlarge
    · have heq : r.renewSeconds = r.contextSeconds := by
        rw [renewSeconds]
        cases r.kind with
        | «local» => rfl
        | remote => exact congrArg (max 1) (min_eq_right hsmall)
      rw [heq]
      exact min_le_right _ _
    · have hlarge : 100000 ≤ r.renewSeconds := by
        rw [renewSeconds]
        cases r.kind with
        | «local» => exact hlarge.trans (le_max_right _ _)
        | remote =>
          rw [min_eq_left hlarge]
          exact le_max_right _ _
      have hlarge : (100000 : ℚ) ≤ r.renewSeconds := by exact_mod_cast hlarge
      apply (min_le_left _ _).trans
      linarith

theorem addSeconds_eq (h : now.addSeconds n = .ok lease) : (lease : ℚ) = now + n * 1000000 := by
  rw [Instant.addSeconds] at h
  split at h
  · next hrange =>
    have hlease := Except.ok.inj h
    have heq : (lease : Int) = now + n * 1000000 := by
      rw [← hlease]
      exact Int.toNat_of_nonneg hrange.1
    exact_mod_cast heq
  · cases h

/-- The worker holds the execution, and the lease does not run out before the next renewal. -/
structure LeaseRenewer.Holds (r : LeaseRenewer) (s : JudgeStore) (taken : Instant)
    (row : Execution) (lease : Instant) : Prop where
  found : s.executions.find? r.executionId = some row
  running : row.status = .running
  owner : row.workerId = some r.workerId
  notCanceled : row.cancelRequested = false
  expires : row.leaseExpiresAt = some lease
  lasts : (taken : ℚ) + r.renewSeconds * 1000000 ≤ lease

theorem LeaseRenewer.Holds.before_expiry (h : r.Holds s taken row lease)
    (hdelay : delay < 2 / 3 * r.renewSeconds) (hnow : r.inTime delay taken now) : now < lease := by
  have hlasts := h.lasts
  have hinterval := r.interval_le
  rw [inTime] at hnow
  have hlt : (now : ℚ) < lease := by linarith
  exact_mod_cast hlt

theorem LeaseRenewer.Holds.held (h : r.Holds s taken row lease) (hnow : now ≤ lease) :
    heldBy now r.executionId r.workerId row = true :=
  (heldBy_iff (Table.key_of_find? h.found)).2 ⟨h.owner, h.running, lease, h.expires, hnow⟩

/-- A request that reaches the row while the lease lasts is the worker's, or a cancellation. -/
theorem LeaseRenewer.Holds.row_step (h : r.Holds s taken row lease) (hnow : now < lease)
    (hs : RowStep now row q row') :
    q = some (.renew r.workerId now) ∨ q = some .cancel ∨ q = some (.finish r.workerId now) := by
  have howner {w} (hheld : heldBy now row.executionId w row = true) : w = r.workerId := by
    obtain ⟨hw, _⟩ := (heldBy_iff rfl).1 hheld
    exact Option.some.inj (hw.symm.trans h.owner)
  cases hs with
  | expire hover =>
    obtain ⟨_, l, hl, hle⟩ := leaseOver_iff.1 hover
    have heq := Option.some.inj (hl.symm.trans h.expires)
    rw [heq] at hle
    exact absurd hnow (Nat.not_lt.2 hle)
  | claim w l hqueued =>
    rw [h.running] at hqueued
    cases hqueued
  | renew w l hheld => exact .inl (by rw [howner hheld])
  | cancel => exact .inr (.inl rfl)
  | finish w status columns _ hheld => exact .inr (.inr (by rw [howner hheld]))

theorem LeaseRenewer.leaves.request (h : r.leaves e.op) (hq : e.request? r.executionId = some q) :
    q ≠ .cancel ∧ (∀ now, q ≠ .renew r.workerId now) ∧ ∀ now, q ≠ .finish r.workerId now := by
  obtain ⟨hcancel, hfinish, hrenew⟩ := h
  rw [Event.request?] at hq
  split at hq
  · split at hq
    · obtain ⟨w, _, hclaim⟩ := Option.map_eq_some_iff.1 hq
      subst hclaim
      exact ⟨by simp, by simp, by simp⟩
    · cases hq
  · next room E' res w _ hop hout =>
    split at hq
    · next hE =>
      cases hq
      refine ⟨by simp, by simp, ?_⟩
      intro now heq
      cases heq
      exact hfinish room res (by rw [hop, hE])
    · cases hq
  · next E' w seconds hop hout =>
    split at hq
    · next hE =>
      cases hq
      refine ⟨by simp, ?_, by simp⟩
      intro now heq
      cases heq
      exact hrenew seconds (by rw [hop, hE])
    · cases hq
  · next E' _ hop hout =>
    split at hq
    · next hE => exact absurd (hE ▸ hop) hcancel
    · cases hq
  · cases hq

theorem LeaseRenewer.Holds.other (h : r.Holds s taken row lease) (hnow : e.now < lease)
    (hs : StoreStep sha256 s e s') (hleaves : r.leaves e.op) :
    r.Holds s' taken row lease ∧ e.request? r.executionId = none := by
  obtain ⟨row', labels, hrow', hpath, hlabels⟩ := store_row hs h.found
  have hquiet : ∀ q ∈ labels, ∀ row', ¬ RowStep e.now row q row' := by
    intro q hq row' hstep
    have hcases := h.row_step hnow hstep
    cases q with
    | none => simp at hcases
    | some q =>
      have hmem : q ∈ labels.reduceOption := List.reduceOption_mem_iff.2 hq
      rw [hlabels, Option.mem_toList] at hmem
      obtain ⟨hcancel, hrenew, hfinish⟩ := hleaves.request hmem
      rcases hcases with heq | heq | heq
      · exact hrenew _ (Option.some.inj heq)
      · exact hcancel (Option.some.inj heq)
      · exact hfinish _ (Option.some.inj heq)
  have hnil : labels = [] ∧ row' = row := by
    clear hrow' hlabels
    induction hpath with
    | refl => exact ⟨rfl, rfl⟩
    | next _ hstep ih =>
      obtain ⟨_, heq⟩ := ih fun q hq => hquiet q (List.mem_cons_of_mem _ hq)
      rw [heq] at hstep
      exact absurd hstep (hquiet _ List.mem_cons_self _)
  rw [hnil.1] at hlabels
  rw [hnil.2] at hrow'
  constructor
  · exact ⟨hrow', h.running, h.owner, h.notCanceled, h.expires, h.lasts⟩
  · cases hrequest : e.request? r.executionId with
    | none => rfl
    | some q =>
      rw [hrequest] at hlabels
      cases hlabels

/-- A renewal before the lease is over is accepted, where the clock has room for the next lease. -/
theorem LeaseRenewer.Holds.renewal (h : r.Holds s taken row lease) (hnow : e.now < lease)
    (hs : StoreStep sha256 s e s')
    (hop : e.op = .renewLease r.executionId r.workerId r.renewSeconds) :
    (∃ err, e.outcome = .error err) ∨ e.outcome = .ok (.flag true) ∧
      ∃ lease', r.Holds s' e.now (renewed e.now lease' row) lease' := by
  cases hs with
  | rollback => exact .inl ⟨_, rfl⟩
  | @commit now op _ reply _ hrun =>
    apply Or.inr
    dsimp only at hop hnow ⊢
    subst hop
    obtain ⟨p, hp, he⟩ := map_ok.1 hrun
    cases he
    obtain ⟨lease', hlease', hreply, hs⟩ := renewLease_ok hp
    have hheld := h.held (Nat.le_of_lt hnow)
    rw [h.found, Option.any_some, hheld, h.notCanceled] at hreply
    refine ⟨by rw [hreply]; rfl, lease', ?_, h.running, h.owner, h.notCanceled, rfl, ?_⟩
    · rw [hs, Table.find?_update, h.found, Option.map_some, hheld, h.notCanceled]
      rfl
    · rw [max_eq_right r.renewSeconds_pos] at hlease'
      exact (addSeconds_eq hlease').ge

theorem LeaseRenewer.Claimed.holds {x : RenewerState} (h : r.Claimed sha256 x) :
    ∃ taken row lease, x.taken = some taken ∧ r.Holds x.store taken row lease := by
  obtain ⟨history, e, parameterLimit, request, hop, hseconds, hclaim, hrun, htaken⟩ := h
  obtain ⟨s, taken⟩ := x
  dsimp only at hrun htaken ⊢
  cases hrun with
  | next _ hstep =>
    cases hstep with
    | rollback =>
      dsimp only at hop
      subst hop
      cases hclaim
    | @commit now op _ reply _ hstep =>
      dsimp only at hop
      subst hop
      obtain ⟨p, hp, he⟩ := map_ok.1 hstep
      cases he
      obtain ⟨hreply, _⟩ | ⟨found, task, lease, worker, hmem, _, hlease, hworker, hreply, hs⟩ :=
        claimNext_ok hp
      · rw [hreply] at hclaim
        cases hclaim
      · obtain ⟨hrow, hsel, _⟩ := mem_candidates.1 hmem
        rw [hreply, Event.request?] at hclaim
        dsimp only at hclaim
        split at hclaim
        · next hkey =>
          have hkey : found.executionId = r.executionId := hkey
          rw [hworker, PyStr.encode?_ofString, Option.map_some] at hclaim
          have howner := LeasedWork.Request.claim.inj (Option.some.inj hclaim)
          refine ⟨now, claimed now lease worker found, lease, htaken, ?_, rfl, ?_,
            (selectable_iff.1 hsel).2.1, rfl, ?_⟩
          · rw [hs, claimStore, Table.find?_update, ← hkey]
            erw [Table.find?_mem hrow]
            rw [Option.map_some, if_pos (decide_eq_true rfl)]
          · rw [← howner]
            rfl
          · rw [addSeconds_eq hlease, hseconds]
            have hle : (r.renewSeconds : ℚ) ≤ r.contextSeconds := by
              exact_mod_cast r.renewSeconds_le
            rw [contextSeconds] at hle
            linarith
        · cases hclaim

/-- As long as the renewer runs, the lease is there, and nobody was given the execution. -/
def LeaseRenewer.Kept (r : LeaseRenewer) (events : List RenewerEvent) (x : RenewerState) : Prop :=
  (∀ e, .renewal e ∈ events → e.outcome ≠ .ok (.flag false)) ∧
    ∀ taken ∈ x.taken, (∃ row lease, r.Holds x.store taken row lease) ∧
      ∀ e, .other e ∈ events → e.request? r.executionId = none

theorem LeaseRenewer.Kept.step {events : List RenewerEvent} {x x' : RenewerState}
    {event : RenewerEvent} (h : r.Kept events x) (hdelay : delay < 2 / 3 * r.renewSeconds)
    (hs : RenewerStep sha256 r delay x event x') : r.Kept (event :: events) x' := by
  obtain ⟨haccepted, hkept⟩ := h
  cases hs with
  | @renewal s s' taken e hstep hop hnow =>
    obtain ⟨⟨row, lease, hholds⟩, hothers⟩ := hkept taken rfl
    have hcases := hholds.renewal (hholds.before_expiry hdelay hnow) hstep hop
    have hothers' : ∀ e', .other e' ∈ RenewerEvent.renewal e :: events →
        e'.request? r.executionId = none := by
      intro e' he'
      rcases List.mem_cons.1 he' with heq | hmem
      · cases heq
      · exact hothers e' hmem
    constructor
    · intro e' he'
      rcases List.mem_cons.1 he' with heq | hmem
      · cases heq
        rcases hcases with ⟨err, herr⟩ | ⟨hok, _⟩
        · rw [herr]
          exact fun h => nomatch h
        · rw [hok]
          exact fun h => nomatch h
      · exact haccepted e' hmem
    · intro taken' htaken'
      rcases hcases with ⟨err, herr⟩ | ⟨hok, lease', hholds'⟩
      · rw [herr] at htaken'
        cases htaken'
      · rw [hok] at htaken'
        cases htaken'
        exact ⟨⟨_, lease', hholds'⟩, hothers'⟩
  | lost =>
    constructor
    · intro e he
      rcases List.mem_cons.1 he with heq | hmem
      · cases heq
      · exact haccepted e hmem
    · intro taken htaken
      cases htaken
  | @other s s' taken e hstep hwaits =>
    constructor
    · intro e' he'
      rcases List.mem_cons.1 he' with heq | hmem
      · cases heq
      · exact haccepted e' hmem
    · intro t ht
      obtain ⟨⟨row, lease, hholds⟩, hothers⟩ := hkept t ht
      obtain ⟨hnow, hleaves⟩ := hwaits t ht
      obtain ⟨hholds', hquiet⟩ := hholds.other (hholds.before_expiry hdelay hnow) hstep hleaves
      refine ⟨⟨row, lease, hholds'⟩, ?_⟩
      intro e' he'
      rcases List.mem_cons.1 he' with heq | hmem
      · cases heq
        exact hquiet
      · exact hothers e' hmem

/-- A renewal is due after a third of a lease at most, and two thirds of a lease is how long it
may be held up. No renewal that comes in this time
is refused, whatever others do on the store but cancel. And while the renewer runs, the execution
is its worker's, nobody else was given it, and a result that is ready in time is accepted. -/
theorem lease_kept {events : List RenewerEvent} {x : RenewerState}
    (h : RenewerRun sha256 r delay events x) (hdelay : delay < 2 / 3 * r.renewSeconds) :
    r.interval ≤ r.renewSeconds / 3 ∧ (∀ e, .renewal e ∈ events → e.outcome ≠ .ok (.flag false)) ∧
    ∀ taken ∈ x.taken,
      (∃ row, x.store.executions.find? r.executionId = some row ∧ row.status = .running ∧
        row.workerId = some r.workerId) ∧
      (∀ e, .other e ∈ events → e.request? r.executionId = none) ∧
      ∀ now room result status columns task, r.inTime delay taken now → strip r.workerId ≠ "" →
        Status.among (Status.all.filter Status.terminal) result.status = .ok (some status) →
        (x.store.executions.find? r.executionId).map (·.taskRef) = some task →
        validateFinishResult room r.executionId task result = .ok () →
        bindResult room.encoder result = .ok columns →
        ∃ finished s', x.store.finish room now r.executionId result r.workerId =
          .ok (some finished, s') := by
  have hkept : r.Kept events x := by
    induction h with
    | start hstart =>
      obtain ⟨taken, row, lease, htaken, hholds⟩ := hstart.holds
      constructor
      · intro e he
        cases he
      · intro t ht
        cases htaken.symm.trans ht
        refine ⟨⟨row, lease, hholds⟩, ?_⟩
        intro e he
        cases he
    | next _ hs ih => exact ih.step hdelay hs
  refine ⟨r.interval_le, hkept.1, ?_⟩
  intro taken htaken
  obtain ⟨⟨row, lease, hholds⟩, hothers⟩ := hkept.2 taken htaken
  refine ⟨⟨row, hholds.found, hholds.running, hholds.owner⟩, hothers, ?_⟩
  intro now room result status columns task hnow hworker hstatus htask hvalid hcolumns
  have hbefore := hholds.before_expiry hdelay hnow
  rw [hholds.found, Option.map_some] at htask
  rw [← Option.some.inj htask] at hvalid
  exact ⟨_, _, finish_accepts hworker hstatus hholds.found hvalid hcolumns
    (hholds.held (Nat.le_of_lt hbefore))⟩

end

namespace Sample

def renewer : LeaseRenewer := ⟨.local, "e7", "w1", 60⟩

def renewal : Op := .renewLease renewer.executionId renewer.workerId renewer.renewSeconds

def leasedStore : JudgeStore :=
  (perform sha256 (performAll sha256 .empty queued).2 (clock 2)
    (.claimNext parameterLimit (claim "w1" 60))).2

def renewedStore : JudgeStore :=
  (perform sha256 (perform sha256 leasedStore (clock 22) renewal).2 (clock 42) renewal).2

/-- Another worker asks for work when the lease of the claim is over. -/
def contendedStore : JudgeStore :=
  (perform sha256 renewedStore (clock 62) (.claimNext parameterLimit (claim "w2" 60))).2

theorem renewer_interval : renewer.interval = 20 := by
  rw [LeaseRenewer.interval]
  norm_num [LeaseRenewer.contextSeconds, renewer]

theorem renewer_inTime {before after : Nat} (h : after = before + 20) :
    renewer.inTime 0 (clock before) (clock after) := by
  rw [LeaseRenewer.inTime, renewer_interval, clock, clock, h]
  push_cast
  linarith

theorem renewal_step {s : JudgeStore} {before after : Nat} (h : after = before + 20)
    (haccepted : renewalAccepted (perform sha256 s (clock after) renewal).1.outcome = true) :
    RenewerStep sha256 renewer 0 ⟨s, some (clock before)⟩
      (.renewal (perform sha256 s (clock after) renewal).1)
      ⟨(perform sha256 s (clock after) renewal).2, some (clock after)⟩ := by
  have hnow := perform_now sha256 s (clock after) renewal
  have hop := perform_op sha256 s (clock after) renewal
  have htime : renewer.inTime 0 (clock before) (perform sha256 s (clock after) renewal).1.now := by
    rw [hnow]
    exact renewer_inTime h
  have hstep := RenewerStep.renewal (perform_step sha256 s (clock after) renewal) hop htime
  rw [haccepted, if_pos rfl, hnow] at hstep
  exact hstep

theorem leased {s : JudgeStore} {e : Event} {history : List Event} {request : ClaimRequest}
    (hrun : StoreRun sha256 (e :: history) s) (hop : e.op = .claimNext parameterLimit request)
    (hseconds : request.leaseSeconds = 60) (hclaim : e.request? "e7" = some (.claim "w1")) :
    renewer.Claimed sha256 ⟨s, some e.now⟩ :=
  ⟨_, _, _, _, hop, hseconds, hclaim, hrun, rfl⟩

theorem renewer_run : ∃ events x, RenewerRun sha256 renewer 0 events x ∧
    x.store = contendedStore ∧ x.taken = some (clock 42) := by
  have hclaim : Event.request? "e7" (perform sha256 (performAll sha256 .empty queued).2 (clock 2)
      (.claimNext parameterLimit (claim "w1" 60))).1 = some (.claim "w1") := by
    decide +kernel
  have hclaimed := leased ((performAll_run sha256 queued).next
    (perform_step sha256 _ (clock 2) (.claimNext parameterLimit (claim "w1" 60))))
    (perform_op _ _ _ _) rfl hclaim
  rw [perform_now] at hclaimed
  have hfirst : 22 = 2 + 20 := rfl
  have hsecond : 42 = 22 + 20 := rfl
  have hthird : 62 = 42 + 20 := rfl
  have hrenewed := (Run.start hclaimed).next (renewal_step hfirst (by decide +kernel))
  have hrenewed := hrenewed.next (renewal_step hsecond (by decide +kernel))
  have hother := hrenewed.next (.other (perform_step sha256 _ (clock 62)
    (.claimNext parameterLimit (claim "w2" 60))) (by
      intro t ht
      cases ht
      rw [perform_now, perform_op]
      exact ⟨renewer_inTime hthird, by simp [LeaseRenewer.leaves]⟩))
  refine ⟨_, _, hother, ?_, rfl⟩
  rw [contendedStore, renewedStore, leasedStore]

end Sample

/-- A lease of a minute that was renewed twice. -/
theorem lease_kept_sample : ∃ row, Sample.contendedStore.executions.find? "e7" = some row ∧
    row.status = .running ∧ row.workerId = some "w1" := by
  obtain ⟨events, x, hrun, hstore, htaken⟩ := Sample.renewer_run
  have hdelay : (0 : ℚ) < 2 / 3 * Sample.renewer.renewSeconds := by
    norm_num [LeaseRenewer.renewSeconds, LeaseRenewer.contextSeconds, Sample.renewer]
  have hkept := ((lease_kept hrun hdelay).2.2 _ htaken).1
  rw [hstore] at hkept
  exact hkept

end BrunostJudge
