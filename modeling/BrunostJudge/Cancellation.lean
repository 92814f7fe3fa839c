import BrunostJudge.Finality

namespace BrunostJudge
open Python Relational Transition LeasedWork JudgeStore
set_option autoImplicit true

/-- A lease of the execution was extended. -/
def Event.renews (E : String) (e : Event) : Bool :=
  match e.op, e.outcome with
  | .renewLease E' _ _, .ok (.flag true) => E' = E
  | _, _ => false

theorem renews_eq (E : String) (e : Event) :
    e.renews E = (e.request? E).any Request.isRenew := by
  unfold Event.renews Event.request?
  grind [Request.isRenew, Request.isRenew_claim]

section
variable {s s' t : JudgeStore} {r : Execution} {e : Event} {E : String} {h l : List Event}
  {now : Instant} {sha256 : ByteArray → String}

theorem result_cancelRow (ht : r.status.terminal) (now : Instant) :
    result (cancelRow now r) = result r := by
  have hne : r.status ≠ .queued := by
    intro hq
    rw [hq] at ht
    cases ht
  simp [result, cancelRow, hne]

theorem cancel_step (hs : StoreStep sha256 s e s') (he : e.op = .cancel E)
    (hr : s.executions.find? E = some r) :
    s'.executions.find? E = some (cancelRow e.now r) := by
  cases hs with
  | rollback hrun => cases he; cases hrun
  | commit hrun =>
    cases he
    cases hrun
    obtain ⟨hnone, _⟩ | ⟨q, hq, hc⟩ := cancel_eq s _ E
    · cases hnone.symm.trans hr
    · rw [hc]
      cases Option.some.inj (hq.symm.trans hr)
      have hkey : r.executionId = E := Table.key_of_find? hr
      rw [Table.find?_update, hr]
      simp [hkey]

theorem canceled_requests {acts : List (Act String Instant Outcome)}
    (hacts : ∀ q ∈ requests acts, q.claimant? = none ∧ q.isRenew = false)
    (hrequests : requests acts = l.filterMap (Event.request? E)) :
    ∀ e ∈ l, e.claimant? E = none ∧ e.renews E = false := by
  intro e he
  rw [claimant?_eq, renews_eq]
  cases hq : e.request? E with
  | none => exact ⟨rfl, rfl⟩
  | some q =>
    apply hacts
    rw [hrequests]
    exact List.mem_filterMap.2 ⟨e, he, hq⟩

/-- What is left to a canceled execution: to keep its lease as it is, or to be over and void. -/
theorem canceled_outcome {o : Outcome} (hp : Represents r p) (hv : o.Void) (hdone : p = .done o) :
    r.status = .canceled ∧ r.leaseExpiresAt = none ∧ r.Unpublished := by
  subst hdone
  obtain ⟨ht, ho⟩ := hp.done_inv
  obtain ⟨_, hl, _⟩ := hp.of_terminal ht
  rw [← ho] at hv
  exact ⟨hv.1, hl, hv.2⟩

theorem canceled_run (hr : s.executions.find? E = some r) (hp : Represents r p)
    (hc : (∃ w l, p = .running w l true) ∨ ∃ o, Outcome.Void o ∧ p = .done o)
    (hpath : StorePath sha256 s l t) :
    (∀ e ∈ l, e.claimant? E = none ∧ e.renews E = false) ∧
      ∃ r', t.executions.find? E = some r' ∧
        ((r'.status = .running ∧ r'.leaseExpiresAt = r.leaseExpiresAt) ∨
          (r'.status = .canceled ∧ r'.leaseExpiresAt = none ∧ r'.Unpublished)) := by
  obtain ⟨r', p', acts, hr', _, hp', hacts, hrequests⟩ := path_lifecycle hpath hr hp
  obtain ⟨w, l₀, hrunning⟩ | ⟨o, hv, hdone⟩ := hc
  · subst hrunning
    obtain ⟨hend, hall⟩ := canceled_path hacts
    refine ⟨canceled_requests hall hrequests, r', hr', ?_⟩
    obtain hsame | ⟨o, hv, hdone⟩ := hend
    · subst hsame
      obtain ⟨_, _, hl, _⟩ := hp.running_inv
      obtain ⟨hstatus, _, hl', _⟩ := hp'.running_inv
      exact .inl ⟨hstatus, hl'.trans hl.symm⟩
    · exact .inr (canceled_outcome hp' hv hdone)
  · subst hdone
    obtain ⟨hend, hall⟩ := done_path hacts
    refine ⟨canceled_requests ?_ hrequests, r', hr', .inr (canceled_outcome hp' hv hend)⟩
    intro q hq
    rw [hall q hq]
    exact ⟨rfl, rfl⟩

/-- From the moment a cancellation is recorded the execution can only end canceled and void. -/
theorem cancel_authoritative (hrun : StoreRun sha256 h s) (hr : s.executions.find? E = some r)
    (hcancel : StoreStep sha256 s e s') (he : e.op = .cancel E) :
    (r.status = .queued ∨ r.status = .running → ∀ l t, StorePath sha256 s' l t →
      (∀ e ∈ l, e.claimant? E = none ∧ e.renews E = false) ∧
      ∃ r', t.executions.find? E = some r' ∧ r'.status ≠ .queued ∧ r'.status ≠ .completed ∧
        r'.status ≠ .failed ∧ (r'.leaseExpiresAt = r.leaseExpiresAt ∨ r'.leaseExpiresAt = none) ∧
        (r'.status.terminal → r'.status = .canceled ∧ r'.Unpublished)) ∧
    (r.status.terminal → s'.getExecution E = s.getExecution E ∧
      ∃ r', s'.executions.find? E = some r' ∧ r'.status = r.status ∧
        r'.toResultColumns = r.toResultColumns) := by
  have hr' := cancel_step hcancel he hr
  obtain ⟨p, hp⟩ := run_represents hrun hr
  constructor
  · intro hstatus l t hpath
    have hmove : RowStep e.now r (some .cancel) (cancelRow e.now r) := .cancel
    obtain ⟨a, p', hstep, hp', ha⟩ := hmove.refines hp
    have hlive : ∀ o, p ≠ .done o := by
      intro o ho
      subst ho
      obtain ⟨ht, _⟩ := hp.done_inv
      obtain hq | hq := hstatus <;> rw [hq] at ht <;> cases ht
    obtain ⟨hnone, r', hr'', hend⟩ := canceled_run hr' hp' (hstep.cancel_effect ha hlive) hpath
    refine ⟨hnone, r', hr'', ?_⟩
    obtain ⟨hrunning, hl⟩ | ⟨hcanceled, hl, hvoid⟩ := hend
    · rw [hrunning, hl]
      exact ⟨nofun, nofun, nofun, .inl rfl, nofun⟩
    · rw [hcanceled, hl]
      exact ⟨nofun, nofun, nofun, .inr rfl, fun _ => ⟨rfl, hvoid⟩⟩
  · intro ht
    constructor
    · rw [getExecution, getExecution, hr', hr, Option.map_some, Option.map_some,
        result_cancelRow ht]
    · have hne : r.status ≠ .queued := by
        intro hq
        rw [hq] at ht
        cases ht
      exact ⟨_, hr', by simp [cancelRow, hne], rfl⟩

/-- A worker finishes after its execution was canceled. -/
theorem cancel_authoritative_sample :
    let s := (performAll Sample.sha256 .empty Sample.claimed).2
    let s' := (perform Sample.sha256 s (Sample.clock 5) (.cancel "e7")).2
    ∃ r, (performAll Sample.sha256 s' [Sample.finish]).2.executions.find? "e7" = some r ∧
      r.status = .canceled ∧ r.Unpublished := by
  intro s s'
  have hrow : (s.executions.find? "e7").any (fun r => r.status = .running) = true := by
    decide +kernel
  obtain ⟨r, hr, hstatus⟩ := (Option.any_eq_true _ _).1 hrow
  have hrunning : r.status = .running := of_decide_eq_true hstatus
  obtain ⟨_, r', hr', _, _, _, _, hend⟩ := (cancel_authoritative
    (performAll_run Sample.sha256 Sample.claimed) hr
    (perform_step Sample.sha256 s (Sample.clock 5) (.cancel "e7")) (perform_op _ _ _ _)).1
    (.inr hrunning) _ _ (performAll_path Sample.sha256 s' [Sample.finish])
  have hover : ((performAll Sample.sha256 s' [Sample.finish]).2.executions.find? "e7").all
      (fun r => r.status.terminal) = true := by decide +kernel
  rw [hr', Option.all_some] at hover
  obtain ⟨hcanceled, hvoid⟩ := hend hover
  exact ⟨r', hr', hcanceled, hvoid⟩

end

end BrunostJudge
