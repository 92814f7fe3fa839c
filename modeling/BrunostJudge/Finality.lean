import BrunostJudge.Lifecycle

namespace BrunostJudge
open Python Relational Transition LeasedWork JudgeStore
set_option autoImplicit true

/-- A `finish` of an execution that returned its result. -/
def Event.acceptedFinish (E : String) (e : Event) : Bool :=
  match e.op, e.outcome with
  | .finish _ E' _ _, .ok (.execution (some _)) => E' = E
  | _, _ => false

/-- The worker who claimed an execution in this event. -/
def Event.claimant? (E : String) (e : Event) : Option String :=
  match e.op, e.outcome with
  | .claimNext _ request, .ok (.claim (some c)) =>
    if c.execution.executionId = E then request.workerId.encode? else none
  | _, _ => none

/-- What every row of the executions table satisfies. -/
structure Execution.WellFormed (r : Execution) : Prop where
  status : r.status.text ∈ ["queued", "running", "completed", "failed", "canceled"]
  queued : r.status = .queued → r.workerId = none ∧ r.leaseExpiresAt = none ∧
    r.cancelRequested = false ∧ r.toResultColumns = .empty
  running : r.status = .running → r.workerId ≠ none ∧ r.leaseExpiresAt ≠ none ∧
    r.toResultColumns = .empty
  terminal : r.status.terminal → r.workerId = none ∧ r.leaseExpiresAt = none

theorem Represents.wellFormed (h : Represents r p) : r.WellFormed where
  status := by cases r.status <;> decide
  queued := by
    intro hq
    obtain ⟨hcancel, hw, hl, hc, _⟩ := h.of_queued hq
    exact ⟨hw, hl, hcancel, hc⟩
  running := by
    intro hr
    obtain ⟨w, l, hw, hl, hc, _⟩ := h.of_running hr
    rw [hw, hl]
    exact ⟨nofun, nofun, hc⟩
  terminal := by
    intro ht
    obtain ⟨hw, hl, _⟩ := h.of_terminal ht
    exact ⟨hw, hl⟩

theorem acceptedFinish_eq (E : String) (e : Event) :
    e.acceptedFinish E = (e.request? E).any Request.isFinish := by
  unfold Event.acceptedFinish Event.request?
  grind [Request.isFinish, Request.isFinish_claim]

theorem claimant?_eq (E : String) (e : Event) :
    e.claimant? E = (e.request? E).bind Request.claimant? := by
  unfold Event.claimant? Event.request?
  grind [Request.claimant?, Request.claimant?_claim]

theorem countP_acceptedFinish (E : String) (h : List Event) :
    h.countP (Event.acceptedFinish E) =
      (h.filterMap (Event.request? E)).countP Request.isFinish := by
  rw [List.countP_filterMap]
  congr
  funext e
  rw [acceptedFinish_eq]
  cases e.request? E <;> rfl

theorem findSome?_claimant (E : String) (h : List Event) :
    h.findSome? (Event.claimant? E) =
      (h.filterMap (Event.request? E)).findSome? Request.claimant? := by
  induction h with
  | nil => rfl
  | cons e h ih =>
    rw [List.findSome?_cons, claimant?_eq, List.filterMap_cons]
    cases e.request? E with
    | none => exact ih
    | some q =>
      simp only [Option.bind_some, List.findSome?_cons]
      rw [ih]

section
variable {s t : JudgeStore} {r : Execution} {E : String} {h l : List Event}
  {sha256 : ByteArray → String}

theorem run_represents (hrun : StoreRun sha256 h s) (hr : s.executions.find? E = some r) :
    ∃ p, Represents r p := by
  obtain ⟨p, _, hp, _⟩ := run_lifecycle hrun hr
  exact ⟨p, hp⟩

/-- Every row of a reachable store is well formed. -/
theorem reachable_wellFormed (hrun : StoreRun sha256 h s) (hr : r ∈ s.executions.rows) :
    r.WellFormed := by
  obtain ⟨p, hp⟩ := run_represents hrun (Table.find?_mem hr)
  exact hp.wellFormed

theorem reachable_wellFormed_sample :
    ∃ r ∈ (performAll Sample.sha256 .empty Sample.claimed).2.executions.rows,
      r.status = .running ∧ r.WellFormed := by
  have hrow : ((performAll Sample.sha256 .empty Sample.claimed).2.executions.rows.any
      fun r => r.status = .running) = true := by decide +kernel
  obtain ⟨r, hr, hstatus⟩ := List.any_eq_true.1 hrow
  have hrun := performAll_run Sample.sha256 Sample.claimed
  exact ⟨r, hr, of_decide_eq_true hstatus, reachable_wellFormed hrun hr⟩

theorem terminal_path (hrun : StoreRun sha256 h s) (hr : s.executions.find? E = some r)
    (ht : r.status.terminal) (hpath : StorePath sha256 s l t) :
    ∃ r', t.executions.find? E = some r' ∧ r'.status = r.status ∧
      r'.toResultColumns = r.toResultColumns := by
  obtain ⟨p, hp⟩ := run_represents hrun hr
  obtain ⟨_, _, hdone⟩ := hp.of_terminal ht
  obtain ⟨r', p', acts, hr', _, hp', hacts, _⟩ := path_lifecycle hpath hr hp
  rw [hdone] at hacts
  obtain ⟨hp'', _⟩ := done_path hacts
  subst hp''
  obtain ⟨_, ho⟩ := hp'.done_inv
  exact ⟨r', hr', congrArg Prod.fst ho, congrArg Prod.snd ho⟩

theorem finish_count (hrun : StoreRun sha256 h s) (E : String) :
    h.countP (Event.acceptedFinish E) ≤ 1 := by
  rw [countP_acceptedFinish]
  obtain ⟨_, hnil⟩ | ⟨r, p, acts, _, _, hacts, hrequests⟩ := run_requests hrun E
  · rw [hnil]
    simp
  · rw [← hrequests]
    exact (finish_once hacts).1

theorem acceptedFinish_cases {e : Event} (hs : StoreStep sha256 s e t) (he : e.acceptedFinish E) :
    ∃ room res w status columns r, e.op = .finish room E res w ∧ strip w ≠ "" ∧
      Status.among (Status.all.filter Status.terminal) res.status = .ok (some status) ∧
      s.executions.find? E = some r ∧ validateFinishResult room E r.taskRef res = .ok () ∧
      bindResult room.encoder res = .ok columns ∧ heldBy e.now E w r ∧
      t = s.finishStore e.now w status columns r := by
  obtain ⟨now, op, outcome⟩ := e
  unfold Event.acceptedFinish at he
  split at he
  · rename_i room E' res w x hop houtcome
    cases hop
    cases houtcome
    have hE : E' = E := of_decide_eq_true he
    subst hE
    obtain ⟨⟨reply, t'⟩, hp, hreply⟩ := map_ok.1 (step_ok.1 hs)
    cases hreply
    obtain ⟨hw, ⟨hnone, _⟩ | ⟨status, columns, r, hstatus, hr, hvalid, hcolumns, hheld, _, ht⟩⟩ :=
      finish_ok hp
    · cases hnone
    · exact ⟨room, res, w, status, columns, r, rfl, hw, hstatus, hr, hvalid, hcolumns, hheld, ht⟩
  · cases he

/-- Terminal results are final, and an execution is finished at most once, by the worker who
claimed it last and who still holds its lease. -/
theorem terminal_results_final (hrun : StoreRun sha256 h s) :
    (∀ E r l t, s.executions.find? E = some r → r.status.terminal → StorePath sha256 s l t →
      ∃ r', t.executions.find? E = some r' ∧ r'.status = r.status ∧
        r'.toResultColumns = r.toResultColumns) ∧
    (∀ E, h.countP (Event.acceptedFinish E) ≤ 1) ∧
    ∀ E e t, StoreStep sha256 s e t → e.acceptedFinish E →
      ∃ room res w r l, e.op = .finish room E res w ∧ s.executions.find? E = some r ∧
        r.status = .running ∧ r.workerId = some w ∧ r.leaseExpiresAt = some l ∧ e.now ≤ l ∧
        h.findSome? (Event.claimant? E) = some w := by
  refine ⟨fun E r l t hr ht hpath => terminal_path hrun hr ht hpath, finish_count hrun, ?_⟩
  intro E e t hs he
  obtain ⟨room, res, w, status, columns, r, hop, _, _, hr, _, _, hheld, _⟩ :=
    acceptedFinish_cases hs he
  obtain ⟨hw, hstatus, l, hl, hle⟩ := (heldBy_iff (Table.key_of_find? hr)).1 hheld
  refine ⟨room, res, w, r, l, hop, hr, hstatus, hw, hl, hle, ?_⟩
  obtain ⟨p, acts, hp, hacts, hrequests⟩ := run_lifecycle hrun hr
  obtain ⟨w', l', hw', _, _, hp'⟩ := hp.of_running hstatus
  rw [hp'] at hacts
  rw [findSome?_claimant, ← hrequests, owner_path hacts]
  exact hw'.symm.trans hw

theorem terminal_results_final_sample :
    let s := (performAll Sample.sha256 .empty Sample.claimed).2
    let t := (performAll Sample.sha256 .empty (Sample.claimed ++ [Sample.finish])).2
    (∃ r, t.executions.find? "e7" = some r ∧ r.status = .completed ∧
      ∃ r', (performAll Sample.sha256 t [(Sample.clock 40, .cancel "e7")]).2.executions.find? "e7" =
          some r' ∧ r'.status = r.status ∧ r'.toResultColumns = r.toResultColumns) ∧
    (performAll Sample.sha256 .empty (Sample.claimed ++ [Sample.finish])).1.countP
      (Event.acceptedFinish "e7") ≤ 1 ∧
    ∃ room res w r l, Sample.finish.2 = .finish room "e7" res w ∧ s.executions.find? "e7" = some r ∧
      r.status = .running ∧ r.workerId = some w ∧ r.leaseExpiresAt = some l ∧ Sample.finish.1 ≤ l ∧
      (performAll Sample.sha256 .empty Sample.claimed).1.findSome? (Event.claimant? "e7") =
        some w := by
  intro s t
  have hclaimed := performAll_run Sample.sha256 Sample.claimed
  have hfinished := performAll_run Sample.sha256 (Sample.claimed ++ [Sample.finish])
  have hcompleted : (t.executions.find? "e7").any (fun r => r.status = .completed) = true := by
    decide +kernel
  obtain ⟨r, hr, hstatus⟩ := (Option.any_eq_true _ _).1 hcompleted
  have hstatus' : r.status = .completed := of_decide_eq_true hstatus
  have hcancel := performAll_path Sample.sha256 t [(Sample.clock 40, .cancel "e7")]
  refine ⟨⟨r, hr, hstatus', ?_⟩, ?_, ?_⟩
  · exact (terminal_results_final hfinished).1 "e7" r _ _ hr (by rw [hstatus']; rfl) hcancel
  · exact (terminal_results_final hfinished).2.1 "e7"
  · have hstep := perform_step Sample.sha256 s Sample.finish.1 Sample.finish.2
    have he : (perform Sample.sha256 s Sample.finish.1 Sample.finish.2).1.acceptedFinish "e7" =
      true := by decide +kernel
    have haccepted := (terminal_results_final hclaimed).2.2 "e7" _ _ hstep he
    rw [perform_op, perform_now] at haccepted
    exact haccepted

end

end BrunostJudge
