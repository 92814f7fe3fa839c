import BrunostJudge.Finality

namespace BrunostJudge
open Python Relational Transition LeasedWork JudgeStore
set_option autoImplicit true

/-- The columns a canceled execution is not to fill. -/
def ResultColumns.ShowsNothing (c : ResultColumns) : Prop :=
  c.score = none ∧ c.scoresJson = .obj [] ∧ c.winner = none ∧ c.artifactsJson = .obj []

def JudgeStore.CanceledShowNothing (s : JudgeStore) : Prop :=
  ∀ r ∈ s.executions.rows, r.status = .canceled → r.ShowsNothing

/-- A result without a score, scores, a winner or artifacts. -/
def ExecutionResult.Blank (res : ExecutionResult) : Prop :=
  res.score = .null ∧ res.scores = .obj [] ∧ res.winner = .null ∧ res.artifacts = .obj []

/-- A worker hands in a result under the status `canceled` for an execution that nobody
canceled, and `finish` has no objection. -/
def ReportsCanceled (s : JudgeStore) (e : Event) : Prop :=
  ∃ room E res w r columns, e.op = .finish room E res w ∧ strip w ≠ "" ∧
    s.executions.find? E = some r ∧ heldBy e.now E w r ∧ r.cancelRequested = false ∧
      res.status = .text Status.canceled.text ∧
    validateFinishResult room E r.taskRef res = .ok () ∧
    bindResult room.encoder res = .ok columns ∧ ¬res.Blank

theorem bindResult_ok (h : bindResult encoder res = .ok columns) :
    bindReal res.score = .ok columns.score ∧ bindText res.winner = .ok columns.winner ∧
      columns.scoresJson = res.scores ∧ columns.artifactsJson = res.artifacts := by
  obtain ⟨metrics, _, h⟩ := bind_ok.1 h
  obtain ⟨scores, hscores, h⟩ := bind_ok.1 h
  obtain ⟨artifacts, hartifacts, h⟩ := bind_ok.1 h
  obtain ⟨score, hscore, h⟩ := bind_ok.1 h
  obtain ⟨winner, hwinner, h⟩ := bind_ok.1 h
  obtain ⟨reason, _, h⟩ := bind_ok.1 h
  cases pure_ok.1 h
  exact ⟨hscore, hwinner, (writeJson_ok.1 hscores).2, (writeJson_ok.1 hartifacts).2⟩

theorem bindReal_none : bindReal value = .ok none ↔ value = .null ∨ value = .num .nan := by
  cases value with
  | null => simp [bindReal]
  | num n =>
    cases n with
    | int i =>
      rw [bindReal, map_ok]
      simp
    | _ => simp [bindReal]
  | _ => simp [bindReal]

theorem bindText_none : bindText value = .ok none ↔ value = .null := by
  cases value with
  | null => simp [bindText]
  | str s =>
    rw [bindText]
    cases bindStr s <;> simp [Except.map]
  | _ => simp [bindText]

theorem copied_ok {res : ExecutionResult} : res.copied copies = .ok payload ↔
    (∀ f ∈ res.asDict, f.2.nesting 1 ≤ copies) ∧ payload = res.asDict := by
  rw [ExecutionResult.copied]
  split
  · next hroom =>
    simp only [List.all_eq_true, decide_eq_true_eq] at hroom
    exact ⟨fun h => ⟨hroom, (Except.ok.inj h).symm⟩, fun ⟨_, h⟩ => by rw [h]⟩
  · next hroom =>
    simp only [List.all_eq_true, decide_eq_true_eq] at hroom
    exact iff_of_false nofun fun h => hroom h.1

theorem validateFinishResult_ok (h : validateFinishResult room E taskRef res = .ok ()) :
    res.executionId = E ∧ res.taskRef = taskRef ∧ (∀ f ∈ res.asDict, f.2.nesting 1 ≤ room.copies) ∧
      validateResultPayload room.encoder res.asDict = .ok [] := by
  rw [validateFinishResult] at h
  obtain ⟨hid, h⟩ := guard_ok.1 h
  obtain ⟨href, h⟩ := guard_ok.1 h
  obtain ⟨payload, hpayload, h⟩ := bind_ok.1 h
  obtain ⟨errors, herrors, h⟩ := bind_ok.1 h
  obtain ⟨hshallow, hsame⟩ := copied_ok.1 hpayload
  rw [hsame] at herrors
  by_cases hnil : errors = []
  · subst hnil
    exact ⟨not_not.1 hid, not_not.1 href, hshallow, herrors⟩
  · rw [if_pos hnil] at h
    cases h

theorem validateFinishResult_score (h : validateFinishResult room E taskRef res = .ok ()) :
    res.score ≠ .num .nan := by
  intro hnan
  obtain ⟨_, _, _, hpayload⟩ := validateFinishResult_ok h
  obtain ⟨_, hscore, _⟩ := validateResultPayload_accepts hpayload
  have hget : res.asDict.get "score" = res.score := rfl
  rw [hget, hnan] at hscore
  cases hscore

theorem showsNothing_iff (hvalid : validateFinishResult room E taskRef res = .ok ())
    (hcolumns : bindResult encoder res = .ok columns) : columns.ShowsNothing ↔ res.Blank := by
  obtain ⟨hscore, hwinner, hscores, hartifacts⟩ := bindResult_ok hcolumns
  have hnan := validateFinishResult_score hvalid
  have hscore' : columns.score = none ↔ res.score = .null := by
    constructor
    · intro hnone
      rw [hnone] at hscore
      exact (bindReal_none.1 hscore).resolve_right hnan
    · intro hnull
      exact Except.ok.inj (hscore.symm.trans (bindReal_none.2 (.inl hnull)))
  have hwinner' : columns.winner = none ↔ res.winner = .null := by
    constructor
    · intro hnone
      rw [hnone] at hwinner
      exact bindText_none.1 hwinner
    · intro hnull
      exact Except.ok.inj (hwinner.symm.trans (bindText_none.2 hnull))
  rw [ResultColumns.ShowsNothing, ExecutionResult.Blank, hscore', hwinner', hscores, hartifacts]

section
variable {s t : JudgeStore} {r r' : Execution} {e : Event} {E : String} {h : List Event}
  {sha256 : ByteArray → String}

theorem finished_showsNothing (hvalid : validateFinishResult room E taskRef res = .ok ())
    (hcolumns : bindResult encoder res = .ok columns) :
    (finished now status columns r).ShowsNothing ↔ r.cancelRequested = true ∨ res.Blank := by
  cases hcancel : r.cancelRequested with
  | true => simp [finished, hcancel, ResultColumns.ShowsNothing, ResultColumns.empty]
  | false =>
    rw [← showsNothing_iff hvalid hcolumns]
    simp [finished, hcancel]

/-- Without an accepted result a canceled row shows nothing, or was canceled before. -/
theorem unfinished_showsNothing (hrun : StoreRun sha256 h s) (hs : StoreStep sha256 s e t)
    (hfinish : e.acceptedFinish E = false) (hr' : t.executions.find? E = some r')
    (hcanceled : r'.status = .canceled) :
    r'.ShowsNothing ∨ ∃ r, s.executions.find? E = some r ∧ r.status = .canceled ∧
      r.toResultColumns = r'.toResultColumns := by
  cases hr : s.executions.find? E with
  | none =>
    obtain ⟨_, hnone | ⟨request, manifest, fp, _, hnew⟩⟩ := store_absent hs hr
    · cases hnone.symm.trans hr'
    · cases Option.some.inj (hnew.symm.trans hr')
      cases hcanceled
  | some r =>
    obtain ⟨p, hp⟩ := run_represents hrun hr
    obtain ⟨q, p', acts, hq, _, hp', hacts, hrequests⟩ := path_lifecycle (Path.single hs) hr hp
    cases Option.some.inj (hq.symm.trans hr')
    obtain ⟨_, _, hdone⟩ := hp'.of_terminal (by rw [hcanceled]; rfl)
    have hno : ∀ q ∈ requests acts, q.isFinish = false := by
      intro q hq
      rw [hrequests, List.filterMap_cons, List.filterMap_nil] at hq
      cases hrequest : e.request? E with
      | none => rw [hrequest] at hq; cases hq
      | some q' =>
        rw [hrequest] at hq
        cases List.mem_singleton.1 hq
        rw [acceptedFinish_eq, hrequest] at hfinish
        exact hfinish
    obtain hvoid | hbefore := unfinished_path hacts hdone hno
    · exact .inl ⟨hvoid.2.score, hvoid.2.scores, hvoid.2.winner, hvoid.2.artifacts⟩
    · subst hbefore
      obtain ⟨_, ho⟩ := hp.done_inv
      refine .inr ⟨r, rfl, ?_, congrArg Prod.snd ho⟩
      rw [← hcanceled]
      exact congrArg Prod.fst ho

theorem step_showsNothing (hrun : StoreRun sha256 h s) (hs : StoreStep sha256 s e t)
    (hshow : s.CanceledShowNothing) (he : ¬ReportsCanceled s e) : t.CanceledShowNothing := by
  intro r' hmem hcanceled
  have hr' : t.executions.find? r'.executionId = some r' := Table.find?_mem hmem
  cases hfinish : e.acceptedFinish r'.executionId with
  | false =>
    obtain hnothing | ⟨r, hr, hbefore, hsame⟩ :=
      unfinished_showsNothing hrun hs hfinish hr' hcanceled
    · exact hnothing
    · rw [← hsame]
      exact hshow r (Table.mem_of_find? hr) hbefore
  | true =>
    obtain ⟨room, res, w, status, columns, r, hop, hw, hstatus, hr, hvalid, hcolumns, hheld, ht⟩ :=
      acceptedFinish_cases hs hfinish
    have hrow : r' = finished e.now status columns r := by
      have hfinished := finishStore_row status columns hr hheld
      rw [← ht] at hfinished
      exact Option.some.inj (hr'.symm.trans hfinished)
    rw [hrow] at hcanceled ⊢
    rw [finished_showsNothing hvalid hcolumns]
    by_contra hnot
    obtain ⟨hcancel, hblank⟩ := not_or.1 hnot
    apply he
    have hcancel' : r.cancelRequested = false := Bool.eq_false_iff.2 hcancel
    have hreported : res.status = .text Status.canceled.text := by
      have hstatus' : status = .canceled := by simpa [finished, hcancel'] using hcanceled
      rw [← hstatus']
      exact (among_terminal hstatus).2
    exact ⟨_, _, res, w, r, columns, hop, hw, hr, hheld, hcancel', hreported, hvalid,
      hcolumns, hblank⟩

theorem reported_showsResult (hs : StoreStep sha256 s e t) (he : ReportsCanceled s e) :
    ¬t.CanceledShowNothing := by
  obtain ⟨room, E, res, w, r, columns, hop, hw, hr, hheld, hcancel, hstatus, hvalid, hcolumns,
    hblank⟩ := he
  have hamong : Status.among (Status.all.filter Status.terminal) res.status =
      .ok (some .canceled) := by
    rw [hstatus]
    decide
  have haccepted := finish_accepts hw hamong hr hvalid hcolumns hheld
  have ht : t = s.finishStore e.now w .canceled columns r := by
    cases hs with
    | rollback hrun =>
      cases hop
      rw [Op.run, haccepted] at hrun
      cases hrun
    | commit hrun =>
      cases hop
      obtain ⟨⟨reply, t'⟩, hp, he⟩ := map_ok.1 hrun
      cases hp.symm.trans haccepted
      exact (Prod.mk.inj he).2.symm
  intro hshow
  have hrow : t.executions.find? E = some (finished e.now .canceled columns r) := by
    rw [ht]
    exact finishStore_row _ _ hr hheld
  have hnothing := hshow _ (Table.mem_of_find? hrow) (by simp [finished])
  obtain hcancel' | hblank' := (finished_showsNothing hvalid hcolumns).1 hnothing
  · rw [hcancel] at hcancel'
    cases hcancel'
  · exact hblank hblank'

/-- Canceled executions show nothing throughout a run exactly when no worker hands in a result
under the status `canceled` for an execution that nobody canceled. -/
theorem canceled_show_nothing_iff (hrun : StoreRun sha256 h s) :
    (∀ l₁ l₂ s₁, h = l₂ ++ l₁ → StoreRun sha256 l₁ s₁ → s₁.CanceledShowNothing) ↔
      ∀ l₁ l₂ e s₁, h = l₂ ++ e :: l₁ → StoreRun sha256 l₁ s₁ → ¬ReportsCanceled s₁ e := by
  constructor
  · intro hshow l₁ l₂ e s₁ hl hrun₁ he
    subst hl
    obtain ⟨s₂, hrun₂, _⟩ := hrun.split
    cases hrun₂ with
    | next hrun₁' hs =>
      cases run_functional hrun₁ hrun₁'
      exact reported_showsResult hs he (hshow (e :: l₁) l₂ s₂ rfl (.next hrun₁ hs))
  · intro hclean l₁ l₂ s₁ hl hrun₁
    subst hl
    clear hrun
    induction hrun₁ generalizing l₂ with
    | start hinit =>
      subst hinit
      intro r hr
      exact absurd hr List.not_mem_nil
    | @next l s₁ e s₂ hrun₁ hs ih =>
      have hshow := ih (l₂ ++ [e]) (by simpa using hclean)
      exact step_showsNothing hrun₁ hs hshow (hclean l l₂ e s₁ rfl hrun₁)

/-- Nobody canceled the execution; its worker reports it as canceled, with a score. -/
def Sample.reportCanceled : List (Instant × Op) :=
  claimed ++ [(clock 30, .finish room "e7" (result .canceled 1) "w1")]

theorem reportCanceled_shows :
    ¬(performAll Sample.sha256 .empty Sample.reportCanceled).2.CanceledShowNothing := by
  have hscore : ((performAll Sample.sha256 .empty Sample.reportCanceled).2.executions.rows.any
      fun r => r.status = .canceled && r.score.isSome) = true := by decide +kernel
  obtain ⟨r, hr, hrow⟩ := List.any_eq_true.1 hscore
  obtain ⟨hcanceled, hsome⟩ := Bool.and_eq_true_iff.1 hrow
  intro hshow
  obtain ⟨hnone, _⟩ := hshow r hr (of_decide_eq_true hcanceled)
  rw [hnone] at hsome
  cases hsome

theorem canceled_shows_sample :
    ¬∀ sha256 h s, StoreRun sha256 h s → s.CanceledShowNothing := by
  intro hall
  exact reportCanceled_shows (hall Sample.sha256 _ _ (performAll_run _ Sample.reportCanceled))

theorem canceled_show_nothing_iff_sample :
    ∃ l₁ l₂ e s₁, (performAll Sample.sha256 .empty Sample.reportCanceled).1 = l₂ ++ e :: l₁ ∧
      StoreRun Sample.sha256 l₁ s₁ ∧ ReportsCanceled s₁ e := by
  have hrun := performAll_run Sample.sha256 Sample.reportCanceled
  by_contra hclean
  apply reportCanceled_shows
  apply (canceled_show_nothing_iff hrun).2 ?_ _ [] _ rfl hrun
  intro l₁ l₂ e s₁ hl hrun₁ he
  exact hclean ⟨l₁, l₂, e, s₁, hl, hrun₁, he⟩

end

end BrunostJudge
