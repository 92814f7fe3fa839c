import BrunostJudge.Dispatch
import BrunostJudge.Finality
import BrunostJudge.Provenance

namespace BrunostJudge
open Python Relational Transition JudgeStore
set_option autoImplicit true

namespace JudgeStore

/-- The execution has come to its end. -/
def Over (s : JudgeStore) (E : String) : Prop :=
  ∃ r, s.executions.find? E = some r ∧ r.status.terminal

/-- The body says how the execution ended. -/
def Tells (s : JudgeStore) (E : String) (body : Dict) : Prop :=
  ∃ r, s.executions.find? E = some r ∧ r.status.terminal ∧ body = (result r).asDict

end JudgeStore

/-- The result of an execution that has come to its end. -/
def ExecutionResult.Terminal (x : ExecutionResult) : Prop :=
  ∃ status : Status, status.terminal ∧ x.status = .text status.text

/-- The rows a call of `_deliver_callbacks` has before it. -/
def Dispatch.entries : Dispatch → List CallbackDelivery
  | .idle => []
  | .rows rest => rest
  | .claimed row rest | .sending row _ rest | .reporting row _ rest => row :: rest

/-- The body it is about to post, and for which execution. -/
def Dispatch.body? : Dispatch → Option (String × Dict)
  | .sending row payload _ => some (row.executionId, payload)
  | _ => none

/-- The bodies a remote worker holds. -/
def RemoteWorker.bodies (remote : RemoteWorker) : List (String × Dict) :=
  remote.pendingCallbacks.map (fun c => (c.executionId, c.payload)) ++
    match remote.state with
    | .retrying rest | .retried _ rest => rest.map fun c => (c.executionId, c.payload)
    | .finished claim payload | .sending claim _ payload => [(claim.execution.executionId, payload)]
    | _ => []

/-- The execution whose `finish` a remote worker has not been answered yet. -/
def RemoteWorker.finishing? (remote : RemoteWorker) : Option String :=
  match remote.state with
  | .finishing claim => some claim.execution.executionId
  | _ => none

structure Dispatch.Sound (s : JudgeStore) (d : Dispatch) : Prop where
  entries : ∀ row ∈ d.entries, s.Over row.executionId
  body : ∀ p, d.body? = some p → s.Tells p.1 p.2

structure RemoteWorker.Sound (s : JudgeStore) (remote : RemoteWorker) : Prop where
  bodies : ∀ p ∈ remote.bodies, s.Tells p.1 p.2
  finishing : ∀ E, remote.finishing? = some E → s.Over E

/-- Whatever is posted or about to be posted says how its execution ended. -/
structure World.Sound (w : World) : Prop where
  dispatchers : ∀ n, (w.dispatchers n).Sound w.store
  remotes : ∀ n, (w.remotes n).Sound w.store
  posted : ∀ p ∈ w.posted, w.store.Tells p.executionId p.body

section
variable {s t : JudgeStore} {r : Execution} {E : String} {h l : List Event} {w w' : World}
  {sha256 : ByteArray → String} {workerId : Nat → String} {e : Option Event} {post : Option Post}

theorem result_final (hrun : StoreRun sha256 h s) (hr : s.executions.find? E = some r)
    (ht : r.status.terminal) (hpath : StorePath sha256 s l t) :
    ∃ r', t.executions.find? E = some r' ∧ r'.status.terminal ∧ result r' = result r := by
  obtain ⟨r', hr', hstatus, hcolumns⟩ := terminal_path hrun hr ht hpath
  obtain ⟨q, hq, hsub⟩ := path_submission hpath hr
  cases Option.some.inj (hq.symm.trans hr')
  refine ⟨r', hr', ?_, ?_⟩
  · rw [hstatus]
    exact ht
  · simp only [result, hsub, hstatus, hcolumns]

theorem JudgeStore.Over.later (hover : s.Over E) (hrun : StoreRun sha256 h s)
    (hpath : StorePath sha256 s l t) : t.Over E := by
  obtain ⟨r, hr, ht⟩ := hover
  obtain ⟨r', hr', ht', _⟩ := result_final hrun hr ht hpath
  exact ⟨r', hr', ht'⟩

theorem JudgeStore.Tells.later (htells : s.Tells E body) (hrun : StoreRun sha256 h s)
    (hpath : StorePath sha256 s l t) : t.Tells E body := by
  obtain ⟨r, hr, ht, hbody⟩ := htells
  obtain ⟨r', hr', ht', hresult⟩ := result_final hrun hr ht hpath
  refine ⟨r', hr', ht', ?_⟩
  rw [hresult]
  exact hbody

theorem JudgeStore.Over.tells (hover : s.Over E) (hx : s.getExecution E = some x) :
    s.Tells E x.asDict := by
  obtain ⟨r, hr, ht⟩ := hover
  obtain ⟨q, hq, hx⟩ := getExecution_some.1 hx
  cases Option.some.inj (hq.symm.trans hr)
  exact ⟨r, hr, ht, congrArg ExecutionResult.asDict hx.symm⟩

theorem pendingCallbacks_over (h : c ∈ s.pendingCallbacks now limit) : s.Over c.executionId := by
  have hselected := List.mem_of_mem_take h
  rw [List.mem_insertionSort, List.mem_filter, Bool.and_eq_true] at hselected
  obtain ⟨r, hr, ht⟩ := (Option.any_eq_true _ _).1 hselected.2.2
  exact ⟨r, hr, ht⟩

theorem finish_over {worker : String}
    (hs : StoreStep sha256 s ⟨now, .finish room E res worker, .ok (.execution (some x))⟩ t) :
    t.Over E := by
  obtain ⟨⟨_, _⟩, hp, he⟩ := map_ok.1 (step_ok.1 hs)
  cases he
  obtain ⟨_, ⟨hnone, _⟩ | ⟨status, columns, r, hstatus, hr, _, _, hheld, _, ht⟩⟩ := finish_ok hp
  · cases hnone
  · subst ht
    refine ⟨_, finishStore_row status columns hr hheld, ?_⟩
    obtain ⟨hterminal, _⟩ := among_terminal hstatus
    cases hcancel : r.cancelRequested with
    | false => simpa [finished, hcancel] using hterminal
    | true => simp [finished, hcancel, Status.terminal]

theorem Dispatch.Sound.later {d : Dispatch} (hd : d.Sound s) (hrun : StoreRun sha256 h s)
    (hpath : StorePath sha256 s l t) : d.Sound t where
  entries row hrow := (hd.entries row hrow).later hrun hpath
  body p hp := (hd.body p hp).later hrun hpath

theorem RemoteWorker.Sound.later {remote : RemoteWorker} (hr : remote.Sound s)
    (hrun : StoreRun sha256 h s) (hpath : StorePath sha256 s l t) : remote.Sound t where
  bodies p hp := (hr.bodies p hp).later hrun hpath
  finishing E hE := (hr.finishing E hE).later hrun hpath

theorem DispatchStep.path {worker : String} {d d' : Dispatch}
    (hs : DispatchStep sha256 worker s d e post t d') : StorePath sha256 s e.toList t := by
  cases hs with
  | claim hs => exact .single hs
  | skip hs => exact .single hs
  | delivered hs => exact .single hs
  | failed hs => exact .single hs
  | _ => exact .refl

theorem RemoteStep.path {worker : String} {remote remote' : RemoteWorker}
    (hs : RemoteStep sha256 worker s remote e post t remote') : StorePath sha256 s e.toList t := by
  cases hs with
  | reacknowledge hs => exact .single hs
  | claim hs => exact .single hs
  | finish hs => exact .single hs
  | claimCallback _ hs => exact .single hs
  | acknowledge hs => exact .single hs
  | _ => exact .refl

/-- The rows come from the store, and so does the body, after the execution was over. -/
theorem DispatchStep.sound {worker : String} {d d' : Dispatch}
    (hs : DispatchStep sha256 worker s d e post t d') (hrun : StoreRun sha256 h s)
    (hd : d.Sound s) : d'.Sound t := by
  have hlater := hd.later hrun hs.path
  cases hs with
  | poll => exact ⟨fun row hrow => pendingCallbacks_over hrow, nofun⟩
  | claim => exact ⟨hlater.entries, nofun⟩
  | skip => exact ⟨fun row hrow => hlater.entries row (List.mem_cons_of_mem _ hrow), nofun⟩
  | read hx =>
    refine ⟨hd.entries, ?_⟩
    intro p hp
    cases hp
    exact (hd.entries _ List.mem_cons_self).tells hx
  | gone => exact ⟨fun row hrow => hd.entries row (List.mem_cons_of_mem _ hrow), nofun⟩
  | send => exact ⟨hd.entries, nofun⟩
  | sendFailed => exact ⟨hd.entries, nofun⟩
  | delivered => exact ⟨fun row hrow => hlater.entries row (List.mem_cons_of_mem _ hrow), nofun⟩
  | failed => exact ⟨fun row hrow => hlater.entries row (List.mem_cons_of_mem _ hrow), nofun⟩
  | finished => exact ⟨nofun, nofun⟩
  | stop => exact ⟨nofun, nofun⟩

theorem DispatchStep.posts {worker : String} {d d' : Dispatch} {p : Post}
    (hs : DispatchStep sha256 worker s d e (some p) t d') (hd : d.Sound s) :
    s.Tells p.executionId p.body := by
  generalize hp : some p = post at hs
  cases hs with
  | send =>
    cases hp
    exact hd.body _ rfl
  | sendFailed arrived =>
    cases arrived with
    | true =>
      cases hp
      exact hd.body _ rfl
    | false => cases hp
  | _ => cases hp

theorem RemoteStep.sound {worker : String} {remote remote' : RemoteWorker}
    (hs : RemoteStep sha256 worker s remote e post t remote') (hrun : StoreRun sha256 h s)
    (hr : remote.Sound s) : remote'.Sound t := by
  have hlater := hr.later hrun hs.path
  have hsub (hsub : remote'.bodies ⊆ remote.bodies) (hnone : remote'.finishing? = none) :
      remote'.Sound t := by
    refine ⟨fun p hp => hlater.bodies p (hsub hp), ?_⟩
    intro E hE
    rw [hnone] at hE
    cases hE
  cases hs with
  | finish hs =>
    refine ⟨hlater.bodies, ?_⟩
    intro E hE
    cases hE
    exact finish_over hs
  | @reply claim x kept hx =>
    refine ⟨?_, nofun⟩
    intro p hp
    obtain hkept | hnew := List.mem_append.1 hp
    · exact hr.bodies p (List.mem_append_left _ hkept)
    · cases List.mem_singleton.1 hnew
      exact (hr.finishing _ rfl).tells hx
  | _ =>
    apply hsub
    · simp [RemoteWorker.bodies]
    · rfl

theorem RemoteStep.posts {worker : String} {remote remote' : RemoteWorker} {p : Post}
    (hs : RemoteStep sha256 worker s remote e (some p) t remote') (hr : remote.Sound s) :
    s.Tells p.executionId p.body := by
  generalize hp : some p = post at hs
  cases hs with
  | resend =>
    cases hp
    exact hr.bodies _ (List.mem_append_right _ List.mem_cons_self)
  | resendFailed arrived =>
    cases arrived with
    | true =>
      cases hp
      exact hr.bodies _ (List.mem_append_right _ List.mem_cons_self)
    | false => cases hp
  | send =>
    cases hp
    exact hr.bodies _ (List.mem_append_right _ List.mem_cons_self)
  | sendFailed arrived =>
    cases arrived with
    | true =>
      cases hp
      exact hr.bodies _ (List.mem_append_right _ List.mem_cons_self)
    | false => cases hp
  | _ => cases hp

theorem WorldStep.path (hs : WorldStep sha256 workerId w e w') :
    StorePath sha256 w.store e.toList w'.store := by
  cases hs with
  | call hs => exact .single hs
  | dispatch _ hs => exact hs.path
  | remote _ hs => exact hs.path

theorem world_store (hrun : WorldRun sha256 workerId labels w) :
    StoreRun sha256 labels.reduceOption w.store := by
  induction hrun with
  | start hw =>
    subst hw
    exact .start rfl
  | @next labels w e w' _ hs ih =>
    have hnext := ih.append hs.path
    cases e with
    | none => exact hnext
    | some e => exact hnext

theorem WorldStep.sound (hs : WorldStep sha256 workerId w e w')
    (hrun : StoreRun sha256 h w.store) (hw : w.Sound) : w'.Sound := by
  have hpath := hs.path
  have hposted : ∀ p ∈ w.posted, w'.store.Tells p.executionId p.body := by
    intro p hp
    exact (hw.posted p hp).later hrun hpath
  cases hs with
  | call =>
    exact ⟨fun n => (hw.dispatchers n).later hrun hpath, fun n => (hw.remotes n).later hrun hpath,
      hposted⟩
  | dispatch n hs =>
    refine ⟨?_, fun n => (hw.remotes n).later hrun hpath, ?_⟩
    · intro m
      by_cases hm : m = n
      · subst hm
        simpa using hs.sound hrun (hw.dispatchers m)
      · simpa [hm] using (hw.dispatchers m).later hrun hpath
    · intro p hp
      obtain hnew | hold := List.mem_append.1 hp
      · cases Option.mem_toList.1 hnew
        exact (hs.posts (hw.dispatchers n)).later hrun hpath
      · exact hposted p hold
  | remote n hs =>
    refine ⟨fun n => (hw.dispatchers n).later hrun hpath, ?_, ?_⟩
    · intro m
      by_cases hm : m = n
      · subst hm
        simpa using hs.sound hrun (hw.remotes m)
      · simpa [hm] using (hw.remotes m).later hrun hpath
    · intro p hp
      obtain hnew | hold := List.mem_append.1 hp
      · cases Option.mem_toList.1 hnew
        exact (hs.posts (hw.remotes n)).later hrun hpath
      · exact hposted p hold

theorem run_sound (hrun : WorldRun sha256 workerId labels w) : w.Sound := by
  induction hrun with
  | start hw =>
    subst hw
    exact ⟨fun _ => ⟨nofun, nofun⟩, fun _ => ⟨nofun, nofun⟩, nofun⟩
  | next hrun hs ih => exact hs.sound (world_store hrun) ih

theorem world_path_store (hpath : WorldPath sha256 workerId w l' w') :
    StorePath sha256 w.store l'.reduceOption w'.store := by
  induction hpath with
  | refl => exact .refl
  | @next l' w' e w'' _ hs ih =>
    have hnext := ih.trans hs.path
    cases e with
    | none => exact hnext
    | some e => exact hnext

theorem Status.text_inj {a b : Status} (h : a.text = b.text) : a = b := by
  cases a <;> cases b <;> first | rfl | (revert h; decide)

theorem getExecution_terminal (hx : s.getExecution E = some x) (ht : x.Terminal) :
    ∃ r, s.executions.find? E = some r ∧ r.status.terminal ∧ result r = x := by
  obtain ⟨r, hr, hx⟩ := getExecution_some.1 hx
  obtain ⟨status, ht, hstatus⟩ := ht
  have htext : Json.text r.status.text = Json.text status.text := by
    rw [← hstatus, ← hx]
    rfl
  rw [← Status.text_inj (PyStr.ofString_inj.1 (Json.str.inj htext))] at ht
  exact ⟨r, hr, ht, hx⟩

/-- All posts about an execution are the same object: what the store publishes of it from the
moment it is over. -/
theorem callback_bodies_agree (hrun : WorldRun sha256 workerId labels w) :
    (∀ p ∈ w.posted, ∃ x, w.store.getExecution p.executionId = some x ∧ x.Terminal ∧
      p.body = x.asDict ∧ p.body.get "event_id" = resultEvent p.executionId) ∧
    (∀ p ∈ w.posted, ∀ q ∈ w.posted, p.executionId = q.executionId → p.body = q.body) ∧
    ∀ l' w' E x, WorldPath sha256 workerId w l' w' → w.store.getExecution E = some x →
      x.Terminal → w'.store.getExecution E = some x ∧
        ∀ p ∈ w'.posted, p.executionId = E → p.body = x.asDict := by
  have hstore := world_store hrun
  have hsound := run_sound hrun
  refine ⟨?_, ?_, ?_⟩
  · intro p hp
    obtain ⟨r, hr, ht, hbody⟩ := hsound.posted p hp
    have hkey : r.executionId = p.executionId := Table.key_of_find? hr
    refine ⟨result r, getExecution_some.2 ⟨r, hr, rfl⟩, ⟨r.status, ht, rfl⟩, hbody, ?_⟩
    rw [hbody, ← hkey]
    exact (run_submittedFor hstore hr).result_metadata.2
  · intro p hp q hq hE
    obtain ⟨r, hr, _, hbody⟩ := hsound.posted p hp
    obtain ⟨r', hr', _, hbody'⟩ := hsound.posted q hq
    rw [hE] at hr
    cases Option.some.inj (hr.symm.trans hr')
    exact hbody.trans hbody'.symm
  · intro l' w' E x hpath hx ht
    obtain ⟨r, hr, hover, hx⟩ := getExecution_terminal hx ht
    obtain ⟨r', hr', _, hresult⟩ := result_final hstore hr hover (world_path_store hpath)
    refine ⟨getExecution_some.2 ⟨r', hr', hresult.trans hx⟩, ?_⟩
    intro p hp hE
    obtain ⟨q, hq, _, hbody⟩ := (run_sound (hrun.append hpath)).posted p hp
    rw [hE] at hq
    cases Option.some.inj (hq.symm.trans hr')
    rw [hbody, hresult, hx]

theorem calls_run (hrun : StoreRun sha256 h s) :
    WorldRun sha256 workerId (h.map some) { World.initial with store := s } := by
  induction hrun with
  | start hs =>
    subst hs
    exact .start rfl
  | next _ hs ih => exact .next ih (.call hs)

theorem dispatch_step {n : Nat} {d d' : Dispatch} (hd : w.dispatchers n = d)
    (hs : DispatchStep sha256 (workerId n) w.store d e post t d') :
    WorldStep sha256 workerId w e { w with
      store := t
      dispatchers := Function.update w.dispatchers n d'
      posted := post.toList ++ w.posted } := by
  subst hd
  exact .dispatch n hs

theorem pending_posted (workerId : Nat → String) (hrun : StoreRun sha256 h s)
    (hpending : s.pendingCallbacks now limit = row :: rest)
    (hclaim : StoreStep sha256 s
      ⟨now, .claimCallback row.executionId (workerId 0) 60, .ok (.flag true)⟩ t) :
    ∃ labels w, WorldRun sha256 workerId labels w ∧
      ∃ p ∈ w.posted, p.executionId = row.executionId := by
  have hover : s.Over row.executionId := by
    apply pendingCallbacks_over
    rw [hpending]
    exact List.mem_cons_self
  obtain ⟨r, hr, _⟩ := hover.later hrun (Path.single hclaim)
  have hx : t.getExecution row.executionId = some (result r) := getExecution_some.2 ⟨r, hr, rfl⟩
  have hpoll : DispatchStep sha256 (workerId 0) s .idle none none s (.rows (row :: rest)) := by
    rw [← hpending]
    exact .poll
  let idle := { World.initial with store := s }
  let polled := { idle with
    dispatchers := Function.update idle.dispatchers 0 (.rows (row :: rest)) }
  let claimed := { polled with
    store := t
    dispatchers := Function.update polled.dispatchers 0 (.claimed row rest) }
  let read := { claimed with
    dispatchers := Function.update claimed.dispatchers 0
      (.sending row (result r).asDict rest) }
  have hidle : idle.dispatchers 0 = .idle := rfl
  have hrows : polled.dispatchers 0 = .rows (row :: rest) :=
    Function.update_self 0 _ idle.dispatchers
  have hrow : claimed.dispatchers 0 = .claimed row rest :=
    Function.update_self 0 _ polled.dispatchers
  have hsending : read.dispatchers 0 = .sending row (result r).asDict rest :=
    Function.update_self 0 _ claimed.dispatchers
  have hstart : WorldRun sha256 workerId _ idle := calls_run hrun
  have hpolled : WorldStep sha256 workerId idle none polled := dispatch_step hidle hpoll
  have hclaimed : WorldStep sha256 workerId polled _ claimed := dispatch_step hrows (.claim hclaim)
  have hread : WorldStep sha256 workerId claimed none read := dispatch_step hrow (.read hx)
  have hsent : WorldStep sha256 workerId read none _ := dispatch_step hsending .send
  exact ⟨_, _, .next (.next (.next (.next hstart hpolled) hclaimed) hread) hsent, _,
    List.mem_cons_self, rfl⟩

/-- The dispatcher posts the result of a worker. -/
theorem callback_bodies_agree_sample : ∃ h w, WorldRun Sample.sha256 (fun _ => "dispatcher") h w ∧
    ∃ p ∈ w.posted, p.body.get "event_id" = resultEvent "e7" := by
  let s := (performAll Sample.sha256 .empty (Sample.claimed ++ [Sample.finish])).2
  have hstore : StoreRun Sample.sha256 _ s :=
    performAll_run Sample.sha256 (Sample.claimed ++ [Sample.finish])
  have hpending : (s.pendingCallbacks (Sample.clock 40) 20).map CallbackDelivery.executionId =
      ["e7"] := by
    decide +kernel
  have hclaimable : (s.claimCallback (Sample.clock 40) "e7" "dispatcher" 60).toOption.any Prod.fst =
      true := by
    decide +kernel
  clear_value s
  obtain ⟨row, hrow, hid⟩ := List.map_eq_singleton_iff.1 hpending
  obtain ⟨⟨flag, t⟩, hclaim, hflag⟩ := (Option.any_eq_true _ _).1 hclaimable
  have hstep : StoreStep Sample.sha256 s
      ⟨Sample.clock 40, .claimCallback row.executionId "dispatcher" 60, .ok (.flag true)⟩ t := by
    apply step_ok.2
    rw [hid, Op.run, toOption_eq_some.1 hclaim]
    exact congrArg (fun flag => Except.ok (Reply.flag flag, t)) hflag
  obtain ⟨labels, w, hrun, p, hp, hE⟩ := pending_posted (fun _ => "dispatcher") hstore hrow hstep
  obtain ⟨_, _, _, _, hevent⟩ := (callback_bodies_agree hrun).1 p hp
  rw [hE, hid] at hevent
  exact ⟨_, w, hrun, p, hp, hevent⟩

end

end BrunostJudge
