import BrunostJudge.Participation

namespace BrunostJudge
open Python Relational Transition JudgeStore
set_option autoImplicit true

/-- The kinds of tasks whose evaluations are more than a batch. -/
def interactiveKinds : List String := ["interactive", "agent", "game"]

/-- What is stored of an execution is what the table of the documentation asks of its task. -/
inductive Compatible (parseInt : PyStr → Except PyError Int) (store : JudgeStore)
    (task : TaskRecord)
    (metadata : Dict) : Prop
  | interactive : task.kind = "interactive" →
      metadata.get "evaluation_kind" = .text "interactive" → Compatible parseInt store task metadata
  | agent {refs} : task.kind = "agent" → metadata.get "evaluation_kind" = .text "agent" →
      metadata.get "agent_refs" = .arr refs → refs ≠ [] → Compatible parseInt store task metadata
  | game {ref game refs} : task.kind = "game" → metadata.get "evaluation_kind" = .text "match" →
      metadata.get "game_ref" = .text ref → store.getDefinition "game" ref = some game →
      (Dict.get game "task_ref").eq (.text task.taskRef) →
      metadata.get "agent_refs" = .arr refs → gameSeats parseInt game = .ok refs.length →
      Compatible parseInt store task metadata
  | batch : task.kind ∉ interactiveKinds → metadata.get "evaluation_kind" = .text "batch" →
      (metadata.get "agent_refs").truthy = false → (metadata.get "game_ref").truthy = false →
      Compatible parseInt store task metadata

/-- The agents that an accepted submission is stored with: its own, or its client's. -/
def SubmitPayload.recordedAgentRefs (payload : SubmitPayload) : Json :=
  if payload.agentRefs = [] then payload.metadata.get "agent_refs"
  else .arr (payload.agentRefs.map Json.text)

/-- A submission fills the seats of its game, and for a batch its client names nobody. -/
structure FitsTask (parseInt : PyStr → Except PyError Int) (store : JudgeStore) (task : TaskRecord)
    (payload : SubmitPayload) : Prop where
  game : task.kind = "game" → ∃ ref game refs, given payload.gameRef = some ref ∧
    store.getDefinition "game" ref = some game ∧ payload.recordedAgentRefs = .arr refs ∧
    gameSeats parseInt game = .ok refs.length
  batch : task.kind ∉ interactiveKinds → (payload.metadata.get "agent_refs").truthy = false ∧
    (payload.metadata.get "game_ref").truthy = false

/-- The kind of evaluation that a task gets, and what its request then names. -/
inductive Evaluates (task : TaskRecord) (payload : SubmitPayload) : String → Prop
  | interactive : task.kind = "interactive" → payload.agentRefs = [] →
    given payload.gameRef = none →
      Evaluates task payload "interactive"
  | agent : task.kind = "agent" → payload.evaluationKind = "agent" → payload.agentRefs ≠ [] →
      given payload.gameRef = none → Evaluates task payload "agent"
  | game {ref} : task.kind = "game" → given payload.gameRef = some ref →
      Evaluates task payload "match"
  | batch : task.kind ∉ interactiveKinds → payload.agentRefs = [] →
      given payload.gameRef = none → Evaluates task payload "batch"

theorem truthy_sortKeys (value : Json) : value.sortKeys.truthy = value.truthy := by
  cases value with
  | arr items =>
    rw [Json.sortKeys, Json.sortKeysItems_eq]
    cases items <;> rfl
  | obj fields =>
    have hlength : (Dict.sortKeys fields).length = fields.length := by
      rw [Dict.sortKeys, List.length_insertionSort, List.length_map]
    rw [Json.sortKeys_obj]
    cases hsorted : Dict.sortKeys fields with
    | nil =>
      rw [hsorted] at hlength
      rw [List.length_eq_zero_iff.1 hlength.symm]
    | cons f rest =>
      rw [hsorted] at hlength
      cases fields with
      | nil => cases hlength
      | cons => rfl
  | _ => rfl

section
variable {task : TaskRecord} {payload : SubmitPayload} {store : JudgeStore} {metadata : Dict}

theorem evaluationKind_ok (h : evaluationKind task payload = .ok kind) :
    Evaluates task payload kind := by
  rw [evaluationKind] at h
  obtain ⟨hknown, h⟩ := check_ok.1 h
  obtain ⟨hagent, h⟩ := check_ok.1 h
  obtain ⟨hgame, h⟩ := check_ok.1 h
  obtain ⟨hinteractive, h⟩ := check_ok.1 h
  obtain ⟨hagentTask, h⟩ := check_ok.1 h
  obtain ⟨hgameTask, h⟩ := check_ok.1 h
  obtain ⟨hinteractiveTask, h⟩ := check_ok.1 h
  obtain ⟨hsome, h⟩ := check_ok.1 h
  obtain ⟨href, h⟩ := check_ok.1 h
  obtain ⟨hnoAgents, h⟩ := check_ok.1 h
  obtain ⟨hnoGame, h⟩ := check_ok.1 h
  have hkind := pure_ok.1 h
  simp only [hkind]
    at hinteractive hagentTask hgameTask hinteractiveTask hsome href hnoAgents hnoGame
  clear h
  have hbatch : kind ≠ "interactive" → payload.evaluationKind = kind := by
    intro hne
    split at hkind
    · exact absurd hkind.symm hne
    · exact hkind
  have hnone (hne : kind ≠ "match") : given payload.gameRef = none := by
    apply Option.not_isSome_iff_eq_none.1
    exact fun hsome => hnoGame ⟨hsome, hne⟩
  by_cases hi : kind = "interactive"
  · subst hi
    exact .interactive (by simpa using hinteractiveTask) (by simpa using hnoAgents)
      (hnone (by decide))
  · rw [hbatch hi] at hknown hagent hgame
    by_cases ha : kind = "agent"
    · subst ha
      exact .agent (by simpa using hagentTask) (hbatch hi) (by simpa using hsome)
        (hnone (by decide))
    · by_cases hm : kind = "match"
      · subst hm
        obtain ⟨ref, href⟩ := Option.ne_none_iff_exists'.1 (by simpa using href)
        exact .game (by simpa using hgameTask) href
      · have hk : kind = "batch" := by
          simpa [hi, ha, hm] using hknown
        subst hk
        refine .batch ?_ (by simpa using hnoAgents) (hnone (by decide))
        simpa [interactiveKinds] using And.intro hinteractive (And.intro hagent hgame)

theorem Records.stored_evaluation (h : Records store task payload kind metadata) :
    metadata.get "evaluation_kind" = .text kind := by
  rw [Dict.get_eq, h.evaluation]
  rfl

theorem Records.stored_agentRefs (h : Records store task payload kind metadata) :
    metadata.get "agent_refs" = payload.recordedAgentRefs.sortKeys := by
  rw [Dict.get_eq, h.agentRefs, SubmitPayload.recordedAgentRefs]
  by_cases hempty : payload.agentRefs = []
  · rw [if_pos hempty, if_pos hempty, Dict.get_eq]
    cases payload.metadata.lookup? "agent_refs" <;> rfl
  · rw [if_neg hempty, if_neg hempty, sortKeys_texts]
    rfl

theorem Records.stored_gameRef (h : Records store task payload kind metadata)
    (hnone : given payload.gameRef = none) :
    metadata.get "game_ref" = (payload.metadata.get "game_ref").sortKeys := by
  rw [Dict.get_eq, (h.noGame hnone).2, Dict.get_eq]
  cases payload.metadata.lookup? "game_ref" <;> rfl

theorem sortKeys_eq_arr {value : Json} (h : value.sortKeys = .arr items) :
    ∃ items', value = .arr items' ∧ items'.length = items.length := by
  cases value with
  | arr items' =>
    rw [Json.sortKeys, Json.sortKeysItems_eq] at h
    cases h
    exact ⟨items', rfl, (List.length_map Json.sortKeys).symm⟩
  | _ => cases h

theorem sortKeys_arr (items : List Json) :
    (Json.arr items).sortKeys = .arr (items.map Json.sortKeys) := by
  rw [Json.sortKeys, Json.sortKeysItems_eq]

theorem Records.compatible_iff (h : Records store task payload kind metadata) :
    Compatible parseInt store task metadata ↔ FitsTask parseInt store task payload := by
  have hevaluation := h.stored_evaluation
  have hrefs := h.stored_agentRefs
  have hlisted {k : String} (htask : task.kind = k) (hk : k ∈ interactiveKinds) :
      task.kind ∈ interactiveKinds := by
    rw [htask]
    exact hk
  cases evaluationKind_ok h.evaluationKind with
  | interactive htask =>
    have hfits : FitsTask parseInt store task payload := by
      constructor
      · exact fun hgame => absurd (htask.symm.trans hgame) (by decide)
      · exact fun hbatch => absurd (hlisted htask (by decide)) hbatch
    exact ⟨fun _ => hfits, fun _ => .interactive htask hevaluation⟩
  | agent htask _ hnonempty =>
    have hfits : FitsTask parseInt store task payload := by
      constructor
      · exact fun hgame => absurd (htask.symm.trans hgame) (by decide)
      · exact fun hbatch => absurd (hlisted htask (by decide)) hbatch
    rw [SubmitPayload.recordedAgentRefs, if_neg hnonempty, sortKeys_texts] at hrefs
    have hsome : payload.agentRefs.map Json.text ≠ [] :=
      fun hnil => hnonempty (List.map_eq_nil_iff.1 hnil)
    exact ⟨fun _ => hfits, fun _ => .agent htask hevaluation hrefs hsome⟩
  | @game ref htask href =>
    obtain ⟨game, hgame, htaskRef, _, hgameRef⟩ := h.game ref href
    have hstored : metadata.get "game_ref" = .text ref := by
      rw [Dict.get_eq, hgameRef]
      rfl
    constructor
    · intro hcompatible
      refine ⟨fun _ => ?_, fun hbatch => absurd (hlisted htask (by decide)) hbatch⟩
      cases hcompatible with
      | interactive htask' => exact absurd (htask.symm.trans htask') (by decide)
      | agent htask' => exact absurd (htask.symm.trans htask') (by decide)
      | batch hbatch => exact absurd (hlisted htask (by decide)) hbatch
      | game _ _ hstored' hgame' _ hrefs' hseats =>
        cases Json.text_inj (hstored.symm.trans hstored')
        cases Option.some.inj (hgame.symm.trans hgame')
        obtain ⟨items, hitems, hlength⟩ := sortKeys_eq_arr (hrefs.symm.trans hrefs')
        rw [← hlength] at hseats
        exact ⟨ref, game, items, href, hgame, hitems, hseats⟩
    · intro hfits
      obtain ⟨ref', game', items, href', hgame', hitems, hseats⟩ := hfits.game htask
      cases Option.some.inj (href.symm.trans href')
      cases Option.some.inj (hgame.symm.trans hgame')
      rw [hitems, sortKeys_arr] at hrefs
      rw [← List.length_map Json.sortKeys] at hseats
      exact .game htask hevaluation hstored hgame htaskRef hrefs hseats
  | batch hbatch hempty hnone =>
    have hgameRef := h.stored_gameRef hnone
    rw [SubmitPayload.recordedAgentRefs, if_pos hempty] at hrefs
    have hnotGame (htask : task.kind = "game") : False := hbatch (hlisted htask (by decide))
    constructor
    · intro hcompatible
      refine ⟨fun htask => (hnotGame htask).elim, fun _ => ?_⟩
      cases hcompatible with
      | interactive htask => exact absurd (hlisted htask (by decide)) hbatch
      | agent htask => exact absurd (hlisted htask (by decide)) hbatch
      | game htask => exact (hnotGame htask).elim
      | batch _ _ hagents hgames =>
        rw [hrefs, truthy_sortKeys] at hagents
        rw [hgameRef, truthy_sortKeys] at hgames
        exact ⟨hagents, hgames⟩
    · intro hfits
      obtain ⟨hagents, hgames⟩ := hfits.batch hbatch
      rw [← truthy_sortKeys, ← hrefs] at hagents
      rw [← truthy_sortKeys, ← hgameRef] at hgames
      exact .batch hbatch hevaluation hagents hgames

end

section
variable {d : Deployment} {sha256 : ByteArray → String} {server server₁ later : Server}
  {payload : SubmitPayload} {r : Execution} {h : List ServerEvent} {now : Instant}
  {task : TaskRecord} {store : JudgeStore}

theorem matchPayload_ok {request : MatchRequest}
    (h : matchPayload d parseInt store gameId request = .ok payload) :
    ∃ game taskRef, store.getDefinition "game" gameId = some game ∧
      gameSeats parseInt game = .ok request.agentRefs.length ∧
      payload = request.payload taskRef gameId := by
  rw [matchPayload] at h
  split at h
  · exact (abort_ok.1 h).elim
  · next game hgame =>
    obtain ⟨seats, hseats, h⟩ := bind_ok.1 h
    obtain ⟨hcount, h⟩ := check_ok.1 h
    obtain ⟨taskRef, _, h⟩ := bind_ok.1 h
    have hseats := unhandled_ok.1 hseats
    rw [← not_not.1 hcount] at hseats
    exact ⟨game, taskRef, hgame, hseats, (pure_ok.1 h).symm⟩

theorem match_fits {request : MatchRequest} (hagents : request.agentRefs ≠ [])
    (hmatch : matchPayload d parseInt store gameId request = .ok payload)
    (hkind : evaluationKind task payload = .ok kind) :
    FitsTask parseInt store task payload := by
  obtain ⟨game, taskRef, hgame, hseats, hpayload⟩ := matchPayload_ok hmatch
  subst hpayload
  cases evaluationKind_ok hkind with
  | interactive _ hempty => exact absurd hempty hagents
  | agent _ hagent => exact absurd hagent (by simp [MatchRequest.payload])
  | batch _ hempty => exact absurd hempty hagents
  | @game ref htask href =>
    cases (Option.filter_eq_some_iff.1 href).1
    have hrecorded : (request.payload taskRef gameId).recordedAgentRefs =
        .arr (request.agentRefs.map Json.text) := if_neg hagents
    rw [← List.length_map Json.text] at hseats
    constructor
    · exact fun _ => ⟨gameId, game, _, href, hgame, hrecorded, hseats⟩
    · intro hbatch
      rw [htask] at hbatch
      exact absurd (by decide) hbatch

/-- An accepted submission is compatible with its task just where it fills the seats of its game,
and where its client names nobody for a batch. -/
theorem accepted_compatible_iff (hinj : Function.Injective sha256) (hdigest : ∀ b, sha256 b ≠ "")
    {request : SubmissionRequest} (hrun : ServerRun d sha256 h server)
    (hbody : request.body d parseInt server.store = .ok (header, payload))
    (htask : server.store.tasks.find? payload.taskRef = some task)
    (haccept : submitRequest d parseInt sha256 server now E snapshot request =
      (.ok reply, server₁))
    (hlater : Path (ServerStep d sha256) server₁ l later)
    (hr : later.store.executions.find? reply.executionId = some r) :
    r.taskRef = task.taskRef ∧ Compatible parseInt server.store task r.storedMetadata ↔
      FitsTask parseInt server.store task payload := by
  obtain ⟨task', kind, htask', href, hrecords⟩ :=
    accepted_records hinj hdigest hrun (submitRequest_ok hbody haccept) hlater hr
  cases Option.some.inj (htask.symm.trans htask')
  have hown : r.taskRef = task.taskRef := href.trans (Table.key_of_find? htask).symm
  rw [hrecords.compatible_iff, and_iff_right hown]

end

/-- An evaluation of the game for two with one agent. -/
def Sample.loneMatch : SubmitPayload :=
  { Sample.emptyMatch with metadata := [], agentRefs := ["left"] }

/-- It is accepted for the task of the game. -/
theorem lone_match_sample : ∃ h server task payload reply server₁ r,
    ServerRun Sample.deployment Sample.sha256 h server ∧
    submitRequest Sample.deployment Sample.parseInt Sample.sha256 server (Sample.clock 1) "e1"
      Sample.noDirectory (.evaluation none payload) = (.ok reply, server₁) ∧
    server.store.tasks.find? payload.taskRef = some task ∧ task.kind = "game" ∧
    server₁.store.executions.find? reply.executionId = some r ∧
    ¬Compatible Sample.parseInt server.store task r.storedMetadata := by
  obtain ⟨h, hrun⟩ := Sample.arena_run
  have htask : Sample.arenaServer.store.tasks.find? "arena" = some Sample.arena := by decide +kernel
  have hgame : Sample.arenaServer.store.getDefinition "game" "duel" =
      some (definitionDict Sample.duel) := by
    decide +kernel
  have hseats : gameSeats Sample.parseInt (definitionDict Sample.duel) = .ok 2 := by rfl
  have hstored : (Sample.recorded (Sample.requested Sample.arenaServer
      (.evaluation none Sample.loneMatch))).any (fun r =>
        r.storedMetadata.get "game_ref" = .text "duel" &&
          r.storedMetadata.get "agent_refs" = .arr [.text "left"]) = true := by
    decide +kernel
  obtain ⟨r, hrecorded, hstored⟩ := (Option.any_eq_true _ _).1 hstored
  obtain ⟨reply, server₁, hrequest, hr⟩ := Sample.recorded_some hrecorded
  simp only [Bool.and_eq_true, decide_eq_true_eq] at hstored
  obtain ⟨hgameRef, hagents⟩ := hstored
  refine ⟨h, _, _, _, reply, server₁, r, hrun, hrequest, htask, rfl, hr, ?_⟩
  intro hcompatible
  cases hcompatible with
  | interactive hkind => exact absurd hkind (by decide)
  | agent hkind => exact absurd hkind (by decide)
  | batch hbatch => exact absurd (by decide) hbatch
  | game _ _ hgameRef' hgame' _ hagents' hseats' =>
    cases Json.text_inj (hgameRef.symm.trans hgameRef')
    cases Option.some.inj (hgame.symm.trans hgame')
    cases hagents.symm.trans hagents'
    cases hseats.symm.trans hseats'

theorem accepted_compatible_iff_sample : ∃ r, Sample.recorded (Sample.duelled []) = some r ∧
    r.taskRef = "arena" ∧
    Compatible Sample.parseInt Sample.arenaServer.store Sample.arena r.storedMetadata := by
  obtain ⟨h, hrun⟩ := Sample.arena_run
  have hplain : (Sample.recorded (Sample.duelled [])).isSome = true := by decide +kernel
  obtain ⟨r, hplain⟩ := Option.isSome_iff_exists.1 hplain
  obtain ⟨reply, server, haccept, hr⟩ := Sample.recorded_some hplain
  have htask : Sample.arenaServer.store.tasks.find? "arena" = some Sample.arena := by decide +kernel
  have hfits : FitsTask Sample.parseInt Sample.arenaServer.store Sample.arena
      (Sample.duelPayload []) :=
    match_fits (List.cons_ne_nil _ _) (Sample.matchPayload_duel []) (by rfl)
  obtain ⟨href, hcompatible⟩ := (accepted_compatible_iff Sample.sha256_injective
    Sample.sha256_nonempty hrun (Sample.duel_body []) htask haccept .refl hr).2 hfits
  exact ⟨r, hplain, href, hcompatible⟩

end BrunostJudge
