import BrunostJudge.Endpoints
import BrunostJudge.Idempotency
import BrunostJudge.Provenance
import BrunostJudge.Worker

namespace BrunostJudge
open Python Relational Transition JudgeStore
set_option autoImplicit true

/-- `metadata_json` as it is read back. The text has the keys in order. -/
def Submission.storedMetadata (r : Submission) : Dict := Dict.sortKeys r.metadataJson

/-- The keys of the metadata that `submit` writes. -/
def provenanceKeys : List String :=
  ["task_digest", "evaluator", "runtime_image", "event_id", "timeout_seconds"]

theorem submittedMetadata_lookup (request : ExecutionRequest) (manifest : Dict) (E : String)
    {key : String} (hkey : key ∉ provenanceKeys) :
    (submittedMetadata request manifest E).lookup? key = request.metadata.lookup? key := by
  simp only [provenanceKeys, List.mem_cons, List.not_mem_nil, not_or, or_false] at hkey
  obtain ⟨hdigest, hevaluator, himage, hevent, htimeout⟩ := hkey
  rw [submittedMetadata]
  split
  · simp only [Dict.lookup?_set_text, Ne.symm hdigest, Ne.symm hevaluator, Ne.symm himage,
      Ne.symm hevent, Ne.symm htimeout, ne_eq, not_false_eq_true]
  · simp only [Dict.lookup?_set_text, Ne.symm hdigest, Ne.symm hevaluator, Ne.symm himage,
      Ne.symm hevent, ne_eq, not_false_eq_true]

/-- The metadata names the participants that the request does, by their registered definitions
and in their order, and nobody else. -/
structure NamesParticipants (store : JudgeStore) (payload : SubmitPayload) (metadata : Dict) :
    Prop where
  agents : ∃ agents, List.Forall₂ (fun ref agent => store.getDefinition "agent" ref = some agent)
      payload.agentRefs agents ∧
    metadata.lookup? "agent_definitions" = if payload.agentRefs = [] then none
      else some (.arr (agents.map fun agent => .obj (Dict.sortKeys agent)))
  agentRefs : metadata.lookup? "agent_refs" = if payload.agentRefs = [] then none
    else some (.arr (payload.agentRefs.map Json.text))
  noGame : given payload.gameRef = none →
    metadata.lookup? "game_definition" = none ∧ metadata.lookup? "game_ref" = none
  game : ∀ ref, given payload.gameRef = some ref →
    ∃ game, store.getDefinition "game" ref = some game ∧
      metadata.lookup? "game_definition" = some (.obj (Dict.sortKeys game)) ∧
      metadata.lookup? "game_ref" = some (.text ref)

/-- Every participant that a worker stages is a registered agent that the request names. -/
def StagesNamed (store : JudgeStore) (payload : SubmitPayload) (metadata : Dict) : Prop :=
  ∀ (access : ArtifactAccess) kind staged, access.stagePluginSubmission kind metadata = .ok staged →
    ∀ p ∈ staged, ∃ ref ∈ payload.agentRefs, ∃ agent index,
      store.getDefinition "agent" ref = some agent ∧
      access.stageParticipant index (.obj (Dict.sortKeys agent)) = .ok p

/-- The client leaves the keys of the participants alone where it names no participants. -/
structure LeavesParticipants (payload : SubmitPayload) : Prop where
  agents : payload.agentRefs = [] → payload.metadata.contains "agent_definitions" = false ∧
    payload.metadata.contains "agent_refs" = false
  game : given payload.gameRef = none → payload.metadata.contains "game_definition" = false ∧
    payload.metadata.contains "game_ref" = false

/-- The keys that tell who takes part. -/
def participantKeys : List String :=
  ["agent_definitions", "agent_refs", "game_definition", "game_ref"]

/-- Two requests ask for the same but for their keys and what the client says of participants. -/
structure SameButParticipants (payload payload' : SubmitPayload) : Prop where
  fields : payload' = { payload with
    metadata := payload'.metadata
    idempotencyKey := payload'.idempotencyKey }
  metadata : ∀ key : PyStr, (∀ k ∈ participantKeys, key ≠ k) →
    payload'.metadata.lookup? key = payload.metadata.lookup? key

theorem stageParticipants_ok {access : ArtifactAccess} {definitions : List Json}
    (h : access.stageParticipants index definitions = .ok staged) :
    ∀ p ∈ staged, ∃ definition ∈ definitions, ∃ i,
      access.stageParticipant i definition = .ok p := by
  induction definitions generalizing index staged with
  | nil =>
    cases h
    exact fun p hp => absurd hp List.not_mem_nil
  | cons definition rest ih =>
    obtain ⟨participant, hparticipant, h⟩ := bind_ok.1 h
    obtain ⟨participants, hparticipants, h⟩ := bind_ok.1 h
    cases pure_ok.1 h
    intro p hp
    obtain hhead | hrest := List.mem_cons.1 hp
    · subst hhead
      exact ⟨definition, List.mem_cons_self, index, hparticipant⟩
    · obtain ⟨definition', hmem, i, hi⟩ := ih hparticipants p hrest
      exact ⟨definition', List.mem_cons_of_mem _ hmem, i, hi⟩

/-- The bundle depends on the definitions in the metadata and on the kind of the evaluation. -/
theorem stagePluginSubmission_congr {metadata metadata' : Dict} (access : ArtifactAccess)
    (kind : String)
    (hdefinitions : metadata.lookup? "agent_definitions" = metadata'.lookup? "agent_definitions")
    (hkind : metadata.lookup? "evaluation_kind" = metadata'.lookup? "evaluation_kind") :
    access.stagePluginSubmission kind metadata = access.stagePluginSubmission kind metadata' := by
  have hdefinitions' : metadata.get "agent_definitions" = metadata'.get "agent_definitions" := by
    rw [Dict.get_eq, hdefinitions, Dict.get_eq]
  have hkind' : metadata.get "evaluation_kind" = metadata'.get "evaluation_kind" := by
    rw [Dict.get_eq, hkind, Dict.get_eq]
  have hneeds : needsPluginRunner kind metadata = needsPluginRunner kind metadata' := by
    rw [needsPluginRunner, hkind', needsPluginRunner]
  rw [ArtifactAccess.stagePluginSubmission, hneeds, hdefinitions',
    ArtifactAccess.stagePluginSubmission]

theorem NamesParticipants.definitions (h : NamesParticipants store payload metadata) :
    ∃ agents, List.Forall₂ (fun ref agent => store.getDefinition "agent" ref = some agent)
        payload.agentRefs agents ∧
      (metadata.get "agent_definitions").or (.arr []) =
        .arr (agents.map fun agent => .obj (Dict.sortKeys agent)) := by
  obtain ⟨agents, hagents, hdefinitions⟩ := h.agents
  refine ⟨agents, hagents, ?_⟩
  rw [Dict.get_eq, hdefinitions]
  cases hrefs : payload.agentRefs with
  | nil =>
    rw [hrefs] at hagents
    cases hagents
    rfl
  | cons ref refs =>
    rw [hrefs] at hagents
    cases hagents
    rfl

theorem NamesParticipants.stages (h : NamesParticipants store payload metadata) :
    StagesNamed store payload metadata := by
  intro access kind staged hstaged p hp
  obtain ⟨agents, hagents, hdefinitions⟩ := h.definitions
  rw [ArtifactAccess.stagePluginSubmission] at hstaged
  split at hstaged
  · rw [hdefinitions] at hstaged
    obtain ⟨definition, hmem, i, hi⟩ := stageParticipants_ok hstaged p hp
    obtain ⟨agent, hagent, heq⟩ := List.mem_map.1 hmem
    obtain ⟨ref, href, hregistered⟩ := forall₂_mem hagents hagent
    subst heq
    exact ⟨ref, href, agent, i, hregistered, hi⟩
  · cases hstaged
    exact absurd hp List.not_mem_nil

section
variable {d : Deployment} {sha256 : ByteArray → String} {server server₁ later : Server}
  {payload : SubmitPayload} {r : Execution} {h : List ServerEvent} {now : Instant}
  {task : TaskRecord} {store : JudgeStore}

theorem server_submission (hpath : Path (ServerStep d sha256) server l later)
    (hr : server.store.executions.find? E = some r) :
    ∃ r', later.store.executions.find? E = some r' ∧ r'.toSubmission = r.toSubmission := by
  induction hpath with
  | refl => exact ⟨r, hr, rfl⟩
  | next _ hs ih =>
    obtain ⟨q, hq, hsub⟩ := ih
    cases hs with
    | submission hsubmit =>
      obtain heq | ⟨_, _, hstep⟩ := submission_store hsubmit
      · rw [heq]
        exact ⟨q, hq, hsub⟩
      · obtain ⟨r', hr', hsub'⟩ := store_submission hstep hq
        exact ⟨r', hr', hsub'.trans hsub⟩
    | operation _ hstep =>
      obtain ⟨r', hr', hsub'⟩ := store_submission hstep hq
      exact ⟨r', hr', hsub'.trans hsub⟩
    | upload => exact ⟨q, hq, hsub⟩

/-- Whatever request made the row of an accepted submission, its metadata says what the
submission comes to. -/
theorem accepted_metadata (hinj : Function.Injective sha256) (hdigest : ∀ b, sha256 b ≠ "")
    (hrun : ServerRun d sha256 h server)
    (haccept : submitExecution d sha256 server now E header snapshot payload = (.ok reply, server₁))
    (hlater : Path (ServerStep d sha256) server₁ l later)
    (hr : later.store.executions.find? reply.executionId = some r) :
    ∃ task path request, server.store.tasks.find? payload.taskRef = some task ∧
      r.taskRef = payload.taskRef ∧
      executionRequest d server.store task path payload = .ok request ∧
      ∀ key ∉ provenanceKeys, r.storedMetadata.lookup? key =
        (request.metadata.lookup? key).map Json.sortKeys := by
  obtain ⟨task, path, request, request', hcheck, _, hrequest, hoverride, hstored⟩ :=
    submitExecution_ok haccept
  obtain ⟨_, hstore⟩ := server_store_run hrun
  obtain ⟨_, hstore₁⟩ := server_store_run (hrun.next (.submission haccept))
  obtain ⟨r₁, hr₁, _, hfp⟩ := submit_reply hdigest hstore hstored
  obtain ⟨r', hr', hsub⟩ := server_submission hlater hr₁
  cases Option.some.inj (hr'.symm.trans hr)
  obtain ⟨first, task₀, _, hfp₀, _, hrow⟩ := run_submittedFor hstore₁ hr₁
  have hsame := requestFingerprint_inj hinj hfp₀ hfp
  obtain ⟨resourceClass, hrequest'⟩ := overrideResourceClass_ok hoverride
  obtain ⟨_, _, _, _, _, _, _, _, _, _, _, hfields⟩ := executionRequest_ok hrequest
  refine ⟨task, path, request, (checkRequest_ok hcheck).1, ?_, hrequest, ?_⟩
  · have href : r.taskRef = first.taskRef := congrArg Submission.taskRef (hsub.trans hrow)
    rw [href, hsame.taskRef, hrequest', hfields]
  · intro key hkey
    have hmetadata := hsame.metadata
    rw [Json.sortKeys_obj, Json.sortKeys_obj, Json.obj.injEq] at hmetadata
    have hfirst : r.metadataJson = submittedMetadata first task₀.manifest r₁.executionId :=
      congrArg Submission.metadataJson (hsub.trans hrow)
    calc r.storedMetadata.lookup? key
        = (r.metadataJson.lookup? key).map Json.sortKeys := Dict.lookup?_sortKeys _ _
      _ = (first.metadata.lookup? key).map Json.sortKeys := by
          rw [hfirst, submittedMetadata_lookup _ _ _ hkey]
      _ = first.metadata.sortKeys.lookup? key := (Dict.lookup?_sortKeys _ _).symm
      _ = request'.metadata.sortKeys.lookup? key := by rw [hmetadata]
      _ = (request'.metadata.lookup? key).map Json.sortKeys := Dict.lookup?_sortKeys _ _
      _ = (request.metadata.lookup? key).map Json.sortKeys := by rw [hrequest']

theorem agentDefinition_ok (h : agentDefinition store ref = .ok agent) :
    store.getDefinition "agent" ref = some agent := by
  rw [agentDefinition] at h
  split at h
  · exact (abort_ok.1 h).elim
  · next hfound =>
    split at h
    · cases h
      exact hfound
    · exact (abort_ok.1 h).elim

theorem gameDefinition_ok (h : gameDefinition store task ref = .ok game) :
    store.getDefinition "game" ref = some game ∧
      (Dict.get game "task_ref").eq (.text task.taskRef) := by
  rw [gameDefinition] at h
  split at h
  · exact (abort_ok.1 h).elim
  · next hfound =>
    split at h
    · next heq =>
      cases h
      exact ⟨hfound, heq⟩
    · exact (abort_ok.1 h).elim

theorem participants_ok (h : participants store task payload = .ok (agents, game)) :
    List.Forall₂ (fun ref agent => store.getDefinition "agent" ref = some agent)
      payload.agentRefs agents ∧
    (given payload.gameRef = none ∧ game = none ∨
      ∃ ref definition, given payload.gameRef = some ref ∧ game = some definition ∧
        store.getDefinition "game" ref = some definition ∧
        (Dict.get definition "task_ref").eq (.text task.taskRef)) := by
  obtain ⟨agents', hagents, h⟩ := bind_ok.1 h
  have hregistered := (mapM_forall₂ hagents).imp fun _ _ => agentDefinition_ok
  split at h
  · next hnone =>
    cases pure_ok.1 h
    exact ⟨hregistered, .inl ⟨hnone, rfl⟩⟩
  · next ref href =>
    obtain ⟨definition, hgame, h⟩ := bind_ok.1 h
    cases pure_ok.1 h
    obtain ⟨hfound, htask⟩ := gameDefinition_ok hgame
    exact ⟨hregistered, .inr ⟨ref, definition, href, rfl, hfound, htask⟩⟩

theorem evaluationMetadata_lookup (payload : SubmitPayload) (kind : String) (agents : List Dict)
    (game : Option Dict) (capabilities : List Json) :
    let metadata := evaluationMetadata payload kind agents game capabilities
    metadata.lookup? "agent_definitions" =
      (if agents = [] then none else some (.arr (agents.map Json.obj))).or
        (payload.metadata.lookup? "agent_definitions") ∧
    metadata.lookup? "game_definition" =
      (game.map Json.obj).or (payload.metadata.lookup? "game_definition") ∧
    metadata.lookup? "evaluation_kind" = some (.text kind) ∧
    metadata.lookup? "agent_refs" =
      (if payload.agentRefs = [] then none
        else some (.arr (payload.agentRefs.map Json.text))).or
        (payload.metadata.lookup? "agent_refs") ∧
    metadata.lookup? "game_ref" =
      ((given payload.gameRef).map Json.text).or (payload.metadata.lookup? "game_ref") := by
  refine ⟨?_, ?_, ?_, ?_, ?_⟩ <;>
    simp only [evaluationMetadata, Dict.lookup?_set_text, Dict.lookup?_setSome_text,
      Dict.lookup?_setSome_self, Dict.lookup?_set_self, ne_eq, String.reduceEq, not_false_eq_true]

theorem sortKeys_objects (agents : List Dict) : (Json.arr (agents.map Json.obj)).sortKeys =
    .arr (agents.map fun agent => .obj (Dict.sortKeys agent)) := by
  rw [Json.sortKeys, Json.sortKeysItems_eq, List.map_map]
  simp only [Function.comp_def, Json.sortKeys_obj]

theorem sortKeys_texts (texts : List String) :
    (Json.arr (texts.map Json.text)).sortKeys = .arr (texts.map Json.text) := by
  rw [Json.sortKeys, Json.sortKeysItems_eq, List.map_map]
  rfl

/-- What is stored of an accepted submission about its participants. -/
structure Records (store : JudgeStore) (task : TaskRecord) (payload : SubmitPayload) (kind : String)
    (metadata : Dict) : Prop where
  evaluationKind : evaluationKind task payload = .ok kind
  evaluation : metadata.lookup? "evaluation_kind" = some (.text kind)
  agents : ∃ agents, List.Forall₂ (fun ref agent => store.getDefinition "agent" ref = some agent)
      payload.agentRefs agents ∧
    metadata.lookup? "agent_definitions" =
      (if payload.agentRefs = [] then none
        else some (.arr (agents.map fun agent => .obj (Dict.sortKeys agent)))).or
        ((payload.metadata.lookup? "agent_definitions").map Json.sortKeys)
  agentRefs : metadata.lookup? "agent_refs" =
    (if payload.agentRefs = [] then none
      else some (.arr (payload.agentRefs.map Json.text))).or
      ((payload.metadata.lookup? "agent_refs").map Json.sortKeys)
  noGame : given payload.gameRef = none →
    metadata.lookup? "game_definition" =
      (payload.metadata.lookup? "game_definition").map Json.sortKeys ∧
    metadata.lookup? "game_ref" = (payload.metadata.lookup? "game_ref").map Json.sortKeys
  game : ∀ ref, given payload.gameRef = some ref →
    ∃ game, store.getDefinition "game" ref = some game ∧
      (Dict.get game "task_ref").eq (.text task.taskRef) ∧
      metadata.lookup? "game_definition" = some (.obj (Dict.sortKeys game)) ∧
      metadata.lookup? "game_ref" = some (.text ref)

theorem accepted_records (hinj : Function.Injective sha256) (hdigest : ∀ b, sha256 b ≠ "")
    (hrun : ServerRun d sha256 h server)
    (haccept : submitExecution d sha256 server now E header snapshot payload = (.ok reply, server₁))
    (hlater : Path (ServerStep d sha256) server₁ l later)
    (hr : later.store.executions.find? reply.executionId = some r) :
    ∃ task kind, server.store.tasks.find? payload.taskRef = some task ∧
      r.taskRef = payload.taskRef ∧
      Records server.store task payload kind r.storedMetadata := by
  obtain ⟨task, path, request, htask, href, hrequest, hlookup⟩ :=
    accepted_metadata hinj hdigest hrun haccept hlater hr
  obtain ⟨_, kind, agents, game, _, capabilities, _, hkind, hparticipants, _, _, hfields⟩ :=
    executionRequest_ok hrequest
  have hmetadata : request.metadata = evaluationMetadata payload kind agents game capabilities := by
    rw [hfields]
  obtain ⟨hagents, hgame⟩ := participants_ok hparticipants
  obtain ⟨hdefinitions, hdefinition, hevaluation, hrefs, hgameRef⟩ :=
    evaluationMetadata_lookup payload kind agents game capabilities
  rw [← hmetadata] at hdefinitions hdefinition hevaluation hrefs hgameRef
  have hempty : agents = [] ↔ payload.agentRefs = [] := by
    rw [← List.length_eq_zero_iff, ← List.length_eq_zero_iff, hagents.length_eq]
  refine ⟨task, kind, htask, href, hkind, ?_, ⟨agents, hagents, ?_⟩, ?_, ?_, ?_⟩
  · rw [hlookup _ (by decide), hevaluation]
    rfl
  · rw [hlookup _ (by decide), hdefinitions, Option.map_or]
    simp only [hempty, apply_ite (Option.map Json.sortKeys), Option.map_none, Option.map_some,
      sortKeys_objects]
  · rw [hlookup _ (by decide), hrefs, Option.map_or]
    simp only [apply_ite (Option.map Json.sortKeys), Option.map_none, Option.map_some,
      sortKeys_texts]
  · intro hnone
    obtain ⟨_, hgame⟩ | ⟨_, _, href, _⟩ := hgame
    · rw [hlookup _ (by decide), hlookup _ (by decide), hdefinition, hgameRef, hgame, hnone]
      exact ⟨rfl, rfl⟩
    · cases hnone.symm.trans href
  · intro ref href
    obtain ⟨hnone, _⟩ | ⟨ref', definition, href', hgame, hfound, htask⟩ := hgame
    · cases hnone.symm.trans href
    · cases Option.some.inj (href'.symm.trans href)
      refine ⟨definition, hfound, htask, ?_, ?_⟩
      · rw [hlookup _ (by decide), hdefinition, hgame]
        exact congrArg some (Json.sortKeys_obj definition)
      · rw [hlookup _ (by decide), hgameRef, href]
        rfl

/-- The stored keys are those of the request just where the client wrote none of its own. -/
theorem Records.names_iff (hrecords : Records store task payload kind metadata) :
    NamesParticipants store payload metadata ↔ LeavesParticipants payload := by
  have habsent {v : Option Json} {key : PyStr}
      (hkey : v = (payload.metadata.lookup? key).map Json.sortKeys) :
      v = none ↔ payload.metadata.contains key = false := by
    rw [hkey, Option.map_eq_none_iff, Dict.contains_eq, Option.isSome_eq_false_iff,
      Option.isNone_iff_eq_none]
  obtain ⟨agents, hagents, hdefinitions⟩ := hrecords.agents
  have hrefs := hrecords.agentRefs
  constructor
  · intro hnames
    constructor
    · intro hempty
      obtain ⟨_, _, hnamed⟩ := hnames.agents
      have hnamedRefs := hnames.agentRefs
      rw [if_pos hempty] at hdefinitions hrefs hnamed hnamedRefs
      exact ⟨(habsent hdefinitions).1 hnamed, (habsent hrefs).1 hnamedRefs⟩
    · intro hnone
      obtain ⟨hdefinition, hgameRef⟩ := hrecords.noGame hnone
      obtain ⟨hnamed, hnamedRef⟩ := hnames.noGame hnone
      exact ⟨(habsent hdefinition).1 hnamed, (habsent hgameRef).1 hnamedRef⟩
  · intro hleaves
    refine ⟨⟨agents, hagents, ?_⟩, ?_, ?_, ?_⟩
    · by_cases hempty : payload.agentRefs = []
      · rw [if_pos hempty] at hdefinitions ⊢
        exact (habsent hdefinitions).2 (hleaves.agents hempty).1
      · rw [hdefinitions, if_neg hempty]
        rfl
    · by_cases hempty : payload.agentRefs = []
      · rw [if_pos hempty] at hrefs ⊢
        exact (habsent hrefs).2 (hleaves.agents hempty).2
      · rw [hrefs, if_neg hempty]
        rfl
    · intro hnone
      obtain ⟨hdefinition, hgameRef⟩ := hrecords.noGame hnone
      exact ⟨(habsent hdefinition).2 (hleaves.game hnone).1,
        (habsent hgameRef).2 (hleaves.game hnone).2⟩
    · intro ref href
      obtain ⟨game, hfound, _, hdefinition, hgameRef⟩ := hrecords.game ref href
      exact ⟨game, hfound, hdefinition, hgameRef⟩

theorem NamesParticipants.stages_alike {store' : JudgeStore} {metadata' : Dict}
    (h : NamesParticipants store payload metadata)
    (h' : NamesParticipants store' payload' metadata') (hregistered : Registered store store')
    (hrefs : payload'.agentRefs = payload.agentRefs)
    (hkind : metadata.lookup? "evaluation_kind" = metadata'.lookup? "evaluation_kind")
    (access : ArtifactAccess) (kind : String) :
    access.stagePluginSubmission kind metadata = access.stagePluginSubmission kind metadata' := by
  obtain ⟨agents, hagents, hdefinitions⟩ := h.agents
  obtain ⟨agents', hagents', hdefinitions'⟩ := h'.agents
  have hlater := hagents.imp fun ref agent
      (hagent : store.getDefinition "agent" ref = some agent) =>
    hregistered.getDefinition hagent
  rw [hrefs] at hagents' hdefinitions'
  have heq := List.right_unique_forall₂' (fun ref agent agent' hagent hagent' =>
    Option.some.inj (hagent.symm.trans hagent')) hlater hagents'
  subst heq
  exact stagePluginSubmission_congr access kind (hdefinitions.trans hdefinitions'.symm) hkind

theorem submitRequest_ok {request : SubmissionRequest}
    (hbody : request.body d parseInt server.store = .ok (header, payload))
    (h : submitRequest d parseInt sha256 server now E snapshot request = (.ok reply, server₁)) :
    submitExecution d sha256 server now E header snapshot payload = (.ok reply, server₁) := by
  rw [submitRequest, hbody] at h
  exact h

/-- Accepted submissions record and stage the participants that they name, and no client can change
that, just where no client writes the keys that its submission leaves out. -/
theorem participants_named_iff (hinj : Function.Injective sha256) (hdigest : ∀ b, sha256 b ≠ "")
    {request request' : SubmissionRequest}
    (hrun : ServerRun d sha256 h server) (hrun' : ServerRun d sha256 h' server')
    (hregistered : Registered server.store server'.store)
    (hbody : request.body d parseInt server.store = .ok (header, payload))
    (hbody' : request'.body d parseInt server'.store = .ok (header', payload'))
    (hsame : SameButParticipants payload payload')
    (haccept : submitRequest d parseInt sha256 server now E snapshot request =
      (.ok reply, server₁))
    (haccept' : submitRequest d parseInt sha256 server' now' E' snapshot' request' =
      (.ok reply', server₁'))
    (hlater : Path (ServerStep d sha256) server₁ l later)
    (hlater' : Path (ServerStep d sha256) server₁' l' later')
    (hr : later.store.executions.find? reply.executionId = some r)
    (hr' : later'.store.executions.find? reply'.executionId = some r') :
    ((NamesParticipants server.store payload r.storedMetadata ∧
        StagesNamed server.store payload r.storedMetadata) ∧
      (NamesParticipants server'.store payload' r'.storedMetadata ∧
        StagesNamed server'.store payload' r'.storedMetadata) ∧
      ∀ (access : ArtifactAccess) kind,
        access.stagePluginSubmission kind r.storedMetadata =
          access.stagePluginSubmission kind r'.storedMetadata) ↔
      LeavesParticipants payload ∧ LeavesParticipants payload' := by
  obtain ⟨task, kind, htask, _, hrecords⟩ :=
    accepted_records hinj hdigest hrun (submitRequest_ok hbody haccept) hlater hr
  obtain ⟨task', kind', htask', _, hrecords'⟩ :=
    accepted_records hinj hdigest hrun' (submitRequest_ok hbody' haccept') hlater' hr'
  constructor
  · rintro ⟨⟨hnames, _⟩, ⟨hnames', _⟩, _⟩
    exact ⟨hrecords.names_iff.1 hnames, hrecords'.names_iff.1 hnames'⟩
  · rintro ⟨hleaves, hleaves'⟩
    have hnames := hrecords.names_iff.2 hleaves
    have hnames' := hrecords'.names_iff.2 hleaves'
    have href : payload'.taskRef = payload.taskRef := by rw [hsame.fields]
    have hrefs : payload'.agentRefs = payload.agentRefs := by rw [hsame.fields]
    have hlast := hregistered.tasks _ _ htask
    rw [href] at htask'
    cases Option.some.inj (hlast.symm.trans htask')
    -- the kind of the evaluation comes from fields that the requests share
    have hkinds : evaluationKind task payload' = evaluationKind task payload := by
      rw [hsame.fields]
      rfl
    have hkind := hrecords'.evaluationKind
    rw [hkinds] at hkind
    cases Except.ok.inj (hrecords.evaluationKind.symm.trans hkind)
    have hevaluation := hrecords.evaluation.trans hrecords'.evaluation.symm
    exact ⟨⟨hnames, hnames.stages⟩, ⟨hnames', hnames'.stages⟩,
      hnames.stages_alike hnames' hregistered hrefs hevaluation⟩

end

namespace Sample

def arena : TaskRecord := ⟨"arena", "artifact://" ++ artifact, "game", [("kind", .text "game")]⟩

def agent (agentId : String) : Definition :=
  ⟨"agent", agentId, [("agent_id", .text agentId),
    ("artifact_path", .text ("artifact://" ++ artifact))]⟩

def duel : Definition :=
  ⟨"game", "duel", [("game_id", .text "duel"), ("task_ref", .text "arena"),
    ("seats", .num (.int 2))]⟩

def arenaSetup : List (Instant × Op) :=
  [(clock 0, .registerTask arena), (clock 0, .registerDefinition duel),
    (clock 0, .registerDefinition (agent "left")), (clock 0, .registerDefinition (agent "right"))]

/-- A game for two with its task and two agents. -/
def arenaServer : Server := ⟨(performAll sha256 .empty arenaSetup).2, [artifact]⟩

theorem arena_run : ∃ h, ServerRun deployment sha256 h arenaServer := by
  have hstart : ServerRun deployment sha256 [] .empty := .start rfl
  have hupload : ServerRun deployment sha256 [.upload artifact] ⟨.empty, [artifact]⟩ :=
    hstart.next .upload
  have hsetup : ∀ o ∈ arenaSetup, ∀ E request, o.2 ≠ .submit E request := by
    intro o ho E request hop
    simp only [arenaSetup, List.mem_cons, List.not_mem_nil, or_false] at ho
    rcases ho with ho | ho | ho | ho <;> rw [ho] at hop <;> cases hop
  exact ⟨_, hupload.append (performAll_server _ arenaSetup hsetup)⟩

/-- No text is parsed below. -/
def parseInt (_ : PyStr) : Except PyError Int := .error (.valueError [])

/-- A client's own list of agents. -/
def smuggled : Dict := [("agent_definitions", .arr [.obj
  [("agent_id", .text "mallory"), ("artifact_path", .text ("artifact://" ++ artifact))]])]

/-- An evaluation of the game without its agents. -/
def emptyMatch : SubmitPayload :=
  { payload "key-1" smuggled with
    taskRef := "arena", evaluationKind := "match", gameRef := some "duel" }

def matchRequest (metadata : Dict) : MatchRequest where
  agentRefs := ["left", "right"]
  submissionPath := none
  submissionArtifactId := some artifact
  idempotencyKey := "key-1"
  seed := none
  callbackUrl := none
  callbackToken := none
  metadata := metadata
  queue := "default"
  resourceClass := "cpu"
  priority := 0

def duelPayload (metadata : Dict) : SubmitPayload := (matchRequest metadata).payload "arena" "duel"

def requested (server : Server) (request : SubmissionRequest) :
    Except Failure ExecutionResult × Server :=
  submitRequest deployment parseInt sha256 server (clock 1) "e1" noDirectory request

def duelled (metadata : Dict) : Except Failure ExecutionResult × Server :=
  requested arenaServer (.gameMatch "duel" (matchRequest metadata))

/-- The execution of an accepted request. -/
def recorded (outcome : Except Failure ExecutionResult × Server) : Option Execution :=
  outcome.1.toOption.bind fun reply => outcome.2.store.executions.find? reply.executionId

theorem recorded_some {request : SubmissionRequest}
    (h : recorded (requested server request) = some r) :
    ∃ reply server₁, submitRequest deployment parseInt sha256 server (clock 1) "e1" noDirectory
        request = (.ok reply, server₁) ∧
      server₁.store.executions.find? reply.executionId = some r := by
  obtain ⟨reply, hreply, hr⟩ := Option.bind_eq_some_iff.1 h
  exact ⟨reply, _, Prod.ext (toOption_eq_some.1 hreply) rfl, hr⟩

theorem matchPayload_duel (metadata : Dict) : matchPayload deployment parseInt arenaServer.store
    "duel" (matchRequest metadata) = .ok (duelPayload metadata) := by
  have hgame : arenaServer.store.getDefinition "game" "duel" =
      some (JudgeStore.definitionDict duel) := by
    decide +kernel
  have hseats : gameSeats parseInt (JudgeStore.definitionDict duel) = .ok 2 := by rfl
  have htask : gameTaskRef deployment (JudgeStore.definitionDict duel) = .ok "arena" := by
    decide +kernel
  simp only [matchPayload, hgame, hseats, htask]
  rfl

theorem duel_body (metadata : Dict) :
    (SubmissionRequest.gameMatch "duel" (matchRequest metadata)).body
    deployment parseInt arenaServer.store = .ok (none, duelPayload metadata) := by
  rw [SubmissionRequest.body, matchPayload_duel]
  rfl

/-- Every artifact is a directory. -/
def access : ArtifactAccess := ⟨fun _ => [], fun _ => .ok true⟩

end Sample

theorem participants_named_iff_sample : ∃ r r',
    Sample.recorded (Sample.duelled []) = some r ∧
    Sample.recorded (Sample.duelled Sample.smuggled) = some r' ∧
    NamesParticipants Sample.arenaServer.store (Sample.duelPayload Sample.smuggled)
      r'.storedMetadata ∧
    ∀ (access : ArtifactAccess) kind, access.stagePluginSubmission kind r.storedMetadata =
      access.stagePluginSubmission kind r'.storedMetadata := by
  obtain ⟨_, hrun⟩ := Sample.arena_run
  have hplain : (Sample.recorded (Sample.duelled [])).isSome = true := by decide +kernel
  have hsmuggled : (Sample.recorded (Sample.duelled Sample.smuggled)).isSome = true := by
    decide +kernel
  obtain ⟨r, hplain⟩ := Option.isSome_iff_exists.1 hplain
  obtain ⟨r', hsmuggled⟩ := Option.isSome_iff_exists.1 hsmuggled
  obtain ⟨reply, server, haccept, hr⟩ := Sample.recorded_some hplain
  obtain ⟨reply', server', haccept', hr'⟩ := Sample.recorded_some hsmuggled
  have hsame : SameButParticipants (Sample.duelPayload [])
      (Sample.duelPayload Sample.smuggled) := by
    refine ⟨rfl, ?_⟩
    intro key hkey
    have hne : key ≠ PyStr.ofString "agent_definitions" := hkey _ List.mem_cons_self
    simp [Sample.duelPayload, Sample.matchRequest, MatchRequest.payload, Sample.smuggled,
      Dict.lookup?, Ne.symm hne]
  have hleaves (metadata : Dict) : LeavesParticipants (Sample.duelPayload metadata) := by
    have hduel : given (Sample.duelPayload metadata).gameRef = some "duel" := rfl
    constructor
    · exact fun h => absurd h (List.cons_ne_nil _ _)
    · exact fun h => absurd (hduel.symm.trans h) (Option.some_ne_none _)
  obtain ⟨_, ⟨hnames, _⟩, hstages⟩ := (participants_named_iff Sample.sha256_injective
    Sample.sha256_nonempty hrun hrun (.refl _) (Sample.duel_body [])
      (Sample.duel_body Sample.smuggled)
    hsame haccept haccept' .refl .refl hr hr').2 ⟨hleaves _, hleaves _⟩
  exact ⟨r, r', hplain, hsmuggled, hnames, hstages⟩

/-- Who names no agents brings an agent of its own, and a worker stages it. -/
theorem smuggled_participants_sample : ∃ h server payload reply server₁ r staged,
    ServerRun Sample.deployment Sample.sha256 h server ∧
    submitRequest Sample.deployment Sample.parseInt Sample.sha256 server (Sample.clock 1) "e1"
      Sample.noDirectory (.execution none payload) = (.ok reply, server₁) ∧
    server₁.store.executions.find? reply.executionId = some r ∧ payload.agentRefs = [] ∧
    Sample.access.stagePluginSubmission "game" r.storedMetadata = .ok staged ∧
    staged.map Participant.agentId = [PyStr.ofString "mallory"] ∧
    ¬NamesParticipants server.store payload r.storedMetadata ∧
    ¬StagesNamed server.store payload r.storedMetadata := by
  obtain ⟨h, hrun⟩ := Sample.arena_run
  have hstaged : (Sample.recorded (Sample.requested Sample.arenaServer
      (.execution none Sample.emptyMatch))).any (fun r =>
        (Sample.access.stagePluginSubmission "game" r.storedMetadata).toOption.any fun staged =>
          staged.map Participant.agentId = [PyStr.ofString "mallory"]) = true := by
    decide +kernel
  obtain ⟨r, hrecorded, hstaged⟩ := (Option.any_eq_true _ _).1 hstaged
  obtain ⟨staged, hstage, hmallory⟩ := (Option.any_eq_true _ _).1 hstaged
  have hstage := toOption_eq_some.1 hstage
  have hmallory := of_decide_eq_true hmallory
  obtain ⟨reply, server₁, hrequest, hr⟩ := Sample.recorded_some hrecorded
  have hnot : ¬StagesNamed Sample.arenaServer.store Sample.emptyMatch r.storedMetadata := by
    intro hnamed
    cases staged with
    | nil => cases hmallory
    | cons p rest =>
      obtain ⟨_, href, _⟩ := hnamed Sample.access "game" _ hstage p List.mem_cons_self
      exact absurd href List.not_mem_nil
  exact ⟨h, Sample.arenaServer, Sample.emptyMatch, reply, server₁, r, staged, hrun, hrequest, hr,
    rfl, hstage, hmallory, fun hnames => hnot hnames.stages, hnot⟩

end BrunostJudge
