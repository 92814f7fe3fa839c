import BrunostJudge.Server
import BrunostJudge.StoreRun

namespace BrunostJudge
open Python Transition
set_option autoImplicit true

/-- The body of a submission. -/
structure SubmitPayload where
  taskRef : String
  submissionPath : Option String
  submissionArtifactId : Option String
  idempotencyKey : String
  callbackUrl : Option String
  callbackToken : Option String
  metadata : Dict
  queue : String
  resourceClass : String
  priority : Int
  timeoutSeconds : Option Int
  evaluationKind : String
  agentRefs : List String
  gameRef : Option String
  seed : Option Int

/-- `BUILTIN_KINDS`. -/
def builtinKinds : List String :=
  ["ioai", "output-only", "model", "optimization", "quiz", "coding", "icpc", "interactive", "agent",
    "game"]

section
variable (d : Deployment)

/-- The checks of `_submit_execution` before it resolves the submission. -/
def checkRequest (store : JudgeStore) (idempotencyHeader : Option String)
    (payload : SubmitPayload) :
    Except Failure TaskRecord := do
  let header := strip (idempotencyHeader.getD "")
  if header ≠ "" ∧ header ≠ strip payload.idempotencyKey then
    abort 400 ("Idempotency-Key header does not match request body" : String)
  if d.requireIdempotencyHeader ∧ header = "" then
    abort 428 ("Idempotency-Key header is required" : String)
  match store.getTask payload.taskRef with
  | none => abort 404 ("unknown task_ref: " ++ payload.taskRef : String)
  | some task =>
    if !builtinKinds.contains task.kind then
      abort 501 ("task kind '" ++ task.kind ++ "' requires an installed evaluator runner plugin"
        : String)
    if (given payload.submissionPath).isSome = (given payload.submissionArtifactId).isSome then
      abort 422 ("provide exactly one of submission_path or submission_artifact_id" : String)
    pure task

/-- Resolves the submission. `snapshot` is what packing the directory of a path comes to: an
error, or the id of the artifact it makes. -/
def resolveSubmission (server : Server) (snapshot : String → Except Failure String)
    (payload : SubmitPayload) : Except Failure String × Server :=
  match given payload.submissionPath with
  | some path =>
    match snapshot path with
    | .ok id => (.ok ("artifact://" ++ id), { server with artifacts := id :: server.artifacts })
    | .error failure => (.error failure, server)
  | none => (server.artifactPath payload.submissionArtifactId, server)

/-- Which kind of evaluation a task gets. -/
def evaluationKind (task : TaskRecord) (payload : SubmitPayload) : Except Failure String := do
  let kind := payload.evaluationKind
  if !List.contains ["batch", "interactive", "agent", "match"] kind then
    abort 422 ("evaluation_kind must be batch, interactive, agent, or match" : String)
  if task.kind = "agent" ∧ kind ≠ "agent" then
    abort 422 ("agent tasks require evaluation_kind=agent" : String)
  if task.kind = "game" ∧ kind ≠ "match" then
    abort 422 ("game tasks require evaluation_kind=match" : String)
  let kind := if task.kind = "interactive" ∧ kind = "batch" then "interactive" else kind
  if task.kind = "interactive" ∧ kind ≠ "interactive" then
    abort 422 ("interactive tasks require evaluation_kind=interactive" : String)
  if kind = "agent" ∧ task.kind ≠ "agent" then
    abort 422 ("evaluation_kind=agent requires an agent task" : String)
  if kind = "match" ∧ task.kind ≠ "game" then
    abort 422 ("evaluation_kind=match requires a game task" : String)
  if kind = "interactive" ∧ task.kind ≠ "interactive" then
    abort 422 ("evaluation_kind=interactive requires an interactive task" : String)
  if kind = "agent" ∧ payload.agentRefs = [] then
    abort 422 ("agent evaluations require at least one agent_ref" : String)
  if kind = "match" ∧ (given payload.gameRef).isNone then
    abort 422 ("match evaluations require game_ref" : String)
  if payload.agentRefs ≠ [] ∧ kind ≠ "agent" ∧ kind ≠ "match" then
    abort 422 ("agent_refs are only valid for agent or match evaluations" : String)
  if (given payload.gameRef).isSome ∧ kind ≠ "match" then
    abort 422 ("game_ref is only valid for match evaluations" : String)
  pure kind

def agentDefinition (store : JudgeStore) (agentRef : String) : Except Failure Dict :=
  match store.getDefinition "agent" agentRef with
  | none => abort 404 ("unknown agent: " ++ agentRef : String)
  | some definition =>
    if (Dict.get definition "artifact_path").truthy then pure definition
    else abort 422 ("agent '" ++ agentRef ++ "' has no executable artifact" : String)

def gameDefinition (store : JudgeStore) (task : TaskRecord) (gameRef : String) :
    Except Failure Dict :=
  match store.getDefinition "game" gameRef with
  | none => abort 404 ("unknown game: " ++ gameRef : String)
  | some game =>
    if (Dict.get game "task_ref").eq (.text task.taskRef) then pure game
    else abort 422 ("game task_ref does not match evaluation task_ref" : String)

/-- The registered definitions of the agents, and of the game if there is one. -/
def participants (store : JudgeStore) (task : TaskRecord) (payload : SubmitPayload) :
    Except Failure (List Dict × Option Dict) := do
  let agents ← payload.agentRefs.mapM (agentDefinition store)
  match given payload.gameRef with
  | none => pure (agents, none)
  | some gameRef =>
    let game ← gameDefinition store task gameRef
    pure (agents, some game)

/-- The set of the capabilities that the task, the agents and the game require. -/
def declaredCapabilities (manifest : Dict) (agents : List Dict) (game : Option Dict) :
    Except PyError (List Json) := do
  let declared ← (manifest :: agents ++ game.toList).mapM fun definition =>
    (definition.get "required_capabilities").setElements
  pure (declared.flatten.foldl setInsert [])

/-- The metadata that is submitted, from the client's. -/
def evaluationMetadata (payload : SubmitPayload) (kind : String) (agents : List Dict)
    (game : Option Dict) (capabilities : List Json) : Dict :=
  let metadata := payload.metadata
  let metadata := metadata.setSome "agent_definitions"
    (if agents = [] then none else some (.arr (agents.map Json.obj)))
  let metadata := metadata.setSome "game_definition" (game.map Json.obj)
  let metadata := metadata.setSome "required_capabilities"
    (if capabilities = [] then none else some (.arr capabilities))
  let metadata := metadata.set "evaluation_kind" (.text kind)
  let metadata := metadata.setSome "agent_refs"
    (if payload.agentRefs = [] then none else some (.arr (payload.agentRefs.map Json.text)))
  let metadata := metadata.setSome "game_ref" ((given payload.gameRef).map Json.text)
  metadata.setSome "seed" (payload.seed.map fun seed => .num (.int seed))

/-- The request that reaches the store, but for its resource class. -/
def executionRequest (store : JudgeStore) (task : TaskRecord) (submissionPath : String)
    (payload : SubmitPayload) : Except Failure ExecutionRequest := do
  let callbackUrl ← d.validateCallbackUrl payload.callbackUrl
  let kind ← evaluationKind task payload
  let (agents, game) ← participants store task payload
  let declared ← unhandled (declaredCapabilities task.manifest agents game)
  let capabilities ← unhandled (sorted declared)
  pure {
    taskRef := payload.taskRef
    submissionPath := submissionPath
    idempotencyKey := payload.idempotencyKey
    callbackUrl := callbackUrl
    callbackToken := payload.callbackToken
    metadata := evaluationMetadata payload kind agents game capabilities
    queue := payload.queue
    resourceClass := payload.resourceClass
    priority := payload.priority
    timeoutSeconds := payload.timeoutSeconds }

/-- The resource class of the task overrides the one of the request. A text that cannot be
encoded makes the fingerprint of the request fail. -/
def overrideResourceClass (task : TaskRecord) (request : ExecutionRequest) :
    Except PyError ExecutionRequest :=
  let override := Dict.get task.manifest "resource_class"
  if override.truthy then
    match (d.str override).encode? with
    | some resourceClass => .ok { request with resourceClass := resourceClass }
    | none => .error .unicodeEncodeError
  else .ok request

/-- How `_submit_execution` answers for what the store raises. -/
def storeFailure : PyError → Failure
  | .keyError message => .http 404 (d.describe (.keyError message))
  | .valueError message => .http 409 message
  | .unicodeEncodeError => .http 409 (d.describe .unicodeEncodeError)
  | err => .raised err

variable (sha256 : ByteArray → String)

/-- `_submit_execution`. The snapshot of a directory stays when the request fails after it. -/
def submitExecution (server : Server) (now : Instant) (executionId : String)
    (idempotencyHeader : Option String) (snapshot : String → Except Failure String)
    (payload : SubmitPayload) : Except Failure ExecutionResult × Server :=
  match checkRequest d server.store idempotencyHeader payload with
  | .error failure => (.error failure, server)
  | .ok task =>
    let (path, server) := resolveSubmission server snapshot payload
    let submitted := do
      let path ← path
      let request ← executionRequest d server.store task path payload
      ((overrideResourceClass d task request).bind
        (server.store.submit sha256 now executionId)).mapError (storeFailure d)
    match submitted with
    | .error failure => (.error failure, server)
    | .ok (result, store) => (.ok result, { server with store := store })

/-- What reaches the control plane: a submission, another operation on its store or an upload. -/
inductive ServerEvent where
  | submission (now : Instant) (executionId : String) (idempotencyHeader : Option String)
      (payload : SubmitPayload) (outcome : Except Failure ExecutionResult)
  | operation (event : Event)
  | upload (identifier : String)

/-- The other endpoints come down to operations on the store; none of them submits. -/
inductive ServerStep (server : Server) : ServerEvent → Server → Prop
  | submission {now executionId header snapshot payload outcome server'} :
      submitExecution d sha256 server now executionId header snapshot payload =
        (outcome, server') →
      ServerStep server (.submission now executionId header payload outcome) server'
  | operation {event store} : (∀ executionId request, event.op ≠ .submit executionId request) →
      StoreStep sha256 server.store event store →
      ServerStep server (.operation event) { server with store := store }
  | upload {identifier} :
      ServerStep server (.upload identifier)
        { server with artifacts := identifier :: server.artifacts }

abbrev ServerRun : List ServerEvent → Server → Prop := Run (· = .empty) (ServerStep d sha256)

end

namespace Sample

/-- A deployment that asks for nothing. No submission below has a callback to parse. -/
def deployment : Deployment where
  production := false
  requireIdempotencyHeader := false
  requireHttpsCallbacks := false
  callbackHosts := []
  allowInternalHttpCallbacks := false
  requireSignedCallbacks := false
  callbackSigningSecret := .ok none
  urlparse _ := .ok ⟨"", "", none, none, none, "", .ok none⟩
  repr _ := []
  describe _ := []

def artifact : String := "a69cef6c8a858bc287d145a73c72ef7127318cc3e3ac7d0b3545a2866e576374"

def scorer : TaskRecord := ⟨"cats", "artifact://" ++ artifact, "ioai", [("kind", .text "ioai")]⟩

def payload (idempotencyKey : String) (metadata : Dict) : SubmitPayload where
  taskRef := "cats"
  submissionPath := none
  submissionArtifactId := some artifact
  idempotencyKey := idempotencyKey
  callbackUrl := none
  callbackToken := none
  metadata := metadata
  queue := "default"
  resourceClass := "cpu"
  priority := 0
  timeoutSeconds := none
  evaluationKind := "batch"
  agentRefs := []
  gameRef := none
  seed := none

/-- An artifact is uploaded and a task registered. -/
def registered : Server :=
  ⟨(perform sha256 .empty (clock 0) (.registerTask scorer)).2, [artifact]⟩

def noDirectory (_ : String) : Except Failure String := abort 422 []

def submitted (server : Server) (executionId idempotencyKey : String) (metadata : Dict) :
    Except Failure ExecutionResult × Server :=
  submitExecution deployment sha256 server (clock 1) executionId none noDirectory
    (payload idempotencyKey metadata)

def submission (server : Server) (executionId idempotencyKey : String) (metadata : Dict) :
    ServerEvent :=
  .submission (clock 1) executionId none (payload idempotencyKey metadata)
    (submitted server executionId idempotencyKey metadata).1

theorem submitted_step (server : Server) (executionId idempotencyKey : String) (metadata : Dict) :
    ServerStep deployment sha256 server (submission server executionId idempotencyKey metadata)
      (submitted server executionId idempotencyKey metadata).2 := by
  have hsubmit : submitExecution deployment sha256 server (clock 1) executionId none noDirectory
      (payload idempotencyKey metadata) =
    ((submitted server executionId idempotencyKey metadata).1,
      (submitted server executionId idempotencyKey metadata).2) := rfl
  exact .submission hsubmit

end Sample

end BrunostJudge
