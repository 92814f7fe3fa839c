import BrunostJudge.Packages
import BrunostJudge.PyDumps
import BrunostJudge.Submission

namespace BrunostJudge
open Python Transition
set_option autoImplicit true

/-- `int(value)`, over what it makes of a text. -/
def toInt (parseInt : PyStr → Except PyError Int) : Json → Except PyError Int
  | .bool b => .ok (if b then 1 else 0)
  | .num (.int i) => .ok i
  | .num (.float x) => .ok (x.value.num.tdiv x.value.den)
  | .num .nan => .error (.valueError ("cannot convert float NaN to integer" : String))
  | .num (.inf _) => .error .overflowError
  | .str s => parseInt s
  | .null | .arr _ | .obj _ => .error .typeError

/-- The body of a match request. -/
structure MatchRequest where
  agentRefs : List String
  submissionPath : Option String
  submissionArtifactId : Option String
  idempotencyKey : String
  seed : Option Int
  callbackUrl : Option String
  callbackToken : Option String
  metadata : Dict
  queue : String
  resourceClass : String
  priority : Int

/-- The body that a match request is turned into. -/
def MatchRequest.payload (request : MatchRequest) (taskRef gameId : String) : SubmitPayload where
  taskRef := taskRef
  submissionPath := request.submissionPath
  submissionArtifactId := request.submissionArtifactId
  idempotencyKey := request.idempotencyKey
  callbackUrl := request.callbackUrl
  callbackToken := request.callbackToken
  metadata := request.metadata
  queue := request.queue
  resourceClass := request.resourceClass
  priority := request.priority
  timeoutSeconds := none
  evaluationKind := "match"
  agentRefs := request.agentRefs
  gameRef := some gameId
  seed := request.seed

/-- `int(game.get("seats", 2))`. -/
def gameSeats (parseInt : PyStr → Except PyError Int) (game : Dict) : Except PyError Int :=
  toInt parseInt (game.getD "seats" (.num (.int 2)))

section
variable (d : Deployment) (parseInt : PyStr → Except PyError Int)

/-- `str(game["task_ref"] or "")`, as the task that is looked up. -/
def gameTaskRef (game : Dict) : Except PyError String :=
  if game.contains "task_ref" then
    let taskRef := game.get "task_ref"
    match (if taskRef.truthy then d.str taskRef else []).encode? with
    | some text => .ok text
    | none => .error .unicodeEncodeError
  else .error (.keyError ("task_ref" : String))

/-- What `submit_match` checks itself, and the body it submits. -/
def matchPayload (store : JudgeStore) (gameId : String) (request : MatchRequest) :
    Except Failure SubmitPayload :=
  match store.getDefinition "game" gameId with
  | none => abort 404 ("game not found" : String)
  | some game => do
    let seats ← unhandled (gameSeats parseInt game)
    if request.agentRefs.length ≠ seats then
      abort 422 ("agent_refs count must match game seats" : String)
    let taskRef ← unhandled (gameTaskRef d game)
    pure (request.payload taskRef gameId)

/-- A request to one of the endpoints that submit. -/
inductive SubmissionRequest where
  | execution (idempotencyHeader : Option String) (payload : SubmitPayload)
  | evaluation (idempotencyHeader : Option String) (payload : SubmitPayload)
  | gameMatch (gameId : String) (request : MatchRequest)

/-- The header and the body that reach `_submit_execution`. -/
def SubmissionRequest.body (store : JudgeStore) :
    SubmissionRequest → Except Failure (Option String × SubmitPayload)
  | .execution header payload | .evaluation header payload => .ok (header, payload)
  | .gameMatch gameId request =>
    (matchPayload d parseInt store gameId request).map fun payload => (none, payload)

/-- `submit`, `submit_evaluation` and `submit_match`. -/
def submitRequest (sha256 : ByteArray → String) (server : Server) (now : Instant)
    (executionId : String) (snapshot : String → Except Failure String)
    (request : SubmissionRequest) : Except Failure ExecutionResult × Server :=
  match request.body d parseInt server.store with
  | .error failure => (.error failure, server)
  | .ok (header, payload) =>
    submitExecution d sha256 server now executionId header snapshot payload

end

/-- The body of a registration. -/
structure TaskRequest where
  taskRef : String
  path : Option String
  artifactId : Option String
  kind : Option String
  version : Option Int
  runtime : Option String
  evaluator : Option String
  resourceProfile : Dict
  requiredCapabilities : List String
  metadata : Dict

/-- The settings of a package that go into the manifest where the package has them. -/
def optionalSettings : List String :=
  ["network", "resource_class", "time_limit_ms", "memory_limit_mb", "output_limit_bytes",
    "execution_timeout_seconds", "answer_source", "scoring_mode"]

/-- `int(task_settings["version"])`. -/
def packageVersion (settings : Dict) : Except PyError Int :=
  match settings.get "version" with
  | .num (.int version) => .ok version
  | _ => .error (.keyError ("version" : String))

/-- `str(task_settings["runtime"])`. -/
def packageRuntime (settings : Dict) : Except PyError String :=
  match settings.get "runtime" with
  | .str runtime =>
    match runtime.encode? with
    | some runtime => .ok runtime
    | none => .error .unicodeEncodeError
  | _ => .error (.keyError ("runtime" : String))

/-- The manifest but for the optional settings. -/
def baseManifest (request : TaskRequest) (kind : String) (version : Int) (runtime : String)
    (evaluator : Json) (capabilities : List Json) (digest : String) : Dict :=
  let manifest := request.metadata.set "kind" (.text kind)
  let manifest := manifest.set "version" (.num (.int version))
  let manifest := manifest.set "runtime" (.text runtime)
  let manifest := manifest.set "evaluator" evaluator
  let manifest := manifest.set "resource_profile" (.obj request.resourceProfile)
  let manifest := manifest.set "resource_profile_mode" (.text "planning_only")
  let manifest := manifest.set "required_capabilities" (.arr capabilities)
  manifest.set "digest" (.text digest)

/-- One round of the loop over the optional settings. -/
def overrideSetting (settings manifest : Dict) (key : String) : Dict :=
  let value := Dict.get settings key
  manifest.setSome key (if value.truthy then some value else none)

section
variable (lower : String → String)

def browserOnly : PyStr :=
  ("browser-only runtimes must remain in Premium Lab and cannot be Judge task runtimes" : String)

/-- The kind of the package, which the request may only repeat. -/
def registeredKind (request : TaskRequest) (validation : TaskValidation) :
    Except Failure String := do
  let manifestKind := lower (validation.kind.getD "")
  let requestedKind := (given request.kind).elim manifestKind lower
  if requestedKind ≠ manifestKind then
    abort 422 ("request kind must match judge.yaml kind" : String)
  pure requestedKind

/-- The runtime of the package, which the request may only repeat. -/
def registeredRuntime (request : TaskRequest) (runtime : String) : Except Failure String := do
  if request.runtime.any (isBrowserOnlyRuntime lower) then abort 422 browserOnly
  if request.runtime.any (· ≠ runtime) then
    abort 422 ("request runtime must match judge.yaml runtime" : String)
  pure runtime

/-- The record that `register_task` hands to the store. -/
def taskRecord (request : TaskRequest) (validation : TaskValidation) (artifactId digest : String) :
    Except Failure TaskRecord := do
  if !validation.valid then
    abort 422 (Json.arr (validation.errors.map Json.str)).print
  let kind ← registeredKind lower request validation
  let settings := validation.settings
  let version ← unhandled (packageVersion settings)
  let runtime ← unhandled (packageRuntime settings)
  let evaluator := settings.get "evaluator"
  if request.version.any (· ≠ version) then
    abort 422 ("request version must match judge.yaml version" : String)
  let runtime ← registeredRuntime lower request runtime
  if request.evaluator.any fun requested => Json.text requested ≠ evaluator then
    abort 422 ("request evaluator must match judge.yaml evaluator" : String)
  let declared ← unhandled (settings.get "required_capabilities").setElements
  let capabilities ← unhandled
    (sorted ((request.requiredCapabilities.map Json.text ++ declared).foldl setInsert []))
  if isBrowserOnlyRuntime lower runtime then abort 422 browserOnly
  let manifest := baseManifest request kind version runtime evaluator capabilities digest
  let manifest := optionalSettings.foldl (overrideSetting settings) manifest
  let manifest := manifest.setSome "artifact_id" ((given (some artifactId)).map Json.text)
  pure ⟨request.taskRef, "artifact://" ++ artifactId,
    if kind = "" then "unknown" else kind, manifest⟩

variable (d : Deployment) (parseInt : PyStr → Except PyError Int) (repr : String → String)

/-- What is to be registered: the id of its artifact, and the package. `snapshot` is what packing
the directory of a path comes to, and `materialize` what unpacking an artifact comes to. -/
def TaskRequest.package (server : Server)
    (snapshot : String → Except Failure (String × TaskPackage))
    (materialize : String → Except Failure TaskPackage) (request : TaskRequest) :
    Except Failure (String × TaskPackage) := do
  if (given request.path).isSome = (given request.artifactId).isSome then
    abort 422 ("provide exactly one of path or artifact_id" : String)
  match given request.path with
  | some path => snapshot path
  | none =>
    let _ ← server.artifactPath request.artifactId
    let artifactId := request.artifactId.getD ""
    let package ← materialize artifactId
    pure (artifactId, package)

/-- `register_task`. The snapshot of a directory stays when the request fails after it. -/
def registerTaskRequest (server : Server)
    (snapshot : String → Except Failure (String × TaskPackage))
    (materialize : String → Except Failure TaskPackage) (request : TaskRequest) :
    Except Failure TaskRecord × Server :=
  match request.package server snapshot materialize with
  | .error failure => (.error failure, server)
  | .ok (artifactId, package) =>
    let server :=
      if (given request.path).isSome then
        { server with artifacts := artifactId :: server.artifacts }
      else server
    let registered := do
      let record ← taskRecord lower request (package.validateTask lower parseInt repr) artifactId
        package.digest
      (server.store.registerTask record).mapError (storeFailure d)
    match registered with
    | .error failure => (.error failure, server)
    | .ok (task, store) => (.ok task, { server with store := store })

end

end BrunostJudge
