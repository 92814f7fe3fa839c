import BrunostJudge.Server

namespace BrunostJudge
open Python JudgeStore
set_option autoImplicit true

/-- The body a node enrolls with. A node that reports no inventory leaves the lists out. -/
structure NodeEnrollment where
  joinToken : String
  hostname : Option String
  capabilities : Option (List String)
  resourceClasses : Option (List String)
  metadata : Dict

structure EnrolledNode where
  nodeId : String
  workerToken : String
  worker : Option WorkerRecord

namespace EnrollmentPayload

/-- `payload.get("queues") or ("default",)`. -/
def grantedQueues (p : EnrollmentPayload) : List String :=
  if p.queues = [] then ["default"] else p.queues

def approvedResourceClasses (p : EnrollmentPayload) : List String :=
  if p.resourceClasses = [] then ["cpu"] else p.resourceClasses

end EnrollmentPayload

def texts (items : List String) : Json := .arr (items.map Json.text)

/-- The metadata a node is registered with. -/
def enrolledMetadata (payload consumed : EnrollmentPayload) (request : NodeEnrollment) : Dict :=
  let metadata := payload.metadata.update request.metadata
  let metadata := metadata.setSome "hostname" ((given request.hostname).map Json.text)
  let metadata := metadata.setSome "detected_capabilities"
    (request.capabilities.map fun capabilities => texts (sortedSet capabilities))
  let metadata := metadata.set "node_id" (.text consumed.nodeId)
  let metadata := metadata.set "role" (.text consumed.role)
  metadata.set "enrollment_capabilities" (texts (sortedSet payload.capabilities))

/-- The worker that `enroll_node` registers. -/
def enrolledWorker (payload consumed : EnrollmentPayload) (request : NodeEnrollment) :
    WorkerRecord where
  workerId := payload.workerId
  capabilities := sortedSet (request.capabilities.getD payload.capabilities)
  queues := consumed.grantedQueues
  resourceClasses := sortedSet (request.resourceClasses.getD payload.approvedResourceClasses)
  region := consumed.region
  status := "ready"
  draining := false
  metadata := enrolledMetadata payload consumed request
  lastSeen := none

section
variable (sha256 : ByteArray → String)

/-- The checks of `enroll_node` before it uses the token up. -/
def checkEnrollment (store : JudgeStore) (now : Instant) (request : NodeEnrollment) :
    Except Failure EnrollmentPayload := do
  match store.getEnrollmentToken sha256 now request.joinToken with
  | none => abort 401 ("invalid, expired, or already used join token" : String)
  | some payload =>
    if ¬request.capabilities.getD [] ⊆ payload.capabilities then
      abort 422 ("node capabilities exceed the enrollment token" : String)
    if ¬request.resourceClasses.getD [] ⊆ payload.approvedResourceClasses then
      abort 422 ("node resource classes exceed the enrollment token" : String)
    pure payload

/-- `enroll_node`. It reads the clock once to check the token and again to use it up, and draws
the token of the worker. -/
def enrollNode (store : JudgeStore) (now later : Instant) (workerToken : String)
    (request : NodeEnrollment) : Except Failure EnrolledNode × JudgeStore :=
  match checkEnrollment sha256 store now request with
  | .error failure => (.error failure, store)
  | .ok payload =>
    match store.consumeEnrollmentToken sha256 later request.joinToken with
    | (none, store) =>
      (abort 409 ("enrollment token was already consumed" : String), store)
    | (some consumed, store) =>
      let store := store.registerWorker later (enrolledWorker payload consumed request)
      match store.createWorkerCredential sha256 payload.workerId workerToken with
      | .error err => (.error (.raised err), store)
      | .ok store => (.ok ⟨consumed.nodeId, workerToken, store.getWorker payload.workerId⟩, store)

end

/-- What a worker may advertise: the grant it enrolled with, or else what it has. -/
def approvedCapabilities (worker : WorkerRecord) : Except PyError (List Json) :=
  let granted := Dict.get worker.metadata "enrollment_capabilities"
  if granted.truthy then granted.setElements else .ok (worker.capabilities.map Json.text)

/-- `advertise_worker_capabilities`. An administrator may go beyond the grant. -/
def advertiseWorkerCapabilities (store : JudgeStore) (now : Instant) (admin : Bool)
    (workerId : String) (capabilities : List String) :
    Except Failure (Option WorkerRecord × JudgeStore) := do
  match store.getWorker workerId with
  | none => abort 404 ("worker not found" : String)
  | some worker =>
    let capabilities := ((capabilities.map strip).filter (· ≠ "")).eraseDups
    if !admin then
      let approved ← unhandled (approvedCapabilities worker)
      if ¬capabilities.map Json.text ⊆ approved then
        abort 422 ("worker capabilities exceed the enrollment grant" : String)
    let updated := { worker with
      capabilities := capabilities
      metadata := worker.metadata.set "detected_capabilities"
        (texts (capabilities.insertionSort (· ≤ ·))) }
    let store := store.registerWorker now updated
    pure (store.getWorker workerId, store)

/-- `heartbeat_worker`. -/
def heartbeat (store : JudgeStore) (now : Instant) (workerId status : String) :
    Except Failure WorkerRecord × JudgeStore :=
  let store := store.heartbeatWorker now workerId status
  match store.getWorker workerId with
  | none => (abort 404 ("worker not found" : String), store)
  | some worker => (.ok worker, store)

/-- What a worker claims with: its own name and the lists it is registered with. -/
def WorkerRecord.claim (worker : WorkerRecord) (workerId : String) (leaseSeconds : Int) :
    ClaimRequest where
  workerId := workerId
  queues := some (worker.queues.map PyStr.ofString)
  resourceClasses := some (worker.resourceClasses.map PyStr.ofString)
  capabilities := some (worker.capabilities.map PyStr.ofString)
  leaseSeconds := leaseSeconds

/-- `claim_worker`. A worker that gets nothing is answered without content. -/
def claimWorker (store : JudgeStore) (parameterLimit : Nat) (now : Instant) (workerId : String)
    (leaseSeconds : Int) : Except Failure (Option Claim × JudgeStore) := do
  match store.getWorker workerId with
  | none => abort 404 ("worker not found" : String)
  | some worker =>
    if worker.draining ∨ worker.status = "offline" then pure (none, store)
    else
      unhandled (store.claimNext parameterLimit now (worker.claim workerId leaseSeconds))

end BrunostJudge
