import BrunostJudge.Callbacks
import BrunostJudge.Conformance

namespace BrunostJudge
open Python Relational
set_option autoImplicit true

structure ClaimRequest where
  workerId : PyStr
  queues : Option (List PyStr)
  resourceClasses : Option (List PyStr)
  capabilities : Option (List PyStr)
  leaseSeconds : Int
deriving DecidableEq

/-- The texts that `claim_next` binds to its scan, besides the limit and the offset. -/
def ClaimRequest.filters (request : ClaimRequest) : List PyStr :=
  request.queues.getD [] ++ request.resourceClasses.getD []

structure ClaimContext where
  callbackUrl : Option String
  callbackToken : Option String
  submissionPath : String
  queue : String
  resourceClass : String
  leaseSeconds : Int
deriving DecidableEq

structure Claim where
  execution : ExecutionResult
  task : TaskRecord
  context : ClaimContext
deriving DecidableEq

namespace JudgeStore

/-- `_result`: the stored row as it is published. -/
def result (r : Execution) : ExecutionResult :=
  let eventId := (r.metadataJson.get "event_id").or
    (.text ("execution:" ++ r.executionId ++ ":result"))
  let metadata := r.metadataJson.setdefault "event_id" eventId
  { executionId := r.executionId
    taskRef := r.taskRef
    status := .text r.status.text
    score := (r.score.map Json.num).getD .null
    metrics := r.metricsJson
    failureReason := .textOrNull r.failureReason
    metadata := .obj metadata
    queue := r.queue
    resourceClass := r.resourceClass
    priority := r.priority
    taskDigest := metadata.get "task_digest"
    evaluator := metadata.get "evaluator"
    runtimeImage := metadata.get "runtime_image"
    seed := metadata.get "seed"
    eventId := eventId
    scores := r.scoresJson
    winner := .textOrNull r.winner
    artifacts := r.artifactsJson }

def getExecution (s : JudgeStore) (executionId : String) : Option ExecutionResult :=
  (s.executions.find? executionId).map result

/-- The nine request fields an idempotency key protects. -/
def fingerprintPayload (request : ExecutionRequest) : Json :=
  .obj [("task_ref", .text request.taskRef), ("submission_path", .text request.submissionPath),
    ("callback_url", .textOrNull request.callbackUrl),
    ("callback_token", .textOrNull request.callbackToken),
    ("metadata", .obj request.metadata), ("queue", .text request.queue),
    ("resource_class", .text request.resourceClass),
    ("priority", .num (.int request.priority)),
    ("timeout_seconds", (request.timeoutSeconds.map fun t => .num (.int t)).getD .null)]

/-- `_request_fingerprint`, over the hexadecimal SHA-256 digest of a byte string. -/
def requestFingerprint (sha256 : ByteArray → String) (request : ExecutionRequest) :
    Except PyError String :=
  match (dumps (fingerprintPayload request)).encode? with
  | some encoded => .ok (sha256 encoded.toByteArray)
  | none => .error .unicodeEncodeError

/-- The metadata `submit` stores: the client's, under the provenance of the task. -/
def submittedMetadata (request : ExecutionRequest) (manifest : Dict) (executionId : String) :
    Dict :=
  let metadata := request.metadata
  let metadata := metadata.set "task_digest" (manifest.get "digest")
  let metadata := metadata.set "evaluator" (manifest.get "evaluator")
  let metadata := metadata.set "runtime_image"
    ((manifest.get "runtime_image").or (manifest.get "runtime"))
  let metadata := metadata.set "event_id" (.text ("execution:" ++ executionId ++ ":result"))
  match request.timeoutSeconds with
  | some t => metadata.set "timeout_seconds" (.num (.int t))
  | none => metadata

/-- The row `submit` inserts. -/
def submittedRow (request : ExecutionRequest) (manifest : Dict) (executionId fingerprint : String)
    (now : Instant) : Execution where
  executionId := executionId
  idempotencyKey := request.idempotencyKey
  taskRef := request.taskRef
  submissionPath := request.submissionPath
  callbackUrl := request.callbackUrl
  callbackToken := request.callbackToken
  requestFingerprint := fingerprint
  metadataJson := submittedMetadata request manifest executionId
  createdAt := now
  queue := request.queue
  resourceClass := request.resourceClass
  priority := request.priority
  toResultColumns := .empty
  status := .queued
  updatedAt := now
  cancelRequested := false
  workerId := none
  leaseExpiresAt := none

/-- `submit`, with the UUID it draws as an argument. -/
def submit (s : JudgeStore) (sha256 : ByteArray → String) (now : Instant) (executionId : String)
    (request : ExecutionRequest) : Except PyError (ExecutionResult × JudgeStore) := do
  let fingerprint ← requestFingerprint sha256 request
  match s.tasks.find? request.taskRef with
  | none => throw (.keyError ("unknown task_ref: " ++ request.taskRef : String))
  | some task =>
    match s.executions.rows.find? fun r => r.idempotencyKey = request.idempotencyKey with
    | some existing =>
      if existing.requestFingerprint ≠ "" ∧ existing.requestFingerprint ≠ fingerprint then
        throw (.valueError ("idempotency key is already used for a different request" : String))
      else pure (result existing, s)
    | none =>
      let _ ← bindInt request.priority
      let row := submittedRow request task.manifest executionId fingerprint now
      match s.executions.insert? row with
      | none => throw .integrityError
      | some executions => pure (result row, { s with executions := executions })

/-- A running execution whose lease has run out. -/
def leaseOver (now : Instant) (r : Execution) : Bool :=
  r.status = .running && r.leaseExpiresAt.any (· ≤ now)

def giveBack (now : Instant) (r : Execution) : Execution :=
  { r with
    status := if r.cancelRequested then .canceled else .queued
    workerId := none
    leaseExpiresAt := none
    updatedAt := now }

theorem giveBack_key (now : Instant) (r : Execution) :
    Keyed.key (giveBack now r) = Keyed.key r := rfl

/-- The first half of `claim_next`: expired leases are requeued, or canceled and notified. -/
def expireLeases (s : JudgeStore) (now : Instant) : JudgeStore :=
  let expired := s.executions.rows.filter fun r => leaseOver now r && r.cancelRequested
  { s with
    executions := s.executions.update (leaseOver now) (giveBack now) (giveBack_key now)
    callbackDeliveries := expired.foldl (fun t r => notifyTerminal t r.toSubmission now)
      s.callbackDeliveries }

/-- SQLite prepares no statement of more than `parameterLimit` parameters, and a text with a lone
surrogate cannot be bound. -/
def bindFilters (parameterLimit : Nat) (request : ClaimRequest) : Except PyError Unit :=
  if parameterLimit < request.filters.length + 2 then
    .error (.operationalError ("too many SQL variables" : String))
  else if request.filters.all fun text => text.encode?.isSome then .ok ()
  else .error .unicodeEncodeError

/-- A worker without a filter, or with an empty one, takes everything. -/
def inFilter (filter : Option (List PyStr)) (value : String) : Bool :=
  match filter with
  | none | some [] => true
  | some accepted => accepted.contains (PyStr.ofString value)

def selectable (queues resourceClasses : Option (List PyStr)) (r : Execution) : Bool :=
  r.status = .queued && !r.cancelRequested && inFilter queues r.queue &&
    inFilter resourceClasses r.resourceClass

/-- `ORDER BY priority DESC, created_at, execution_id`. -/
def claimOrder (a b : Execution × TaskRecord) : Prop :=
  b.1.priority < a.1.priority ∨ b.1.priority = a.1.priority ∧
    (a.1.createdAt < b.1.createdAt ∨
      a.1.createdAt = b.1.createdAt ∧ a.1.executionId ≤ b.1.executionId)

instance : DecidableRel claimOrder := fun _ _ => inferInstanceAs (Decidable (_ ∨ _))

/-- The joined and ordered rows the scan pages through. -/
def candidates (s : JudgeStore) (queues resourceClasses : Option (List PyStr)) :
    List (Execution × TaskRecord) :=
  ((s.executions.rows.filter (selectable queues resourceClasses)).filterMap fun r =>
    (s.tasks.find? r.taskRef).map fun t => (r, t)).insertionSort claimOrder

/-- What an execution requires of its worker: the task's and its own capabilities. -/
def requiredCapabilities (manifest metadata : Dict) : Except PyError (List Json) := do
  let required ← (manifest.get "required_capabilities").setElements
  let own ← (metadata.get "required_capabilities").setElements
  pure (required ++ own)

def compatible (available : List PyStr) (c : Execution × TaskRecord) : Except PyError Bool := do
  let required ← requiredCapabilities c.2.manifest c.1.metadataJson
  pure (required.all fun x => available.any fun a => x = .str a)

def pageSize : Nat := 100

/-- The paged scan of `claim_next`. The fuel bounds the number of pages. -/
def scan (available : List PyStr) (rows : List (Execution × TaskRecord)) :
    Nat → Nat → Except PyError (Option (Execution × TaskRecord))
  | 0, _ => pure none
  | fuel + 1, offset => do
    let page := (rows.drop offset).take pageSize
    if page.isEmpty then pure none
    else
      match ← page.findM? (compatible available) with
      | some c => pure (some c)
      | none => scan available rows fuel (offset + page.length)

def claimed (now lease : Instant) (workerId : String) (r : Execution) : Execution :=
  { r with
    status := .running
    workerId := some workerId
    leaseExpiresAt := some lease
    updatedAt := now }

theorem claimed_key (now lease : Instant) (workerId : String) (r : Execution) :
    Keyed.key (claimed now lease workerId r) = Keyed.key r := rfl

def claimNext (s : JudgeStore) (parameterLimit : Nat) (now : Instant) (request : ClaimRequest) :
    Except PyError (Option Claim × JudgeStore) := do
  let s := s.expireLeases now
  bindFilters parameterLimit request
  let rows := s.candidates request.queues request.resourceClasses
  match ← scan (request.capabilities.getD []) rows (rows.length + 1) 0 with
  | none => pure (none, s)
  | some (row, task) =>
    let lease ← now.addSeconds (max 1 request.leaseSeconds)
    let worker ← bindStr request.workerId
    let s := { s with
      executions := s.executions.update (fun r => decide (r.executionId = row.executionId))
        (claimed now lease worker) (claimed_key now lease worker) }
    pure (some {
      execution := result (claimed now lease worker row)
      task := task
      context := {
        callbackUrl := row.callbackUrl
        callbackToken := row.callbackToken
        submissionPath := row.submissionPath
        queue := row.queue
        resourceClass := row.resourceClass
        leaseSeconds := max 1 request.leaseSeconds } }, s)

/-- `_validate_finish_result`. -/
def validateFinishResult (room : Room) (executionId taskRef : String) (result : ExecutionResult) :
    Except PyError Unit := do
  if result.executionId ≠ executionId then
    throw (.valueError ("execution result does not match the claimed execution" : String))
  if result.taskRef ≠ taskRef then
    throw (.valueError ("execution result does not match the claimed task" : String))
  let payload ← result.copied room.copies
  let errors ← validateResultPayload room.encoder payload
  if errors ≠ [] then
    throw (.valueError (PyStr.ofString "invalid execution result: " ++ PyStr.join "; " errors))

/-- The columns `finish` binds from a worker's result. The documents are written before anything
is bound. -/
def bindResult (encoder : Encoder) (result : ExecutionResult) : Except PyError ResultColumns := do
  let metrics ← writeJson encoder result.metrics
  let scores ← writeJson encoder result.scores
  let artifacts ← writeJson encoder result.artifacts
  let score ← bindReal result.score
  let winner ← bindText result.winner
  let failureReason ← bindText result.failureReason
  pure ⟨score, metrics, scores, winner, artifacts, failureReason⟩

/-- A running execution that the worker holds and whose lease has not run out. -/
def heldBy (now : Instant) (executionId workerId : String) (r : Execution) : Bool :=
  decide (r.executionId = executionId) && (r.workerId = some workerId &&
    r.status = .running && r.leaseExpiresAt.any (now ≤ ·))

def finished (now : Instant) (status : Status) (columns : ResultColumns) (r : Execution) :
    Execution :=
  { r with
    status := if r.cancelRequested then .canceled else status
    toResultColumns := if r.cancelRequested then
      { ResultColumns.empty with failureReason := some "execution canceled while running" }
      else columns
    workerId := none
    leaseExpiresAt := none
    updatedAt := now }

theorem finished_key (now : Instant) (status : Status) (columns : ResultColumns) (r : Execution) :
    Keyed.key (finished now status columns r) = Keyed.key r := rfl

def finish (s : JudgeStore) (room : Room) (now : Instant) (executionId : String)
    (result : ExecutionResult) (workerId : String) :
    Except PyError (Option ExecutionResult × JudgeStore) := do
  if strip workerId = "" then
    throw (.valueError ("worker_id is required to finish an execution" : String))
  match ← Status.among (Status.all.filter Status.terminal) result.status with
  | none => throw (.valueError ("execution results must be terminal" : String))
  | some status =>
    match s.executions.find? executionId with
    | none => pure (none, s)
    | some existing =>
      validateFinishResult room executionId existing.taskRef result
      let columns ← bindResult room.encoder result
      let executions := s.executions.update (heldBy now executionId workerId)
        (finished now status columns) (finished_key now status columns)
      if s.executions.count (heldBy now executionId workerId) = 1 then
        let s := { s with
          executions := executions
          callbackDeliveries := notifyTerminal s.callbackDeliveries existing.toSubmission now }
        pure (s.getExecution executionId, s)
      else pure (none, s)

def renewed (now lease : Instant) (r : Execution) : Execution :=
  { r with leaseExpiresAt := some lease, updatedAt := now }

theorem renewed_key (now lease : Instant) (r : Execution) :
    Keyed.key (renewed now lease r) = Keyed.key r := rfl

def renewLease (s : JudgeStore) (now : Instant) (executionId workerId : String)
    (leaseSeconds : Int) : Except PyError (Bool × JudgeStore) := do
  let lease ← now.addSeconds (max 1 leaseSeconds)
  let selected (r : Execution) := heldBy now executionId workerId r && !r.cancelRequested
  pure (s.executions.count selected = 1,
    { s with executions :=
      s.executions.update selected (renewed now lease) (renewed_key now lease) })

def cancelRow (now : Instant) (r : Execution) : Execution :=
  { r with
    cancelRequested := true
    status := if r.status = .queued then .canceled else r.status
    updatedAt := now }

theorem cancelRow_key (now : Instant) (r : Execution) :
    Keyed.key (cancelRow now r) = Keyed.key r := rfl

def cancel (s : JudgeStore) (now : Instant) (executionId : String) :
    Option ExecutionResult × JudgeStore :=
  match s.executions.find? executionId with
  | none => (none, s)
  | some existing =>
    let s := { s with
      executions := s.executions.update (fun r => decide (r.executionId = executionId))
        (cancelRow now) (cancelRow_key now)
      callbackDeliveries := if existing.status = .queued then
        notifyTerminal s.callbackDeliveries existing.toSubmission now else s.callbackDeliveries }
    (s.getExecution executionId, s)

def isCancelRequested (s : JudgeStore) (executionId : String) : Bool :=
  (s.executions.find? executionId).any Execution.cancelRequested

end JudgeStore

end BrunostJudge
