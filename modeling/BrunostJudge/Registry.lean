import BrunostJudge.Schema

namespace BrunostJudge
open Python Relational
set_option autoImplicit true

namespace JudgeStore

/-- Registering a task again is accepted only with the same contents, and changes nothing. -/
def registerTask (s : JudgeStore) (task : TaskRecord) : Except PyError (TaskRecord × JudgeStore) :=
  match s.tasks.find? task.taskRef with
  | some existing =>
    if existing.path = task.path ∧ existing.kind = task.kind ∧
        (Json.obj existing.manifest).eq (.obj task.manifest) then .ok (task, s)
    else .error (.valueError
      ("task_ref is immutable and already points to a different task: " ++ task.taskRef : String))
  | none =>
    match s.tasks.insert? task with
    | some tasks => .ok (task, { s with tasks := tasks })
    | none => .error .integrityError

def getTask (s : JudgeStore) (taskRef : String) : Option TaskRecord := s.tasks.find? taskRef

/-- The public shape of a definition: its type and id, under the payload. -/
def definitionDict (d : Definition) : Dict :=
  Dict.update [("definition_type", .text d.definitionType),
    ("definition_id", .text d.definitionId)] d.payload

def registerDefinition (s : JudgeStore) (definition : Definition) :
    Except PyError (Dict × JudgeStore) :=
  match s.definitions.find? (definition.definitionType, definition.definitionId) with
  | some existing =>
    if (Json.obj existing.payload).eq (.obj definition.payload) then
      .ok (definitionDict definition, s)
    else .error (.valueError ("definition is immutable and already exists: " ++
      definition.definitionType ++ "/" ++ definition.definitionId : String))
  | none =>
    match s.definitions.insert? definition with
    | some definitions =>
      .ok (definitionDict definition, { s with definitions := definitions })
    | none => .error .integrityError

def getDefinition (s : JudgeStore) (definitionType definitionId : String) : Option Dict :=
  (s.definitions.find? (definitionType, definitionId)).map definitionDict

/-- The row `register_worker` writes, with its label lists in order. -/
def workerRow (now : Instant) (worker : WorkerRecord) : WorkerRecord :=
  { worker with
    capabilities := worker.capabilities.insertionSort (· ≤ ·)
    queues := worker.queues.insertionSort (· ≤ ·)
    resourceClasses := worker.resourceClasses.insertionSort (· ≤ ·)
    lastSeen := some now }

def registerWorker (s : JudgeStore) (now : Instant) (worker : WorkerRecord) : JudgeStore :=
  { s with
    workers := s.workers.upsert (workerRow now worker)
      (fun old => { workerRow now worker with workerId := old.workerId }) (by intro _; rfl) }

def getWorker (s : JudgeStore) (workerId : String) : Option WorkerRecord := s.workers.find? workerId

def heartbeatWorker (s : JudgeStore) (now : Instant) (workerId status : String) : JudgeStore :=
  { s with
    workers := s.workers.update (fun w => decide (w.workerId = workerId))
      (fun w => { w with status := status, lastSeen := some now }) (by intro _; rfl) }

def drainWorker (s : JudgeStore) (now : Instant) (workerId : String) (draining : Bool) :
    JudgeStore :=
  { s with
    workers := s.workers.update (fun w => decide (w.workerId = workerId))
      (fun w => { w with draining := draining, lastSeen := some now }) (by intro _; rfl) }

/-- `is_expired`. -/
def isExpired (now expiry : Instant) : Bool := expiry ≤ now

/-- `digest_secret`. -/
def digestSecret (sha256 : ByteArray → String) (secret : String) : String :=
  sha256 secret.toByteArray

def createEnrollmentToken (s : JudgeStore) (tokenId tokenHash : String)
    (payload : EnrollmentPayload) (expiresAt : Instant) : Except PyError JudgeStore :=
  if s.enrollmentTokens.rows.any fun t => t.tokenHash = tokenHash then .error .integrityError
  else
    match s.enrollmentTokens.insert? ⟨tokenId, tokenHash, payload, expiresAt, none⟩ with
    | some tokens => .ok { s with enrollmentTokens := tokens }
    | none => .error .integrityError

/-- The unused token with a given digest. -/
def unusedToken (s : JudgeStore) (tokenHash : String) : Option EnrollmentToken :=
  s.enrollmentTokens.rows.find? fun t => decide (t.tokenHash = tokenHash) && t.usedAt = none

def getEnrollmentToken (s : JudgeStore) (sha256 : ByteArray → String) (now : Instant)
    (token : String) : Option EnrollmentPayload :=
  match s.unusedToken (digestSecret sha256 token) with
  | some t => if isExpired now t.expiresAt then none else some t.payload
  | none => none

def consumeEnrollmentToken (s : JudgeStore) (sha256 : ByteArray → String) (now : Instant)
    (token : String) : Option EnrollmentPayload × JudgeStore :=
  match s.unusedToken (digestSecret sha256 token) with
  | some t =>
    if isExpired now t.expiresAt then (none, s)
    else (some t.payload, { s with
      enrollmentTokens := s.enrollmentTokens.update
        (fun u => decide (u.tokenId = t.tokenId) && u.usedAt = none)
        (fun u => { u with usedAt := some now }) (by intro _; rfl) })
  | none => (none, s)

def createWorkerCredential (s : JudgeStore) (sha256 : ByteArray → String)
    (workerId token : String) : Except PyError JudgeStore :=
  if (s.workers.find? workerId).isSome then
    .ok { s with
      workerCredentials := s.workerCredentials.upsert
        ⟨workerId, digestSecret sha256 token, none⟩
        (fun c => { c with tokenHash := digestSecret sha256 token, revokedAt := none })
        (by intro _; rfl) }
  else .error .integrityError

def verifyWorkerToken (s : JudgeStore) (sha256 : ByteArray → String) (workerId token : String) :
    Bool :=
  (s.workerCredentials.find? workerId).any fun c =>
    decide (c.revokedAt = none) && c.tokenHash = digestSecret sha256 token

def revokeWorkerCredential (s : JudgeStore) (now : Instant) (workerId : String) :
    Bool × JudgeStore :=
  let selected (c : WorkerCredential) := decide (c.workerId = workerId) && c.revokedAt = none
  (0 < s.workerCredentials.count selected,
    { s with
      workerCredentials := s.workerCredentials.update selected
        (fun c => { c with revokedAt := some now }) (by intro _; rfl) })

end JudgeStore

end BrunostJudge
