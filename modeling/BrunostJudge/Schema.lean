import BrunostJudge.Contracts
import BrunostJudge.PyFloat
import BrunostJudge.Table

namespace BrunostJudge
open Python Relational
set_option autoImplicit true

/-- The columns of an execution that its insertion fixes. -/
structure Submission where
  executionId : String
  idempotencyKey : String
  taskRef : String
  submissionPath : String
  callbackUrl : Option String
  callbackToken : Option String
  requestFingerprint : String
  metadataJson : Dict
  createdAt : Instant
  queue : String
  resourceClass : String
  priority : Int
deriving DecidableEq

/-- The columns a terminal execution publishes. -/
structure ResultColumns where
  score : Option Number
  metricsJson : Json
  scoresJson : Json
  winner : Option String
  artifactsJson : Json
  failureReason : Option String
deriving DecidableEq

def ResultColumns.empty : ResultColumns := ⟨none, .obj [], .obj [], none, .obj [], none⟩

structure Execution extends Submission, ResultColumns where
  status : Status
  updatedAt : Instant
  cancelRequested : Bool
  workerId : Option String
  leaseExpiresAt : Option Instant
deriving DecidableEq

structure CallbackDelivery where
  executionId : String
  callbackUrl : String
  callbackToken : Option String
  attempts : Nat
  nextAttemptAt : Instant
  deliveredAt : Option Instant
  lastError : Option String
  leaseOwner : Option String
  leaseExpiresAt : Option Instant
deriving DecidableEq

structure Definition where
  definitionType : String
  definitionId : String
  payload : Dict
deriving DecidableEq

structure EnrollmentPayload where
  nodeId : String
  workerId : String
  role : String
  capabilities : List String
  queues : List String
  resourceClasses : List String
  region : Option String
  metadata : Dict
deriving DecidableEq

structure EnrollmentToken where
  tokenId : String
  tokenHash : String
  payload : EnrollmentPayload
  expiresAt : Instant
  usedAt : Option Instant
deriving DecidableEq

structure WorkerCredential where
  workerId : String
  tokenHash : String
  revokedAt : Option Instant
deriving DecidableEq

instance : Keyed TaskRecord String := ⟨TaskRecord.taskRef⟩
instance : Keyed Execution String := ⟨fun r => r.executionId⟩
instance : Keyed CallbackDelivery String := ⟨CallbackDelivery.executionId⟩
instance : Keyed Definition (String × String) := ⟨fun d => (d.definitionType, d.definitionId)⟩
instance : Keyed WorkerRecord String := ⟨WorkerRecord.workerId⟩
instance : Keyed EnrollmentToken String := ⟨EnrollmentToken.tokenId⟩
instance : Keyed WorkerCredential String := ⟨WorkerCredential.workerId⟩

@[simp] theorem Execution.key_eq (r : Execution) : Keyed.key r = r.executionId := rfl

@[simp] theorem CallbackDelivery.key_eq (c : CallbackDelivery) :
    Keyed.key c = c.executionId := rfl

/-- The tables of the database. Service credentials and audit events are left out: no
operation on the tables below reads or writes them. -/
structure JudgeStore where
  tasks : Table TaskRecord
  executions : Table Execution
  callbackDeliveries : Table CallbackDelivery
  definitions : Table Definition
  workers : Table WorkerRecord
  enrollmentTokens : Table EnrollmentToken
  workerCredentials : Table WorkerCredential

def JudgeStore.empty : JudgeStore :=
  ⟨.empty, .empty, .empty, .empty, .empty, .empty, .empty⟩

/-- `callback_url` when it is neither NULL nor the empty text. -/
def Submission.callback? (r : Submission) : Option String := r.callbackUrl.filter (· ≠ "")

/-- `sqlite3` refuses an integer that does not fit 64 bits. -/
def bindInt (i : Int) : Except PyError Int :=
  if -2 ^ 63 ≤ i ∧ i < 2 ^ 63 then .ok i else .error .overflowError

/-- A TEXT parameter is encoded as UTF-8. -/
def bindStr (text : PyStr) : Except PyError String :=
  match text.encode? with
  | some t => .ok t
  | none => .error .unicodeEncodeError

/-- A parameter that may be NULL. Lists and dicts cannot be bound at all. -/
def bindText : Json → Except PyError (Option String)
  | .null => .ok none
  | .str s => (bindStr s).map some
  | _ => .error .typeError

/-- A REAL parameter: integers become floats, and SQLite stores NaN as NULL. -/
def bindReal : Json → Except PyError (Option Number)
  | .null | .num .nan => .ok none
  | .num (.int i) => (bindInt i).map fun j : Int => some (.float (floatRepr (toFloat j)))
  | .num n => .ok (some n)
  | _ => .error .typeError

end BrunostJudge
