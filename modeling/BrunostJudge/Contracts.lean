import BrunostJudge.PyDumps

namespace BrunostJudge
open Python
set_option autoImplicit true

/-- A UTC instant in microseconds since the start of year 1. The stores keep instants as
ISO texts and compare those. -/
abbrev Instant := Nat

/-- `datetime.max`. -/
def lastInstant : Instant := 315537897599999999

/-- `now + timedelta(seconds=n)`. -/
def Instant.addSeconds (now : Instant) (n : Int) : Except PyError Instant :=
  let t : Int := now + n * 1000000
  if 0 ≤ t ∧ t ≤ lastInstant then .ok t.toNat else .error .overflowError

inductive Status where
  | queued
  | running
  | completed
  | failed
  | canceled
deriving DecidableEq

def Status.text : Status → String
  | .queued => "queued"
  | .running => "running"
  | .completed => "completed"
  | .failed => "failed"
  | .canceled => "canceled"

/-- `TERMINAL_STATUSES`. -/
def Status.terminal : Status → Bool
  | .completed | .failed | .canceled => true
  | .queued | .running => false

def Status.all : List Status := [.completed, .failed, .canceled, .queued, .running]

/-- `status in statuses` for a value that may be anything; an unhashable one raises. -/
def Status.among (statuses : List Status) (value : Json) : Except PyError (Option Status) :=
  if value.hashable then .ok (statuses.find? fun s => Json.text s.text = value)
  else .error .typeError

def resultSchemaVersion : Int := 1

structure TaskRecord where
  taskRef : String
  path : String
  kind : String
  manifest : Dict
deriving DecidableEq

structure WorkerRecord where
  workerId : String
  capabilities : List String
  queues : List String
  resourceClasses : List String
  region : Option String
  status : String
  draining : Bool
  metadata : Dict
  lastSeen : Option Instant
deriving DecidableEq

structure ExecutionRequest where
  taskRef : String
  submissionPath : String
  idempotencyKey : String
  callbackUrl : Option String
  callbackToken : Option String
  metadata : Dict
  queue : String
  resourceClass : String
  priority : Int
  timeoutSeconds : Option Int
deriving DecidableEq

/-- Workers fill most of the fields with whatever their evaluator returned. -/
structure ExecutionResult where
  executionId : String
  taskRef : String
  status : Json
  score : Json := .null
  metrics : Json := .obj []
  failureReason : Json := .null
  metadata : Json := .obj []
  resultVersion : Json := .num (.int resultSchemaVersion)
  judgeVersion : Json := .text "local"
  queue : String := "default"
  resourceClass : String := "cpu"
  priority : Int := 0
  taskDigest : Json := .null
  evaluator : Json := .null
  runtimeImage : Json := .null
  seed : Json := .null
  eventId : Json := .null
  scores : Json := .obj []
  winner : Json := .null
  artifacts : Json := .obj []
deriving DecidableEq

def ExecutionResult.asDict (r : ExecutionResult) : Dict :=
  [("execution_id", .text r.executionId), ("task_ref", .text r.taskRef), ("status", r.status),
    ("score", r.score), ("metrics", r.metrics), ("failure_reason", r.failureReason),
    ("metadata", r.metadata), ("result_version", r.resultVersion),
    ("judge_version", r.judgeVersion), ("queue", .text r.queue),
    ("resource_class", .text r.resourceClass), ("priority", .num (.int r.priority)),
    ("task_digest", r.taskDigest), ("evaluator", r.evaluator),
    ("runtime_image", r.runtimeImage), ("seed", r.seed), ("event_id", r.eventId),
    ("scores", r.scores), ("winner", r.winner), ("artifacts", r.artifacts),
    ("evaluation_id", .text r.executionId)]

/-- What the stack leaves a call: room for the JSON encoder, and for `dataclasses.asdict`, which
calls itself for each value within a value, sixteen of them at least. -/
structure Room where
  encoder : Encoder
  copies : Nat
  copies_ge : 16 ≤ copies

/-- `as_dict`. -/
def ExecutionResult.copied (copies : Nat) (r : ExecutionResult) : Except PyError Dict :=
  if r.asDict.all fun f => f.2.nesting 1 ≤ copies then .ok r.asDict
  else .error .recursionError

end BrunostJudge
