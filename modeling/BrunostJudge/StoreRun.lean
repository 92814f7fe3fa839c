import BrunostJudge.Executions
import BrunostJudge.Registry
import BrunostJudge.Transition
import Mathlib.Data.List.Induction

namespace BrunostJudge
open Python Relational Transition
set_option autoImplicit true

/-- The operations that write to the store. -/
inductive Op where
  | registerTask (task : TaskRecord)
  | registerDefinition (definition : Definition)
  | registerWorker (worker : WorkerRecord)
  | heartbeatWorker (workerId status : String)
  | drainWorker (workerId : String) (draining : Bool)
  | createEnrollmentToken (tokenId tokenHash : String) (payload : EnrollmentPayload)
      (expiresAt : Instant)
  | consumeEnrollmentToken (token : String)
  | createWorkerCredential (workerId token : String)
  | revokeWorkerCredential (workerId : String)
  | submit (executionId : String) (request : ExecutionRequest)
  | claimNext (parameterLimit : Nat) (request : ClaimRequest)
  | finish (room : Room) (executionId : String) (result : ExecutionResult) (workerId : String)
  | renewLease (executionId workerId : String) (leaseSeconds : Int)
  | cancel (executionId : String)
  | enqueueCallback (executionId callbackUrl : String) (callbackToken : Option String)
  | claimCallback (executionId workerId : String) (leaseSeconds : Int)
  | markCallbackDelivered (executionId : String)
  | markCallbackDeliveredByOwner (executionId workerId : String)
  | markCallbackFailed (executionId error : String) (workerId : Option String)
  | replayCallback (executionId : String)

/-- What an operation returns to its caller. -/
inductive Reply where
  | unit
  | flag (value : Bool)
  | task (task : TaskRecord)
  | definition (definition : Dict)
  | worker (worker : Option WorkerRecord)
  | payload (payload : Option EnrollmentPayload)
  | execution (execution : Option ExecutionResult)
  | claim (claim : Option Claim)

section
variable (sha256 : ByteArray → String)

/-- One operation at one clock reading, as the transaction the store makes of it. -/
def Op.run (now : Instant) (s : JudgeStore) : Op → Except PyError (Reply × JudgeStore)
  | .registerTask task => (s.registerTask task).map fun p => (.task p.1, p.2)
  | .registerDefinition definition =>
    (s.registerDefinition definition).map fun p => (.definition p.1, p.2)
  | .registerWorker worker =>
    let s' := s.registerWorker now worker
    .ok (.worker (s'.getWorker worker.workerId), s')
  | .heartbeatWorker workerId status =>
    let s' := s.heartbeatWorker now workerId status
    .ok (.worker (s'.getWorker workerId), s')
  | .drainWorker workerId draining =>
    let s' := s.drainWorker now workerId draining
    .ok (.worker (s'.getWorker workerId), s')
  | .createEnrollmentToken tokenId tokenHash payload expiresAt =>
    (s.createEnrollmentToken tokenId tokenHash payload expiresAt).map fun s' => (.unit, s')
  | .consumeEnrollmentToken token =>
    let p := s.consumeEnrollmentToken sha256 now token
    .ok (.payload p.1, p.2)
  | .createWorkerCredential workerId token =>
    (s.createWorkerCredential sha256 workerId token).map fun s' => (.unit, s')
  | .revokeWorkerCredential workerId =>
    let p := s.revokeWorkerCredential now workerId
    .ok (.flag p.1, p.2)
  | .submit executionId request =>
    (s.submit sha256 now executionId request).map fun p => (.execution (some p.1), p.2)
  | .claimNext parameterLimit request =>
    (s.claimNext parameterLimit now request).map fun p => (.claim p.1, p.2)
  | .finish room executionId result workerId =>
    (s.finish room now executionId result workerId).map fun p => (.execution p.1, p.2)
  | .renewLease executionId workerId leaseSeconds =>
    (s.renewLease now executionId workerId leaseSeconds).map fun p => (.flag p.1, p.2)
  | .cancel executionId =>
    let p := s.cancel now executionId
    .ok (.execution p.1, p.2)
  | .enqueueCallback executionId callbackUrl callbackToken =>
    (s.enqueueCallback now executionId callbackUrl callbackToken).map fun s' => (.unit, s')
  | .claimCallback executionId workerId leaseSeconds =>
    (s.claimCallback now executionId workerId leaseSeconds).map fun p => (.flag p.1, p.2)
  | .markCallbackDelivered executionId =>
    .ok (.unit, s.markCallbackDelivered now executionId)
  | .markCallbackDeliveredByOwner executionId workerId =>
    let p := s.markCallbackDeliveredByOwner now executionId workerId
    .ok (.flag p.1, p.2)
  | .markCallbackFailed executionId error workerId =>
    (s.markCallbackFailed now executionId error workerId).map fun p => (.flag p.1, p.2)
  | .replayCallback executionId =>
    let p := s.replayCallback now executionId
    .ok (.flag p.1, p.2)

/-- An operation, the clock it read and what it came to. -/
structure Event where
  now : Instant
  op : Op
  outcome : Except PyError Reply

/-- A transaction commits as a whole, or raises and leaves the store alone. -/
inductive StoreStep : JudgeStore → Event → JudgeStore → Prop
  | commit {now op s reply s'} : Op.run sha256 now s op = .ok (reply, s') →
      StoreStep s ⟨now, op, .ok reply⟩ s'
  | rollback {now op s err} : Op.run sha256 now s op = .error err →
      StoreStep s ⟨now, op, .error err⟩ s

/-- Runs of the store from the empty database: any operations, callers and clock readings. -/
abbrev StoreRun : List Event → JudgeStore → Prop := Run (· = .empty) (StoreStep sha256)

abbrev StorePath : JudgeStore → List Event → JudgeStore → Prop := Path (StoreStep sha256)

/-- The event that performing an operation makes, and the store after it. -/
def perform (s : JudgeStore) (now : Instant) (op : Op) : Event × JudgeStore :=
  match op.run sha256 now s with
  | .ok (reply, t) => (⟨now, op, .ok reply⟩, t)
  | .error err => (⟨now, op, .error err⟩, s)

def performAll (s : JudgeStore) (ops : List (Instant × Op)) : List Event × JudgeStore :=
  ops.foldl (fun p o => let q := perform sha256 p.2 o.1 o.2; (q.1 :: p.1, q.2)) ([], s)

variable {sha256}

theorem step_ok {s s' : JudgeStore} {now : Instant} {op : Op} {reply : Reply} :
    StoreStep sha256 s ⟨now, op, .ok reply⟩ s' ↔ op.run sha256 now s = .ok (reply, s') := by
  constructor
  · intro hs
    cases hs with
    | commit hrun => exact hrun
  · exact .commit

theorem step_functional {s t t' : JudgeStore} {e : Event} (hs : StoreStep sha256 s e t)
    (hs' : StoreStep sha256 s e t') : t = t' := by
  cases hs with
  | commit hrun =>
    have heq := hrun.symm.trans (step_ok.1 hs')
    cases heq
    rfl
  | rollback =>
    cases hs'
    rfl

theorem run_functional {s t : JudgeStore} {h : List Event} (hs : StoreRun sha256 h s)
    (ht : StoreRun sha256 h t) : s = t := by
  apply hs.functional _ _ ht
  · intro s t hs ht
    rw [hs, ht]
  · intro s e t t' hs hs'
    exact step_functional hs hs'

variable (sha256)

@[simp] theorem perform_op (s : JudgeStore) (now : Instant) (op : Op) :
    (perform sha256 s now op).1.op = op := by
  rw [perform]
  cases op.run sha256 now s <;> rfl

@[simp] theorem perform_now (s : JudgeStore) (now : Instant) (op : Op) :
    (perform sha256 s now op).1.now = now := by
  rw [perform]
  cases op.run sha256 now s <;> rfl

theorem perform_step (s : JudgeStore) (now : Instant) (op : Op) :
    StoreStep sha256 s (perform sha256 s now op).1 (perform sha256 s now op).2 := by
  rw [perform]
  cases hrun : op.run sha256 now s with
  | error err => exact .rollback hrun
  | ok p => exact .commit hrun

theorem performAll_path (s : JudgeStore) (ops : List (Instant × Op)) :
    StorePath sha256 s (performAll sha256 s ops).1 (performAll sha256 s ops).2 := by
  induction ops using List.reverseRecOn with
  | nil => exact .refl
  | append_singleton ops o ih =>
    simp only [performAll, List.foldl_append, List.foldl_cons, List.foldl_nil] at ih ⊢
    exact .next ih (perform_step sha256 _ o.1 o.2)

theorem performAll_ops (s : JudgeStore) (ops : List (Instant × Op)) :
    (performAll sha256 s ops).1.map Event.op = (ops.map Prod.snd).reverse := by
  induction ops using List.reverseRecOn with
  | nil => rfl
  | append_singleton ops o ih =>
    simp only [performAll, List.foldl_append, List.foldl_cons, List.foldl_nil] at ih ⊢
    rw [List.map_cons, ih, perform_op, List.map_append, List.reverse_append]
    rfl

theorem performAll_run (ops : List (Instant × Op)) :
    StoreRun sha256 (performAll sha256 .empty ops).1 (performAll sha256 .empty ops).2 := by
  have hstart : StoreRun sha256 [] .empty := .start rfl
  simpa using hstart.append (performAll_path sha256 .empty ops)

end

namespace Sample

/-- Seconds into 2026. -/
def clock (seconds : Nat) : Instant := 63902822400000000 + seconds * 1000000

def task : TaskRecord := ⟨"cats", "/srv/tasks/cats", "ml", [("kind", .text "ml")]⟩

def request : ExecutionRequest where
  taskRef := "cats"
  submissionPath := "/srv/submissions/7"
  idempotencyKey := "key-7"
  callbackUrl := some "https://example.org/results"
  callbackToken := none
  metadata := []
  queue := "default"
  resourceClass := "cpu"
  priority := 0
  timeoutSeconds := none

/-- Known SHA-256 digests. -/
def digests : List (String × String) :=
  [("\x7b\"callback_token\":null,\"callback_url\":\"https://example.org/results\"" ++
      ",\"metadata\":\x7b\x7d,\"priority\":0,\"queue\":\"default\",\"resource_class\":\"cpu\"" ++
      ",\"submission_path\":\"/srv/submissions/7\",\"task_ref\":\"cats\"" ++
      ",\"timeout_seconds\":null\x7d",
    "a69cef6c8a858bc287d145a73c72ef7127318cc3e3ac7d0b3545a2866e576374")]

/-- SHA-256 where its value is known, and some other injection elsewhere. -/
def sha256 (b : ByteArray) : String :=
  match digests.find? fun d => d.1.toByteArray.data = b.data with
  | some d => d.2
  | none => String.ofList ('-' :: b.data.toList.map fun x => Char.ofNat x.toNat)

def claim (workerId : String) (leaseSeconds : Int) : ClaimRequest :=
  ⟨workerId, none, none, none, leaseSeconds⟩

/-- A well-formed result for the execution `e7`. -/
def result (status : Status) (score : Int) : ExecutionResult where
  executionId := "e7"
  taskRef := "cats"
  status := .text status.text
  score := .num (.int score)

/-- The task is registered and an execution is queued under the id `e7`. -/
def queued : List (Instant × Op) :=
  [(clock 0, .registerTask task), (clock 1, .submit "e7" request)]

/-- The parameters that SQLite takes unless it is built with another limit. -/
def parameterLimit : Nat := 32766

def room : Room := ⟨.standard, 490, by decide⟩

def claimed : List (Instant × Op) :=
  queued ++ [(clock 2, .claimNext parameterLimit (claim "w1" 60))]

def finish : Instant × Op := (clock 30, .finish room "e7" (result .completed 1) "w1")

end Sample

end BrunostJudge
