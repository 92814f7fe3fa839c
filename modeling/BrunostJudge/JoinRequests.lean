import BrunostJudge.Nodes
import BrunostJudge.StoreRun
import Mathlib.Logic.Function.Basic

namespace BrunostJudge
open Python JudgeStore Transition
set_option autoImplicit true

/-- How far a request to enroll is with its calls to the store. -/
inductive JoinStage where
  | arrived
  | checked (request : NodeEnrollment) (payload : EnrollmentPayload)
  | consumed (request : NodeEnrollment) (payload consumed : EnrollmentPayload)
  | registered (request : NodeEnrollment) (payload consumed : EnrollmentPayload)
  | answered

/-- The store amid requests to enroll. -/
structure Joining where
  store : JudgeStore
  stage : Nat → JoinStage

/-- A call to the store, for a request and the join token that it presents. -/
inductive JoinCall where
  | read (request : Nat) (token : String) (now : Instant)
  | refuse (request : Nat) (token : String) (failure : Failure)
  | consume (request : Nat) (token : String) (now : Instant)
  | miss (request : Nat) (token : String) (now : Instant)
  | register (request : Nat) (token : String) (now : Instant)
  | credential (request : Nat) (token : String)
  | fault (request : Nat) (token : String)
  | elsewhere (event : Event)

def Joining.to (s : Joining) (request : Nat) (stage : JoinStage) : Joining :=
  { s with stage := Function.update s.stage request stage }

section
variable (sha256 : ByteArray → String)

/-- The calls of any number of requests, in any order, among the other operations of the store.
Only a request to enroll consumes a join token. -/
inductive JoinStep (s : Joining) : JoinCall → Joining → Prop
  | read {i request now payload} : s.stage i = .arrived →
      checkEnrollment sha256 s.store now request = .ok payload →
      JoinStep s (.read i request.joinToken now) (s.to i (.checked request payload))
  | refuse {i request now failure} : s.stage i = .arrived →
      checkEnrollment sha256 s.store now request = .error failure →
      JoinStep s (.refuse i request.joinToken failure) (s.to i .answered)
  | consume {i request payload consumed now store} : s.stage i = .checked request payload →
      s.store.consumeEnrollmentToken sha256 now request.joinToken = (some consumed, store) →
      JoinStep s (.consume i request.joinToken now)
        { s.to i (.consumed request payload consumed) with store := store }
  | miss {i request payload now store} : s.stage i = .checked request payload →
      s.store.consumeEnrollmentToken sha256 now request.joinToken = (none, store) →
      JoinStep s (.miss i request.joinToken now) { s.to i .answered with store := store }
  | register {i request payload consumed now} :
      s.stage i = .consumed request payload consumed →
      JoinStep s (.register i request.joinToken now)
        { s.to i (.registered request payload consumed) with
          store := s.store.registerWorker now (enrolledWorker payload consumed request) }
  | credential {i request payload consumed workerToken store} :
      s.stage i = .registered request payload consumed →
      s.store.createWorkerCredential sha256 payload.workerId workerToken = .ok store →
      JoinStep s (.credential i request.joinToken) { s.to i .answered with store := store }
  | fault {i request payload consumed workerToken err} :
      s.stage i = .registered request payload consumed →
      s.store.createWorkerCredential sha256 payload.workerId workerToken = .error err →
      JoinStep s (.fault i request.joinToken) (s.to i .answered)
  | elsewhere {e store} : StoreStep sha256 s.store e store →
      (∀ token, e.op ≠ .consumeEnrollmentToken token) →
      JoinStep s (.elsewhere e) { s with store := store }

/-- A join token with this digest was issued. -/
def Issued (h : List JoinCall) (tokenHash : String) (payload : EnrollmentPayload)
    (expiresAt : Instant) : Prop :=
  ∃ now tokenId, .elsewhere ⟨now, .createEnrollmentToken tokenId tokenHash payload expiresAt,
    .ok .unit⟩ ∈ h

end

/-- The empty database, before any request. -/
structure Unjoined (s : Joining) : Prop where
  store : s.store = .empty
  stage : ∀ i, s.stage i = .arrived

/-- The join token for which a worker was registered. -/
def JoinCall.registered? : JoinCall → Option String
  | .register _ token _ => some token
  | _ => none

/-- The join token for which a credential was created. -/
def JoinCall.credentialed? : JoinCall → Option String
  | .credential _ token => some token
  | _ => none

end BrunostJudge
