import BrunostJudge.PostgresClaims
import BrunostJudge.ReadCommitted

namespace BrunostJudge
open Python Transition ReadCommitted JudgeStore
set_option autoImplicit true

namespace PostgresJudgeStore

/-- The `UPDATE` statements, with what their transaction has read and decides by later on. -/
inductive Statement where
  | expireCanceled
  | expireRunning (expired : Option Execution)
  | claim
  | finish
  | renewLease
  | cancel (existing : Execution)

abbrev Transaction := Program Statement Execution

/-- `INSERT INTO callback_deliveries … ON CONFLICT DO UPDATE`, for a callback URL that is set. -/
def notify (r : Execution) (next : Transaction) : Transaction :=
  if r.callback?.isSome then .insert next else next

def notifyExpired (expired : Option Execution) (next : Transaction) : Transaction :=
  match expired with
  | none => next
  | some r => notify r next

/-- Python code between two statements, which may raise. -/
def attempt (x : Except PyError α) (next : α → Transaction) : Transaction :=
  match x with
  | .error _ => .raise
  | .ok a => next a

def cancel (now : Instant) : Transaction :=
  .select fun existing =>
    .update (.cancel existing) ⟨fun _ => true, cancelRow now⟩ fun _ =>
      if existing.status = .queued then notify existing .commit else .commit

section
variable (bindResult : Encoder → ExecutionResult → Except PyError ResultColumns)
variable (capable : List PyStr → Execution → Bool)

/-- The scan of `claim_next`. A row that others are ordered before is skipped, too. -/
def claimRow (now : Instant) (request : ClaimRequest) : Transaction :=
  attempt (bindScan request) fun available =>
    .lockRow (fun r => selectable request.queues request.resourceClasses r &&
      capable available r) fun
      | none => .commit
      | some _ =>
        attempt (now.addSeconds (max 1 request.leaseSeconds)) fun lease =>
          attempt (sendText request.workerId) fun worker =>
            .update .claim ⟨fun _ => true, claimed now lease worker⟩ fun _ => .commit

def expireRunning (expired : Option Execution) (now : Instant) (request : ClaimRequest) :
    Transaction :=
  .update (.expireRunning expired) ⟨leaseOver now, giveBack now⟩ fun _ =>
    notifyExpired expired (claimRow capable now request)

def claimNext (now : Instant) (request : ClaimRequest) : Transaction :=
  .update .expireCanceled
    ⟨fun r => leaseOver now r && r.cancelRequested, fun r =>
      { r with status := .canceled, workerId := none, leaseExpiresAt := none, updatedAt := now }⟩
    fun expired => expireRunning capable expired now request

/-- `NOW()` is the time the transaction started at. -/
def finish (room : Room) (started now : Instant) (result : ExecutionResult) (workerId : String) :
    Transaction :=
  if strip workerId = "" then .raise
  else
    attempt (Status.among (Status.all.filter Status.terminal) result.status) fun
      | none => .raise
      | some status =>
        .select fun existing =>
          attempt (validateFinishResult room existing.executionId existing.taskRef result) fun _ =>
            attempt (bindResult room.encoder result) fun columns =>
              .update .finish
                ⟨heldBy started existing.executionId workerId, finished now status columns⟩ fun
                | none => .commit
                | some _ => .select fun callback => notify callback .commit

def renewLease (now : Instant) (executionId workerId : String) (leaseSeconds : Int) :
    Transaction :=
  attempt (now.addSeconds (max 1 leaseSeconds)) fun lease =>
    .update .renewLease
      ⟨fun r => heldBy now executionId workerId r && !r.cancelRequested, renewed now lease⟩
      fun _ => .commit

inductive Call where
  | cancel (now : Instant)
  | claimNext (now : Instant) (request : ClaimRequest)
  | finish (room : Room) (started now : Instant) (result : ExecutionResult) (workerId : String)
  | renewLease (now : Instant) (executionId workerId : String) (leaseSeconds : Int)

def Call.transaction : Call → Transaction
  | .cancel now => PostgresJudgeStore.cancel now
  | .claimNext now request => PostgresJudgeStore.claimNext capable now request
  | .finish room started now result workerId =>
    PostgresJudgeStore.finish bindResult room started now result workerId
  | .renewLease now executionId workerId leaseSeconds =>
    PostgresJudgeStore.renewLease now executionId workerId leaseSeconds

def Code (p : Transaction) : Prop := ∃ call, Call.transaction bindResult capable call = p

variable {ι : Type v}

/-- An execution that is not over, has no entry in the outbox and is to have one. -/
def Started (d : Database Statement Execution ι) : Prop :=
  ∃ r : Execution, (r.callback?.isSome ∧ r.status.terminal = false) ∧ d = .fresh r false

/-- Transactions on the execution, with their statements in any order. -/
abbrev PostgresRun [DecidableEq ι] : List (ι × Move Statement Execution) →
    Database Statement Execution ι → Prop :=
  Run Started (Step (Code bindResult capable))

end

/-- The second expiry `UPDATE` of `claim_next` finds a cancellation that the first one did not,
or the `UPDATE` of `cancel` finds queued what was not when it was read. -/
def losesNotification : Statement → Execution → Bool
  | .expireRunning none, found => found.cancelRequested
  | .cancel existing, found => existing.status ≠ .queued && found.status = .queued
  | _, _ => false

def loses : Move Statement Execution → Bool
  | .write statement found => losesNotification statement found
  | _ => false

end PostgresJudgeStore

end BrunostJudge
