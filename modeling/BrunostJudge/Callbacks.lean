import BrunostJudge.Schema

namespace BrunostJudge
open Python Relational
set_option autoImplicit true

/-- A fresh row of the callback outbox. -/
def CallbackDelivery.fresh (executionId callbackUrl : String) (callbackToken : Option String)
    (now : Instant) : CallbackDelivery where
  executionId := executionId
  callbackUrl := callbackUrl
  callbackToken := callbackToken
  attempts := 0
  nextAttemptAt := now
  deliveredAt := none
  lastError := none
  leaseOwner := none
  leaseExpiresAt := none

/-- The upsert that `finish`, `cancel` and `claim_next` share. It leaves a delivered row alone. -/
def upsertPending (t : Table CallbackDelivery) (executionId callbackUrl : String)
    (callbackToken : Option String) (now : Instant) : Table CallbackDelivery :=
  t.upsert (.fresh executionId callbackUrl callbackToken now)
    (fun c => if c.deliveredAt = none then
      { c with callbackUrl := callbackUrl, callbackToken := callbackToken } else c)
    (by intro c; split <;> rfl)

/-- The upsert for an execution whose callback URL may be missing. -/
def notifyTerminal (t : Table CallbackDelivery) (r : Submission) (now : Instant) :
    Table CallbackDelivery :=
  match r.callback? with
  | some url => upsertPending t r.executionId url r.callbackToken now
  | none => t

namespace JudgeStore

def enqueueCallback (s : JudgeStore) (now : Instant) (executionId callbackUrl : String)
    (callbackToken : Option String) : Except PyError JudgeStore :=
  if (s.executions.find? executionId).isSome then
    .ok { s with
      callbackDeliveries := s.callbackDeliveries.upsert
        (.fresh executionId callbackUrl callbackToken now)
        (fun c => { c with callbackUrl := callbackUrl, callbackToken := callbackToken })
        (by intro _; rfl) }
  else .error .integrityError

/-- The condition of `claim_callback`: an undelivered row that is due and not leased. -/
def claimableCallback (now : Instant) (c : CallbackDelivery) : Bool :=
  c.deliveredAt = none && c.nextAttemptAt ≤ now &&
    (c.leaseOwner = none || c.leaseExpiresAt.all (· ≤ now))

def claimCallback (s : JudgeStore) (now : Instant) (executionId workerId : String)
    (leaseSeconds : Int) : Except PyError (Bool × JudgeStore) := do
  let lease ← now.addSeconds (max 1 leaseSeconds)
  let selected (c : CallbackDelivery) :=
    decide (c.executionId = executionId) && claimableCallback now c
  pure (s.callbackDeliveries.count selected = 1,
    { s with
      callbackDeliveries := s.callbackDeliveries.update selected
        (fun c => { c with leaseOwner := some workerId, leaseExpiresAt := some lease })
        (by intro _; rfl) })

def CallbackDelivery.delivered (now : Instant) (c : CallbackDelivery) : CallbackDelivery :=
  { c with deliveredAt := some now, lastError := none, leaseOwner := none, leaseExpiresAt := none }

def markCallbackDelivered (s : JudgeStore) (now : Instant) (executionId : String) : JudgeStore :=
  { s with
    callbackDeliveries := s.callbackDeliveries.update
      (fun c => decide (c.executionId = executionId)) (CallbackDelivery.delivered now)
      (by intro _; rfl) }

def markCallbackDeliveredByOwner (s : JudgeStore) (now : Instant)
    (executionId workerId : String) : Bool × JudgeStore :=
  let selected (c : CallbackDelivery) :=
    decide (c.executionId = executionId) && (c.deliveredAt = none && c.leaseOwner = some workerId)
  (s.callbackDeliveries.count selected = 1,
    { s with
      callbackDeliveries := s.callbackDeliveries.update selected (CallbackDelivery.delivered now)
        (by intro _; rfl) })

/-- `_callback_attempts`. -/
def callbackAttempts (s : JudgeStore) (executionId : String) : Nat :=
  ((s.callbackDeliveries.find? executionId).map CallbackDelivery.attempts).getD 0

def retryDelay (attempts : Nat) : Nat := min 3600 (5 * 2 ^ min 8 attempts)

def markCallbackFailed (s : JudgeStore) (now : Instant) (executionId error : String)
    (workerId : Option String) : Except PyError (Bool × JudgeStore) := do
  let next ← now.addSeconds (retryDelay (s.callbackAttempts executionId))
  let selected (c : CallbackDelivery) :=
    decide (c.executionId = executionId) && workerId.all fun w => c.leaseOwner = some w
  pure (s.callbackDeliveries.count selected = 1,
    { s with
      callbackDeliveries := s.callbackDeliveries.update selected
        (fun c => { c with
          attempts := c.attempts + 1
          nextAttemptAt := next
          lastError := some (String.ofList (error.toList.take 2000))
          leaseOwner := none
          leaseExpiresAt := none })
        (by intro _; rfl) })

def replayCallback (s : JudgeStore) (now : Instant) (executionId : String) : Bool × JudgeStore :=
  match s.executions.find? executionId with
  | none => (false, s)
  | some r =>
    match r.status.terminal, r.callback? with
    | true, some url =>
      (true, { s with
        callbackDeliveries := s.callbackDeliveries.upsert
          (.fresh executionId url r.callbackToken now)
          (fun c => { c with
            callbackUrl := url
            callbackToken := r.callbackToken
            nextAttemptAt := now
            deliveredAt := none
            lastError := none
            leaseOwner := none
            leaseExpiresAt := none })
          (by intro _; rfl) })
    | _, _ => (false, s)

end JudgeStore

end BrunostJudge
