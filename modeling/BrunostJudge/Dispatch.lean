import BrunostJudge.StoreRun
import Mathlib.Logic.Function.Basic

namespace BrunostJudge
open Python Relational Transition
set_option autoImplicit true

/-- The rows that `pending_callbacks` selects. Nobody reads what it joins to them. -/
def JudgeStore.pendingCallbacks (s : JudgeStore) (now : Instant) (limit : Nat) :
    List CallbackDelivery :=
  ((s.callbackDeliveries.rows.filter fun c => c.deliveredAt = none && c.nextAttemptAt ≤ now &&
    (s.executions.find? c.executionId).any fun r => r.status.terminal).insertionSort
      fun a b => a.nextAttemptAt ≤ b.nextAttemptAt).take limit

/-- A body that `_notify` posted, and the execution it was posted for. -/
structure Post where
  executionId : String
  callbackUrl : String
  callbackToken : Option String
  body : Dict

/-- Where a call of `_deliver_callbacks` stands, with the rows it has yet to go through. -/
inductive Dispatch where
  | idle
  | rows (rest : List CallbackDelivery)
  | claimed (row : CallbackDelivery) (rest : List CallbackDelivery)
  | sending (row : CallbackDelivery) (payload : Dict) (rest : List CallbackDelivery)
  | reporting (row : CallbackDelivery) (error : Option String) (rest : List CallbackDelivery)

/-- An entry of `_pending_callbacks`. -/
structure RetainedCallback where
  callbackUrl : String
  callbackToken : Option String
  payload : Dict
  executionId : String

/-- Where `process_one` of a remote worker stands. -/
inductive RemoteState where
  | polling
  | retrying (rest : List RetainedCallback)
  | retried (callback : RetainedCallback) (rest : List RetainedCallback)
  | evaluating (claim : Claim)
  | finishing (claim : Claim)
  | finished (claim : Claim) (payload : Dict)
  | sending (claim : Claim) (callbackUrl : String) (payload : Dict)
  | acknowledging (executionId : String)

structure RemoteWorker where
  state : RemoteState
  pendingCallbacks : List RetainedCallback

section
variable (sha256 : ByteArray → String)

/-- The steps of `_deliver_callbacks`, with what each makes of the store and what it posts. A post
that fails may have arrived. -/
inductive DispatchStep (workerId : String) (s : JudgeStore) :
    Dispatch → Option Event → Option Post → JudgeStore → Dispatch → Prop
  | poll : DispatchStep workerId s .idle none none s (.rows (s.pendingCallbacks now limit))
  | claim : StoreStep sha256 s ⟨now, .claimCallback row.executionId workerId 60,
    .ok (.flag true)⟩ t →
      DispatchStep workerId s (.rows (row :: rest))
        (some ⟨now, .claimCallback row.executionId workerId 60, .ok (.flag true)⟩) none t
        (.claimed row rest)
  | skip : StoreStep sha256 s ⟨now, .claimCallback row.executionId workerId 60,
    .ok (.flag false)⟩ t →
      DispatchStep workerId s (.rows (row :: rest))
        (some ⟨now, .claimCallback row.executionId workerId 60, .ok (.flag false)⟩) none t
        (.rows rest)
  | read : s.getExecution row.executionId = some execution →
      DispatchStep workerId s (.claimed row rest) none none s (.sending row execution.asDict rest)
  | gone : s.getExecution row.executionId = none →
      DispatchStep workerId s (.claimed row rest) none none s (.rows rest)
  | send : DispatchStep workerId s (.sending row payload rest) none
      (some ⟨row.executionId, row.callbackUrl, row.callbackToken, payload⟩) s
      (.reporting row none rest)
  | sendFailed (arrived : Bool) : DispatchStep workerId s (.sending row payload rest) none
      (if arrived then some ⟨row.executionId, row.callbackUrl, row.callbackToken, payload⟩
      else none)
      s (.reporting row (some error) rest)
  | delivered : StoreStep sha256 s
        ⟨now, .markCallbackDeliveredByOwner row.executionId workerId, .ok reply⟩ t →
      DispatchStep workerId s (.reporting row none rest)
        (some ⟨now, .markCallbackDeliveredByOwner row.executionId workerId, .ok reply⟩) none t
        (.rows rest)
  | failed : StoreStep sha256 s
        ⟨now, .markCallbackFailed row.executionId error (some workerId), .ok reply⟩ t →
      DispatchStep workerId s (.reporting row (some error) rest)
        (some ⟨now, .markCallbackFailed row.executionId error (some workerId), .ok reply⟩) none t
        (.rows rest)
  | finished : DispatchStep workerId s (.rows []) none none s .idle
  -- an exception of the store ends the call, and so does a restart
  | stop : DispatchStep workerId s d none none s .idle

/-- The steps of a remote worker. What it submits for an execution is up to its evaluator, and any
request may fail. -/
inductive RemoteStep (workerId : String) (s : JudgeStore) :
    RemoteWorker → Option Event → Option Post → JudgeStore → RemoteWorker → Prop
  | retry : RemoteStep workerId s ⟨.polling, kept⟩ none none s ⟨.retrying kept, []⟩
  | resend : RemoteStep workerId s ⟨.retrying (c :: rest), kept⟩ none
      (some ⟨c.executionId, c.callbackUrl, c.callbackToken, c.payload⟩) s ⟨.retried c rest, kept⟩
  | resendFailed (arrived : Bool) : RemoteStep workerId s ⟨.retrying (c :: rest), kept⟩ none
      (if arrived then some ⟨c.executionId, c.callbackUrl, c.callbackToken, c.payload⟩ else none) s
      ⟨.retrying rest, kept ++ [c]⟩
  | reacknowledge : StoreStep sha256 s
        ⟨now, .markCallbackDeliveredByOwner c.executionId workerId, outcome⟩ t →
      RemoteStep workerId s ⟨.retried c rest, kept⟩
        (some ⟨now, .markCallbackDeliveredByOwner c.executionId workerId, outcome⟩) none t
        ⟨.retrying rest, kept⟩
  | unacknowledged : RemoteStep workerId s ⟨.retried c rest, kept⟩ none none s
    ⟨.retrying rest, kept⟩
  | retriesOver : RemoteStep workerId s ⟨.retrying [], kept⟩ none none s ⟨.polling, kept⟩
  | claim : StoreStep sha256 s ⟨now, .claimNext parameterLimit request,
    .ok (.claim (some claim))⟩ t →
      request.workerId = PyStr.ofString workerId →
      RemoteStep workerId s ⟨.polling, kept⟩
        (some ⟨now, .claimNext parameterLimit request, .ok (.claim (some claim))⟩) none t
        ⟨.evaluating claim, kept⟩
  | finish : StoreStep sha256 s ⟨now, .finish room claim.execution.executionId result workerId,
        .ok (.execution (some accepted))⟩ t →
      RemoteStep workerId s ⟨.evaluating claim, kept⟩
        (some ⟨now, .finish room claim.execution.executionId result workerId,
          .ok (.execution (some accepted))⟩) none t ⟨.finishing claim, kept⟩
  -- `finish` reads its answer in a transaction of its own
  | reply : s.getExecution claim.execution.executionId = some execution →
      RemoteStep workerId s ⟨.finishing claim, kept⟩ none none s
        ⟨.finished claim execution.asDict, kept⟩
  | claimCallback : claim.context.callbackUrl = some callbackUrl → StoreStep sha256 s
        ⟨now, .claimCallback claim.execution.executionId workerId 60, .ok (.flag true)⟩ t →
      RemoteStep workerId s ⟨.finished claim payload, kept⟩
        (some ⟨now, .claimCallback claim.execution.executionId workerId 60, .ok (.flag true)⟩)
        none t ⟨.sending claim callbackUrl payload, kept⟩
  | send : RemoteStep workerId s ⟨.sending claim callbackUrl payload, kept⟩ none
      (some ⟨claim.execution.executionId, callbackUrl, claim.context.callbackToken, payload⟩) s
      ⟨.acknowledging claim.execution.executionId, kept⟩
  | sendFailed (arrived : Bool) :
    RemoteStep workerId s ⟨.sending claim callbackUrl payload, kept⟩ none
      (if arrived then
        some ⟨claim.execution.executionId, callbackUrl, claim.context.callbackToken, payload⟩
      else none) s
      ⟨.polling, kept ++
        [⟨callbackUrl, claim.context.callbackToken, payload, claim.execution.executionId⟩]⟩
  | acknowledge : StoreStep sha256 s
        ⟨now, .markCallbackDeliveredByOwner executionId workerId, outcome⟩ t →
      RemoteStep workerId s ⟨.acknowledging executionId, kept⟩
        (some ⟨now, .markCallbackDeliveredByOwner executionId workerId, outcome⟩) none t
        ⟨.polling, kept⟩
  | abandon : RemoteStep workerId s ⟨state, kept⟩ none none s ⟨.polling, kept⟩
  | restart : RemoteStep workerId s remote none none s ⟨.polling, []⟩

end

/-- The store, everyone who posts callbacks, and everything they have posted. Local workers and
callback dispatchers deliver alike. -/
structure World where
  store : JudgeStore
  dispatchers : Nat → Dispatch
  remotes : Nat → RemoteWorker
  posted : List Post

def World.initial : World := ⟨.empty, fun _ => .idle, fun _ => ⟨.polling, []⟩, []⟩

section
variable (sha256 : ByteArray → String) (workerId : Nat → String)

/-- One step of anybody. Clients, operators and evaluating workers may call the store as they
like. -/
inductive WorldStep : World → Option Event → World → Prop
  | call : StoreStep sha256 w.store e t → WorldStep w (some e) { w with store := t }
  | dispatch (n : Nat) :
      DispatchStep sha256 (workerId n) w.store (w.dispatchers n) e post t d →
      WorldStep w e { w with
        store := t
        dispatchers := Function.update w.dispatchers n d
        posted := post.toList ++ w.posted }
  | remote (n : Nat) :
      RemoteStep sha256 (workerId n) w.store (w.remotes n) e post t r →
      WorldStep w e { w with
        store := t
        remotes := Function.update w.remotes n r
        posted := post.toList ++ w.posted }

abbrev WorldRun : List (Option Event) → World → Prop :=
  Run (· = .initial) (WorldStep sha256 workerId)

abbrev WorldPath : World → List (Option Event) → World → Prop :=
  Path (WorldStep sha256 workerId)

end

end BrunostJudge
