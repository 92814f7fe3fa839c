import BrunostJudge.Nodes
import Mathlib.Logic.Function.Basic

namespace BrunostJudge
open Python JudgeStore
set_option autoImplicit true

/-- What `advertise_worker_capabilities` makes of the row it has read. -/
def advertisedWorker (admin : Bool) (capabilities : List String) (worker : WorkerRecord) :
    Except Failure WorkerRecord := do
  let capabilities := ((capabilities.map strip).filter (· ≠ "")).eraseDups
  if !admin then
    let approved ← unhandled (approvedCapabilities worker)
    if ¬capabilities.map Json.text ⊆ approved then
      abort 422 ("worker capabilities exceed the enrollment grant" : String)
  pure { worker with
    capabilities := capabilities
    metadata := worker.metadata.set "detected_capabilities"
      (texts (capabilities.insertionSort (· ≤ ·))) }

/-- The store amid advertisements, and the row that each of them is going to write. -/
structure Advertising where
  store : JudgeStore
  advertised : Nat → Option WorkerRecord

/-- A call to the store. An advertisement makes two: it reads the row, and it writes it. -/
inductive InventoryEvent where
  | read (request : Nat) (capabilities : List String)
  | write (request : Nat) (capabilities : List String)
  | heartbeat (status : String)
  | drain (draining : Bool)
  | elsewhere

/-- The calls for one worker, in any order, and whatever leaves its row alone, such as an
advertisement that is refused. -/
inductive InventoryStep (workerId : String) (s : Advertising) :
    InventoryEvent → Advertising → Prop
  | read {request admin capabilities worker updated} : s.store.getWorker workerId = some worker →
      advertisedWorker admin capabilities worker = .ok updated →
      InventoryStep workerId s (.read request updated.capabilities)
        { s with advertised := Function.update s.advertised request (some updated) }
  | write {request now updated} : s.advertised request = some updated →
      InventoryStep workerId s (.write request updated.capabilities)
        ⟨s.store.registerWorker now updated, Function.update s.advertised request none⟩
  | heartbeat {now status} :
      InventoryStep workerId s (.heartbeat status)
        { s with store := s.store.heartbeatWorker now workerId status }
  | drain {now draining} :
      InventoryStep workerId s (.drain draining)
        { s with store := s.store.drainWorker now workerId draining }
  | elsewhere {store} : store.workers.find? workerId = s.store.workers.find? workerId →
      InventoryStep workerId s .elsewhere { s with store := store }

def InventoryEvent.draining? : InventoryEvent → Option Bool
  | .drain draining => some draining
  | _ => none

def InventoryEvent.status? : InventoryEvent → Option String
  | .heartbeat status => some status
  | _ => none

/-- The capabilities of an advertisement that is through, as the row holds them. -/
def InventoryEvent.advertised? : InventoryEvent → Option (List String)
  | .write _ capabilities => some (capabilities.insertionSort (· ≤ ·))
  | _ => none

end BrunostJudge
