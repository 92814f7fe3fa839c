import BrunostJudge.Finality
import BrunostJudge.Interleaving
import BrunostJudge.Serialization

namespace BrunostJudge
open Python Transition ReadCommitted LeasedWork JudgeStore
set_option autoImplicit true

namespace PostgresJudgeStore

/-- The move of the lifecycle that a statement makes. -/
def Statement.makes : Statement → Act String Instant Outcome → Bool
  | .expireCanceled, .expire _ | .expireRunning _, .expire _ | .claim, .claim _ _
  | .finish, .finish _ _ _ | .renewLease, .renew _ _ _ | .cancel _, .cancel => true
  | _, _ => false

def Statement.isFinish : Statement → Bool
  | .finish => true
  | _ => false

/-- A change of the row that stands for a move of the lifecycle. -/
def Moved (r : Execution) (statement : Statement) (r' : Execution) : Prop :=
  ∀ p, Represents r p → ∃ a p', LeasedWork.Step Outcome.Void p a p' ∧ Represents r' p' ∧
    statement.makes a

section
variable {r r' existing : Execution} {now started lease : Instant} {w : String}
  {statement : Statement} {held : Option Execution} {next : Transaction}

theorem Represents.updated (h : Represents r p) (now : Instant) :
    Represents { r with updatedAt := now } p := by
  cases h with
  | queued hq hcancel hw hl hc => exact .queued hq hcancel hw hl hc
  | running hr hw hl hc => exact .running hr hw hl hc
  | done ht hw hl => exact .done ht hw hl

theorem expireCanceled_moved (h : leaseOver now r = true) (hcancel : r.cancelRequested = true) :
    Moved r .expireCanceled
      { r with
        status := .canceled, workerId := none, leaseExpiresAt := none, updatedAt := now } := by
  intro p hp
  obtain ⟨a, p', hstep, hp', ha⟩ := (RowStep.expire h).refines hp
  rw [giveBack, if_pos hcancel] at hp'
  refine ⟨a, p', hstep, hp', ?_⟩
  cases a with
  | expire => rfl
  | _ => cases ha

theorem expireRunning_moved (expired : Option Execution) (h : leaseOver now r = true) :
    Moved r (.expireRunning expired) (giveBack now r) := by
  intro p hp
  obtain ⟨a, p', hstep, hp', ha⟩ := (RowStep.expire h).refines hp
  refine ⟨a, p', hstep, hp', ?_⟩
  cases a with
  | expire => rfl
  | _ => cases ha

theorem claim_moved (hqueued : r.status = .queued) (hcancel : r.cancelRequested = false) :
    Moved r .claim (claimed now lease w r) := by
  intro p hp
  obtain ⟨a, p', hstep, hp', ha⟩ := (RowStep.claim w lease hqueued hcancel).refines hp
  refine ⟨a, p', hstep, hp', ?_⟩
  cases a with
  | claim => rfl
  | _ => cases ha

theorem cancel_moved : Moved r (.cancel existing) (cancelRow now r) := by
  intro p hp
  obtain ⟨a, p', hstep, hp', ha⟩ := RowStep.cancel.refines hp
  refine ⟨a, p', hstep, hp', ?_⟩
  cases a with
  | cancel => rfl
  | _ => cases ha

theorem finish_moved {status : Status} {columns : ResultColumns} (ht : status.terminal = true)
    (hheld : heldBy started r.executionId w r = true) :
    Moved r .finish (finished now status columns r) := by
  intro p hp
  obtain ⟨a, p', hstep, hp', ha⟩ := (RowStep.finish w status columns ht hheld).refines hp
  refine ⟨a, p', hstep, Represents.updated hp' now, ?_⟩
  cases a with
  | finish => rfl
  | _ => cases ha

theorem renewLease_moved (hheld : heldBy now r.executionId w r = true)
    (hcancel : r.cancelRequested = false) : Moved r .renewLease (renewed now lease r) := by
  intro p hp
  obtain ⟨a, p', hstep, hp', ha⟩ := (RowStep.renew w lease hheld hcancel).refines hp
  refine ⟨a, p', hstep, hp', ?_⟩
  cases a with
  | renew => rfl
  | _ => cases ha

theorem notify_moves (h : next.Moves Moved held) : (notify r next).Moves Moved held := by
  rw [notify]
  split
  · exact h
  · exact h

theorem notifyExpired_moves {expired : Option Execution} (h : next.Moves Moved held) :
    (notifyExpired expired next).Moves Moved held := by
  cases expired with
  | none => exact h
  | some r => exact notify_moves h

theorem attempt_moves {x : Except PyError α} {next : α → Transaction}
    (h : ∀ a, x = .ok a → (next a).Moves Moved held) : (attempt x next).Moves Moved held := by
  cases x with
  | error err => trivial
  | ok a => exact h a rfl

variable (bindResult : Encoder → ExecutionResult → Except PyError ResultColumns)
variable (capable : List PyStr → Execution → Bool)

theorem cancel_moves : (PostgresJudgeStore.cancel now).Moves Moved none := by
  intro existing _
  constructor
  · intro v _ _
    refine ⟨cancel_moved, ?_⟩
    split
    · exact notify_moves trivial
    · trivial
  · split
    · exact notify_moves trivial
    · trivial

theorem claimRow_moves {request : ClaimRequest} :
    (claimRow capable now request).Moves Moved held := by
  apply attempt_moves
  intro available _
  constructor
  · intro v _ hwant
    obtain ⟨hselectable, _⟩ := Bool.and_eq_true_iff.1 hwant
    obtain ⟨hqueued, hcancel, _⟩ := selectable_iff.1 hselectable
    apply attempt_moves
    intro lease _
    apply attempt_moves
    intro worker _
    constructor
    · intro v' hown _
      rw [hown v rfl]
      exact ⟨claim_moved hqueued hcancel, trivial⟩
    · trivial
  · trivial

theorem claimNext_moves {request : ClaimRequest} :
    (PostgresJudgeStore.claimNext capable now request).Moves Moved none := by
  have hrunning : ∀ expired held, (expireRunning capable expired now request).Moves Moved held := by
    intro expired held
    constructor
    · intro v _ hcond
      exact ⟨expireRunning_moved expired hcond, notifyExpired_moves (claimRow_moves capable)⟩
    · exact notifyExpired_moves (claimRow_moves capable)
  constructor
  · intro v _ hcond
    obtain ⟨hover, hcancel⟩ := Bool.and_eq_true_iff.1 hcond
    exact ⟨expireCanceled_moved hover hcancel, hrunning _ _⟩
  · exact hrunning _ _

theorem finish_moves {result : ExecutionResult} :
    (PostgresJudgeStore.finish bindResult room started now result w).Moves Moved none := by
  rw [PostgresJudgeStore.finish]
  split
  · trivial
  · apply attempt_moves
    intro status? hstatus
    cases status? with
    | none => trivial
    | some status =>
      intro existing _
      apply attempt_moves
      intro _ _
      apply attempt_moves
      intro columns _
      constructor
      · intro v _ hheld
        rw [← heldBy_key hheld] at hheld
        refine ⟨finish_moved (among_terminal hstatus).1 hheld, ?_⟩
        intro callback _
        exact notify_moves trivial
      · trivial

theorem renewLease_moves {executionId : String} {leaseSeconds : Int} :
    (PostgresJudgeStore.renewLease now executionId w leaseSeconds).Moves Moved none := by
  apply attempt_moves
  intro lease _
  constructor
  · intro v _ hcond
    obtain ⟨hheld, hcancel⟩ := Bool.and_eq_true_iff.1 hcond
    rw [← heldBy_key hheld] at hheld
    rw [Bool.not_eq_true'] at hcancel
    exact ⟨renewLease_moved hheld hcancel, trivial⟩
  · trivial

theorem code_moves (h : Code bindResult capable p) : p.Moves Moved none := by
  obtain ⟨call, hcall⟩ := h
  rw [← hcall]
  cases call with
  | cancel now => exact cancel_moves
  | claimNext now request => exact claimNext_moves capable
  | finish room started now result workerId => exact finish_moves bindResult
  | renewLease now executionId workerId leaseSeconds => exact renewLease_moves

variable {bindResult : Encoder → ExecutionResult → Except PyError ResultColumns}
  {capable : List PyStr → Execution → Bool}

theorem moved_path {statements : List Statement} (h : Path Moved r statements r')
    (hp : Represents r p) : ∃ acts p', Path (LeasedWork.Step Outcome.Void) p acts p' ∧
      Represents r' p' ∧
      (requests acts).countP Request.isFinish = statements.countP Statement.isFinish := by
  induction h with
  | refl => exact ⟨[], p, .refl, hp, rfl⟩
  | @next statements _ statement _ _ hmoved ih =>
    obtain ⟨acts, p', hpath, hp', hcount⟩ := ih
    obtain ⟨a, p'', hstep, hp'', hmakes⟩ := hmoved p' hp'
    refine ⟨a :: acts, p'', hpath.next hstep, hp'', ?_⟩
    rw [requests_cons, List.countP_append, hcount, List.countP_cons, Nat.add_comm]
    congr 1
    cases statement <;> cases a <;> first | rfl | cases hmakes

/-- The transactions on an execution that was submitted, with their statements in any order. -/
abbrev ExecutionRun (bindResult : Encoder → ExecutionResult → Except PyError ResultColumns)
    (capable : List PyStr → Execution → Bool) [DecidableEq ι] :
    List (ι × Move Statement Execution) → Database Statement Execution ι → Prop :=
  Run (fun d => ∃ r, Represents r .queued ∧ d = .fresh r false)
    (ReadCommitted.Step (Code bindResult capable))

end

end PostgresJudgeStore

open PostgresJudgeStore

/-- The result is handed in twice, and the second one waits for the first. -/
def Sample.finishedTwice : List Sample.Turn :=
  Sample.claims ++
    [.calls .first (.finish room (clock 30) (clock 30) (result .completed 1) "w1"),
      .calls .second (.finish room (clock 30) (clock 31) (result .failed 0) "w1"),
      .goesOn .second 2, .goesOn .first 6, .goesOn .second 2]

theorem schedule_executions {turns : List Sample.Turn}
    (hp : Sample.schedule turns = some (h, d)) :
    ExecutionRun JudgeStore.bindResult Sample.everywhere h d := by
  have hstart : ExecutionRun JudgeStore.bindResult Sample.everywhere [] Sample.database :=
    .start ⟨_, submittedRow_represents _ _ _ _ _, rfl⟩
  have hcode : ∀ t ∈ turns.flatMap Sample.Turn.expand, ∀ p, t.2 = some p →
      Code JudgeStore.bindResult Sample.everywhere p := by
    intro t ht p hprogram
    obtain ⟨turn, _, hturn⟩ := List.mem_flatMap.1 ht
    cases turn with
    | calls session call =>
      cases List.mem_singleton.1 hturn
      exact ⟨call, Option.some.inj hprogram⟩
    | goesOn session statements =>
      cases List.eq_of_mem_replicate hturn
      cases hprogram
  simpa using hstart.append (perform_path hcode hp)

end BrunostJudge
