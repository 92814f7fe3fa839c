import BrunostJudge.Dispatch
import BrunostJudge.PyDatetime

namespace BrunostJudge
open Python Relational JudgeStore
set_option autoImplicit true

/-- `<=` between two `TEXT` values: `memcmp` of their UTF-8 bytes. -/
def textLe (p q : PyStr) : Bool :=
  match utf8 p, utf8 q with
  | .ok x, .ok y => decide (x ≤ y)
  | _, _ => false

/-- `status='running' AND lease_expires_at IS NOT NULL AND lease_expires_at <= ?` -/
def textLeaseOver (status : Status) (leaseExpiresAt : Option PyStr) (now : PyStr) : Bool :=
  status = .running && leaseExpiresAt.any (textLe · now)

/-- `execution_id=? AND worker_id=? AND status='running' AND lease_expires_at IS NOT NULL AND
lease_expires_at >= ?` -/
def textHeldBy (r : Execution) (leaseExpiresAt : Option PyStr) (now : PyStr)
    (executionId workerId : String) : Bool :=
  decide (r.executionId = executionId) && (r.workerId = some workerId &&
    r.status = .running && leaseExpiresAt.any (textLe now))

/-- `delivered_at IS NULL AND next_attempt_at<=? AND (lease_owner IS NULL OR lease_expires_at
IS NULL OR lease_expires_at<=?)` -/
def textClaimableCallback (c : CallbackDelivery) (nextAttemptAt : PyStr)
    (leaseExpiresAt : Option PyStr) (now : PyStr) : Bool :=
  c.deliveredAt = none && textLe nextAttemptAt now &&
    (c.leaseOwner = none || leaseExpiresAt.all (textLe · now))

theorem textLe_isoformat (a b : UtcDatetime) :
    textLe a.isoformat b.isoformat = decide (a.instant ≤ b.instant) := by
  have ha := utf8_ascii a.isoformat_ascii
  have hb := utf8_ascii b.isoformat_ascii
  rw [textLe, ha, hb]
  apply decide_eq_decide.2
  rw [← not_lt, ← b.isoformat_lt_iff a,
    ← utf8_lt_iff b.isoformat_ascii a.isoformat_ascii hb ha]
  exact Iff.rfl

variable {α : Type}

theorem textLe_orderBy (rows : List α) (column : α → UtcDatetime) :
    rows.insertionSort (fun a b => textLe (column a).isoformat (column b).isoformat = true) =
      rows.insertionSort fun a b => (column a).instant ≤ (column b).instant := by
  have hle : (fun a b => textLe (column a).isoformat (column b).isoformat = true) =
      fun a b => (column a).instant ≤ (column b).instant := by
    funext a b
    rw [textLe_isoformat, decide_eq_true_eq]
  congr 1

/-- The lease of every row is the instant of some text in its column. -/
theorem leaseOver_as_text {r : Execution} {now : Instant} (hnow : now ≤ lastInstant)
    (hlease : ∀ t ∈ r.leaseExpiresAt, t ≤ lastInstant) :
    ∃ (lease : Option UtcDatetime) (clock : UtcDatetime),
      r.leaseExpiresAt = lease.map (·.instant) ∧ clock.instant = now ∧
        leaseOver now r = textLeaseOver r.status (lease.map (·.isoformat)) clock.isoformat := by
  obtain ⟨clock, hclock⟩ := exists_datetime now hnow
  have hcolumn : ∃ lease : Option UtcDatetime, r.leaseExpiresAt = lease.map (·.instant) := by
    cases h : r.leaseExpiresAt with
    | none => exact ⟨none, rfl⟩
    | some t =>
      obtain ⟨a, ha⟩ := exists_datetime t (hlease t h)
      exact ⟨some a, by rw [Option.map_some, ha]⟩
  obtain ⟨lease, hlease⟩ := hcolumn
  refine ⟨lease, clock, hlease, hclock, ?_⟩
  rw [textLeaseOver, leaseOver, hlease, ← hclock, Option.any_map, Option.any_map]
  simp only [textLe_isoformat]

/-- The texts of two instants compare as the instants do, and so does every guard on them. -/
theorem text_times_agree :
    (∀ a b : UtcDatetime, ∃ x y, utf8 a.isoformat = .ok x ∧ utf8 b.isoformat = .ok y ∧
      (a.instant ≤ b.instant ↔ x ≤ y) ∧ (a.instant ≤ b.instant ↔ a.isoformat ≤ b.isoformat)) ∧
    (∀ (r : Execution) (lease : Option UtcDatetime) (now : UtcDatetime),
      textLeaseOver r.status (lease.map (·.isoformat)) now.isoformat =
        leaseOver now.instant { r with leaseExpiresAt := lease.map (·.instant) }) ∧
    (∀ (r : Execution) (lease : Option UtcDatetime) (now : UtcDatetime)
      (executionId workerId : String),
      textHeldBy r (lease.map (·.isoformat)) now.isoformat executionId workerId =
        heldBy now.instant executionId workerId
          { r with leaseExpiresAt := lease.map (·.instant) }) ∧
    (∀ (c : CallbackDelivery) (next : UtcDatetime) (lease : Option UtcDatetime)
      (now : UtcDatetime),
      textClaimableCallback c next.isoformat (lease.map (·.isoformat)) now.isoformat =
        claimableCallback now.instant { c with
          nextAttemptAt := next.instant
          leaseExpiresAt := lease.map (·.instant) }) ∧
    (∀ (rows : List CallbackDelivery) (next : CallbackDelivery → UtcDatetime),
      rows.insertionSort (fun a b => textLe (next a).isoformat (next b).isoformat = true) =
        rows.insertionSort fun a b => (next a).instant ≤ (next b).instant) := by
  refine ⟨?_, ?_, ?_, ?_, textLe_orderBy⟩
  · intro a b
    have ha := utf8_ascii a.isoformat_ascii
    have hb := utf8_ascii b.isoformat_ascii
    refine ⟨_, _, ha, hb, ?_, ?_⟩
    · have hbytes := textLe_isoformat a b
      rw [textLe, ha, hb] at hbytes
      exact (decide_eq_decide.1 hbytes).symm
    · rw [← not_lt, ← not_lt, b.isoformat_lt_iff a]
  · intro r lease now
    rw [textLeaseOver, leaseOver, Option.any_map, Option.any_map]
    simp only [textLe_isoformat]
  · intro r lease now executionId workerId
    rw [textHeldBy, heldBy, Option.any_map, Option.any_map]
    simp only [textLe_isoformat]
  · intro c next lease now
    rw [textClaimableCallback, claimableCallback, textLe_isoformat, Option.all_map,
      Option.all_map]
    simp only [textLe_isoformat]

end BrunostJudge
