import BrunostJudge.OrderedTable
import BrunostJudge.PyText
import Mathlib.Data.List.Dedup
import Mathlib.Data.List.MinMax
import Mathlib.Data.List.TakeWhile
import Mathlib.Data.Rat.Floor
import Mathlib.Tactic.Linarith

namespace BrunostJudge
open Python Relational
set_option autoImplicit true

/-- What calls are counted by. -/
structure EventKey where
  bucket : PyStr
  key : PyStr
deriving DecidableEq

/-- The times of the calls that were allowed, and have not expired since. -/
structure EventRow where
  eventKey : EventKey
  events : List ℚ
deriving DecidableEq

instance : Keyed EventRow EventKey := ⟨EventRow.eventKey⟩

def maxKeys : Nat := 10000

/-- `int` of a number. -/
def truncate (x : ℚ) : Int := if 0 ≤ x then ⌊x⌋ else ⌈x⌉

structure LimiterReply where
  allowed : Bool
  retryAfter : Int
deriving DecidableEq

abbrev RateLimiter := Table EventRow

namespace RateLimiter

def eventsOf (limiter : RateLimiter) (eventKey : EventKey) : List ℚ :=
  ((Table.find? limiter eventKey).map EventRow.events).getD []

/-- What is left of the events of a key when those at the cutoff and before have expired. -/
def live (limiter : RateLimiter) (eventKey : EventKey) (cutoff : ℚ) : List ℚ :=
  (limiter.eventsOf eventKey).dropWhile (· ≤ cutoff)

def setEvents (limiter : RateLimiter) (eventKey : EventKey) (events : List ℚ) : RateLimiter :=
  Table.update limiter (fun row => row.eventKey = eventKey) (fun row => ⟨row.eventKey, events⟩)
    fun _ => rfl

/-- What is left of the events of a key is kept; a key that is new, or has none left, comes last. -/
def keep (limiter : RateLimiter) (eventKey : EventKey) (events : List ℚ) : RateLimiter :=
  if events = [] then Table.moveToEnd limiter ⟨eventKey, []⟩
  else limiter.setEvents eventKey events

/-- `values[-1] if values else float("-inf")`. -/
def lastEvent (row : EventRow) : WithBot ℚ :=
  match row.events.getLast? with
  | some event => event
  | none => ⊥

/-- Where there are too many keys, one other than the key that was served is given up: the first
of those whose last event is the oldest. -/
def evict (limiter : RateLimiter) (eventKey : EventKey) : RateLimiter :=
  if limiter.rows.length > maxKeys then
    let candidates := limiter.rows.filter fun row => row.eventKey ≠ eventKey
    match candidates.argmin lastEvent with
    | some oldest => Table.erase limiter oldest.eventKey
    | none => limiter
  else limiter

def allow (limiter : RateLimiter) (now : ℚ) (key bucket : PyStr) (limit : Int)
    (windowSeconds : ℚ) : LimiterReply × RateLimiter :=
  let eventKey : EventKey := ⟨bucket, key⟩
  let events := limiter.live eventKey (now - windowSeconds)
  let limiter := limiter.keep eventKey events
  if events.length ≥ max 1 limit then
    let oldest := events.headD 0
    (⟨false, max 1 (truncate (oldest + windowSeconds - now + 999 / 1000))⟩, limiter)
  else (⟨true, 0⟩, (limiter.setEvents eventKey (events ++ [now])).evict eventKey)

end RateLimiter

/-- A call of the limiter. -/
structure LimiterCall where
  now : ℚ
  key : PyStr
  bucket : PyStr
deriving DecidableEq

def LimiterCall.eventKey (call : LimiterCall) : EventKey := ⟨call.bucket, call.key⟩

/-- The limiter after some calls, and its replies to them. -/
structure Served where
  limiter : RateLimiter
  replies : List (LimiterCall × LimiterReply)

namespace Served

def start : Served := ⟨Table.empty, []⟩

def call (limit : Int) (windowSeconds : ℚ) (served : Served) (c : LimiterCall) : Served :=
  let (reply, limiter) := served.limiter.allow c.now c.key c.bucket limit windowSeconds
  ⟨limiter, served.replies ++ [(c, reply)]⟩

def run (limit : Int) (windowSeconds : ℚ) (calls : List LimiterCall) : Served :=
  calls.foldl (call limit windowSeconds) start

/-- The times at which calls of a key were allowed. -/
def granted (served : Served) (eventKey : EventKey) : List ℚ :=
  (served.replies.filter fun r => r.1.eventKey = eventKey ∧ r.2.allowed).map fun r => r.1.now

end Served

namespace RateLimiter
variable {limiter : RateLimiter} {eventKey other : EventKey} {events : List ℚ}

theorem find?_setEvents (limiter : RateLimiter) (eventKey other : EventKey) (events : List ℚ) :
    Table.find? (limiter.setEvents eventKey events) other =
      if other = eventKey then (Table.find? limiter eventKey).map fun _ => ⟨eventKey, events⟩
      else Table.find? limiter other := by
  rw [setEvents, Table.find?_update]
  cases hfind : Table.find? limiter other with
  | none =>
    split
    · next h => rw [← h, hfind, Option.map_none, Option.map_none]
    · rfl
  | some row =>
    have hkey : row.eventKey = other := Table.key_of_find? hfind
    rw [Option.map_some, hkey]
    by_cases h : other = eventKey
    · subst h
      rw [hfind, Option.map_some, if_pos rfl, if_pos (decide_eq_true rfl)]
    · rw [if_neg h, if_neg fun heq => h (of_decide_eq_true heq)]

theorem length_setEvents (limiter : RateLimiter) (eventKey : EventKey) (events : List ℚ) :
    (limiter.setEvents eventKey events).rows.length = limiter.rows.length :=
  List.length_map _

theorem live_eq_nil_of_not_found (h : Table.find? limiter eventKey = none) (cutoff : ℚ) :
    limiter.live eventKey cutoff = [] := by
  rw [live, eventsOf, h]
  rfl

theorem found_of_live {cutoff : ℚ} (h : limiter.live eventKey cutoff ≠ []) :
    ∃ row, Table.find? limiter eventKey = some row := by
  rw [← Option.isSome_iff_exists, Option.isSome_iff_ne_none]
  exact fun hnone => h (live_eq_nil_of_not_found hnone cutoff)

/-- The key that is served has what is left of its events, and the others are left alone. -/
theorem find?_keep (limiter : RateLimiter) (eventKey other : EventKey) (cutoff : ℚ) :
    Table.find? (limiter.keep eventKey (limiter.live eventKey cutoff)) other =
      if other = eventKey then some ⟨eventKey, limiter.live eventKey cutoff⟩
      else Table.find? limiter other := by
  rw [keep]
  split
  · next hnil =>
    rw [Table.find?_moveToEnd, hnil]
    rfl
  · next hlive =>
    obtain ⟨row, hrow⟩ := found_of_live hlive
    rw [find?_setEvents, hrow, Option.map_some]

theorem length_keep_le (limiter : RateLimiter) (eventKey : EventKey) (events : List ℚ) :
    (limiter.keep eventKey events).rows.length ≤ limiter.rows.length + 1 := by
  rw [keep]
  split
  · rw [Table.length_moveToEnd]
    exact Nat.succ_le_succ (Table.length_erase_le _ _)
  · rw [length_setEvents]
    exact Nat.le_succ _

theorem length_keep_of_live (limiter : RateLimiter) (eventKey : EventKey) {events : List ℚ}
    (h : events ≠ []) : (limiter.keep eventKey events).rows.length = limiter.rows.length := by
  rw [keep, if_neg h, length_setEvents]

theorem other_row (h : 1 < limiter.rows.length) (eventKey : EventKey) :
    ∃ row ∈ limiter.rows, row.eventKey ≠ eventKey := by
  by_contra hnone
  simp only [not_exists, not_and, not_not] at hnone
  have hkeys : limiter.rows.map EventRow.eventKey =
      List.replicate limiter.rows.length eventKey := by
    rw [List.eq_replicate_iff, List.length_map]
    refine ⟨rfl, ?_⟩
    intro key hkey
    obtain ⟨row, hrow, rfl⟩ := List.mem_map.1 hkey
    exact hnone row hrow
  have hdistinct : (limiter.rows.map EventRow.eventKey).Nodup := limiter.distinct
  rw [hkeys, List.nodup_replicate] at hdistinct
  omega

theorem evict_few (h : limiter.rows.length ≤ maxKeys) (eventKey : EventKey) :
    limiter.evict eventKey = limiter := if_neg (Nat.not_lt.2 h)

theorem evict_spec (h : limiter.rows.length ≤ maxKeys + 1) (eventKey : EventKey) :
    (limiter.evict eventKey).rows.length ≤ maxKeys ∧
      Table.find? (limiter.evict eventKey) eventKey = Table.find? limiter eventKey := by
  rw [evict]
  split
  · next hmany =>
    have hpositive : 1 < limiter.rows.length := Nat.lt_trans (by decide) hmany
    obtain ⟨row, hrow, hkey⟩ := other_row hpositive eventKey
    dsimp only
    split
    · next oldest holdest =>
      obtain ⟨hmem, hother⟩ := List.mem_filter.1 (List.argmin_mem holdest)
      have hless : (Table.erase limiter oldest.eventKey).rows.length < limiter.rows.length :=
        Table.length_erase_lt hmem
      refine ⟨by omega, ?_⟩
      rw [Table.find?_erase, if_neg]
      exact fun heq => of_decide_eq_true hother heq.symm
    · next hnone =>
      rw [List.argmin_eq_none, List.filter_eq_nil_iff] at hnone
      exact absurd (decide_eq_true hkey) (hnone row hrow)
  · next hfew => exact ⟨Nat.not_lt.1 hfew, rfl⟩

theorem find?_evict {row : EventRow} (h : Table.find? (limiter.evict eventKey) other = some row) :
    Table.find? limiter other = some row := by
  rw [evict] at h
  split at h
  · dsimp only at h
    split at h
    · rw [Table.find?_erase] at h
      split at h
      · cases h
      · exact h
    · exact h
  · exact h

/-- A call is denied where the live events of its key reach the limit, and else recorded. -/
theorem allow_cases (limiter : RateLimiter) (now : ℚ) (key bucket : PyStr) (limit : Int)
    (windowSeconds : ℚ) :
    (max 1 limit ≤ (limiter.live ⟨bucket, key⟩ (now - windowSeconds)).length ∧
      (limiter.allow now key bucket limit windowSeconds).1.allowed = false ∧
      (limiter.allow now key bucket limit windowSeconds).2.rows.length = limiter.rows.length ∧
      ∀ other, Table.find? (limiter.allow now key bucket limit windowSeconds).2 other =
        if other = ⟨bucket, key⟩ then
          some ⟨⟨bucket, key⟩, limiter.live ⟨bucket, key⟩ (now - windowSeconds)⟩
        else Table.find? limiter other) ∨
    ((limiter.live ⟨bucket, key⟩ (now - windowSeconds)).length < max 1 limit ∧
      (limiter.allow now key bucket limit windowSeconds).1 = ⟨true, 0⟩ ∧
      ∃ recorded : RateLimiter, recorded.rows.length ≤ limiter.rows.length + 1 ∧
        (limiter.allow now key bucket limit windowSeconds).2 = recorded.evict ⟨bucket, key⟩ ∧
        ∀ other, Table.find? recorded other = if other = ⟨bucket, key⟩ then
          some ⟨⟨bucket, key⟩, limiter.live ⟨bucket, key⟩ (now - windowSeconds) ++ [now]⟩
        else Table.find? limiter other) := by
  rw [allow]
  dsimp only
  split
  · next hmany =>
    have hlive : limiter.live ⟨bucket, key⟩ (now - windowSeconds) ≠ [] := by
      intro hnil
      rw [hnil] at hmany
      exact absurd hmany (by simp)
    refine .inl ⟨hmany, rfl, ?_, ?_⟩
    · exact length_keep_of_live limiter _ hlive
    · exact fun other => find?_keep limiter _ other _
  · next hfew =>
    refine .inr ⟨Int.not_le.1 hfew, rfl, _, ?_, rfl, ?_⟩
    · rw [length_setEvents]
      exact length_keep_le _ _ _
    · intro other
      rw [find?_setEvents, find?_keep, if_pos rfl, Option.map_some, find?_keep]
      split
      · rfl
      · rfl

end RateLimiter

namespace Served
variable {limit : Int} {windowSeconds now : ℚ} {served : Served} {calls : List LimiterCall}
  {c : LimiterCall} {eventKey : EventKey}

theorem run_snoc (limit : Int) (windowSeconds : ℚ) (calls : List LimiterCall) (c : LimiterCall) :
    run limit windowSeconds (calls ++ [c]) = (run limit windowSeconds calls).call limit
      windowSeconds c := by
  rw [run, run, List.foldl_append]
  rfl

theorem call_bounded (h : served.limiter.rows.length ≤ maxKeys) (limit : Int) (windowSeconds : ℚ)
    (c : LimiterCall) : (served.call limit windowSeconds c).limiter.rows.length ≤ maxKeys ∧
      Table.find? (served.call limit windowSeconds c).limiter c.eventKey ≠ none := by
  obtain ⟨_, _, hlength, hfind⟩ | ⟨_, _, recorded, hlength, hlimiter, hfind⟩ :=
    served.limiter.allow_cases c.now c.key c.bucket limit windowSeconds
  · have hserved := hfind c.eventKey
    rw [LimiterCall.eventKey, if_pos rfl] at hserved
    refine ⟨hlength.trans_le h, ?_⟩
    intro hnone
    cases hserved.symm.trans hnone
  · obtain ⟨hfew, hkept⟩ := RateLimiter.evict_spec
      (hlength.trans (Nat.succ_le_succ h)) ⟨c.bucket, c.key⟩
    rw [← hlimiter] at hfew hkept
    refine ⟨hfew, ?_⟩
    intro hnone
    have hserved := hfind ⟨c.bucket, c.key⟩
    rw [if_pos rfl] at hserved
    cases (hnone.symm.trans hkept).trans hserved

theorem run_bounded (limit : Int) (windowSeconds : ℚ) (calls : List LimiterCall) :
    (run limit windowSeconds calls).limiter.rows.length ≤ maxKeys := by
  induction calls using List.reverseRecOn with
  | nil => exact Nat.zero_le _
  | append_singleton calls c ih =>
    rw [run_snoc]
    exact (call_bounded ih limit windowSeconds c).1

/-- The events of the keys other than the one that was served stay, where the table has room. -/
theorem call_eventsOf (limit : Int) (windowSeconds : ℚ)
    (hserved : ∀ row ∈ served.limiter.rows, row.eventKey ∈ calls.map LimiterCall.eventKey)
    (hfew : ((calls ++ [c]).map LimiterCall.eventKey).dedup.length ≤ maxKeys) :
    ((max 1 limit ≤ (served.limiter.live c.eventKey (c.now - windowSeconds)).length ∧
        (served.limiter.allow c.now c.key c.bucket limit windowSeconds).1.allowed = false) ∨
      ((served.limiter.live c.eventKey (c.now - windowSeconds)).length < max 1 limit ∧
        (served.limiter.allow c.now c.key c.bucket limit windowSeconds).1.allowed = true)) ∧
    (∀ row ∈ (served.call limit windowSeconds c).limiter.rows,
      row.eventKey ∈ (calls ++ [c]).map LimiterCall.eventKey) ∧
    ∀ eventKey, (served.call limit windowSeconds c).limiter.eventsOf eventKey =
      if eventKey = c.eventKey then
        served.limiter.live c.eventKey (c.now - windowSeconds) ++
          if (served.limiter.allow c.now c.key c.bucket limit windowSeconds).1.allowed
          then [c.now] else []
      else served.limiter.eventsOf eventKey := by
  have hcount : ∀ (limiter : RateLimiter) (keys : List EventKey),
      (∀ row ∈ limiter.rows, row.eventKey ∈ keys) → limiter.rows.length ≤ keys.dedup.length := by
    intro limiter keys hrows
    have hdistinct : (limiter.rows.map EventRow.eventKey).Nodup := limiter.distinct
    rw [← List.length_map EventRow.eventKey]
    apply (List.subperm_of_subset hdistinct _).length_le
    intro key hkey
    obtain ⟨row, hrow, rfl⟩ := List.mem_map.1 hkey
    exact List.mem_dedup.2 (hrows row hrow)
  have hgrown : ∀ row ∈ served.limiter.rows,
      row.eventKey ∈ (calls ++ [c]).map LimiterCall.eventKey := by
    intro row hrow
    rw [List.map_append]
    exact List.mem_append_left _ (hserved row hrow)
  have hmember : ∀ (limiter : RateLimiter) (row : EventRow), (∀ other,
      Table.find? limiter other = if other = c.eventKey then some row
        else Table.find? served.limiter other) →
      ∀ r ∈ limiter.rows, r.eventKey ∈ (calls ++ [c]).map LimiterCall.eventKey := by
    intro limiter row hfind r hr
    have hself : Table.find? limiter r.eventKey = some r := Table.find?_mem hr
    rw [hfind] at hself
    split at hself
    · next hkey =>
      rw [hkey, List.map_append]
      exact List.mem_append_right _ List.mem_cons_self
    · exact hgrown r (Table.mem_of_find? hself)
  have heventsOf : ∀ (limiter : RateLimiter) (events : List ℚ) {allowed : Bool},
      (served.limiter.allow c.now c.key c.bucket limit windowSeconds).1.allowed = allowed →
      events = served.limiter.live c.eventKey (c.now - windowSeconds) ++
        (if allowed = true then [c.now] else []) →
      (∀ other, Table.find? limiter other = if other = c.eventKey then some ⟨c.eventKey, events⟩
        else Table.find? served.limiter other) →
      ∀ eventKey, limiter.eventsOf eventKey = if eventKey = c.eventKey then
        served.limiter.live c.eventKey (c.now - windowSeconds) ++
          if (served.limiter.allow c.now c.key c.bucket limit windowSeconds).1.allowed
          then [c.now] else []
      else served.limiter.eventsOf eventKey := by
    intro limiter events allowed hallowed hevents hfind eventKey
    rw [hallowed, ← hevents, RateLimiter.eventsOf, hfind]
    split
    · rfl
    · rfl
  obtain ⟨hmany, hdenied, _, hfind⟩ | ⟨hlive, hallowed, recorded, _, hlimiter, hfind⟩ :=
    served.limiter.allow_cases c.now c.key c.bucket limit windowSeconds
  · refine ⟨.inl ⟨hmany, hdenied⟩, hmember _ _ hfind, ?_⟩
    exact heventsOf _ _ hdenied (List.append_nil _).symm hfind
  · have hroom : recorded.rows.length ≤ maxKeys :=
      (hcount _ _ (hmember _ _ hfind)).trans hfew
    rw [RateLimiter.evict_few hroom] at hlimiter
    have hnew : (served.call limit windowSeconds c).limiter = recorded := hlimiter
    rw [hnew]
    have hgranted := congrArg LimiterReply.allowed hallowed
    refine ⟨.inr ⟨hlive, hgranted⟩, hmember _ _ hfind, ?_⟩
    exact heventsOf _ (served.limiter.live c.eventKey (c.now - windowSeconds) ++ [c.now]) hgranted
      rfl hfind

/-- The reply to a call after others. -/
def reply (limit : Int) (windowSeconds : ℚ) (before : List LimiterCall) (c : LimiterCall) :
    LimiterReply :=
  ((run limit windowSeconds before).limiter.allow c.now c.key c.bucket limit windowSeconds).1

theorem granted_call (limit : Int) (windowSeconds : ℚ) (served : Served) (c : LimiterCall)
    (eventKey : EventKey) : (served.call limit windowSeconds c).granted eventKey =
      served.granted eventKey ++
        if c.eventKey = eventKey ∧
          (served.limiter.allow c.now c.key c.bucket limit windowSeconds).1.allowed
        then [c.now] else [] := by
  rw [granted, granted, call, List.filter_append, List.map_append]
  congr 1
  by_cases h : c.eventKey = eventKey ∧
    (served.limiter.allow c.now c.key c.bucket limit windowSeconds).1.allowed
  · rw [if_pos h, List.filter_cons, if_pos (decide_eq_true h)]
    rfl
  · rw [if_neg h, List.filter_cons, if_neg fun hdecide => h (of_decide_eq_true hdecide)]
    rfl

/-- The events of every key are the granted calls that can still be in a window. -/
structure Exact (windowSeconds now : ℚ) (served : Served) : Prop where
  expired : ∀ eventKey, ∃ old, served.granted eventKey =
    old ++ served.limiter.eventsOf eventKey ∧ ∀ x ∈ old, x ≤ now - windowSeconds
  sorted : ∀ eventKey, (served.granted eventKey).Pairwise (· ≤ ·)
  past : ∀ eventKey, ∀ x ∈ served.granted eventKey, x ≤ now

theorem dropWhile_sorted {l : List ℚ} (h : l.Pairwise (· ≤ ·)) (cutoff : ℚ) :
    l.dropWhile (· ≤ cutoff) = l.filter (cutoff < ·) := by
  induction l with
  | nil => rfl
  | cons x l ih =>
    obtain ⟨hfirst, hrest⟩ := List.pairwise_cons.1 h
    by_cases hx : x ≤ cutoff
    · rw [List.dropWhile_cons, if_pos (decide_eq_true hx), ih hrest, List.filter_cons,
        if_neg fun hlt => not_lt.2 hx (of_decide_eq_true hlt)]
    · rw [List.dropWhile_cons, if_neg fun hle => hx (of_decide_eq_true hle), eq_comm,
        List.filter_eq_self]
      intro y hy
      apply decide_eq_true
      obtain rfl | hy := List.mem_cons.1 hy
      · exact not_le.1 hx
      · exact (not_le.1 hx).trans_le (hfirst y hy)

theorem Exact.live_eq (h : Exact windowSeconds now served) (eventKey : EventKey) :
    served.limiter.live eventKey (now - windowSeconds) =
      (served.granted eventKey).filter (now - windowSeconds < ·) := by
  obtain ⟨old, hgranted, hold⟩ := h.expired eventKey
  have hsorted := h.sorted eventKey
  rw [hgranted, List.pairwise_append] at hsorted
  have hnone : old.filter (now - windowSeconds < ·) = [] := by
    rw [List.filter_eq_nil_iff]
    exact fun x hx hlt => not_lt.2 (hold x hx) (of_decide_eq_true hlt)
  rw [RateLimiter.live, dropWhile_sorted hsorted.2.1, hgranted, List.filter_append, hnone,
    List.nil_append]

theorem Exact.live_length (h : Exact windowSeconds now served) (eventKey : EventKey) :
    (served.limiter.live eventKey (now - windowSeconds)).length =
      (served.granted eventKey).countP fun x => now - windowSeconds < x ∧ x ≤ now := by
  rw [h.live_eq, ← List.countP_eq_length_filter]
  apply List.countP_congr
  intro x hx
  rw [decide_eq_true_eq, decide_eq_true_eq]
  exact ⟨fun hlt => ⟨hlt, h.past eventKey x hx⟩, fun hboth => hboth.1⟩

theorem Exact.call (h : Exact windowSeconds c.now served)
    (heventsOf : ∀ eventKey, (served.call limit windowSeconds c).limiter.eventsOf eventKey =
      if eventKey = c.eventKey then
        served.limiter.live c.eventKey (c.now - windowSeconds) ++
          if (served.limiter.allow c.now c.key c.bucket limit windowSeconds).1.allowed
          then [c.now] else []
      else served.limiter.eventsOf eventKey) (hnow : c.now ≤ now) :
    Exact windowSeconds now (served.call limit windowSeconds c) := by
  have hcutoff : c.now - windowSeconds ≤ now - windowSeconds := sub_le_sub_right hnow _
  have hnew : ∀ eventKey, ∀ x ∈ (if c.eventKey = eventKey ∧
      (served.limiter.allow c.now c.key c.bucket limit windowSeconds).1.allowed
      then [c.now] else []), x = c.now := by
    intro eventKey x hx
    split at hx
    · exact List.mem_singleton.1 hx
    · cases hx
  refine ⟨?_, ?_, ?_⟩
  · intro eventKey
    obtain ⟨old, hgranted, hold⟩ := h.expired eventKey
    rw [granted_call, heventsOf, hgranted]
    by_cases hkey : eventKey = c.eventKey
    · subst hkey
      refine ⟨old ++ (served.limiter.eventsOf c.eventKey).takeWhile
        (· ≤ c.now - windowSeconds), ?_, ?_⟩
      · rw [if_pos rfl, RateLimiter.live, List.append_assoc, List.append_assoc,
          ← List.append_assoc (List.takeWhile _ _), List.takeWhile_append_dropWhile]
        simp only [true_and]
      · intro x hx
        obtain hx | hx := List.mem_append.1 hx
        · exact (hold x hx).trans hcutoff
        · have hle : x ≤ c.now - windowSeconds := by simpa using List.mem_takeWhile_imp hx
          exact hle.trans hcutoff
    · refine ⟨old, ?_, fun x hx => (hold x hx).trans hcutoff⟩
      rw [if_neg hkey, if_neg fun hboth => hkey hboth.1.symm, List.append_nil]
  · intro eventKey
    rw [granted_call]
    apply List.pairwise_append.2 ⟨h.sorted eventKey, ?_, ?_⟩
    · split
      · exact List.pairwise_singleton _ _
      · exact List.Pairwise.nil
    · intro x hx y hy
      rw [hnew eventKey y hy]
      exact h.past eventKey x hx
  · intro eventKey x hx
    rw [granted_call] at hx
    obtain hx | hx := List.mem_append.1 hx
    · exact (h.past eventKey x hx).trans hnow
    · rw [hnew eventKey x hx]
      exact hnow

/-- Calls that come in the order of the clock, for few keys. -/
structure Orderly (calls : List LimiterCall) : Prop where
  clock : calls.Pairwise fun a b => a.now ≤ b.now
  few : (calls.map LimiterCall.eventKey).dedup.length ≤ maxKeys

theorem Orderly.before {rest : List LimiterCall} (h : Orderly (calls ++ rest)) : Orderly calls := by
  refine ⟨(List.pairwise_append.1 h.clock).1, ?_⟩
  apply Nat.le_trans ?_ h.few
  apply (List.subperm_of_subset (List.nodup_dedup _) _).length_le
  intro key hkey
  rw [List.map_append]
  exact List.mem_dedup.2 (List.mem_append_left _ (List.mem_dedup.1 hkey))

theorem Orderly.last (h : Orderly (calls ++ [c])) : ∀ d ∈ calls, d.now ≤ c.now :=
  fun d hd => (List.pairwise_append.1 h.clock).2.2 d hd c List.mem_cons_self

/-- In an orderly run the table is exact. -/
theorem run_exact (limit : Int) (windowSeconds : ℚ) (h : Orderly calls) :
    (∀ row ∈ (run limit windowSeconds calls).limiter.rows,
      row.eventKey ∈ calls.map LimiterCall.eventKey) ∧
    ∀ now, (∀ d ∈ calls, d.now ≤ now) →
      Exact windowSeconds now (run limit windowSeconds calls) := by
  induction calls using List.reverseRecOn with
  | nil =>
    refine ⟨fun row hrow => absurd hrow List.not_mem_nil, fun now _ => ⟨?_, ?_, ?_⟩⟩
    · exact fun _ => ⟨[], rfl, fun x hx => absurd hx List.not_mem_nil⟩
    · exact fun _ => List.Pairwise.nil
    · exact fun _ x hx => absurd hx List.not_mem_nil
  | append_singleton calls c ih =>
    obtain ⟨hrows, hexact⟩ := ih h.before
    obtain ⟨_, hgrown, heventsOf⟩ := call_eventsOf limit windowSeconds hrows h.few
    rw [run_snoc]
    refine ⟨hgrown, ?_⟩
    intro now hnow
    exact (hexact c.now h.last).call heventsOf (hnow c (List.mem_append_right _ List.mem_cons_self))

theorem allowed_iff (limit : Int) (windowSeconds : ℚ) (h : Orderly (calls ++ [c])) :
    (reply limit windowSeconds calls c).allowed = true ↔
      (((run limit windowSeconds calls).granted c.eventKey).countP fun x =>
        c.now - windowSeconds < x ∧ x ≤ c.now : Nat) < max 1 limit := by
  obtain ⟨hrows, hexact⟩ := run_exact limit windowSeconds h.before
  rw [← (hexact c.now h.last).live_length, reply]
  obtain ⟨⟨hmany, hdenied⟩ | ⟨hfew, hallowed⟩, _⟩ := 
    call_eventsOf limit windowSeconds hrows h.few
  · rw [hdenied]
    exact iff_of_false (fun heq => by cases heq) (Int.not_lt.2 hmany)
  · exact iff_of_true hallowed hfew

theorem granted_within (limit : Int) (windowSeconds : ℚ) (h : Orderly calls) (eventKey : EventKey)
    (p : ℚ → Prop) [DecidablePred p] (hp : ∀ x y, p x → p y → y - x < windowSeconds) :
    (((run limit windowSeconds calls).granted eventKey).countP fun x => p x : Nat) ≤
      max 1 limit := by
  induction calls using List.reverseRecOn with
  | nil =>
    have hnone : (run limit windowSeconds []).granted eventKey = [] := rfl
    rw [hnone, List.countP_nil]
    exact le_max_of_le_left (by decide)
  | append_singleton calls c ih =>
    have hbefore := ih h.before
    rw [run_snoc, granted_call]
    split
    · next hgranted =>
      obtain ⟨hkey, hallowed⟩ := hgranted
      by_cases hnow : p c.now
      · have hroom := (allowed_iff limit windowSeconds h).1 hallowed
        have hsub : ((run limit windowSeconds calls).granted eventKey).countP (fun x => p x) ≤
            ((run limit windowSeconds calls).granted c.eventKey).countP fun x =>
              c.now - windowSeconds < x ∧ x ≤ c.now := by
          rw [hkey]
          apply List.countP_mono_left
          intro x hx hpx
          have hexact := (run_exact limit windowSeconds h.before).2 c.now h.last
          have hclose := hp x c.now (of_decide_eq_true hpx) hnow
          exact decide_eq_true ⟨by linarith, hexact.past eventKey x hx⟩
        rw [List.countP_append, List.countP_singleton, if_pos (decide_eq_true hnow)]
        omega
      · rw [List.countP_append, List.countP_singleton,
          if_neg fun hdecide => hnow (of_decide_eq_true hdecide)]
        exact hbefore
    · rw [List.append_nil]
      exact hbefore

theorem live_length_le {limiter : RateLimiter} (eventKey : EventKey) (cutoff : ℚ)
    (h : (limiter.eventsOf eventKey).length ≤ max 1 limit) :
    ((limiter.live eventKey cutoff).length : Int) ≤ max 1 limit := by
  have hsub := (List.dropWhile_sublist (· ≤ cutoff)
    (l := limiter.eventsOf eventKey)).length_le
  rw [RateLimiter.live]
  omega

theorem run_limited (limit : Int) (windowSeconds : ℚ) (calls : List LimiterCall)
    (eventKey : EventKey) :
    (((run limit windowSeconds calls).limiter.eventsOf eventKey).length : Int) ≤ max 1 limit := by
  have hrow : ∀ (limiter : RateLimiter), (∀ key row, Table.find? limiter key = some row →
      (row.events.length : Int) ≤ max 1 limit) →
      ∀ key, ((limiter.eventsOf key).length : Int) ≤ max 1 limit := by
    intro limiter h key
    rw [RateLimiter.eventsOf]
    cases hfind : Table.find? limiter key with
    | none => exact le_max_of_le_left (by decide)
    | some row => exact h key row hfind
  apply hrow
  induction calls using List.reverseRecOn with
  | nil =>
    intro key row hfind
    cases hfind
  | append_singleton calls c ih =>
    have hlive := live_length_le c.eventKey (c.now - windowSeconds)
      (hrow _ ih c.eventKey)
    intro key row hfind
    rw [run_snoc] at hfind
    obtain ⟨_, _, _, hrows⟩ | ⟨hfew, _, recorded, _, hlimiter, hrows⟩ :=
      (run limit windowSeconds calls).limiter.allow_cases c.now c.key c.bucket limit windowSeconds
    · have hkey := (hrows key).symm.trans hfind
      split at hkey
      · cases hkey
        exact hlive
      · exact ih key row hkey
    · have hevicted : Table.find? (recorded.evict ⟨c.bucket, c.key⟩) key = some row :=
        hlimiter ▸ hfind
      have hkey := (hrows key).symm.trans (RateLimiter.find?_evict hevicted)
      split at hkey
      · cases hkey
        rw [List.length_append, List.length_singleton]
        push_cast
        omega
      · exact ih key row hkey

theorem denied_spec (h : (reply limit windowSeconds calls c).allowed = false) :
    ∃ oldest rest, (run limit windowSeconds calls).limiter.live c.eventKey
        (c.now - windowSeconds) = oldest :: rest ∧
      ((oldest :: rest).length : Int) = max 1 limit ∧
      (run limit windowSeconds (calls ++ [c])).limiter.eventsOf c.eventKey = oldest :: rest ∧
      (reply limit windowSeconds calls c).retryAfter =
        max 1 (truncate (oldest + windowSeconds - c.now + 999 / 1000)) := by
  have hlimited := live_length_le c.eventKey (c.now - windowSeconds)
    (run_limited limit windowSeconds calls c.eventKey)
  obtain ⟨hmany, _, _, hrows⟩ | ⟨_, hallowed, _⟩ :=
    (run limit windowSeconds calls).limiter.allow_cases c.now c.key c.bucket limit windowSeconds
  · cases hlive : (run limit windowSeconds calls).limiter.live c.eventKey
        (c.now - windowSeconds) with
    | nil =>
      rw [LimiterCall.eventKey] at hlive
      rw [hlive] at hmany
      exact absurd ((le_max_left 1 limit).trans hmany) (by decide)
    | cons oldest rest =>
      have hkey := hrows c.eventKey
      rw [LimiterCall.eventKey, if_pos rfl] at hkey
      rw [hlive] at hlimited
      rw [LimiterCall.eventKey] at hlive
      rw [hlive] at hmany
      refine ⟨oldest, rest, rfl, le_antisymm hlimited hmany, ?_, ?_⟩
      · rw [run_snoc, call, RateLimiter.eventsOf, LimiterCall.eventKey, hkey, hlive]
        rfl
      · rw [reply, RateLimiter.allow, hlive]
        dsimp only
        rw [if_pos hmany]
        rfl
  · rw [reply, hallowed] at h
    cases h

theorem allowed_of_full {oldest : ℚ} {rest : List ℚ}
    (hevents : (run limit windowSeconds calls).limiter.eventsOf c.eventKey = oldest :: rest)
    (hfull : ((oldest :: rest).length : Int) = max 1 limit) :
    (reply limit windowSeconds calls c).allowed = true ↔ oldest ≤ c.now - windowSeconds := by
  have hlive : (run limit windowSeconds calls).limiter.live ⟨c.bucket, c.key⟩
      (c.now - windowSeconds) = (oldest :: rest).dropWhile (· ≤ c.now - windowSeconds) :=
    congrArg (List.dropWhile _) hevents
  rw [List.dropWhile_cons] at hlive
  obtain ⟨hmany, hdenied, _⟩ | ⟨hfew, hallowed, _⟩ :=
    (run limit windowSeconds calls).limiter.allow_cases c.now c.key c.bucket limit windowSeconds
  · rw [reply, hdenied]
    apply iff_of_false (fun heq => by cases heq)
    intro hold
    rw [if_pos (decide_eq_true hold)] at hlive
    have hless := (List.dropWhile_sublist (· ≤ c.now - windowSeconds) (l := rest)).length_le
    rw [hlive] at hmany
    rw [List.length_cons] at hfull
    omega
  · rw [reply, hallowed]
    apply iff_of_true rfl
    by_contra hold
    rw [if_neg fun hdecide => hold (of_decide_eq_true hdecide)] at hlive
    rw [hlive] at hfew
    omega

end Served

/-- The limiter is an exact sliding window where the clock runs forward and the keys are few; and
the table stays bounded whatever the calls. -/
theorem rate_limiter_exact (limit : Int) (windowSeconds : ℚ) (calls : List LimiterCall)
    (hlimit : 1 ≤ limit) :
    (Served.Orderly calls →
      (∀ before c after, calls = before ++ c :: after →
        ((Served.reply limit windowSeconds before c).allowed = true ↔
          (((Served.run limit windowSeconds before).granted c.eventKey).countP fun x =>
            c.now - windowSeconds < x ∧ x ≤ c.now : Nat) < limit)) ∧
      ∀ eventKey a,
        (((Served.run limit windowSeconds calls).granted eventKey).countP fun x =>
          a < x ∧ x ≤ a + windowSeconds : Nat) ≤ limit ∧
        (((Served.run limit windowSeconds calls).granted eventKey).countP fun x =>
          a ≤ x ∧ x < a + windowSeconds : Nat) ≤ limit) ∧
    ∀ before c after, calls = before ++ c :: after →
      (Served.run limit windowSeconds (before ++ [c])).limiter.rows.length ≤ maxKeys ∧
        Table.find? (Served.run limit windowSeconds (before ++ [c])).limiter c.eventKey ≠ none := by
  have hbound : max 1 limit = limit := max_eq_right hlimit
  refine ⟨?_, ?_⟩
  · intro h
    refine ⟨?_, ?_⟩
    · rintro before c after rfl
      have hbefore : Served.Orderly (before ++ [c]) := by
        rw [List.append_cons] at h
        exact h.before
      have hallowed := Served.allowed_iff limit windowSeconds hbefore
      rwa [hbound] at hallowed
    · intro eventKey a
      have hopen := Served.granted_within limit windowSeconds h eventKey
        (fun x => a < x ∧ x ≤ a + windowSeconds)
        fun x y hx hy => by linarith [hx.1, hy.2]
      have hclosed := Served.granted_within limit windowSeconds h eventKey
        (fun x => a ≤ x ∧ x < a + windowSeconds)
        fun x y hx hy => by linarith [hx.1, hy.2]
      rw [hbound] at hopen hclosed
      exact ⟨hopen, hclosed⟩
  · rintro before c after rfl
    rw [Served.run_snoc]
    exact Served.call_bounded (Served.run_bounded limit windowSeconds before) limit windowSeconds c

/-- A wait that whole seconds can meet, or that one second does. -/
def WaitMet (wait : ℚ) : Prop := wait ≤ 1 ∨ Int.fract wait = 0 ∨ 1 / 1000 ≤ Int.fract wait

theorem met_iff (wait : ℚ) :
    wait ≤ ((max 1 (truncate (wait + 999 / 1000)) : Int) : ℚ) ↔ WaitMet wait := by
  have hsplit := Int.floor_add_fract wait
  have hnonneg := Int.fract_nonneg wait
  have hless := Int.fract_lt_one wait
  by_cases hshort : wait ≤ 1
  · have hone : (1 : ℚ) ≤ ((max 1 (truncate (wait + 999 / 1000)) : Int) : ℚ) :=
      Int.cast_one.symm.trans_le (Int.cast_le.2 (le_max_left 1 _))
    exact iff_of_true (hshort.trans hone) (.inl hshort)
  · have hpositive : 0 ≤ wait + 999 / 1000 := by linarith
    have hfloor : 1 ≤ ⌊wait⌋ := Int.le_floor.2 (by push_cast; linarith)
    rw [truncate, if_pos hpositive, WaitMet, or_iff_right hshort]
    by_cases hfract : 1 / 1000 ≤ Int.fract wait
    · have hround : ⌊wait + 999 / 1000⌋ = ⌊wait⌋ + 1 := by
        rw [Int.floor_eq_iff]
        push_cast
        exact ⟨by linarith, by linarith⟩
      rw [hround, max_eq_right (by omega)]
      apply iff_of_true ?_ (.inr hfract)
      push_cast
      linarith
    · have hround : ⌊wait + 999 / 1000⌋ = ⌊wait⌋ := by
        rw [Int.floor_eq_iff]
        exact ⟨by linarith, by linarith⟩
      rw [hround, max_eq_right hfloor, or_iff_left hfract]
      constructor
      · intro hle
        linarith
      · intro hzero
        linarith

/-- A denied caller that comes back after `Retry-After` seconds is let in just where the oldest
call of its window leaves it on a second or a thousandth of one later. -/
theorem retry_after_sufficient_iff (limit : Int) (windowSeconds : ℚ) (calls : List LimiterCall)
    (c : LimiterCall)
    (h : (Served.reply limit windowSeconds calls c).allowed = false) :
    1 ≤ (Served.reply limit windowSeconds calls c).retryAfter ∧
    ∃ oldest, ((Served.run limit windowSeconds calls).limiter.live c.eventKey
        (c.now - windowSeconds)).head? = some oldest ∧
      ((∀ now, c.now + (Served.reply limit windowSeconds calls c).retryAfter ≤ now →
        (Served.reply limit windowSeconds (calls ++ [c]) { c with now := now }).allowed = true) ↔
        WaitMet (oldest + windowSeconds - c.now)) := by
  obtain ⟨oldest, rest, hlive, hfull, hevents, hretry⟩ := Served.denied_spec h
  have hreply : ∀ now, (Served.reply limit windowSeconds (calls ++ [c])
      { c with now := now }).allowed = true ↔ oldest ≤ now - windowSeconds :=
    fun now => Served.allowed_of_full hevents hfull
  rw [hretry, hlive]
  refine ⟨le_max_left _ _, oldest, rfl, ?_⟩
  rw [← met_iff]
  simp only [hreply]
  constructor
  · intro hnow
    have hfirst := hnow _ le_rfl
    linarith
  · intro hwait now hnow
    linarith

namespace Sample

def callAt (now : ℚ) : LimiterCall := ⟨now, "203.0.113.7", "api"⟩

end Sample

theorem rate_limiter_exact_sample :
    (Served.reply 1 60 [Sample.callAt 0] (Sample.callAt 60)).allowed = true ↔
      (((Served.run 1 60 [Sample.callAt 0]).granted (Sample.callAt 60).eventKey).countP fun x =>
        (60 : ℚ) - 60 < x ∧ x ≤ 60 : Nat) < (1 : Int) :=
  ((rate_limiter_exact 1 60 [Sample.callAt 0, Sample.callAt 60] (by decide)).1
    ⟨by decide +kernel, by decide +kernel⟩).1 [Sample.callAt 0] (Sample.callAt 60) [] rfl

/-- Denied after half of the window, a caller is told to wait for the other half, and is let in
from then on. -/
theorem retry_after_sufficient_sample :
    (Served.reply 1 60 [Sample.callAt 0] (Sample.callAt 30)).retryAfter = 30 ∧
      ∀ now : ℚ, 60 ≤ now →
        (Served.reply 1 60 [Sample.callAt 0, Sample.callAt 30] (Sample.callAt now)).allowed =
          true := by
  obtain ⟨-, oldest, holdest, hlater⟩ :=
    retry_after_sufficient_iff 1 60 [Sample.callAt 0] (Sample.callAt 30) (by decide +kernel)
  have hfirst : ((Served.run 1 60 [Sample.callAt 0]).limiter.live (Sample.callAt 30).eventKey
      ((Sample.callAt 30).now - 60)).head? = some 0 := by
    decide +kernel
  have hretry : (Served.reply 1 60 [Sample.callAt 0] (Sample.callAt 30)).retryAfter = 30 := by
    decide +kernel
  cases hfirst.symm.trans holdest
  rw [hretry] at hlater
  have hmet : WaitMet (0 + 60 - (Sample.callAt 30).now) := by
    right
    left
    decide +kernel
  refine ⟨hretry, ?_⟩
  intro now hnow
  apply hlater.2 hmet now
  have hsum : (Sample.callAt 30).now + ((30 : Int) : ℚ) = 60 := by decide +kernel
  rwa [hsum]

/-- Denied 1.0005 seconds before there is room, a caller is told to wait for one. -/
theorem retry_after_short_sample :
    (Served.reply 1 60 [Sample.callAt 0] (Sample.callAt (117999 / 2000))).allowed = false ∧
      (Served.reply 1 60 [Sample.callAt 0] (Sample.callAt (117999 / 2000))).retryAfter = 1 ∧
      (Served.reply 1 60 [Sample.callAt 0, Sample.callAt (117999 / 2000)]
        (Sample.callAt (117999 / 2000 + 1))).allowed = false := by
  decide +kernel

end BrunostJudge
