import BrunostJudge.Transition
import Mathlib.Logic.Function.Basic

namespace ReadCommitted
open Transition
set_option autoImplicit true

/-- `UPDATE … SET set WHERE cond`. -/
structure Update (V : Type u) where
  cond : V → Bool
  set : V → V

/-- What a transaction still has to do. An `update` and a `lockRow` (`SELECT … FOR UPDATE SKIP
LOCKED`) go on with the row if they took it. The updates carry names. -/
inductive Program (τ : Type w) (V : Type u)
  | commit
  | raise
  | select (next : V → Program τ V)
  | update (name : τ) (u : Update V) (next : Option V → Program τ V)
  | lockRow (want : V → Bool) (next : Option V → Program τ V)
  | insert (next : Program τ V)

/-- An open transaction. `matched` is set while an `UPDATE` that found the row in its snapshot
has not got hold of it. -/
structure Txn (τ : Type w) (V : Type u) where
  program : Program τ V
  matched : Bool

/-- The row and the entry as committed, who has locked them, and the open transactions. -/
structure Database (τ : Type w) (V : Type u) (ι : Type v) where
  row : V
  lock : Option (ι × V)
  noted : Bool
  noting : Option ι
  txns : ι → Option (Txn τ V)

inductive Move (τ : Type w) (V : Type u)
  | begin
  | select
  | miss
  | scan
  | write (name : τ) (found : V)
  | lost
  | lock
  | skip
  | insert
  | commit
  | rollback

def Move.isRollback {τ : Type w} {V : Type u} : Move τ V → Bool
  | .rollback => true
  | _ => false

section
variable {τ : Type w} {V : Type u} {ι : Type v} [DecidableEq ι]

namespace Database

/-- The version of the row that a statement of a transaction sees. -/
def visible (d : Database τ V ι) (i : ι) : V :=
  match d.lock with
  | some (j, v) => if j = i then v else d.row
  | none => d.row

/-- No other transaction has the row locked. -/
def available (d : Database τ V ι) (i : ι) : Bool := d.lock.all fun l => l.1 = i

def goesOn (d : Database τ V ι) (i : ι) (p : Program τ V) (matched : Bool) : Database τ V ι :=
  { d with txns := Function.update d.txns i (some ⟨p, matched⟩) }

/-- A transaction takes the row, as the version `v`. -/
def takes (d : Database τ V ι) (i : ι) (v : V) : Database τ V ι := { d with lock := some (i, v) }

def release (d : Database τ V ι) (i : ι) : Database τ V ι :=
  { d with
    lock := d.lock.filter fun l => l.1 ≠ i
    noting := d.noting.filter fun j => j ≠ i
    txns := Function.update d.txns i none }

def commit (d : Database τ V ι) (i : ι) : Database τ V ι :=
  { d.release i with row := d.visible i, noted := d.noted || d.noting = some i }

end Database

/-- The statements of the open transactions, in any order. A lock is given back with its
transaction; one that an `UPDATE` took in vain is given back at once, which admits more orders. -/
inductive Step (Code : Program τ V → Prop) (d : Database τ V ι) :
    ι × Move τ V → Database τ V ι → Prop
  | begin : Code p → d.txns i = none → Step Code d (i, .begin) (d.goesOn i p false)
  | select : d.txns i = some ⟨.select next, m⟩ →
      Step Code d (i, .select) (d.goesOn i (next (d.visible i)) false)
  | miss : d.txns i = some ⟨.update name u next, false⟩ → u.cond (d.visible i) = false →
      Step Code d (i, .miss) (d.goesOn i (next none) false)
  | scan : d.txns i = some ⟨.update name u next, false⟩ → u.cond (d.visible i) →
      Step Code d (i, .scan) (d.goesOn i (.update name u next) true)
  | write : d.txns i = some ⟨.update name u next, true⟩ → d.available i →
      u.cond (d.visible i) →
      Step Code d (i, .write name (d.visible i))
        ((d.takes i (u.set (d.visible i))).goesOn i (next (some (u.set (d.visible i)))) false)
  | lost : d.txns i = some ⟨.update name u next, true⟩ → d.available i →
      u.cond (d.visible i) = false → Step Code d (i, .lost) (d.goesOn i (next none) false)
  | lock : d.txns i = some ⟨.lockRow want next, m⟩ → d.available i → want (d.visible i) →
      Step Code d (i, .lock)
        ((d.takes i (d.visible i)).goesOn i (next (some (d.visible i))) false)
  | skip : d.txns i = some ⟨.lockRow want next, m⟩ →
      Step Code d (i, .skip) (d.goesOn i (next none) false)
  | insert : d.txns i = some ⟨.insert next, m⟩ → d.noting.all (fun j => j = i) →
      Step Code d (i, .insert) ({ d with noting := some i }.goesOn i next false)
  | commit : d.txns i = some ⟨.commit, m⟩ → Step Code d (i, .commit) (d.commit i)
  | rollback : d.txns i = some t → Step Code d (i, .rollback) (d.release i)

/-- The next statement of a transaction, unless it has to wait. -/
def Database.advance (d : Database τ V ι) (i : ι) : Option (Move τ V × Database τ V ι) :=
  match d.txns i with
  | none => none
  | some ⟨.commit, _⟩ => some (.commit, d.commit i)
  | some ⟨.raise, _⟩ => some (.rollback, d.release i)
  | some ⟨.select next, _⟩ => some (.select, d.goesOn i (next (d.visible i)) false)
  | some ⟨.update name u next, false⟩ =>
    if u.cond (d.visible i) then some (.scan, d.goesOn i (.update name u next) true)
    else some (.miss, d.goesOn i (next none) false)
  | some ⟨.update name u next, true⟩ =>
    if d.available i then
      if u.cond (d.visible i) then
        some (.write name (d.visible i),
          (d.takes i (u.set (d.visible i))).goesOn i (next (some (u.set (d.visible i)))) false)
      else some (.lost, d.goesOn i (next none) false)
    else none
  | some ⟨.lockRow want next, _⟩ =>
    if d.available i && want (d.visible i) then
      some (.lock, (d.takes i (d.visible i)).goesOn i (next (some (d.visible i))) false)
    else some (.skip, d.goesOn i (next none) false)
  | some ⟨.insert next, _⟩ =>
    if d.noting.all (fun j => j = i) then
      some (.insert, { d with noting := some i }.goesOn i next false)
    else none

variable {Code : Program τ V → Prop} {d d' : Database τ V ι}

theorem advance_step (h : d.advance i = some (m, d')) :
    Step Code d (i, m) d' := by
  rw [Database.advance] at h
  split at h
  · cases h
  · cases h
    exact .commit ‹_›
  · cases h
    exact .rollback ‹_›
  · cases h
    exact .select ‹_›
  · split at h
    · cases h
      exact .scan ‹_› ‹_›
    · cases h
      exact .miss ‹_› (Bool.eq_false_iff.2 ‹_›)
  · split at h
    · split at h
      · cases h
        exact .write ‹_› ‹_› ‹_›
      · cases h
        exact .lost ‹_› ‹_› (Bool.eq_false_iff.2 ‹_›)
    · cases h
  · split at h
    · next hcond =>
      obtain ⟨havailable, hcond⟩ := Bool.and_eq_true_iff.1 hcond
      cases h
      exact .lock ‹_› havailable hcond
    · cases h
      exact .skip ‹_›
  · split at h
    · cases h
      exact .insert ‹_› ‹_›
    · cases h

/-- A transaction begins, or goes on with its next statement. -/
def Database.turn (d : Database τ V ι) (i : ι) :
    Option (Program τ V) → Option (Move τ V × Database τ V ι)
  | none => d.advance i
  | some p => if (d.txns i).isNone then some (.begin, d.goesOn i p false) else none

def Database.perform (d : Database τ V ι) : List (ι × Option (Program τ V)) →
    Option (List (ι × Move τ V) × Database τ V ι)
  | [] => some ([], d)
  | (i, p) :: turns => do
    let (m, d) ← d.turn i p
    let (h, d) ← d.perform turns
    pure (h ++ [(i, m)], d)

theorem turn_step (hcode : ∀ q, p = some q → Code q) (h : d.turn i p = some (m, d')) :
    Step Code d (i, m) d' := by
  cases p with
  | none => exact advance_step h
  | some q =>
    rw [Database.turn] at h
    split at h
    · cases h
      exact .begin (hcode q rfl) (Option.isNone_iff_eq_none.1 ‹_›)
    · cases h

theorem perform_path (hcode : ∀ t ∈ turns, ∀ q, t.2 = some q → Code q)
    (hp : d.perform turns = some (h, d')) : Path (Step Code) d h d' := by
  induction turns generalizing d h with
  | nil =>
    cases hp
    exact .refl
  | cons t turns ih =>
    obtain ⟨⟨m, e⟩, hturn, hp⟩ := Option.bind_eq_some_iff.1 hp
    obtain ⟨⟨l, e'⟩, hrest, hp⟩ := Option.bind_eq_some_iff.1 hp
    cases hp
    have hs := turn_step (hcode t List.mem_cons_self) hturn
    exact (Path.single hs).trans (ih (fun t ht => hcode t (List.mem_cons_of_mem _ ht)) hrest)

/-- Every way from here to a commit inserts the entry, on versions of the row that satisfy `P`. -/
def Program.Notes (P : V → Prop) : Program τ V → Prop
  | .commit => False
  | .raise => True
  | .select next => ∀ v, P v → (next v).Notes P
  | .update _ _ next => (next none).Notes P ∧ ∀ v, P v → (next (some v)).Notes P
  | .lockRow _ next => (next none).Notes P ∧ ∀ v, P v → (next (some v)).Notes P
  | .insert _ => True

/-- The updates keep `P`, and one that makes the row `ended` is followed by the insertion of the
entry unless it is a `lossy` one. -/
def Program.Sound (P : V → Prop) (ended : V → Bool) (lossy : τ → V → Bool) : Program τ V → Prop
  | .commit | .raise => True
  | .select next => ∀ v, P v → (next v).Sound P ended lossy
  | .update name u next =>
    (∀ v, P v → u.cond v → P (u.set v)) ∧
    (∀ v, P v → u.cond v → ended v = false → ended (u.set v) → lossy name v = false →
      (next (some (u.set v))).Notes P) ∧
    (next none).Sound P ended lossy ∧ ∀ v, P v → (next (some v)).Sound P ended lossy
  | .lockRow _ next =>
    (next none).Sound P ended lossy ∧ ∀ v, P v → (next (some v)).Sound P ended lossy
  | .insert next => next.Sound P ended lossy

/-- A row that is ended is noted, and one that is ended only for the transaction that has it
locked is going to be. -/
structure Invariant (P : V → Prop) (ended : V → Bool) (lossy : τ → V → Bool)
    (d : Database τ V ι) : Prop where
  row : P d.row
  locked : ∀ i v, d.lock = some (i, v) → P v
  sound : ∀ i t, d.txns i = some t → t.program.Sound P ended lossy
  noted : ended d.row → d.noted
  noting : ∀ i v, d.lock = some (i, v) → ended v → ended d.row = false →
    ∃ t, d.txns i = some t ∧ (d.noting = some i ∨ t.program.Notes P)

variable {P : V → Prop} {ended : V → Bool} {lossy : τ → V → Bool}

theorem visible_cases (d : Database τ V ι) (i : ι) :
    d.lock = some (i, d.visible i) ∨ d.visible i = d.row ∧ ∀ v, d.lock ≠ some (i, v) := by
  cases hlock : d.lock with
  | none => exact .inr ⟨by rw [Database.visible, hlock], nofun⟩
  | some l =>
    obtain ⟨j, v⟩ := l
    by_cases hj : j = i
    · exact .inl (by rw [Database.visible, hlock, hj]; simp)
    · refine .inr ⟨by rw [Database.visible, hlock]; simp [hj], ?_⟩
      intro w hw
      cases hw
      exact hj rfl

theorem goesOn_cases (ht : (d.goesOn i p m).txns j = some t) :
    j = i ∧ t = ⟨p, m⟩ ∨ j ≠ i ∧ d.txns j = some t := by
  by_cases hj : j = i
  · subst hj
    exact .inl ⟨rfl, Option.some.inj (ht.symm.trans (Function.update_self ..))⟩
  · exact .inr ⟨hj, (Function.update_of_ne hj ..).symm.trans ht⟩

theorem release_cases (ht : (d.release i).txns j = some t) : j ≠ i ∧ d.txns j = some t := by
  by_cases hj : j = i
  · subst hj
    cases (Function.update_self ..).symm.trans ht
  · exact ⟨hj, (Function.update_of_ne hj ..).symm.trans ht⟩

theorem release_lock (hlock : (d.release i).lock = some (j, v)) :
    j ≠ i ∧ d.lock = some (j, v) := by
  obtain ⟨hlock, hj⟩ := Option.filter_eq_some_iff.1 hlock
  exact ⟨by simpa using hj, hlock⟩

theorem Invariant.visible (hinv : Invariant P ended lossy d) (i : ι) : P (d.visible i) := by
  obtain hlock | ⟨heq, _⟩ := visible_cases d i
  · exact hinv.locked i _ hlock
  · rw [heq]
    exact hinv.row

theorem Invariant.sound_goesOn (hinv : Invariant P ended lossy d) (hp : p.Sound P ended lossy)
    (ht : (d.goesOn i p m).txns j = some t) : t.program.Sound P ended lossy := by
  obtain ⟨_, heq⟩ | ⟨_, ht⟩ := goesOn_cases ht
  · subst heq
    exact hp
  · exact hinv.sound j t ht

theorem Invariant.goesOn (hinv : Invariant P ended lossy d) (hp : p.Sound P ended lossy)
    (hnotes : ∀ t, d.txns i = some t → t.program.Notes P → p.Notes P) :
    Invariant P ended lossy (d.goesOn i p m) where
  row := hinv.row
  locked := hinv.locked
  sound _ _ := hinv.sound_goesOn hp
  noted := hinv.noted
  noting j v hlock hover hrow := by
    obtain ⟨t, ht, hnoting⟩ := hinv.noting j v hlock hover hrow
    by_cases hj : j = i
    · subst hj
      exact ⟨_, Function.update_self .., hnoting.imp_right (hnotes t ht)⟩
    · exact ⟨t, (Function.update_of_ne hj ..).trans ht, hnoting⟩

theorem Invariant.next (hinv : Invariant P ended lossy d) (ht : d.txns i = some t)
    (hp : p.Sound P ended lossy) (hnotes : t.program.Notes P → p.Notes P) :
    Invariant P ended lossy (d.goesOn i p m) := by
  apply hinv.goesOn hp
  intro t' ht'
  cases Option.some.inj (ht.symm.trans ht')
  exact hnotes

theorem Invariant.takes (hinv : Invariant P ended lossy d) (hv : P v)
    (hp : p.Sound P ended lossy)
    (hnotes : ended v → ended d.row = false → d.noting = some i ∨ p.Notes P) :
    Invariant P ended lossy ((d.takes i v).goesOn i p m) where
  row := hinv.row
  locked j w hlock := by
    cases hlock
    exact hv
  sound _ _ ht := hinv.sound_goesOn (m := m) hp ht
  noted := hinv.noted
  noting j w hlock hover hrow := by
    cases hlock
    exact ⟨_, Function.update_self .., hnotes hover hrow⟩

theorem Invariant.inserts (hinv : Invariant P ended lossy d) (hp : p.Sound P ended lossy)
    (hfree : d.noting.all fun j => j = i) :
    Invariant P ended lossy ({ d with noting := some i }.goesOn i p m) where
  row := hinv.row
  locked := hinv.locked
  sound _ _ ht := hinv.sound_goesOn (m := m) hp ht
  noted := hinv.noted
  noting j v hlock hover hrow := by
    by_cases hj : j = i
    · subst hj
      exact ⟨_, Function.update_self .., .inl rfl⟩
    · obtain ⟨t, ht, hnoting | hnotes⟩ := hinv.noting j v hlock hover hrow
      · rw [hnoting] at hfree
        exact absurd (of_decide_eq_true hfree) hj
      · exact ⟨t, (Function.update_of_ne hj ..).trans ht, .inr hnotes⟩

theorem Invariant.release (hinv : Invariant P ended lossy d) :
    Invariant P ended lossy (d.release i) where
  row := hinv.row
  locked j v hlock := hinv.locked j v (release_lock hlock).2
  sound j t ht := hinv.sound j t (release_cases ht).2
  noted := hinv.noted
  noting j v hlock hover hrow := by
    obtain ⟨hj, hlock⟩ := release_lock hlock
    obtain ⟨t, ht, hnoting⟩ := hinv.noting j v hlock hover hrow
    refine ⟨t, (Function.update_of_ne hj ..).trans ht, hnoting.imp_left ?_⟩
    intro hnoting
    exact Option.filter_eq_some_iff.2 ⟨hnoting, by simpa using hj⟩

theorem Invariant.commit (hinv : Invariant P ended lossy d) (ht : d.txns i = some ⟨.commit, m⟩) :
    Invariant P ended lossy (d.commit i) := by
  have hnoted : ended (d.visible i) → d.noted || d.noting = some i := by
    intro hover
    rw [Bool.or_eq_true, decide_eq_true_iff]
    cases hrow : ended d.row with
    | true => exact .inl (hinv.noted hrow)
    | false =>
      obtain hlock | ⟨heq, _⟩ := visible_cases d i
      · obtain ⟨t, ht', hnoting | hnotes⟩ := hinv.noting i _ hlock hover hrow
        · exact .inr hnoting
        · cases Option.some.inj (ht.symm.trans ht')
          exact hnotes.elim
      · rw [heq, hrow] at hover
        cases hover
  have hrelease := hinv.release (i := i)
  refine ⟨hinv.visible i, hrelease.locked, hrelease.sound, hnoted, ?_⟩
  intro j v hlock hover hrow
  obtain hown | ⟨heq, _⟩ := visible_cases d i
  · obtain ⟨hj, hlock⟩ := release_lock hlock
    cases hown.symm.trans hlock
    exact absurd rfl hj
  · exact hrelease.noting j v hlock hover (heq ▸ hrow)

theorem step_invariant (hcode : ∀ p, Code p → p.Sound P ended lossy)
    (hs : Step Code d (i, move) d') (hlossy : ∀ name v, move = .write name v → lossy name v = false)
    (hinv : Invariant P ended lossy d) : Invariant P ended lossy d' := by
  have hv := hinv.visible i
  cases hs with
  | begin hp hi => exact hinv.goesOn (hcode _ hp) (fun t ht => by cases hi.symm.trans ht)
  | select ht => exact hinv.next ht (hinv.sound i _ ht _ hv) (fun hnotes => hnotes _ hv)
  | miss ht =>
    obtain ⟨_, _, hnone, _⟩ := hinv.sound i _ ht
    exact hinv.next ht hnone And.left
  | scan ht => exact hinv.next ht (hinv.sound i _ ht) id
  | @write _ name u next ht havailable hcond =>
    obtain ⟨hkeeps, hnotes, _, hsome⟩ := hinv.sound i _ ht
    have hset := hkeeps _ hv hcond
    apply hinv.takes hset (hsome _ hset)
    intro hover hrow
    cases hold : ended (d.visible i) with
    | false => exact .inr (hnotes _ hv hcond hold hover (hlossy _ _ rfl))
    | true =>
      obtain hlock | ⟨heq, _⟩ := visible_cases d i
      · obtain ⟨t, ht', hnoting⟩ := hinv.noting i _ hlock hold hrow
        cases Option.some.inj (ht.symm.trans ht')
        exact hnoting.imp_right fun hnotes => hnotes.2 _ hset
      · rw [heq, hrow] at hold
        cases hold
  | lost ht =>
    obtain ⟨_, _, hnone, _⟩ := hinv.sound i _ ht
    exact hinv.next ht hnone And.left
  | lock ht havailable hcond =>
    obtain ⟨_, hsome⟩ := hinv.sound i _ ht
    apply hinv.takes hv (hsome _ hv)
    intro hover hrow
    obtain hlock | ⟨heq, _⟩ := visible_cases d i
    · obtain ⟨t, ht', hnoting⟩ := hinv.noting i _ hlock hover hrow
      cases Option.some.inj (ht.symm.trans ht')
      exact hnoting.imp_right fun hnotes => hnotes.2 _ hv
    · rw [heq, hrow] at hover
      cases hover
  | skip ht =>
    obtain ⟨hnone, _⟩ := hinv.sound i _ ht
    exact hinv.next ht hnone And.left
  | insert ht hfree => exact hinv.inserts (hinv.sound i _ ht) hfree
  | commit ht => exact hinv.commit ht
  | rollback => exact hinv.release

/-- The database before any transaction. -/
def Database.fresh (row : V) (noted : Bool) : Database τ V ι :=
    ⟨row, none, noted, none, fun _ => none⟩

/-- A run without lossy updates notes every row that is ended. -/
theorem run_noted {start : V → Prop} (hcode : ∀ p, Code p → p.Sound P ended lossy)
    (hstart : ∀ v, start v → P v ∧ ended v = false)
    (hrun : Run (fun d => ∃ v, start v ∧ d = .fresh v false) (Step Code) h d)
    (hlossy : ∀ e ∈ h, ∀ name v, e.2 = .write name v → lossy name v = false)
    (hover : ended d.row) : d.noted := by
  have hinv : Invariant P ended lossy d := by
    clear hover
    induction hrun with
    | start hinit =>
      obtain ⟨v, hv, heq⟩ := hinit
      obtain ⟨hP, hlive⟩ := hstart v hv
      subst heq
      refine ⟨hP, nofun, nofun, ?_, nofun⟩
      intro hover
      cases hlive.symm.trans hover
    | next _ hs ih =>
      apply step_invariant hcode hs (hlossy _ List.mem_cons_self)
      exact ih fun e he => hlossy e (List.mem_cons_of_mem _ he)
  exact hinv.noted hover

end

end ReadCommitted
