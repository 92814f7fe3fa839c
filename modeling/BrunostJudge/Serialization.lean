import BrunostJudge.ReadCommitted

namespace ReadCommitted
open Transition
set_option autoImplicit true

section
variable {τ : Type w} {V : Type u} {ι : Type v} [DecidableEq ι]

/-- The updates of an open transaction after one more move of its own, newest first. -/
def Move.extend (own : List τ) : Move τ V → List τ
  | .write name _ => name :: own
  | .begin | .commit | .rollback => []
  | _ => own

def pending (i : ι) : List (ι × Move τ V) → List τ
  | [] => []
  | (j, move) :: h => if j = i then move.extend (pending i h) else pending i h

/-- The updates of the transactions that were committed. -/
def committed : List (ι × Move τ V) → List τ
  | [] => []
  | (i, .commit) :: h => pending i h ++ committed h
  | _ :: h => committed h

/-- Every update moves the row along `R`: a row that the transaction has locked from the version
it has, and else from any version. -/
def Program.Moves (R : V → τ → V → Prop) : Program τ V → Option V → Prop
  | .commit, _ | .raise, _ => True
  | .select next, held => ∀ v, (∀ own ∈ held, v = own) → (next v).Moves R held
  | .update name u next, held =>
    (∀ v, (∀ own ∈ held, v = own) → u.cond v →
      R v name (u.set v) ∧ (next (some (u.set v))).Moves R (some (u.set v))) ∧
    (next none).Moves R held
  | .lockRow want next, held =>
    (∀ v, (∀ own ∈ held, v = own) → want v → (next (some v)).Moves R (some v)) ∧
    (next none).Moves R held
  | .insert next, held => next.Moves R held

namespace Database

/-- The version of the row that a transaction has locked. -/
def held (d : Database τ V ι) (i : ι) : Option V :=
  match d.lock with
  | some (j, v) => if j = i then some v else none
  | none => none

theorem held_iff {d : Database τ V ι} : d.held i = some v ↔ d.lock = some (i, v) := by
  rw [held]
  cases hlock : d.lock with
  | none => exact iff_of_false (fun h => nomatch h) (fun h => nomatch h)
  | some l =>
    obtain ⟨j, own⟩ := l
    by_cases hj : j = i
    · dsimp only
      rw [hj, if_pos rfl, Option.some.injEq, Option.some.injEq, Prod.mk.injEq]
      exact ⟨fun h => ⟨rfl, h⟩, And.right⟩
    · dsimp only
      rw [if_neg hj]
      apply iff_of_false
      · intro h
        cases h
      · intro h
        cases h
        exact hj rfl

theorem held_visible {d : Database τ V ι} : ∀ own ∈ d.held i, d.visible i = own := by
  intro own hown
  rw [visible, held_iff.1 hown]
  exact if_pos rfl

theorem held_none {d : Database τ V ι} (h : d.held i = none) : d.visible i = d.row := by
  obtain hlock | ⟨heq, _⟩ := visible_cases d i
  · rw [held_iff.2 hlock] at h
    cases h
  · exact heq

theorem held_other {d : Database τ V ι} (h : d.available i) (hj : j ≠ i) : d.held j = none := by
  cases hheld : d.held j with
  | none => rfl
  | some v =>
    rw [available, held_iff.1 hheld] at h
    exact absurd (of_decide_eq_true h) hj

end Database

variable {Code : Program τ V → Prop} {R : V → τ → V → Prop} {d d' : Database τ V ι}
  {h : List (ι × Move τ V)} {move : Move τ V} {p : Program τ V} {v : V} {i j : ι}

theorem pending_other (hj : i ≠ j) : pending j ((i, move) :: h) = pending j h := by
  rw [pending, if_neg hj]

theorem pending_self : pending i ((i, move) :: h) = move.extend (pending i h) := by
  rw [pending, if_pos rfl]

/-- The open transactions, and what the one that has the row locked made of it. -/
structure Serial (R : V → τ → V → Prop) (start : V) (h : List (ι × Move τ V))
    (d : Database τ V ι) : Prop where
  moves : ∀ i t, d.txns i = some t → t.program.Moves R (d.held i)
  row : Path R start (committed h) d.row
  held : ∀ i, Path R d.row (pending i h) (d.visible i)
  idle : ∀ i, d.held i = none → pending i h = []
  closed : ∀ i, d.txns i = none → d.held i = none

variable {start : V}

theorem Serial.goesOn (hserial : Serial R start h d) (hp : p.Moves R (d.held i))
    (hcommitted : committed ((i, move) :: h) = committed h)
    (hpending : pending i ((i, move) :: h) = pending i h) :
    Serial R start ((i, move) :: h) (d.goesOn i p m) where
  moves j t ht := by
    obtain ⟨hj, heq⟩ | ⟨_, ht⟩ := goesOn_cases ht
    · rw [hj, heq]
      exact hp
    · exact hserial.moves j t ht
  row := by
    rw [hcommitted]
    exact hserial.row
  held j := by
    by_cases hj : i = j
    · rw [← hj, hpending]
      exact hserial.held i
    · rw [pending_other hj]
      exact hserial.held j
  idle j hidle := by
    by_cases hj : i = j
    · rw [← hj, hpending]
      rw [← hj] at hidle
      exact hserial.idle i hidle
    · rw [pending_other hj]
      exact hserial.idle j hidle
  closed j hj := by
    by_cases hne : j = i
    · rw [hne] at hj
      cases (Function.update_self ..).symm.trans hj
    · exact hserial.closed j ((Function.update_of_ne hne ..).symm.trans hj)

theorem held_takes (d : Database τ V ι) (i : ι) (v : V) (p : Program τ V) (m : Bool) :
    ((d.takes i v).goesOn i p m).held i = some v := Database.held_iff.2 rfl

theorem visible_takes (d : Database τ V ι) (i : ι) (v : V) (p : Program τ V) (m : Bool) :
    ((d.takes i v).goesOn i p m).visible i = v := Database.held_visible v (held_takes d i v p m)

theorem Serial.takes (hserial : Serial R start h d) (havailable : d.available i)
    (hp : p.Moves R (some v))
    (hcommitted : committed ((i, move) :: h) = committed h)
    (hpath : Path R d.row (pending i ((i, move) :: h)) v) :
    Serial R start ((i, move) :: h) ((d.takes i v).goesOn i p m) where
  moves j t ht := by
    obtain ⟨hj, heq⟩ | ⟨hj, ht⟩ := goesOn_cases ht
    · rw [hj, heq, held_takes]
      exact hp
    · have hheld : ((d.takes i v).goesOn i p m).held j = d.held j := by
        rw [Database.held_other havailable hj]
        exact if_neg (Ne.symm hj)
      rw [hheld]
      exact hserial.moves j t ht
  row := by
    rw [hcommitted]
    exact hserial.row
  held j := by
    by_cases hj : i = j
    · rw [← hj, visible_takes]
      exact hpath
    · have hidle := Database.held_other havailable (Ne.symm hj)
      have hvisible : ((d.takes i v).goesOn i p m).visible j = d.visible j := by
        rw [Database.held_none hidle]
        exact if_neg hj
      rw [pending_other hj, hvisible]
      exact hserial.held j
  idle j hidle := by
    by_cases hj : i = j
    · rw [← hj, held_takes] at hidle
      cases hidle
    · rw [pending_other hj]
      exact hserial.idle j (Database.held_other havailable (Ne.symm hj))
  closed j hj := by
    by_cases hne : j = i
    · rw [hne] at hj
      cases (Function.update_self ..).symm.trans hj
    · have hheld : ((d.takes i v).goesOn i p m).held j = none := if_neg (Ne.symm hne)
      exact hheld

theorem held_release (hj : i ≠ j) : (d.release i).held j = d.held j := by
  cases hheld : d.held j with
  | some v =>
    apply Database.held_iff.2
    apply Option.filter_eq_some_iff.2
    exact ⟨Database.held_iff.1 hheld, decide_eq_true (Ne.symm hj)⟩
  | none =>
    cases hheld' : (d.release i).held j with
    | none => rfl
    | some v =>
      have hlock := (release_lock (Database.held_iff.1 hheld')).2
      rw [Database.held_iff.2 hlock] at hheld
      cases hheld

theorem held_release_self : (d.release i).held i = none := by
  cases hheld : (d.release i).held i with
  | none => rfl
  | some v => exact absurd rfl (release_lock (Database.held_iff.1 hheld)).1

theorem visible_eq (d : Database τ V ι) (i : ι) : d.visible i = (d.held i).getD d.row := by
  cases hheld : d.held i with
  | none => exact Database.held_none hheld
  | some v => exact Database.held_visible v hheld

theorem Serial.release (hserial : Serial R start h d) {row : V} {noted : Bool}
    (hends : pending i ((i, move) :: h) = [])
    (hrow : Path R start (committed ((i, move) :: h)) row)
    (hsame : ∀ j, i ≠ j → row = d.row ∨ d.held j = none) :
    Serial R start ((i, move) :: h) { d.release i with row := row, noted := noted } where
  moves j t ht := by
    obtain ⟨hj, ht⟩ := release_cases ht
    have hmoves := hserial.moves j t ht
    rw [← held_release (Ne.symm hj)] at hmoves
    exact hmoves
  row := hrow
  held j := by
    rw [visible_eq]
    by_cases hj : i = j
    · rw [← hj, hends]
      have hheld : Database.held { d.release i with row := row, noted := noted } i = none :=
        held_release_self
      rw [hheld]
      exact .refl
    · have hheld : Database.held { d.release i with row := row, noted := noted } j = d.held j :=
        held_release hj
      rw [hheld, pending_other hj]
      rcases hsame j hj with heq | hidle
      · dsimp only
        rw [heq, ← visible_eq]
        exact hserial.held j
      · rw [hidle, hserial.idle j hidle]
        exact .refl
  idle j hidle := by
    by_cases hj : i = j
    · rw [← hj]
      exact hends
    · rw [pending_other hj]
      have hheld : Database.held { d.release i with row := row, noted := noted } j = d.held j :=
        held_release hj
      rw [hheld] at hidle
      exact hserial.idle j hidle
  closed j hj := by
    by_cases hne : i = j
    · rw [← hne]
      exact held_release_self
    · have hheld : Database.held { d.release i with row := row, noted := noted } j = d.held j :=
        held_release hne
      rw [hheld]
      exact hserial.closed j ((Function.update_of_ne (Ne.symm hne) ..).symm.trans hj)

theorem held_unique (hheld : d.held i = some v) (hj : i ≠ j) : d.held j = none := by
  cases hother : d.held j with
  | none => rfl
  | some own =>
    have hlock := (Database.held_iff.1 hheld).symm.trans (Database.held_iff.1 hother)
    cases hlock
    exact absurd rfl hj

theorem Serial.step (hcode : ∀ p, Code p → p.Moves R none) (hserial : Serial R start h d)
    (hs : Step Code d (i, move) d') : Serial R start ((i, move) :: h) d' := by
  cases hs with
  | begin hp hi =>
    have hidle := hserial.closed i hi
    apply hserial.goesOn _ rfl
    · rw [hserial.idle i hidle]
      exact pending_self
    · rw [hidle]
      exact hcode _ hp
  | select ht =>
    exact hserial.goesOn (hserial.moves i _ ht _ Database.held_visible) rfl pending_self
  | miss ht => exact hserial.goesOn (hserial.moves i _ ht).2 rfl pending_self
  | scan ht => exact hserial.goesOn (hserial.moves i _ ht) rfl pending_self
  | write ht havailable hcond =>
    obtain ⟨hmove, hp⟩ := (hserial.moves i _ ht).1 _ Database.held_visible hcond
    apply hserial.takes havailable hp rfl
    rw [pending_self]
    exact (hserial.held i).next hmove
  | lost ht => exact hserial.goesOn (hserial.moves i _ ht).2 rfl pending_self
  | lock ht havailable hwant =>
    apply hserial.takes havailable ((hserial.moves i _ ht).1 _ Database.held_visible hwant) rfl
    rw [pending_self]
    exact hserial.held i
  | skip ht => exact hserial.goesOn (hserial.moves i _ ht).2 rfl pending_self
  | @insert _ next _ ht =>
    have hnoting : Serial R start h { d with noting := some i } :=
      ⟨hserial.moves, hserial.row, hserial.held, hserial.idle, hserial.closed⟩
    exact hnoting.goesOn (hserial.moves i _ ht) rfl pending_self
  | commit =>
    have hrow : Path R start (committed ((i, Move.commit) :: h)) (d.visible i) :=
      hserial.row.trans (hserial.held i)
    apply hserial.release pending_self hrow
    intro j hj
    cases hheld : d.held i with
    | none => exact .inl (Database.held_none hheld)
    | some v => exact .inr (held_unique hheld hj)
  | rollback =>
    have hrow : Path R start (committed ((i, Move.rollback) :: h)) d.row := hserial.row
    apply hserial.release pending_self hrow
    intro j hj
    exact .inl rfl

theorem Serial.step_row (hserial : Serial R start h d) (hs : Step Code d (i, move) d') :
    ∃ names, Path R d.row names d'.row := by
  cases hs with
  | commit => exact ⟨_, hserial.held i⟩
  | _ => exact ⟨[], .refl⟩

/-- Every run is that of its committed updates in the order of their commits. -/
theorem run_serial {init : V → Prop} (hcode : ∀ p, Code p → p.Moves R none)
    (hrun : Run (fun d => ∃ v, init v ∧ d = .fresh v false) (Step Code) h d) :
    ∃ start, init start ∧ Serial R start h d := by
  induction hrun with
  | start hinit =>
    obtain ⟨v, hv, heq⟩ := hinit
    rw [heq]
    refine ⟨v, hv, ?_, .refl, fun i => .refl, fun i _ => rfl, fun i _ => rfl⟩
    intro i t ht
    cases ht
  | @next _ _ e _ _ hs ih =>
    obtain ⟨start, hstart, hserial⟩ := ih
    obtain ⟨i, move⟩ := e
    exact ⟨start, hstart, hserial.step hcode hs⟩

theorem path_serial (hcode : ∀ p, Code p → p.Moves R none) (hserial : Serial R start h d)
    {l : List (ι × Move τ V)} (hpath : Path (Step Code) d l d') :
    Serial R start (l ++ h) d' ∧ ∃ names, Path R d.row names d'.row := by
  induction hpath with
  | refl => exact ⟨hserial, [], .refl⟩
  | @next _ _ e _ _ hs ih =>
    obtain ⟨hserial', names, hnames⟩ := ih
    obtain ⟨i, move⟩ := e
    obtain ⟨more, hmore⟩ := hserial'.step_row hs
    exact ⟨hserial'.step hcode hs, more ++ names, hnames.trans hmore⟩

end

end ReadCommitted
