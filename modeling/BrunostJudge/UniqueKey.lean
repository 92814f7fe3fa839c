import BrunostJudge.Transition
import Mathlib.Logic.Function.Basic

namespace UniqueKey
open Transition
set_option autoImplicit true

/-- What a transaction still has to do. An insert goes on with whether it took the key, and an
answer is given once it is committed. -/
inductive Program (V : Type u) (A : Type v) (E : Type w)
  | insert (v : V) (next : Bool → Program V A E)
  | select (next : Option V → Program V A E)
  | answer (a : A)
  | raise (e : E)

/-- The row as committed, who has the key in hand, and the open transactions with the requests
they serve. -/
structure Database (V : Type u) (A : Type v) (E : Type w) (R : Type x) (ι : Type y) where
  row : Option V
  inserting : Option (ι × V)
  txns : ι → Option (R × Program V A E)

inductive Move (A : Type v) (E : Type w) (R : Type x)
  | begin (r : R)
  | insert
  | conflict
  | select
  | answer (r : R) (a : A)
  | raise (r : R) (e : E)
  | rollback

section
variable {V : Type u} {A : Type v} {E : Type w} {R : Type x} {ι : Type y} [DecidableEq ι]

namespace Database

/-- The row that a statement of a transaction sees. -/
def visible (d : Database V A E R ι) (i : ι) : Option V :=
  match d.inserting with
  | some (j, v) => if j = i then some v else d.row
  | none => d.row

def goesOn (d : Database V A E R ι) (i : ι) (r : R) (p : Program V A E) : Database V A E R ι :=
  { d with txns := Function.update d.txns i (some (r, p)) }

def release (d : Database V A E R ι) (i : ι) : Database V A E R ι :=
  { d with
    inserting := d.inserting.filter fun l => l.1 ≠ i
    txns := Function.update d.txns i none }

def commit (d : Database V A E R ι) (i : ι) : Database V A E R ι :=
  { d.release i with row := d.visible i }

end Database

/-- The statements of the open transactions, in any order. A transaction that is cut off, or whose
statement fails, is rolled back. -/
inductive Step (code : R → Program V A E → Prop) (d : Database V A E R ι) :
    ι × Move A E R → Database V A E R ι → Prop
  | begin : code r p → d.txns i = none → Step code d (i, .begin r) (d.goesOn i r p)
  | insert : d.txns i = some (r, .insert v next) → d.inserting = none → d.row = none →
      Step code d (i, .insert) ({ d with inserting := some (i, v) }.goesOn i r (next true))
  | conflict : d.txns i = some (r, .insert v next) →
      d.inserting.all (fun l => l.1 = i) → (d.visible i).isSome →
      Step code d (i, .conflict) (d.goesOn i r (next false))
  | select : d.txns i = some (r, .select next) →
      Step code d (i, .select) (d.goesOn i r (next (d.visible i)))
  | answer : d.txns i = some (r, .answer a) → Step code d (i, .answer r a) (d.commit i)
  | raise : d.txns i = some (r, .raise e) → Step code d (i, .raise r e) (d.release i)
  | rollback : d.txns i = some t → Step code d (i, .rollback) (d.release i)

/-- No row, and no transaction. -/
def Initial (d : Database V A E R ι) : Prop :=
  d.row = none ∧ d.inserting = none ∧ ∀ i, d.txns i = none

/-- The row that a request may insert, and what it may answer and raise in view of a row. -/
structure Contract (V : Type u) (A : Type v) (E : Type w) where
  inserts : V → Prop
  answers : V → A → Prop
  raises : V → E → Prop

/-- What a transaction can know of the row under the key. -/
inductive Seen (V : Type u)
  | nothing
  | own (v : V)
  | stored (v : V)

/-- Whatever a transaction comes to know, it keeps to the contract. -/
def Program.Meets (c : Contract V A E) : Seen V → Program V A E → Prop
  | .nothing, .insert v next =>
    c.inserts v ∧ (next true).Meets c (.own v) ∧ ∀ w, (next false).Meets c (.stored w)
  | .own v, .insert _ next => (next false).Meets c (.own v)
  | .stored w, .insert _ next => (next false).Meets c (.stored w)
  | .nothing, .select next =>
    (next none).Meets c .nothing ∧ ∀ w, (next (some w)).Meets c (.stored w)
  | .own v, .select next => (next (some v)).Meets c (.own v)
  | .stored w, .select next => (next (some w)).Meets c (.stored w)
  | .nothing, .answer _ => False
  | .own v, .answer a => c.answers v a
  | .stored w, .answer a => c.answers w a
  | .stored w, .raise e => c.raises w e
  | .nothing, .raise _ | .own _, .raise _ => False

/-- What a transaction knows is so. -/
def Database.Holds (d : Database V A E R ι) (i : ι) : Seen V → Prop
  | .nothing => ∀ v, d.inserting ≠ some (i, v)
  | .own v => d.inserting = some (i, v)
  | .stored w => d.row = some w

/-- The committed row stands behind all that was answered and raised, and one of the answered
requests has put it there. -/
structure Settled (contract : R → Contract V A E) (h : List (ι × Move A E R))
    (row : Option V) : Prop where
  answered : ∀ i r a, (i, .answer r a) ∈ h → ∃ w, row = some w ∧ (contract r).answers w a
  raised : ∀ i r e, (i, .raise r e) ∈ h → ∃ w, row = some w ∧ (contract r).raises w e
  origin : ∀ w, row = some w → ∃ i r a, (i, .answer r a) ∈ h ∧ (contract r).inserts w ∧
    (contract r).answers w a

/-- An open transaction keeps to its contract, and only while there is no row does one have the
key in hand. -/
structure Sound (contract : R → Contract V A E) (d : Database V A E R ι) : Prop where
  meets : ∀ i r p, d.txns i = some (r, p) → ∃ s, d.Holds i s ∧ p.Meets (contract r) s
  inserts : ∀ i v, d.inserting = some (i, v) → d.row = none ∧
    ∃ r p, d.txns i = some (r, p) ∧ (contract r).inserts v

variable {code : R → Program V A E → Prop} {contract : R → Contract V A E}
  {d d' : Database V A E R ι} {h : List (ι × Move A E R)} {m : ι × Move A E R} {i j : ι}

theorem visible_own (h : d.inserting = some (i, v)) : d.visible i = some v := by
  rw [Database.visible, h]
  exact if_pos rfl

theorem visible_row (h : ∀ v, d.inserting ≠ some (i, v)) : d.visible i = d.row := by
  rw [Database.visible]
  split
  · next j v hinserting =>
    apply if_neg
    intro hji
    exact h v (hji ▸ hinserting)
  · rfl

theorem goesOn_self : (d.goesOn i r p).txns i = some (r, p) := Function.update_self ..

theorem goesOn_other (hij : j ≠ i) : (d.goesOn i r p).txns j = d.txns j :=
  Function.update_of_ne hij ..

theorem release_self : (d.release i).txns i = none := Function.update_self ..

theorem release_other (hij : j ≠ i) : (d.release i).txns j = d.txns j :=
  Function.update_of_ne hij ..

theorem Database.Holds.goesOn (hs : d.Holds j s) : (d.goesOn i r p).Holds j s := by
  cases s with
  | nothing => exact hs
  | own v => exact hs
  | stored w => exact hs

theorem filter_other (hij : j ≠ i) :
    (d.inserting.filter fun l => l.1 ≠ i) = some (j, v) ↔ d.inserting = some (j, v) := by
  rw [Option.filter_eq_some_iff]
  exact ⟨And.left, fun h => ⟨h, by simpa using hij⟩⟩

theorem filter_own : (d.inserting.filter fun l => l.1 ≠ i) ≠ some (i, v) := by
  intro h
  rw [Option.filter_eq_some_iff] at h
  simp at h

theorem Database.Holds.release (hij : j ≠ i) (hs : d.Holds j s) : (d.release i).Holds j s := by
  cases s with
  | nothing => exact fun v hv => hs v ((filter_other hij).1 hv)
  | own v => exact (filter_other hij).2 hs
  | stored w => exact hs

theorem Sound.release (hsound : Sound contract d) (i : ι) : Sound contract (d.release i) := by
  constructor
  · intro j r p htxn
    have hij : j ≠ i := by
      rintro rfl
      rw [release_self] at htxn
      cases htxn
    rw [release_other hij] at htxn
    obtain ⟨s, hs, hmeets⟩ := hsound.meets j r p htxn
    exact ⟨s, hs.release hij, hmeets⟩
  · intro j v hv
    have hij : j ≠ i := by
      rintro rfl
      exact filter_own hv
    obtain ⟨hrow, r, p, htxn, hinserts⟩ := hsound.inserts j v ((filter_other hij).1 hv)
    exact ⟨hrow, r, p, (release_other hij).trans htxn, hinserts⟩

omit [DecidableEq ι] in
theorem Sound.inserted (hsound : Sound contract d) (htxn : d.txns i = some (r, p))
    (v : V) (hv : d.inserting = some (i, v)) : (contract r).inserts v := by
  obtain ⟨_, r', p', htxn', hinserts⟩ := hsound.inserts i v hv
  cases htxn.symm.trans htxn'
  exact hinserts

theorem Sound.goesOn (hsound : Sound contract d)
    (hinserted : ∀ v, d.inserting = some (i, v) → (contract r).inserts v)
    (hs : d.Holds i s) (hmeets : p.Meets (contract r) s) : Sound contract (d.goesOn i r p) := by
  constructor
  · intro j r' p' htxn'
    by_cases hij : j = i
    · subst hij
      rw [goesOn_self] at htxn'
      cases htxn'
      exact ⟨s, hs.goesOn, hmeets⟩
    · rw [goesOn_other hij] at htxn'
      obtain ⟨s', hs', hmeets'⟩ := hsound.meets j r' p' htxn'
      exact ⟨s', hs'.goesOn, hmeets'⟩
  · intro j v hv
    obtain ⟨hrow, r', p', htxn', _⟩ := hsound.inserts j v hv
    refine ⟨hrow, ?_⟩
    by_cases hij : j = i
    · subst hij
      exact ⟨r, p, goesOn_self, hinserted v hv⟩
    · exact ⟨r', p', (goesOn_other hij).trans htxn', hsound.inserted htxn' v hv⟩

omit [DecidableEq ι] in
theorem Sound.free (hsound : Sound contract d) (hrow : d.row = some w) : d.inserting = none := by
  cases hv : d.inserting with
  | none => rfl
  | some l => exact absurd ((hsound.inserts l.1 l.2 hv).1.symm.trans hrow) (nomatch ·)

theorem Sound.insert (hsound : Sound contract d) (hfree : d.inserting = none)
    (hrow : d.row = none) (hinserts : (contract r).inserts v)
    (hmeets : p.Meets (contract r) (.own v)) :
    Sound contract ({ d with inserting := some (i, v) }.goesOn i r p) := by
  constructor
  · intro j r' p' htxn'
    by_cases hij : j = i
    · subst hij
      rw [goesOn_self] at htxn'
      cases htxn'
      exact ⟨.own v, rfl, hmeets⟩
    · rw [goesOn_other hij] at htxn'
      obtain ⟨s', hs', hmeets'⟩ := hsound.meets j r' p' htxn'
      refine ⟨s', ?_, hmeets'⟩
      cases s' with
      | nothing =>
        rintro u ⟨⟩
        exact hij rfl
      | own u => exact absurd (hfree.symm.trans hs') (nomatch ·)
      | stored w => exact absurd (hrow.symm.trans hs') (nomatch ·)
  · rintro j u ⟨⟩
    exact ⟨hrow, r, p, goesOn_self, hinserts⟩

theorem Sound.visible_stored (hsound : Sound contract d) (hrow : d.row = some w) (i : ι) :
    d.visible i = some w := by
  have hfree := hsound.free hrow
  exact (visible_row fun v hv => nomatch hfree.symm.trans hv).trans hrow

theorem commit_of_visible (h : d.visible i = d.row) : d.commit i = d.release i := by
  rw [Database.commit, h]
  rfl

theorem Sound.commit (hsound : Sound contract d) (hown : d.inserting = some (i, v)) :
    Sound contract (d.commit i) := by
  have hrow : (d.commit i).row = some v := visible_own hown
  have hrest := hsound.release i
  constructor
  · intro j r p htxn
    obtain ⟨s, hs, hmeets⟩ := hrest.meets j r p htxn
    refine ⟨s, ?_, hmeets⟩
    cases s with
    | nothing => exact hs
    | own u => exact hs
    | stored w => exact absurd ((hsound.inserts i v hown).1.symm.trans hs) (nomatch ·)
  · intro j u hu
    have hij : j ≠ i := by
      rintro rfl
      exact filter_own hu
    cases hown.symm.trans ((filter_other hij).1 hu)
    exact absurd rfl hij

theorem Sound.next (hcode : ∀ r p, code r p → p.Meets (contract r) .nothing)
    (hsound : Sound contract d) (hs : Step code d m d') : Sound contract d' := by
  cases hs with
  | @begin r p i hp htxn =>
    have hnone : ∀ v, d.inserting ≠ some (i, v) := by
      intro v hv
      obtain ⟨_, _, _, htxn', _⟩ := hsound.inserts _ v hv
      cases htxn.symm.trans htxn'
    exact hsound.goesOn (fun v hv => absurd hv (hnone v)) (s := .nothing) hnone (hcode _ _ hp)
  | insert htxn hfree hrow =>
    obtain ⟨s, hs, hmeets⟩ := hsound.meets _ _ _ htxn
    cases s with
    | nothing => exact hsound.insert hfree hrow hmeets.1 hmeets.2.1
    | own v => exact absurd (hfree.symm.trans hs) (nomatch ·)
    | stored w => exact absurd (hrow.symm.trans hs) (nomatch ·)
  | conflict htxn _ hvisible =>
    obtain ⟨s, hs, hmeets⟩ := hsound.meets _ _ _ htxn
    cases s with
    | nothing =>
      rw [visible_row hs] at hvisible
      obtain ⟨w, hrow⟩ := Option.isSome_iff_exists.1 hvisible
      exact hsound.goesOn (hsound.inserted htxn) (s := .stored w) hrow (hmeets.2.2 w)
    | own v => exact hsound.goesOn (hsound.inserted htxn) hs hmeets
    | stored w => exact hsound.goesOn (hsound.inserted htxn) hs hmeets
  | select htxn =>
    obtain ⟨s, hs, hmeets⟩ := hsound.meets _ _ _ htxn
    cases s with
    | nothing =>
      rw [visible_row hs]
      cases hrow : d.row with
      | none => exact hsound.goesOn (hsound.inserted htxn) (s := .nothing) hs hmeets.1
      | some w => exact hsound.goesOn (hsound.inserted htxn) (s := .stored w) hrow (hmeets.2 w)
    | own v =>
      rw [visible_own hs]
      exact hsound.goesOn (hsound.inserted htxn) hs hmeets
    | stored w =>
      rw [hsound.visible_stored hs]
      exact hsound.goesOn (hsound.inserted htxn) hs hmeets
  | answer htxn =>
    obtain ⟨s, hs, hmeets⟩ := hsound.meets _ _ _ htxn
    cases s with
    | nothing => exact hmeets.elim
    | own v => exact hsound.commit hs
    | stored w =>
      rw [commit_of_visible ((hsound.visible_stored hs _).trans hs.symm)]
      exact hsound.release _
  | raise htxn => exact hsound.release _
  | rollback htxn => exact hsound.release _

omit [DecidableEq ι] in
theorem Settled.next {row row' : Option V} (hsettled : Settled contract h row)
    (hkept : ∀ w, row = some w → row' = some w)
    (hanswer : ∀ r a, m.2 = .answer r a → ∃ w, row' = some w ∧ (contract r).answers w a)
    (hraise : ∀ r e, m.2 = .raise r e → ∃ w, row' = some w ∧ (contract r).raises w e)
    (horigin : ∀ w, row' = some w → row = some w ∨
      ∃ r a, m.2 = .answer r a ∧ (contract r).inserts w ∧ (contract r).answers w a) :
    Settled contract (m :: h) row' := by
  constructor
  · intro i r a hmem
    rcases List.mem_cons.1 hmem with rfl | hmem
    · exact hanswer r a rfl
    · obtain ⟨w, hrow, hw⟩ := hsettled.answered i r a hmem
      exact ⟨w, hkept w hrow, hw⟩
  · intro i r e hmem
    rcases List.mem_cons.1 hmem with rfl | hmem
    · exact hraise r e rfl
    · obtain ⟨w, hrow, hw⟩ := hsettled.raised i r e hmem
      exact ⟨w, hkept w hrow, hw⟩
  · intro w hrow
    rcases horigin w hrow with hrow | ⟨r, a, hm, hw⟩
    · obtain ⟨i, r, a, hmem, hw⟩ := hsettled.origin w hrow
      exact ⟨i, r, a, List.mem_cons_of_mem _ hmem, hw⟩
    · exact ⟨m.1, r, a, List.mem_cons.2 (.inl (Prod.ext rfl hm.symm)), hw⟩

omit [DecidableEq ι] in
theorem Settled.silent {row : Option V} (hsettled : Settled contract h row)
    (hanswer : ∀ r a, m.2 ≠ .answer r a) (hraise : ∀ r e, m.2 ≠ .raise r e) :
    Settled contract (m :: h) row :=
  hsettled.next (fun _ hw => hw) (fun r a hm => absurd hm (hanswer r a))
    (fun r e hm => absurd hm (hraise r e)) fun _ hw => .inl hw

theorem Settled.step (hsound : Sound contract d) (hsettled : Settled contract h d.row)
    (hs : Step code d m d') : Settled contract (m :: h) d'.row := by
  cases hs with
  | begin => exact hsettled.silent (fun _ _ h => nomatch h) fun _ _ h => nomatch h
  | insert => exact hsettled.silent (fun _ _ h => nomatch h) fun _ _ h => nomatch h
  | conflict => exact hsettled.silent (fun _ _ h => nomatch h) fun _ _ h => nomatch h
  | select => exact hsettled.silent (fun _ _ h => nomatch h) fun _ _ h => nomatch h
  | rollback => exact hsettled.silent (fun _ _ h => nomatch h) fun _ _ h => nomatch h
  | @raise i r e htxn =>
    obtain ⟨s, hs, hmeets⟩ := hsound.meets _ _ _ htxn
    cases s with
    | nothing => exact hmeets.elim
    | own v => exact hmeets.elim
    | stored w =>
      apply hsettled.next (fun _ hw => hw)
      · exact fun _ _ hm => nomatch hm
      · rintro r' e' ⟨⟩
        exact ⟨w, hs, hmeets⟩
      · exact fun _ hw => .inl hw
  | @answer i r a htxn =>
    obtain ⟨s, hs, hmeets⟩ := hsound.meets _ _ _ htxn
    cases s with
    | nothing => exact hmeets.elim
    | own v =>
      have hrow : (d.commit i).row = some v := visible_own hs
      apply hsettled.next
      · intro w hw
        exact absurd ((hsound.inserts i v hs).1.symm.trans hw) (nomatch ·)
      · rintro r' a' ⟨⟩
        exact ⟨v, hrow, hmeets⟩
      · exact fun _ _ hm => nomatch hm
      · intro w hw
        cases hrow.symm.trans hw
        exact .inr ⟨r, a, rfl, hsound.inserted htxn v hs, hmeets⟩
    | stored w =>
      have hrow : (d.commit i).row = d.row := (hsound.visible_stored hs i).trans hs.symm
      rw [hrow]
      apply hsettled.next (fun _ hw => hw)
      · rintro r' a' ⟨⟩
        exact ⟨w, hs, hmeets⟩
      · exact fun _ _ hm => nomatch hm
      · exact fun _ hw => .inl hw

/-- Whatever the order of the statements, what was answered and raised stands: there is one row,
and it stays. -/
theorem run_settled (hcode : ∀ r p, code r p → p.Meets (contract r) .nothing)
    (hrun : Run Initial (Step code) h d) : Sound contract d ∧ Settled contract h d.row := by
  apply hrun.invariant (I := fun h d => Sound contract d ∧ Settled contract h d.row)
  · rintro d ⟨hrow, hinserting, htxns⟩
    refine ⟨⟨fun i r p htxn => ?_, fun i v hv => ?_⟩, ⟨fun _ _ _ hmem => ?_, fun _ _ _ hmem => ?_,
      fun w hw => ?_⟩⟩
    · exact absurd ((htxns i).symm.trans htxn) (nomatch ·)
    · exact absurd (hinserting.symm.trans hv) (nomatch ·)
    · cases hmem
    · cases hmem
    · exact absurd (hrow.symm.trans hw) (nomatch ·)
  · rintro h d m d' - ⟨hsound, hsettled⟩ hs
    exact ⟨hsound.next hcode hs, hsettled.step hsound hs⟩

end

end UniqueKey
