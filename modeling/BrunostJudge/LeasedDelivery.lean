import BrunostJudge.Transition

namespace LeasedDelivery
open Transition
set_option autoImplicit true

/-- Something to deliver. It is due from some time on, and a deliverer may hold it under a lease
that runs out by itself. -/
structure Entry (ω : Type u) (τ : Type v) where
  holder : Option (ω × τ)
  delivered : Bool
  due : τ

/-- An entry nobody has claimed yet. -/
structure Entry.Fresh (e : Entry ω τ) : Prop where
  holder : e.holder = none
  delivered : e.delivered = false

/-- What a deliverer or an operator does to an entry. -/
inductive Act (ω : Type u) (τ : Type v) where
  | claim (owner : ω) (now expires : τ)
  | acknowledge (owner : ω) (now : τ)
  | fail (owner : ω) (now : τ)
  | replay (now : τ)

def Act.now : Act ω τ → τ
  | .claim _ now _ | .acknowledge _ now | .fail _ now | .replay now => now

/-- Everything but a claim ends the lease there is. -/
def Act.releases : Act ω τ → Bool
  | .claim _ _ _ => false
  | _ => true

/-- The moves of an entry. A failed delivery is due again at some time up to `latest now`. -/
inductive Step {ω : Type u} {τ : Type v} [LE τ] (latest : τ → τ) :
    Entry ω τ → Act ω τ → Entry ω τ → Prop
  | claim : e.delivered = false → e.due ≤ now → (∀ w' l', e.holder = some (w', l') → l' ≤ now) →
      Step latest e (.claim w now l) { e with holder := some (w, l) }
  | acknowledge : e.holder = some (w, l) → e.delivered = false →
      Step latest e (.acknowledge w now) { e with holder := none, delivered := true }
  | fail : e.holder = some (w, l) → due ≤ latest now →
      Step latest e (.fail w now) { e with holder := none, due := due }
  | replay : Step latest e (.replay now) ⟨none, false, now⟩

/-- The lease that the last act leaves. -/
def holder : List (Act ω τ) → Option (ω × τ)
  | .claim w _ l :: _ => some (w, l)
  | _ => none

theorem head_of_holder {acts : List (Act ω τ)} (h : holder acts = some (w, l)) :
    ∃ now, acts.head? = some (.claim w now l) := by
  cases acts with
  | nil => cases h
  | cons a acts =>
    cases a with
    | claim =>
      cases h
      exact ⟨_, rfl⟩
    | acknowledge => cases h
    | fail => cases h
    | replay => cases h

section
variable {ω : Type u} {τ : Type v} [Preorder τ] {latest : τ → τ} {e e' : Entry ω τ} {a : Act ω τ}
  {acts acts' : List (Act ω τ)} {w w' : ω} {now now' l l' : τ}

theorem run_holder (h : Run Entry.Fresh (Step latest) acts e) : e.holder = holder acts := by
  cases h with
  | start hfresh => exact hfresh.holder
  | next _ hs =>
    cases hs with
    | claim => rfl
    | acknowledge => rfl
    | fail => rfl
    | replay => rfl

theorem Step.reopens (h : Step latest e a e') (hdelivered : e.delivered = true)
    (hopen : e'.delivered = false) : ∃ now, a = .replay now := by
  cases h with
  | claim =>
    rw [hdelivered] at hopen
    cases hopen
  | acknowledge => cases hopen
  | fail =>
    rw [hdelivered] at hopen
    cases hopen
  | replay => exact ⟨_, rfl⟩

/-- Of two claims without a release between them, the later one comes after the lease of the
earlier one has run out. -/
theorem claims_apart (h : Run Entry.Fresh (Step latest)
      (.claim w' now' l' :: acts' ++ .claim w now l :: acts) e)
    (hclaims : ∀ a ∈ acts', a.releases = false)
    (hclock : (.claim w' now' l' :: acts' ++ .claim w now l :: acts).Pairwise
      fun later earlier => earlier.now ≤ later.now) : l ≤ now' := by
  induction acts' generalizing w' now' l' e with
  | nil =>
    cases h with
    | next hrun hs =>
      have hheld := run_holder hrun
      cases hs with
      | claim _ _ hexpired => exact hexpired w l hheld
  | cons a acts' ih =>
    have hclaim := hclaims a List.mem_cons_self
    cases h with
    | next hrun hs =>
      obtain ⟨hlater, hclock⟩ := List.pairwise_cons.1 hclock
      cases a with
      | claim w'' now'' l'' =>
        have hexpired := ih hrun (fun a ha => hclaims a (List.mem_cons_of_mem _ ha)) hclock
        have hle : now'' ≤ now' := hlater _ List.mem_cons_self
        exact hexpired.trans hle
      | acknowledge => cases hclaim
      | fail => cases hclaim
      | replay => cases hclaim

end

end LeasedDelivery
