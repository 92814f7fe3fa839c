import BrunostJudge.Transition
import Mathlib.Data.List.Basic

namespace LeasedWork
open Transition
set_option autoImplicit true

/-- The life of one work item that workers hold under a lease which runs out by itself. -/
inductive Phase (ω : Type u) (τ : Type v) (ρ : Type w) where
  | queued
  | running (owner : ω) (expires : τ) (canceled : Bool)
  | done (outcome : ρ)

inductive Act (ω : Type u) (τ : Type v) (ρ : Type w) where
  | claim (owner : ω) (expires : τ)
  | renew (owner : ω) (now expires : τ)
  | expire (now : τ)
  | cancel
  | finish (owner : ω) (now : τ) (outcome : ρ)

/-- What a worker or an operator asked for. Nobody asks for an expiry: it happens inside
somebody's claim. -/
inductive Request (ω : Type u) (τ : Type v) where
  | claim (owner : ω)
  | renew (owner : ω) (now : τ)
  | cancel
  | finish (owner : ω) (now : τ)
deriving DecidableEq

def Request.claimant? : Request ω τ → Option ω
  | .claim w => some w
  | _ => none

def Request.isRenew : Request ω τ → Bool
  | .renew _ _ => true
  | _ => false

def Request.isFinish : Request ω τ → Bool
  | .finish _ _ => true
  | _ => false

def Act.request? : Act ω τ ρ → Option (Request ω τ)
  | .claim w _ => some (.claim w)
  | .renew w now _ => some (.renew w now)
  | .expire _ => none
  | .cancel => some .cancel
  | .finish w now _ => some (.finish w now)

theorem Request.isFinish_claim (w? : Option ω) :
    (w?.map (Request.claim : ω → Request ω τ)).any Request.isFinish = false := by
  cases w? <;> rfl

theorem Request.isRenew_claim (w? : Option ω) :
    (w?.map (Request.claim : ω → Request ω τ)).any Request.isRenew = false := by
  cases w? <;> rfl

theorem Request.claimant?_claim (w? : Option ω) :
    (w?.map (Request.claim : ω → Request ω τ)).bind Request.claimant? = w? := by
  cases w? <;> rfl

def requests (acts : List (Act ω τ ρ)) : List (Request ω τ) := acts.filterMap Act.request?

section
variable {ω : Type u} {τ : Type v} {ρ : Type w}

@[simp] theorem requests_nil : requests ([] : List (Act ω τ ρ)) = [] := rfl

@[simp] theorem requests_cons (a : Act ω τ ρ) (acts : List (Act ω τ ρ)) :
    requests (a :: acts) = a.request?.toList ++ requests acts := by
  cases a <;> rfl

@[simp] theorem requests_append (acts acts' : List (Act ω τ ρ)) :
    requests (acts ++ acts') = requests acts ++ requests acts' :=
  List.filterMap_append

end

/-- The moves of a work item. `Void` holds of the outcomes that publish nothing, the only
ones canceled work may end in. At the very instant of expiry both an expiry and a finish
are possible. -/
inductive Step [LE τ] (Void : ρ → Prop) : Phase ω τ ρ → Act ω τ ρ → Phase ω τ ρ → Prop
  | claim : Step Void .queued (.claim w l) (.running w l false)
  | renew : now ≤ l → Step Void (.running w l false) (.renew w now l') (.running w l' false)
  | requeue : l ≤ now → Step Void (.running w l false) (.expire now) .queued
  | abandon : l ≤ now → Void r → Step Void (.running w l true) (.expire now) (.done r)
  | cancelQueued : Void r → Step Void .queued .cancel (.done r)
  | cancelRunning : Step Void (.running w l c) .cancel (.running w l true)
  | cancelDone : Step Void (.done r) .cancel (.done r)
  | finish : now ≤ l → Step Void (.running w l false) (.finish w now r) (.done r)
  | finishCanceled : now ≤ l → Void r →
      Step Void (.running w l true) (.finish w now r) (.done r)

section
variable {ω : Type u} {τ : Type v} {ρ : Type w} [LE τ] {Void : ρ → Prop}
  {p p' : Phase ω τ ρ} {a : Act ω τ ρ} {acts : List (Act ω τ ρ)}
  {w : ω} {l l' now : τ} {c : Bool} {r : ρ}

theorem Step.finish_done (h : Step Void p (.finish w now r) p') : p' = .done r := by
  cases h <;> rfl

theorem Step.cancel_effect (h : Step Void p a p') (ha : a.request? = some .cancel)
    (hp : ∀ r, p ≠ .done r) :
    (∃ w l, p' = .running w l true) ∨ ∃ r, Void r ∧ p' = .done r := by
  cases h with
  | cancelQueued hv => exact .inr ⟨_, hv, rfl⟩
  | cancelRunning => exact .inl ⟨_, _, rfl⟩
  | cancelDone => exact absurd rfl (hp _)
  | _ => cases ha

/-- Work that is done stays done: only further cancel requests reach it, without effect. -/
theorem Step.done (h : Step Void (.done r) a p) : p = .done r ∧ a = .cancel := by
  cases h
  exact ⟨rfl, rfl⟩

theorem done_path (h : Path (Step Void) (.done r) acts p) :
    p = .done r ∧ ∀ q ∈ requests acts, q = .cancel := by
  induction h with
  | refl => exact ⟨rfl, by simp⟩
  | next _ hs ih =>
    obtain ⟨he, hacts⟩ := ih
    subst he
    obtain ⟨he', ha⟩ := hs.done
    subst ha
    exact ⟨he', by simpa [Act.request?] using hacts⟩

/-- Canceled work is neither requeued, claimed nor renewed; all it can do is end void. -/
theorem canceled_path (h : Path (Step Void) (.running w l true) acts p) :
    (p = .running w l true ∨ ∃ r, Void r ∧ p = .done r) ∧
      ∀ q ∈ requests acts, q.claimant? = none ∧ q.isRenew = false := by
  induction h with
  | refl => exact ⟨.inl rfl, by simp⟩
  | next _ hs ih =>
    obtain ⟨he | ⟨r, hr, he⟩, hacts⟩ := ih
    · subst he
      cases hs with
      | abandon _ hv => exact ⟨.inr ⟨_, hv, rfl⟩, hacts⟩
      | cancelRunning => exact ⟨.inl rfl, by simpa [Act.request?] using ⟨⟨rfl, rfl⟩, hacts⟩⟩
      | finishCanceled _ hv =>
        exact ⟨.inr ⟨_, hv, rfl⟩, by simpa [Act.request?] using ⟨⟨rfl, rfl⟩, hacts⟩⟩
    · subst he
      obtain ⟨he', ha⟩ := hs.done
      subst ha
      exact ⟨.inr ⟨r, hr, he'⟩, by simpa [Act.request?] using ⟨⟨rfl, rfl⟩, hacts⟩⟩

theorem owner_path (h : Path (Step Void) .queued acts (.running w l c)) :
    (requests acts).findSome? Request.claimant? = some w := by
  generalize hr : Phase.running w l c = p at h
  induction h generalizing w l c with
  | refl => cases hr
  | next _ hs ih =>
    subst hr
    cases hs with
    | claim => rfl
    | renew _ => exact ih rfl
    | cancelRunning => exact ih rfl

theorem finish_once (h : Path (Step Void) .queued acts p) :
    (requests acts).countP Request.isFinish ≤ 1 ∧
      (0 < (requests acts).countP Request.isFinish → ∃ r, p = .done r) := by
  induction h with
  | refl => simp
  | @next acts p a p' _ hs ih =>
    obtain ⟨hle, hdone⟩ := ih
    by_cases hc : 0 < (requests acts).countP Request.isFinish
    · obtain ⟨r, hr⟩ := hdone hc
      subst hr
      obtain ⟨hp', ha⟩ := hs.done
      subst ha
      exact ⟨hle, fun _ => ⟨r, hp'⟩⟩
    · have hzero : (requests acts).countP Request.isFinish = 0 := by omega
      cases a with
      | finish w now r =>
        have hcount : (requests (Act.finish w now r :: acts)).countP Request.isFinish = 1 := by
          simp [Act.request?, Request.isFinish, List.countP_cons, hzero]
        exact ⟨Nat.le_of_eq hcount, fun _ => ⟨r, hs.finish_done⟩⟩
      | _ => simp [Act.request?, Request.isFinish, hzero]

theorem unfinished_path (h : Path (Step Void) p acts p') (hr : p' = .done r)
    (hno : ∀ q ∈ requests acts, q.isFinish = false) : Void r ∨ p = .done r := by
  induction h with
  | refl => exact .inr hr
  | next _ hs ih =>
    subst hr
    rw [requests_cons] at hno
    have hno' := fun q hq => hno q (List.mem_append_right _ hq)
    cases hs with
    | abandon _ hv => exact .inl hv
    | cancelQueued hv => exact .inl hv
    | cancelDone => exact ih rfl hno'
    | finish _ =>
      have hfinish := hno _ (List.mem_append_left _ (Option.mem_toList.2 rfl))
      cases hfinish
    | finishCanceled _ hv => exact .inl hv

end

end LeasedWork
