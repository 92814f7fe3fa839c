import BrunostJudge.Transition
import Mathlib.Logic.Function.Basic

namespace SharedRow
open Transition
set_option autoImplicit true

/-- A row of two parts, and what each client that has read it is going to write. -/
structure State (C : Type u) (V : Type v) (K : Type w) where
  kept : V
  own : K
  held : C → Option (V × K)

inductive Act (C : Type u) (U : Type v) (K : Type w) where
  | read (c : C) (k : K)
  | write (c : C) (k : K)
  | update (u : U)

section
variable {C : Type u} {V : Type v} {K : Type w} {U : Type x} [DecidableEq C] (apply : U → V → V)

/-- A client reads the row, and later writes its own part beside the other part as it was. The
updates of the other part may come in between. -/
inductive Step (s : State C V K) : Act C U K → State C V K → Prop
  | read : Step s (.read c k) { s with held := Function.update s.held c (some (s.kept, k)) }
  | write : s.held c = some (v, k) →
      Step s (.write c k) ⟨v, k, Function.update s.held c none⟩
  | update : Step s (.update u) { s with kept := apply u s.kept }

/-- What the updates alone come to. -/
def updated (v : V) : List (Act C U K) → V
  | [] => v
  | .update u :: h => apply u (updated v h)
  | .read .. :: h | .write .. :: h => updated v h

/-- What was written last. -/
def written (k : K) : List (Act C U K) → K
  | [] => k
  | .write _ k' :: _ => k'
  | .read .. :: h | .update _ :: h => written k h

/-- No update is lost, and the last write stands. -/
structure Current (v : V) (k : K) (h : List (Act C U K)) (s : State C V K) : Prop where
  kept : s.kept = updated apply v h
  own : s.own = written k h

/-- What a client writes back is what stands in the row. -/
def Undisturbed (s : State C V K) (a : Act C U K) : Prop :=
  ∀ c k v, a = .write c k → s.held c = some (v, k) → v = s.kept

variable {apply} {s s' : State C V K} {a : Act C U K} {h : List (Act C U K)}

theorem Current.next_iff (hcurrent : Current apply v₀ k₀ h s) (hs : Step apply s a s') :
    Current apply v₀ k₀ (a :: h) s' ↔ Undisturbed s a := by
  cases hs with
  | @read c k =>
    have hother : Undisturbed s (.read c k : Act C U K) := fun _ _ _ he => nomatch he
    exact ⟨fun _ => hother, fun _ => ⟨hcurrent.kept, hcurrent.own⟩⟩
  | @update u =>
    have hother : Undisturbed s (.update u) := fun _ _ _ he => nomatch he
    exact ⟨fun _ => hother, fun _ => ⟨congrArg (apply u) hcurrent.kept, hcurrent.own⟩⟩
  | @write c v k hheld =>
    constructor
    · intro hnext c' k' v' he hheld'
      cases he
      cases hheld.symm.trans hheld'
      exact hnext.kept.trans hcurrent.kept.symm
    · intro hundisturbed
      exact ⟨(hundisturbed c k v rfl hheld).trans hcurrent.kept, rfl⟩

end

end SharedRow
