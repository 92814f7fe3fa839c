import Mathlib.Order.Basic

namespace Transition
set_option autoImplicit true

/-- The states a system passes through, with the labels of its steps newest first. -/
inductive Run (init : σ → Prop) (step : σ → ε → σ → Prop) : List ε → σ → Prop
  | start : init s → Run init step [] s
  | next : Run init step h s → step s e s' → Run init step (e :: h) s'

/-- A stretch of a run between two states, newest label first. -/
inductive Path (step : σ → ε → σ → Prop) : σ → List ε → σ → Prop
  | refl : Path step s [] s
  | next : Path step s h t → step t e t' → Path step s (e :: h) t'

section
variable {σ : Type u} {ε : Type v} {init : σ → Prop} {step : σ → ε → σ → Prop}

/-- An invariant of histories and states: it holds at the start and every step keeps it. -/
theorem Run.invariant {I : List ε → σ → Prop} (h : Run init step l s)
    (hstart : ∀ s, init s → I [] s)
    (hstep : ∀ l s e s', Run init step l s → I l s → step s e s' → I (e :: l) s') :
    I l s := by
  induction h with
  | start hi => exact hstart _ hi
  | next hr hs ih => exact hstep _ _ _ _ hr ih hs

theorem Run.append (h : Run init step l s) (hp : Path step s m t) :
    Run init step (m ++ l) t := by
  induction hp with
  | refl => exact h
  | next _ hs ih => exact .next ih hs

theorem Run.functional (hinit : ∀ s t, init s → init t → s = t)
    (hstep : ∀ s e t t', step s e t → step s e t' → t = t')
    (h : Run init step l s) (h' : Run init step l t) : s = t := by
  induction h generalizing t with
  | start hi =>
    cases h' with
    | start hi' => exact hinit _ _ hi hi'
  | next _ hs ih =>
    cases h' with
    | next hr' hs' =>
      have heq := ih hr'
      subst heq
      exact hstep _ _ _ _ hs hs'

/-- A run is a path to each of its later states. -/
theorem Run.split (h : Run init step (m ++ l) t) :
    ∃ s, Run init step l s ∧ Path step s m t := by
  induction m generalizing t with
  | nil => exact ⟨t, h, .refl⟩
  | cons e m ih =>
    cases h with
    | next hr hs =>
      obtain ⟨s, hl, hp⟩ := ih hr
      exact ⟨s, hl, .next hp hs⟩

theorem Path.single (hs : step s e t) : Path step s [e] t := .next .refl hs

theorem Path.trans (hp : Path step s l t) (hq : Path step t m u) : Path step s (m ++ l) u := by
  induction hq with
  | refl => exact hp
  | next _ hs ih => exact .next ih hs

theorem Path.preserves {I : σ → Prop} (hp : Path step s l t) (hs : I s)
    (hstep : ∀ s e s', I s → step s e s' → I s') : I t := by
  induction hp with
  | refl => exact hs
  | next _ he ih => exact hstep _ _ _ ih he

/-- A reflexive and transitive relation that every step satisfies relates the ends of a path. -/
theorem Path.relates {R : σ → σ → Prop} (hp : Path step s l t) (hrefl : ∀ s, R s s)
    (htrans : ∀ s t u, R s t → R t u → R s u) (hstep : ∀ s e s', step s e s' → R s s') :
    R s t := by
  induction hp with
  | refl => exact hrefl _
  | next _ he ih => exact htrans _ _ _ ih (hstep _ _ _ he)

end

end Transition
