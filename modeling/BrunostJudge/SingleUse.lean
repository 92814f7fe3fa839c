import BrunostJudge.Transition
import Mathlib.Data.Set.Insert
import Mathlib.Logic.Function.Basic

namespace SingleUse
open Transition
set_option autoImplicit true

/-- How far a client is with the ticket it presents. -/
inductive Stage (K : Type u) where
  | idle
  | admitted (k : K)
  | holding (k : K) (done : Nat)
  | left

/-- The tickets that are taken, and the clients. -/
structure State (C : Type u) (K : Type v) where
  taken : Set K
  stage : C → Stage K

inductive Act (C : Type u) (K : Type v) where
  | present (c : C) (k : K)
  | take (c : C) (k : K)
  | act (c : C) (k : K) (n : Nat)
  | leave (c : C)

section
variable {C : Type u} {K : Type v}

def State.move [DecidableEq C] (s : State C K) (c : C) (stage : Stage K) : State C K :=
  { s with stage := Function.update s.stage c stage }

/-- A client is admitted with a ticket, takes it when nobody has taken it meanwhile, and then acts
on it as often as it has to. It may leave until it has taken the ticket. -/
inductive Step [DecidableEq C] (s : State C K) : Act C K → State C K → Prop
  | present : s.stage c = .idle → k ∉ s.taken → Step s (.present c k) (s.move c (.admitted k))
  | take : s.stage c = .admitted k → k ∉ s.taken →
      Step s (.take c k) { s.move c (.holding k 0) with taken := insert k s.taken }
  | act : s.stage c = .holding k n → Step s (.act c k n) (s.move c (.holding k (n + 1)))
  | turnedAway : s.stage c = .idle → Step s (.leave c) (s.move c .left)
  | tooLate : s.stage c = .admitted k → Step s (.leave c) (s.move c .left)

/-- Every ticket is free and every client idle. -/
structure Initial (s : State C K) : Prop where
  taken : s.taken = ∅
  stage : ∀ c, s.stage c = .idle

/-- The ticket of an act, and how often its holder acted on it before. -/
def Act.done? : Act C K → Option (K × Nat)
  | .act _ k n => some (k, n)
  | _ => none

/-- The state tells what has happened to every ticket. -/
structure Accounted (h : List (Act C K)) (s : State C K) : Prop where
  taken : ∀ k, k ∈ s.taken ↔ ∃ c n, s.stage c = .holding k n
  sole : ∀ c c' k n n', s.stage c = .holding k n → s.stage c' = .holding k n' → c = c'
  took : ∀ c k, .take c k ∈ h ↔ ∃ n, s.stage c = .holding k n
  acted : ∀ c k n, .act c k n ∈ h ↔ ∃ m, n < m ∧ s.stage c = .holding k m
  left : ∀ c, .leave c ∈ h → s.stage c = .left
  distinct : (h.filterMap Act.done?).Nodup

variable {s s' : State C K} {a : Act C K} {h : List (Act C K)} {c c' : C} {k : K} {n : Nat}

theorem Accounted.initial (hs : Initial s) : Accounted ([] : List (Act C K)) s := by
  have hidle : ∀ c k n, s.stage c ≠ .holding k n := by
    intro c k n hc
    cases (hs.stage c).symm.trans hc
  constructor
  · intro k
    rw [hs.taken]
    exact iff_of_false (Set.notMem_empty k) fun ⟨c, n, hc⟩ => hidle c k n hc
  · intro c _ k n _ hc
    exact absurd hc (hidle c k n)
  · intro c k
    exact iff_of_false List.not_mem_nil fun ⟨n, hc⟩ => hidle c k n hc
  · intro c k n
    exact iff_of_false List.not_mem_nil fun ⟨m, _, hc⟩ => hidle c k m hc
  · intro c hc
    cases hc
  · exact List.nodup_nil

/-- What is done with a ticket is done once, by the one client that took it. -/
theorem Accounted.sole_actor (haccounted : Accounted h s) (hc : .act c k n ∈ h)
    (hc' : .act c' k n' ∈ h) : c = c' := by
  obtain ⟨m, _, hm⟩ := (haccounted.acted c k n).1 hc
  obtain ⟨m', _, hm'⟩ := (haccounted.acted c' k n').1 hc'
  exact haccounted.sole c c' k m m' hm hm'

theorem Accounted.took_of_acted (haccounted : Accounted h s) (hc : .act c k n ∈ h) :
    .take c k ∈ h := by
  obtain ⟨m, _, hm⟩ := (haccounted.acted c k n).1 hc
  exact (haccounted.took c k).2 ⟨m, hm⟩

theorem Accounted.left_empty (haccounted : Accounted h s) (hc : .leave c ∈ h) (k : K) :
    .take c k ∉ h := by
  intro htake
  obtain ⟨n, hn⟩ := (haccounted.took c k).1 htake
  cases (haccounted.left c hc).symm.trans hn

theorem Accounted.free_iff (haccounted : Accounted h s) : k ∉ s.taken ↔ ∀ c, .take c k ∉ h := by
  simp only [haccounted.taken, haccounted.took, not_exists]

variable [DecidableEq C]

theorem move_self (s : State C K) (c : C) (stage : Stage K) : (s.move c stage).stage c = stage :=
  Function.update_self ..

theorem move_other (s : State C K) (stage : Stage K) (hc : c' ≠ c) :
    (s.move c stage).stage c' = s.stage c' :=
  Function.update_of_ne hc ..

theorem move_holding (hold : ∀ k n, s.stage c ≠ .holding k n) (hnew : ∀ k n, stage ≠ .holding k n)
    (c' : C) (k : K) (n : Nat) :
    (s.move c stage).stage c' = .holding k n ↔ s.stage c' = .holding k n := by
  by_cases hc : c' = c
  · subst hc
    rw [move_self]
    exact iff_of_false (hnew k n) (hold k n)
  · rw [move_other s stage hc]

theorem Accounted.move (haccounted : Accounted h s) (hold : ∀ k n, s.stage c ≠ .holding k n)
    (hnew : ∀ k n, stage ≠ .holding k n) (htake : ∀ c' k, a ≠ .take c' k)
    (hact : ∀ c' k n, a ≠ .act c' k n) (hleave : ∀ c', c' ≠ c → a ≠ .leave c')
    (hleft : .leave c ∈ a :: h → stage = .left) :
    Accounted (a :: h) (s.move c stage) := by
  have hsame := move_holding hold hnew
  have hdone : Act.done? a = none := by
    cases a with
    | act c' k n => exact absurd rfl (hact c' k n)
    | _ => rfl
  constructor
  · intro k
    simp only [hsame]
    exact haccounted.taken k
  · intro c₁ c₂ k n n'
    rw [hsame, hsame]
    exact haccounted.sole c₁ c₂ k n n'
  · intro c' k
    simp only [hsame]
    rw [List.mem_cons, ← haccounted.took, or_iff_right (htake c' k).symm]
  · intro c' k n
    simp only [hsame]
    rw [List.mem_cons, ← haccounted.acted, or_iff_right (hact c' k n).symm]
  · intro c' hc'
    by_cases hc : c' = c
    · rw [hc, move_self]
      exact hleft (hc ▸ hc')
    · rw [move_other s stage hc]
      exact haccounted.left c' (List.mem_of_ne_of_mem (hleave c' hc).symm hc')
  · rw [List.filterMap_cons_none hdone]
    exact haccounted.distinct

theorem Accounted.take (haccounted : Accounted h s) (hstage : s.stage c = .admitted k)
    (hfree : k ∉ s.taken) :
    Accounted (.take c k :: h) { s.move c (.holding k 0) with taken := insert k s.taken } := by
  have hfree : ∀ c' n, s.stage c' ≠ .holding k n := fun c' n hc' =>
    hfree ((haccounted.taken k).2 ⟨c', n, hc'⟩)
  have hholding : ∀ c' k' n', (s.move c (.holding k 0)).stage c' = .holding k' n' ↔
      s.stage c' = .holding k' n' ∨ c' = c ∧ k' = k ∧ n' = 0 := by
    intro c' k' n'
    by_cases hc : c' = c
    · subst hc
      rw [move_self, hstage]
      simp [eq_comm]
    · rw [move_other s _ hc]
      simp [hc]
  constructor
  · intro k'
    simp only [hholding, Set.mem_insert_iff]
    rw [haccounted.taken]
    constructor
    · rintro (rfl | ⟨c', n', hc'⟩)
      · exact ⟨c, 0, .inr ⟨rfl, rfl, rfl⟩⟩
      · exact ⟨c', n', .inl hc'⟩
    · rintro ⟨c', n', hc' | ⟨-, hk, -⟩⟩
      · exact .inr ⟨c', n', hc'⟩
      · exact .inl hk
  · intro c₁ c₂ k' n₁ n₂
    simp only [hholding]
    rintro (h₁ | ⟨rfl, rfl, rfl⟩) (h₂ | ⟨rfl, hk, rfl⟩)
    · exact haccounted.sole c₁ c₂ k' n₁ n₂ h₁ h₂
    · exact absurd (hk ▸ h₁) (hfree c₁ n₁)
    · exact absurd h₂ (hfree c₂ n₂)
    · rfl
  · intro c' k'
    simp only [hholding, List.mem_cons, haccounted.took, Act.take.injEq]
    constructor
    · rintro (⟨hc, hk⟩ | ⟨n', hc'⟩)
      · exact ⟨0, .inr ⟨hc, hk, rfl⟩⟩
      · exact ⟨n', .inl hc'⟩
    · rintro ⟨n', hc' | ⟨hc, hk, -⟩⟩
      · exact .inr ⟨n', hc'⟩
      · exact .inl ⟨hc, hk⟩
  · intro c' k' n'
    simp only [hholding, List.mem_cons, haccounted.acted, reduceCtorEq, false_or]
    constructor
    · rintro ⟨m, hm, hc'⟩
      exact ⟨m, hm, .inl hc'⟩
    · rintro ⟨m, hm, hc' | ⟨-, -, rfl⟩⟩
      · exact ⟨m, hm, hc'⟩
      · exact absurd hm (Nat.not_lt_zero n')
  · intro c' hleave
    have hleft := haccounted.left c' (List.mem_of_ne_of_mem (by simp) hleave)
    have hc : c' ≠ c := by
      rintro rfl
      cases hstage.symm.trans hleft
    exact (move_other s _ hc).trans hleft
  · exact haccounted.distinct

theorem Accounted.act (haccounted : Accounted h s) (hstage : s.stage c = .holding k n) :
    Accounted (.act c k n :: h) (s.move c (.holding k (n + 1))) := by
  have hself : ∀ k' n', s.stage c = .holding k' n' → k' = k ∧ n' = n := by
    intro k' n' hc
    cases hstage.symm.trans hc
    exact ⟨rfl, rfl⟩
  -- the tickets stay with their holders
  have hheld : ∀ c' k', (∃ n', (s.move c (.holding k (n + 1))).stage c' = .holding k' n') ↔
      ∃ n', s.stage c' = .holding k' n' := by
    intro c' k'
    by_cases hc : c' = c
    · subst hc
      rw [move_self]
      constructor
      · rintro ⟨_, hc'⟩
        cases hc'
        exact ⟨n, hstage⟩
      · rintro ⟨n', hc'⟩
        obtain ⟨rfl, rfl⟩ := hself k' n' hc'
        exact ⟨n' + 1, rfl⟩
    · rw [move_other s _ hc]
  constructor
  · intro k'
    simp only [hheld]
    exact haccounted.taken k'
  · intro c₁ c₂ k' n₁ n₂ h₁ h₂
    obtain ⟨m₁, h₁⟩ := (hheld c₁ k').1 ⟨n₁, h₁⟩
    obtain ⟨m₂, h₂⟩ := (hheld c₂ k').1 ⟨n₂, h₂⟩
    exact haccounted.sole c₁ c₂ k' m₁ m₂ h₁ h₂
  · intro c' k'
    rw [hheld, List.mem_cons, ← haccounted.took, or_iff_right (by simp)]
  · intro c' k' n'
    rw [List.mem_cons, haccounted.acted, Act.act.injEq]
    by_cases hc : c' = c
    · subst hc
      rw [move_self]
      constructor
      · rintro (⟨-, rfl, rfl⟩ | ⟨m, hm, hc'⟩)
        · exact ⟨n' + 1, Nat.lt_succ_self n', rfl⟩
        · obtain ⟨rfl, rfl⟩ := hself k' m hc'
          exact ⟨m + 1, Nat.lt_succ_of_lt hm, rfl⟩
      · rintro ⟨_, hm, hc'⟩
        cases hc'
        obtain hm | rfl := Nat.lt_succ_iff_lt_or_eq.1 hm
        · exact .inr ⟨n, hm, hstage⟩
        · exact .inl ⟨rfl, rfl, rfl⟩
    · rw [move_other s _ hc, or_iff_right (fun he => hc he.1)]
  · intro c' hleave
    have hleft := haccounted.left c' (List.mem_of_ne_of_mem (by simp) hleave)
    have hc : c' ≠ c := by
      rintro rfl
      cases hstage.symm.trans hleft
    exact (move_other s _ hc).trans hleft
  · have hfresh : (k, n) ∉ h.filterMap Act.done? := by
      intro hmem
      obtain ⟨a, ha, hdone⟩ := List.mem_filterMap.1 hmem
      cases a with
      | act c' k' n' =>
        cases hdone
        obtain ⟨m, hm, hc'⟩ := (haccounted.acted c' k n).1 ha
        cases haccounted.sole c' c k m n hc' hstage
        have heq := (hself k m hc').2
        omega
      | _ => cases hdone
    exact List.nodup_cons.2 ⟨hfresh, haccounted.distinct⟩

theorem Accounted.next (haccounted : Accounted h s) (hs : Step s a s') : Accounted (a :: h) s' := by
  cases hs with
  | @present c k hidle =>
    apply haccounted.move (by simp [hidle]) (by simp) (by simp) (by simp) (by simp)
    intro hleave
    cases hidle.symm.trans (haccounted.left c (List.mem_of_ne_of_mem (by simp) hleave))
  | take hadmitted hfree => exact haccounted.take hadmitted hfree
  | act hholding => exact haccounted.act hholding
  | turnedAway hidle =>
    apply haccounted.move (by simp [hidle]) (by simp) (by simp) (by simp)
    · intro c' hc he
      exact hc (Act.leave.inj he).symm
    · exact fun _ => rfl
  | tooLate hadmitted =>
    apply haccounted.move (by simp [hadmitted]) (by simp) (by simp) (by simp)
    · intro c' hc he
      exact hc (Act.leave.inj he).symm
    · exact fun _ => rfl

theorem run_accounted (hrun : Run Initial Step h s) : Accounted h s := by
  induction hrun with
  | start hinit => exact .initial hinit
  | next _ hs ih => exact ih.next hs

end

end SingleUse
