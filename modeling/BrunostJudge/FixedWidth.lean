import Mathlib.Data.List.Basic
import Mathlib.Data.Nat.Notation
import Mathlib.Algebra.Order.Group.Nat
import Mathlib.Tactic.Tauto

namespace FixedWidth
set_option autoImplicit true

variable {α : Type} [LT α] {digit : Nat → α} {base width m n : Nat} {x y s t : List α}

theorem append_lt (h : x.length = y.length) : x ++ s < y ++ t ↔ x < y ∨ x = y ∧ s < t := by
  induction x generalizing y with
  | nil =>
    obtain rfl := List.length_eq_zero_iff.1 h.symm
    simp
  | cons a x ih =>
    cases y with
    | nil => cases h
    | cons b y =>
      rw [List.cons_append, List.cons_append, List.cons_lt_cons_iff, List.cons_lt_cons_iff,
        ih (Nat.succ.inj h), List.cons.injEq]
      grind

theorem map_lt {β : Type} [LT β] {f : α → β} (hlt : ∀ a ∈ x, ∀ b ∈ y, (f a < f b ↔ a < b))
    (hinj : ∀ a ∈ x, ∀ b ∈ y, f a = f b → a = b) : x.map f < y.map f ↔ x < y := by
  induction x generalizing y with
  | nil => cases y <;> simp
  | cons a x ih =>
    cases y with
    | nil => simp
    | cons b y =>
      obtain ⟨hab, _⟩ := List.forall_mem_cons.1 (hlt a List.mem_cons_self)
      have heq : f a = f b ↔ a = b :=
        ⟨hinj a List.mem_cons_self b List.mem_cons_self, congrArg f⟩
      have hrest := ih (fun a ha b hb => hlt a (List.mem_cons_of_mem _ ha) b
        (List.mem_cons_of_mem _ hb)) (fun a ha b hb => hinj a (List.mem_cons_of_mem _ ha) b
        (List.mem_cons_of_mem _ hb))
      rw [List.map_cons, List.map_cons, List.cons_lt_cons_iff, List.cons_lt_cons_iff, hab, heq,
        hrest]

omit [LT α] in
theorem places_assoc {p e q f r : Prop} :
    (p ∨ e ∧ q) ∨ (e ∧ f) ∧ r ↔ p ∨ e ∧ (q ∨ f ∧ r) := by
  tauto

/-- Digits that are told apart and ordered as their values are. -/
structure Digits (digit : Nat → α) (base : Nat) : Prop where
  lt : ∀ i < base, ∀ j < base, (digit i < digit j ↔ i < j)
  inj : ∀ i < base, ∀ j < base, digit i = digit j → i = j

/-- The last `width` digits of a number. -/
def word (digit : Nat → α) (base : Nat) : Nat → Nat → List α
  | 0, _ => []
  | width + 1, n => word digit base width (n / base) ++ [digit (n % base)]

omit [LT α] in
@[simp] theorem word_length : (word digit base width n).length = width := by
  induction width generalizing n with
  | zero => rfl
  | succ width ih => rw [word, List.length_append, ih, List.length_singleton]

theorem place_lt {a b u v : Nat} (hu : u < base) (hv : v < base) :
    base * a + u < base * b + v ↔ a < b ∨ a = b ∧ u < v := by
  constructor
  · intro hlt
    rcases Nat.lt_trichotomy a b with hab | rfl | hba
    · exact .inl hab
    · exact .inr ⟨rfl, Nat.lt_of_add_lt_add_left hlt⟩
    · have hbase : base * (b + 1) ≤ base * a := Nat.mul_le_mul_left base hba
      rw [Nat.mul_succ] at hbase
      omega
  · rintro (hab | ⟨rfl, hlt⟩)
    · have hbase : base * (a + 1) ≤ base * b := Nat.mul_le_mul_left base hab
      rw [Nat.mul_succ] at hbase
      omega
    · exact Nat.add_lt_add_left hlt _

theorem place_eq {a b u v : Nat} (hu : u < base) (hv : v < base) :
    base * a + u = base * b + v ↔ a = b ∧ u = v := by
  have hlt := place_lt (a := a) (b := b) hu hv
  have hgt := place_lt (a := b) (b := a) hv hu
  omega

theorem base_pos (hn : n < base ^ (width + 1)) : 0 < base := by
  apply Nat.pos_of_ne_zero
  rintro rfl
  rw [Nat.zero_pow (Nat.succ_pos width)] at hn
  cases hn

theorem div_lt_pow (hn : n < base ^ (width + 1)) : n / base < base ^ width := by
  apply Nat.div_lt_of_lt_mul
  rwa [Nat.mul_comm, ← Nat.pow_succ]

theorem Digits.word_inj (h : Digits digit base) (hm : m < base ^ width) (hn : n < base ^ width)
    (heq : word digit base width m = word digit base width n) : m = n := by
  induction width generalizing m n with
  | zero =>
    rw [Nat.pow_zero] at hm hn
    omega
  | succ width ih =>
    have hbase := base_pos hm
    rw [word, word] at heq
    obtain ⟨hhead, hlast⟩ := List.append_inj' heq rfl
    have hdiv := ih (div_lt_pow hm) (div_lt_pow hn) hhead
    have hmod := h.inj _ (Nat.mod_lt m hbase) _ (Nat.mod_lt n hbase) (List.cons.inj hlast).1
    rw [← Nat.div_add_mod m base, hdiv, hmod, Nat.div_add_mod]

theorem Digits.word_eq (h : Digits digit base) (hm : m < base ^ width) (hn : n < base ^ width) :
    word digit base width m = word digit base width n ↔ m = n :=
  ⟨h.word_inj hm hn, fun heq => by rw [heq]⟩

theorem Digits.word_lt (h : Digits digit base) (hm : m < base ^ width) (hn : n < base ^ width) :
    word digit base width m < word digit base width n ↔ m < n := by
  induction width generalizing m n with
  | zero =>
    rw [Nat.pow_zero] at hm hn
    rw [word, word, Nat.lt_one_iff.1 hm, Nat.lt_one_iff.1 hn]
    simp
  | succ width ih =>
    have hbase := base_pos hm
    have hlast : [digit (m % base)] < [digit (n % base)] ↔ m % base < n % base := by
      rw [List.cons_lt_cons_iff, h.lt _ (Nat.mod_lt m hbase) _ (Nat.mod_lt n hbase)]
      simp
    rw [word, word, append_lt (by rw [word_length, word_length]),
      ih (div_lt_pow hm) (div_lt_pow hn), h.word_eq (div_lt_pow hm) (div_lt_pow hn), hlast,
      ← place_lt (Nat.mod_lt m hbase) (Nat.mod_lt n hbase), Nat.div_add_mod, Nat.div_add_mod]

end FixedWidth
