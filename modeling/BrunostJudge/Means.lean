import Mathlib.Algebra.BigOperators.Group.List.Basic
import Mathlib.Algebra.Order.BigOperators.Group.List
import Mathlib.Analysis.SpecialFunctions.Pow.Real

namespace Means
set_option autoImplicit true

variable {x lo hi : ℝ} {xs ys : List ℝ}

noncomputable def arithmetic (xs : List ℝ) : ℝ := xs.sum / xs.length

noncomputable def geometric (xs : List ℝ) : ℝ := xs.prod ^ (1 / (xs.length : ℝ))

theorem length_pos (hne : xs ≠ []) : (0 : ℝ) < xs.length := by
  exact_mod_cast List.length_pos_iff.2 hne

theorem arithmetic_bounds (hne : xs ≠ []) (h : ∀ x ∈ xs, lo ≤ x ∧ x ≤ hi) :
    lo ≤ arithmetic xs ∧ arithmetic xs ≤ hi := by
  have hlow := List.card_nsmul_le_sum xs lo fun x hx => (h x hx).1
  have hhigh := List.sum_le_card_nsmul xs hi fun x hx => (h x hx).2
  rw [nsmul_eq_mul, mul_comm] at hlow hhigh
  exact ⟨(le_div_iff₀ (length_pos hne)).2 hlow, (div_le_iff₀ (length_pos hne)).2 hhigh⟩

theorem arithmetic_mono (h : List.Forall₂ (· ≤ ·) xs ys) : arithmetic xs ≤ arithmetic ys := by
  rw [arithmetic, arithmetic, h.length_eq]
  exact div_le_div_of_nonneg_right h.sum_le_sum (Nat.cast_nonneg _)

theorem prod_nonneg (h : ∀ x ∈ xs, 0 ≤ x) : 0 ≤ xs.prod := by
  induction xs with
  | nil => exact zero_le_one
  | cons x xs ih =>
    obtain ⟨hx, hxs⟩ := List.forall_mem_cons.1 h
    rw [List.prod_cons]
    exact mul_nonneg hx (ih hxs)

theorem pow_le_prod (hlo : 0 ≤ lo) (h : ∀ x ∈ xs, lo ≤ x) : lo ^ xs.length ≤ xs.prod := by
  induction xs with
  | nil => exact le_rfl
  | cons x xs ih =>
    obtain ⟨hx, hxs⟩ := List.forall_mem_cons.1 h
    rw [List.length_cons, List.prod_cons, pow_succ']
    exact mul_le_mul hx (ih hxs) (pow_nonneg hlo _) (hlo.trans hx)

theorem prod_mono (h : List.Forall₂ (fun x y => 0 ≤ x ∧ x ≤ y) xs ys) :
    0 ≤ xs.prod ∧ xs.prod ≤ ys.prod := by
  induction h with
  | nil => exact ⟨zero_le_one, le_rfl⟩
  | @cons x y xs ys hxy _ ih =>
    rw [List.prod_cons, List.prod_cons]
    exact ⟨mul_nonneg hxy.1 ih.1, mul_le_mul hxy.2 ih.2 ih.1 (hxy.1.trans hxy.2)⟩

theorem prod_le_pow (h : ∀ x ∈ xs, 0 ≤ x ∧ x ≤ hi) : xs.prod ≤ hi ^ xs.length := by
  have hreplicate : List.Forall₂ (fun x y => 0 ≤ x ∧ x ≤ y) xs (List.replicate xs.length hi) := by
    induction xs with
    | nil => exact .nil
    | cons x xs ih =>
      obtain ⟨hx, hxs⟩ := List.forall_mem_cons.1 h
      exact .cons hx (ih hxs)
  have hprod := (prod_mono hreplicate).2
  rwa [List.prod_replicate] at hprod

theorem geometric_nonneg (h : ∀ x ∈ xs, 0 ≤ x) : 0 ≤ geometric xs :=
  Real.rpow_nonneg (prod_nonneg h) _

theorem geometric_bounds (hne : xs ≠ []) (h : ∀ x ∈ xs, 0 ≤ x ∧ lo ≤ x ∧ x ≤ hi) :
    lo ≤ geometric xs ∧ geometric xs ≤ hi := by
  have hlength : xs.length ≠ 0 := fun he => hne (List.length_eq_zero_iff.1 he)
  have hprod := prod_nonneg fun x hx => (h x hx).1
  have hroot : (0 : ℝ) ≤ (xs.length : ℝ)⁻¹ := inv_nonneg.2 (Nat.cast_nonneg _)
  obtain ⟨x, hx⟩ := List.exists_mem_of_ne_nil xs hne
  have hhi : 0 ≤ hi := (h x hx).1.trans (h x hx).2.2
  constructor
  · rcases le_total lo 0 with hlo | hlo
    · exact hlo.trans (geometric_nonneg fun x hx => (h x hx).1)
    · have hpow := pow_le_prod hlo fun x hx => (h x hx).2.1
      rw [geometric, one_div, ← Real.pow_rpow_inv_natCast hlo hlength]
      exact Real.rpow_le_rpow (pow_nonneg hlo _) hpow hroot
  · have hpow := prod_le_pow fun x hx => ⟨(h x hx).1, (h x hx).2.2⟩
    rw [geometric, one_div]
    apply (Real.rpow_le_rpow hprod hpow hroot).trans_eq
    exact Real.pow_rpow_inv_natCast hhi hlength

theorem geometric_mono (h : List.Forall₂ (fun x y => 0 ≤ x ∧ x ≤ y) xs ys) :
    geometric xs ≤ geometric ys := by
  rw [geometric, geometric, h.length_eq]
  exact Real.rpow_le_rpow (prod_mono h).1 (prod_mono h).2 (by positivity)

theorem geometric_eq_zero (h : 0 ∈ xs) : geometric xs = 0 := by
  have hlength : (xs.length : ℝ) ≠ 0 := (length_pos (List.ne_nil_of_mem h)).ne'
  rw [geometric, List.prod_eq_zero h]
  exact Real.zero_rpow (one_div_ne_zero hlength)

theorem le_foldl_min {m : ℝ} : m ≤ ys.foldl min x ↔ m ≤ x ∧ ∀ y ∈ ys, m ≤ y := by
  induction ys generalizing x with
  | nil => simp
  | cons y ys ih =>
    rw [List.foldl_cons, ih, le_min_iff, List.forall_mem_cons, and_assoc]

theorem foldl_min_mono {x y : ℝ} (hxy : x ≤ y) (h : List.Forall₂ (· ≤ ·) xs ys) :
    xs.foldl min x ≤ ys.foldl min y := by
  induction h generalizing x y with
  | nil => exact hxy
  | cons hab _ ih => exact ih (min_le_min hxy hab)

end Means
