import BrunostJudge.PyFloat

namespace Python
set_option autoImplicit true

theorem roundHalfEven_near (x : ℚ) : |(roundHalfEven x : ℚ) - x| ≤ 1 / 2 := by
  have hlow := Int.floor_le x
  have hhigh := Int.lt_floor_add_one x
  rw [roundHalfEven, abs_le]
  split
  · constructor <;> linarith
  · split
    · push_cast
      constructor <;> linarith
    · split
      · constructor <;> linarith
      · push_cast
        constructor <;> linarith

theorem roundHalfEven_intCast (n : ℤ) : roundHalfEven (n : ℚ) = n := by
  rw [roundHalfEven, Int.floor_intCast, sub_self, if_pos (by norm_num)]

theorem roundHalfEven_mono {x y : ℚ} (h : x ≤ y) : roundHalfEven x ≤ roundHalfEven y := by
  by_contra hlt
  have hstep : (roundHalfEven y : ℚ) + 1 ≤ roundHalfEven x := by
    exact_mod_cast Int.add_one_le_iff.2 (not_le.1 hlt)
  have hx := abs_le.1 (roundHalfEven_near x)
  have hy := abs_le.1 (roundHalfEven_near y)
  have heq : x = y := by linarith [hx.2, hy.1]
  rw [heq] at hlt
  exact hlt le_rfl

theorem roundHalfEven_le {x : ℚ} {n : ℤ} (h : x ≤ n) : roundHalfEven x ≤ n :=
  roundHalfEven_intCast n ▸ roundHalfEven_mono h

theorem le_roundHalfEven {x : ℚ} {n : ℤ} (h : n ≤ x) : n ≤ roundHalfEven x :=
  roundHalfEven_intCast n ▸ roundHalfEven_mono h

theorem roundHalfEven_even {x : ℚ} {n : ℤ} (hn : n % 2 = 0) :
    roundHalfEven x = n ↔ |x - n| ≤ 1 / 2 := by
  constructor
  · rintro rfl
    rw [abs_sub_comm]
    exact roundHalfEven_near x
  · intro h
    obtain ⟨hlow, hhigh⟩ := abs_le.1 h
    have hfloor : ⌊x⌋ = n ∨ ⌊x⌋ = n - 1 := by
      rcases le_or_gt (n : ℚ) x with hle | hlt
      · exact .inl (Int.floor_eq_iff.2 ⟨hle, by linarith⟩)
      · apply Or.inr (Int.floor_eq_iff.2 ⟨?_, ?_⟩)
        · push_cast
          linarith
        · push_cast
          linarith
    rw [roundHalfEven]
    rcases hfloor with hfloor | hfloor
    · rw [hfloor, if_pos hn, if_neg (show ¬1 / 2 < x - n by linarith)]
      exact ite_self n
    · have hfrac : 1 / 2 ≤ x - ((n - 1 : ℤ) : ℚ) := by
        push_cast
        linarith
      have hodd : ¬(n - 1) % 2 = 0 := by omega
      rw [hfloor, if_neg (not_lt.2 hfrac), if_neg hodd, ite_self]
      exact Int.sub_add_cancel n 1

/-- The exponent of the last bit of a float. -/
def lastBit (x : ℚ) : ℤ := max (Int.log 2 |x| - 52) (-1074)

theorem spacing_eq (x : ℚ) : spacing x = 2 ^ lastBit x := rfl

theorem spacing_pos (x : ℚ) : 0 < spacing x := by
  rw [spacing_eq]
  exact zpow_pos (by norm_num) _

theorem toFloat_zero : toFloat 0 = 0 := by
  rw [toFloat, zero_div]
  exact mul_eq_zero_of_right _ (by exact_mod_cast roundHalfEven_intCast 0)

theorem toFloat_nonneg {x : ℚ} (hx : 0 ≤ x) : 0 ≤ toFloat x := by
  apply mul_nonneg (spacing_pos x).le
  have hround : 0 ≤ roundHalfEven (x / spacing x) := by
    apply le_roundHalfEven
    exact_mod_cast div_nonneg hx (spacing_pos x).le
  exact_mod_cast hround

theorem toFloat_error (x : ℚ) : |toFloat x - x| ≤ spacing x / 2 := by
  have hpos := spacing_pos x
  have hscale : toFloat x - x = spacing x * (roundHalfEven (x / spacing x) - x / spacing x) := by
    rw [toFloat]
    field_simp
  rw [hscale, abs_mul, abs_of_pos hpos]
  calc spacing x * |(roundHalfEven (x / spacing x) : ℚ) - x / spacing x|
      ≤ spacing x * (1 / 2) := mul_le_mul_of_nonneg_left (roundHalfEven_near _) hpos.le
    _ = spacing x / 2 := by ring

theorem toFloat_le_multiple {x : ℚ} {n : ℤ} (h : x ≤ spacing x * n) :
    toFloat x ≤ spacing x * n := by
  have hpos := spacing_pos x
  apply mul_le_mul_of_nonneg_left _ hpos.le
  have hround : roundHalfEven (x / spacing x) ≤ n := by
    apply roundHalfEven_le
    rw [div_le_iff₀ hpos, mul_comm]
    exact h
  exact_mod_cast hround

theorem multiple_le_toFloat {x : ℚ} {n : ℤ} (h : spacing x * n ≤ x) :
    spacing x * n ≤ toFloat x := by
  have hpos := spacing_pos x
  apply mul_le_mul_of_nonneg_left _ hpos.le
  have hround : n ≤ roundHalfEven (x / spacing x) := by
    apply le_roundHalfEven
    rw [le_div_iff₀ hpos, mul_comm]
    exact h
  exact_mod_cast hround

theorem zpow_log_le {x : ℚ} (hx : 0 < x) : (2 : ℚ) ^ Int.log 2 x ≤ x := by
  exact_mod_cast Int.zpow_log_le_self (b := 2) (by decide) hx

theorem lt_zpow_log (x : ℚ) : x < (2 : ℚ) ^ (Int.log 2 x + 1) := by
  exact_mod_cast Int.lt_zpow_succ_log_self (b := 2) (by decide) x

theorem power_multiple {x : ℚ} {k : ℤ} (h : lastBit x ≤ k) :
    ∃ n : ℤ, (2 : ℚ) ^ k = spacing x * n := by
  refine ⟨2 ^ (k - lastBit x).toNat, ?_⟩
  have hexp : (2 : ℚ) ^ (k - lastBit x).toNat = 2 ^ (k - lastBit x) := by
    rw [← zpow_natCast, Int.toNat_of_nonneg (by omega)]
  push_cast
  rw [hexp, spacing_eq, ← zpow_add₀ (by norm_num), add_sub_cancel]

theorem toFloat_mono {x y : ℚ} (hx : 0 ≤ x) (h : x ≤ y) : toFloat x ≤ toFloat y := by
  obtain rfl | hpos := hx.eq_or_lt
  · rw [toFloat_zero]
    exact toFloat_nonneg h
  · have hy : 0 < y := lt_of_lt_of_le hpos h
    have hlog : Int.log 2 |x| ≤ Int.log 2 |y| := by
      rw [abs_of_pos hpos, abs_of_pos hy]
      exact Int.log_mono_right hpos h
    by_cases hsame : lastBit x = lastBit y
    · have hspacing : spacing x = spacing y := by rw [spacing_eq, spacing_eq, hsame]
      rw [toFloat, toFloat, hspacing]
      apply mul_le_mul_of_nonneg_left _ (spacing_pos y).le
      exact_mod_cast roundHalfEven_mono (div_le_div_of_nonneg_right h (spacing_pos y).le)
    · -- A power of two stands between numbers of different size.
      rw [abs_of_pos hpos, abs_of_pos hy] at hlog
      have hbits : lastBit x < lastBit y := by
        rw [lastBit, lastBit, abs_of_pos hpos, abs_of_pos hy] at hsame ⊢
        omega
      rw [lastBit, lastBit, abs_of_pos hpos, abs_of_pos hy] at hbits
      have hbelow : x ≤ 2 ^ Int.log 2 y :=
        (lt_zpow_log x).le.trans (zpow_le_zpow_right₀ (by norm_num) (by omega))
      have habove := zpow_log_le hy
      have hx' : lastBit x ≤ Int.log 2 y := by
        rw [lastBit, abs_of_pos hpos]
        omega
      have hy' : lastBit y ≤ Int.log 2 y := by
        rw [lastBit, abs_of_pos hy]
        omega
      obtain ⟨n, hn⟩ := power_multiple hx'
      obtain ⟨m, hm⟩ := power_multiple hy'
      calc toFloat x ≤ 2 ^ Int.log 2 y := hn ▸ toFloat_le_multiple (hn ▸ hbelow)
        _ ≤ toFloat y := hm ▸ multiple_le_toFloat (hm ▸ habove)

theorem toFloat_le_natCast {x : ℚ} {n : Nat} (hx : 0 ≤ x) (h : x ≤ n) (hn : n < 2 ^ 53) :
    toFloat x ≤ n := by
  have hbits : lastBit x ≤ 0 := by
    rw [lastBit]
    obtain rfl | hpos := hx.eq_or_lt
    · rw [abs_zero, Int.log_zero_right]
      decide
    · have hsmall : x < (2 : ℚ) ^ (53 : ℤ) := lt_of_le_of_lt h (by exact_mod_cast hn)
      have hlog := (Int.lt_zpow_iff_log_lt (b := 2) (x := 53) (by decide) hpos).1
        (by exact_mod_cast hsmall)
      rw [abs_of_pos hpos]
      omega
  obtain ⟨m, hm⟩ := power_multiple hbits
  have hmultiple : (n : ℚ) = spacing x * (m * n : ℤ) := by
    rw [zpow_zero] at hm
    push_cast
    rw [← mul_assoc, ← hm, one_mul]
  rw [hmultiple] at h ⊢
  exact toFloat_le_multiple h

/-- A multiple of the least subnormal float. -/
def OnGrid (x : ℚ) : Prop := ∃ n : ℤ, x = 2 ^ (-1074 : ℤ) * n

theorem onGrid_zero : OnGrid 0 := ⟨0, by rw [Int.cast_zero, mul_zero]⟩

theorem OnGrid.add (hx : OnGrid x) (hy : OnGrid y) : OnGrid (x + y) := by
  obtain ⟨n, rfl⟩ := hx
  obtain ⟨m, rfl⟩ := hy
  exact ⟨n + m, by rw [Int.cast_add, mul_add]⟩

theorem OnGrid.sub (hx : OnGrid x) (hy : OnGrid y) : OnGrid (x - y) := by
  obtain ⟨n, rfl⟩ := hx
  obtain ⟨m, rfl⟩ := hy
  exact ⟨n - m, by rw [Int.cast_sub, mul_sub]⟩

theorem onGrid_toFloat (x : ℚ) : OnGrid (toFloat x) := by
  have hbits : -1074 ≤ lastBit x := le_max_right _ _
  refine ⟨2 ^ (lastBit x + 1074).toNat * roundHalfEven (x / spacing x), ?_⟩
  have hexp : (2 : ℚ) ^ (lastBit x + 1074).toNat = 2 ^ (lastBit x + 1074) := by
    rw [← zpow_natCast, Int.toNat_of_nonneg (by omega)]
  rw [Int.cast_mul, Int.cast_pow, Int.cast_ofNat]
  rw [hexp, ← mul_assoc, ← zpow_add₀ (by norm_num), toFloat, spacing_eq]
  congr 2
  omega

/-- Half the distance from 1 to the next float. -/
def roundoff : ℚ := 1 / 2 ^ 53

theorem toFloat_relative (hx : OnGrid x) : |toFloat x - x| ≤ roundoff * |x| := by
  by_cases hzero : x = 0
  · rw [hzero, toFloat_zero]
    norm_num
  · have hpos : 0 < |x| := abs_pos.2 hzero
    by_cases hbits : Int.log 2 |x| - 52 ≤ -1074
    · have hspacing : spacing x = 2 ^ (-1074 : ℤ) := by rw [spacing_eq, lastBit, max_eq_right hbits]
      obtain ⟨n, hn⟩ := hx
      have hdiv : x / spacing x = n := by
        rw [div_eq_iff (spacing_pos x).ne', hspacing, mul_comm]
        exact hn
      have hexact : toFloat x = x := by
        rw [toFloat, hdiv, roundHalfEven_intCast, hspacing]
        exact hn.symm
      rw [hexact, sub_self, abs_zero]
      exact mul_nonneg (by norm_num [roundoff]) hpos.le
    · have hspacing : spacing x = 2 ^ Int.log 2 |x| * 2 ^ (-52 : ℤ) := by
        rw [spacing_eq, lastBit, max_eq_left (by omega), ← zpow_add₀ (by norm_num)]
        rfl
      calc |toFloat x - x| ≤ spacing x / 2 := toFloat_error x
        _ = roundoff * 2 ^ Int.log 2 |x| := by
            rw [hspacing, roundoff]
            norm_num
            ring
        _ ≤ roundoff * |x| :=
            mul_le_mul_of_nonneg_left (zpow_log_le hpos) (by norm_num [roundoff])

theorem toFloat_abs_le (hx : OnGrid x) : |toFloat x| ≤ (1 + roundoff) * |x| := by
  have herror := toFloat_relative hx
  have htriangle := abs_add_le (toFloat x - x) x
  rw [sub_add_cancel] at htriangle
  linarith

theorem lost_le (hp : OnGrid p) (hq : OnGrid q) (hp₀ : 0 ≤ p) (hq₀ : 0 ≤ q) :
    |toFloat (toFloat (p - toFloat (p + q)) + q)| ≤ 4 * roundoff * (p + q) := by
  have hsum := toFloat_relative (hp.add hq)
  rw [abs_of_nonneg (add_nonneg hp₀ hq₀)] at hsum
  have hdiff := toFloat_relative (hp.sub (onGrid_toFloat (p + q)))
  have hlost := toFloat_abs_le ((onGrid_toFloat (p - toFloat (p + q))).add hq)
  have hu : roundoff = 1 / 2 ^ 53 := rfl
  generalize toFloat (p + q) = t at hsum hdiff hlost ⊢
  generalize toFloat (p - t) = d at hdiff hlost ⊢
  have hpt : |p - t| ≤ roundoff * (p + q) + q := by
    have htriangle := abs_add_le (p + q - t) (-q)
    rw [abs_neg, abs_of_nonneg hq₀, abs_sub_comm (p + q) t] at htriangle
    have he : p + q - t + -q = p - t := by ring
    rw [he] at htriangle
    linarith
  have hdq : |d + q| ≤ roundoff * |p - t| + roundoff * (p + q) := by
    have htriangle := abs_add_le (d - (p - t)) (p + q - t)
    have he : d - (p - t) + (p + q - t) = d + q := by ring
    rw [he, abs_sub_comm (p + q) t] at htriangle
    linarith
  rw [hu] at hpt hdq hlost ⊢
  generalize |p - t| = a at hpt hdq
  generalize |d + q| = b at hdq hlost
  norm_num at hpt hdq hlost ⊢
  linarith

/-- `t += x` for every float. -/
def naiveSum (total : ℚ) (xs : List ℚ) : ℚ := xs.foldl (fun t x => toFloat (t + x)) total

/-- What the compensation is up to after some additions. -/
structure Compensated (n : Nat) (total : ℚ × ℚ) : Prop where
  nonneg : 0 ≤ total.1
  grid : OnGrid total.1
  lostGrid : OnGrid total.2
  lost : |total.2| ≤ 8 * n * roundoff * total.1

theorem sumStep_compensated (h : Compensated n total) (hn : n ≤ 2 ^ 40) (hx : 0 ≤ x)
    (hgrid : OnGrid x) : Compensated (n + 1) (sumStep total x) := by
  obtain ⟨t, c⟩ := total
  obtain ⟨ht, htgrid, hcgrid, hc⟩ := h
  dsimp only at ht htgrid hcgrid hc
  have hsum := toFloat_relative (htgrid.add hgrid)
  rw [abs_of_nonneg (add_nonneg ht hx)] at hsum
  have hlost : ∃ lost, (sumStep (t, c) x).2 = toFloat (c + lost) ∧ OnGrid lost ∧
      |lost| ≤ 4 * roundoff * (t + x) := by
    rw [sumStep]
    dsimp only
    split
    · exact ⟨_, rfl, onGrid_toFloat _, lost_le htgrid hgrid ht hx⟩
    · refine ⟨_, rfl, onGrid_toFloat _, ?_⟩
      rw [add_comm t x]
      exact lost_le hgrid htgrid hx ht
  obtain ⟨lost, hsecond, hlostGrid, hlost⟩ := hlost
  refine ⟨toFloat_nonneg (add_nonneg ht hx), onGrid_toFloat _, hsecond ▸ onGrid_toFloat _, ?_⟩
  rw [hsecond]
  have hround := toFloat_abs_le (hcgrid.add hlostGrid)
  have htriangle := abs_add_le c lost
  have hfirst : (sumStep (t, c) x).1 = toFloat (t + x) := rfl
  rw [hfirst]
  have hlow := (abs_le.1 hsum).1
  have hn' : (n : ℚ) ≤ 2 ^ 40 := by exact_mod_cast hn
  have hn₀ : (0 : ℚ) ≤ n := Nat.cast_nonneg n
  have hu : 0 ≤ roundoff := by norm_num [roundoff]
  have hterms : |c + lost| ≤ (8 * n + 4) * roundoff * (t + x) := by
    have hgrow : 8 * n * roundoff * t ≤ 8 * n * roundoff * (t + x) :=
      mul_le_mul_of_nonneg_left (by linarith) (by positivity)
    linarith
  have hsmall : (1 + roundoff) * (8 * n + 4) ≤ 8 * (n + 1) * (1 - roundoff) := by
    rw [roundoff]
    linarith
  calc |toFloat (c + lost)| ≤ (1 + roundoff) * |c + lost| := hround
    _ ≤ (1 + roundoff) * ((8 * n + 4) * roundoff * (t + x)) :=
        mul_le_mul_of_nonneg_left hterms (by linarith)
    _ = (1 + roundoff) * (8 * n + 4) * (roundoff * (t + x)) := by ring
    _ ≤ 8 * (n + 1) * (1 - roundoff) * (roundoff * (t + x)) :=
        mul_le_mul_of_nonneg_right hsmall (mul_nonneg hu (by linarith))
    _ = 8 * (n + 1) * roundoff * ((1 - roundoff) * (t + x)) := by ring
    _ ≤ 8 * (n + 1) * roundoff * toFloat (t + x) :=
        mul_le_mul_of_nonneg_left (by linarith) (by positivity)
    _ = 8 * ((n + 1 : ℕ) : ℚ) * roundoff * toFloat (t + x) := by push_cast; ring

theorem foldl_compensated {xs : List ℚ} (h : Compensated n total) (hn : n + xs.length ≤ 2 ^ 40)
    (hx : ∀ x ∈ xs, 0 ≤ x ∧ OnGrid x) :
    Compensated (n + xs.length) (xs.foldl sumStep total) ∧
      (xs.foldl sumStep total).1 = naiveSum total.1 xs := by
  induction xs generalizing n total with
  | nil => exact ⟨h, rfl⟩
  | cons x xs ih =>
    rw [List.length_cons] at hn ⊢
    obtain ⟨hx₀, hgrid⟩ := hx x List.mem_cons_self
    have hstep := sumStep_compensated h (by omega) hx₀ hgrid
    obtain ⟨hrest, hfirst⟩ := ih hstep (by omega) fun y hy => hx y (List.mem_cons_of_mem _ hy)
    have hcount : n + (xs.length + 1) = n + 1 + xs.length := by omega
    rw [hcount, List.foldl_cons]
    exact ⟨hrest, hfirst⟩

theorem naiveSum_nonneg {xs : List ℚ} (hx : ∀ x ∈ xs, 0 ≤ x) (ht : 0 ≤ total) :
    0 ≤ naiveSum total xs := by
  induction xs generalizing total with
  | nil => exact ht
  | cons x xs ih =>
    exact ih (fun y hy => hx y (List.mem_cons_of_mem _ hy))
      (toFloat_nonneg (add_nonneg ht (hx x List.mem_cons_self)))

theorem naiveSum_mono {xs ys : List ℚ} (h : List.Forall₂ (fun x y => 0 ≤ x ∧ x ≤ y) xs ys)
    (ht : 0 ≤ t) (htu : t ≤ u) : naiveSum t xs ≤ naiveSum u ys := by
  induction h generalizing t u with
  | nil => exact htu
  | cons hxy _ ih =>
    exact ih (toFloat_nonneg (add_nonneg ht hxy.1))
      (toFloat_mono (add_nonneg ht hxy.1) (add_le_add htu hxy.2))

theorem naiveSum_le {total : ℚ} {xs : List ℚ} {bound n : Nat} (hx : ∀ x ∈ xs, 0 ≤ x ∧ x ≤ bound)
    (ht : 0 ≤ total) (htn : total ≤ n) (hn : n + xs.length * bound < 2 ^ 53) :
    naiveSum total xs ≤ (n + xs.length * bound : Nat) := by
  induction xs generalizing total n with
  | nil =>
    rw [List.length_nil, Nat.zero_mul, Nat.add_zero]
    exact htn
  | cons x xs ih =>
    obtain ⟨hx₀, hbound⟩ := hx x List.mem_cons_self
    have hcount : n + (xs.length + 1) * bound = (n + bound) + xs.length * bound := by ring
    rw [List.length_cons, hcount] at hn ⊢
    have hsum : toFloat (total + x) ≤ (n + bound : Nat) := by
      apply toFloat_le_natCast (add_nonneg ht hx₀) _ (lt_of_le_of_lt (Nat.le_add_right _ _) hn)
      rw [Nat.cast_add]
      exact add_le_add htn hbound
    exact ih (fun y hy => hx y (List.mem_cons_of_mem _ hy)) (toFloat_nonneg (add_nonneg ht hx₀))
      hsum hn

theorem floatSum_close {xs : List ℚ} (hn : xs.length ≤ 2 ^ 10) (hx : ∀ x ∈ xs, 0 ≤ x ∧ OnGrid x) :
    (1 - 1 / 2 ^ 30) * naiveSum 0 xs ≤ floatSum xs ∧
      floatSum xs ≤ (1 + 1 / 2 ^ 30) * naiveSum 0 xs := by
  have hstart : Compensated 0 (0, 0) :=
    ⟨le_rfl, onGrid_zero, onGrid_zero, by rw [abs_zero, mul_zero]⟩
  obtain ⟨⟨hnonneg, hgrid, hlostGrid, hlost⟩, hfirst⟩ := foldl_compensated hstart (by omega) hx
  rw [floatSum]
  generalize xs.foldl sumStep (0, 0) = total at hnonneg hgrid hlostGrid hlost hfirst
  rw [hfirst] at hnonneg hgrid hlost ⊢
  have hround := toFloat_relative (hgrid.add hlostGrid)
  generalize naiveSum 0 xs = s at hnonneg hgrid hlost hround ⊢
  have hn' : (xs.length : ℚ) ≤ 2 ^ 10 := by exact_mod_cast hn
  have hbound : |total.2| ≤ 1 / 2 ^ 40 * s := by
    apply hlost.trans
    apply mul_le_mul_of_nonneg_right _ hnonneg
    rw [roundoff, Nat.zero_add]
    linarith
  have hlow := (abs_le.1 hbound).1
  have hhigh := (abs_le.1 hbound).2
  have hsum : |s + total.2| ≤ 2 * s := by
    rw [abs_le]
    constructor
    · linarith
    · linarith
  have herror : |toFloat (s + total.2) - (s + total.2)| ≤ 1 / 2 ^ 52 * s := by
    apply hround.trans
    rw [roundoff]
    linarith
  have hdown := (abs_le.1 herror).1
  have hup := (abs_le.1 herror).2
  constructor
  · linarith
  · linarith

theorem roundDigits_mono {x y : ℚ} (hx : 0 ≤ x) (h : x ≤ y) (digits : Nat) :
    roundDigits x digits ≤ roundDigits y digits := by
  have hpow : (0 : ℚ) < 10 ^ digits := by positivity
  have hround : 0 ≤ roundHalfEven (x * 10 ^ digits) := by
    apply le_roundHalfEven
    exact_mod_cast mul_nonneg hx hpow.le
  apply toFloat_mono
  · exact div_nonneg (by exact_mod_cast hround) hpow.le
  · apply div_le_div_of_nonneg_right _ hpow.le
    exact_mod_cast roundHalfEven_mono (mul_le_mul_of_nonneg_right h hpow.le)

theorem roundDigits_nonneg {x : ℚ} (hx : 0 ≤ x) (digits : Nat) : 0 ≤ roundDigits x digits := by
  have hzero : roundDigits 0 digits = 0 := by
    have hround : roundHalfEven 0 = 0 := by exact_mod_cast roundHalfEven_intCast 0
    rw [roundDigits, zero_mul, hround, Int.cast_zero, zero_div, toFloat_zero]
  rw [← hzero]
  exact roundDigits_mono le_rfl hx digits

/-- A quotient of sums of the same floats does not exceed 1 once it is rounded to eight digits. -/
theorem roundDigits_ratio {earned available : ℚ} (hearned : 0 ≤ earned) (havailable : 0 < available)
    (h : (1 - 1 / 2 ^ 30) * earned ≤ available) :
    0 ≤ roundDigits (toFloat (earned / available)) 8 ∧
      roundDigits (toFloat (earned / available)) 8 ≤ 1 := by
  have hratio : 0 ≤ earned / available := div_nonneg hearned havailable.le
  have hbound : earned / available ≤ 1 + 1 / 2 ^ 29 := by
    rw [div_le_iff₀ havailable]
    norm_num at h ⊢
    linarith
  have hround : roundDigits (toFloat (1 + 1 / 2 ^ 29)) 8 = 1 := by decide +kernel
  refine ⟨roundDigits_nonneg (toFloat_nonneg hratio) 8, ?_⟩
  rw [← hround]
  exact roundDigits_mono (toFloat_nonneg hratio) (toFloat_mono hratio hbound) 8

end Python
