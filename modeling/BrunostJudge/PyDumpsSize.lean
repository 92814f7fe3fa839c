import BrunostJudge.FloatBounds
import BrunostJudge.PyEncoding

namespace Python
set_option autoImplicit true

theorem decimal_length_le {n k : Nat} (hk : 0 < k) (h : n < 10 ^ k) : (decimal n).length ≤ k := by
  rw [decimal, List.length_map]
  exact (Nat.length_toDigits_le_iff (by decide) hk).2 h

theorem decimalDigits_length_le {n k : Nat} (hk : 0 < k) (h : n < 10 ^ k) :
    (decimalDigits n).length ≤ k := by
  rw [decimalDigits, List.length_map]
  exact (Nat.length_toDigits_le_iff (by decide) hk).2 h

theorem digitsValue_lt (digits : List (Fin 10)) : digitsValue digits < 10 ^ digits.length := by
  have hfold : ∀ (l : List (Fin 10)) (n : Nat),
      l.foldl (fun n d => 10 * n + d.val) n < (n + 1) * 10 ^ l.length := by
    intro l
    induction l with
    | nil =>
      intro n
      exact Nat.lt_of_lt_of_eq (Nat.lt_succ_self n) (Nat.mul_one _).symm
    | cons d l ih =>
      intro n
      have hd := d.isLt
      calc (d :: l).foldl (fun n d => 10 * n + d.val) n
        _ < (10 * n + d.val + 1) * 10 ^ l.length := ih _
        _ ≤ (10 * n + 10) * 10 ^ l.length := Nat.mul_le_mul_right _ (by omega)
        _ = (n + 1) * 10 ^ (d :: l).length := by
            rw [List.length_cons, Nat.pow_succ']
            ring
  have hall := hfold digits 0
  rwa [Nat.zero_add, Nat.one_mul] at hall

/-- The digits of a number are not more than were asked for, but for one that rounding adds. -/
theorem nearestDecimal_lt {x : ℚ} (digits : Nat) :
    (nearestDecimal x digits).1 < 10 ^ (digits + 1) := by
  have hlog : x < (10 : ℚ) ^ (Int.log 10 x + 1) := by
    exact_mod_cast Int.lt_zpow_succ_log_self (b := 10) (by decide) x
  have hpos : (0 : ℚ) < 10 ^ (Int.log 10 x - digits + 1) := zpow_pos (by norm_num) _
  have hscaled : x / 10 ^ (Int.log 10 x - digits + 1) ≤ ((10 ^ digits : ℤ) : ℚ) := by
    rw [div_le_iff₀ hpos, Int.cast_pow, Int.cast_ofNat, ← zpow_natCast, ← zpow_add₀ (by norm_num)]
    apply hlog.le.trans_eq
    congr 1
    omega
  have hround := roundHalfEven_le hscaled
  have hnat : (nearestDecimal x digits).1 ≤ 10 ^ digits := by
    rw [nearestDecimal, Int.toNat_le]
    exact_mod_cast hround
  exact Nat.lt_of_le_of_lt hnat (Nat.pow_lt_pow_right (by decide) (Nat.lt_succ_self _))

theorem shortestDecimal_eq (x : ℚ) :
    ∃ digits, 1 ≤ digits ∧ digits ≤ 17 ∧ shortestDecimal x = nearestDecimal x digits := by
  rw [shortestDecimal]
  cases hfind : ((List.range 17).map fun i => nearestDecimal x (i + 1)).find?
      fun d => decide (toFloat (d.1 * 10 ^ d.2) = x) with
  | none => exact ⟨17, by decide, le_rfl, rfl⟩
  | some d =>
    obtain ⟨i, hi, rfl⟩ := List.mem_map.1 (List.mem_of_find?_eq_some hfind)
    have hi := List.mem_range.1 hi
    exact ⟨i + 1, by omega, by omega, rfl⟩

theorem dropZeros_length_le (digits : List (Fin 10)) :
    (dropZeros digits).length ≤ digits.length := by
  rw [dropZeros, List.length_reverse]
  apply (List.dropWhile_sublist _).length_le.trans_eq
  exact List.length_reverse

theorem printFraction_length_le (digits : List (Fin 10)) :
    (printFraction digits).length ≤ digits.length + 1 := by
  cases digits with
  | nil => exact Nat.zero_le _
  | cons d digits => rw [printFraction, List.length_cons, List.length_map]

theorem pointZero_length_le (digits : List (Fin 10)) :
    (pointZero digits).length ≤ digits.length + 1 := by
  cases digits with
  | nil => exact le_rfl
  | cons d digits => exact Nat.le_succ _

theorem printExponent_length_le {e : ℤ} (h : e.natAbs < 1000) :
    (printExponent (some e)).length ≤ 6 := by
  have hdecimal : (decimal e.natAbs).length ≤ 3 := decimal_length_le (by decide) h
  rw [printExponent, List.length_cons, List.length_cons, exponentDigits]
  split
  · rw [List.length_cons]
    omega
  · omega

/-- The sizes of the floats that scores are made of. -/
def Moderate (x : ℚ) : Prop := x = 0 ∨ ((2 : ℚ) ^ (-1074 : ℤ) ≤ |x| ∧ |x| < 10 ^ 13)

theorem Moderate.log (h : Moderate x) (hx : x ≠ 0) :
    -324 ≤ Int.log 10 |x| ∧ Int.log 10 |x| ≤ 12 := by
  obtain h | ⟨hlow, hhigh⟩ := h
  · exact absurd h hx
  · have hpos : 0 < |x| := abs_pos.2 hx
    have hpow : (10 : ℚ) ^ (-324 : ℤ) ≤ 2 ^ (-1074 : ℤ) := by decide +kernel
    constructor
    · apply (Int.zpow_le_iff_le_log (b := 10) (by decide) hpos).1
      exact_mod_cast hpow.trans hlow
    · have hlt := (Int.lt_zpow_iff_log_lt (b := 10) (x := 13) (by decide) hpos).1
        (by exact_mod_cast hhigh)
      omega

theorem floatRepr_length_le (h : Moderate x) : (Number.float (floatRepr x)).print.length ≤ 45 := by
  have hsign : ∀ b, (printSign b).length ≤ 1 := by decide
  by_cases hx : x = 0
  · subst hx
    decide
  · obtain ⟨hlow, hhigh⟩ := h.log hx
    obtain ⟨k, hk, hk', hshortest⟩ := shortestDecimal_eq |x|
    have hexponent : (shortestDecimal |x|).2 = Int.log 10 |x| - k + 1 := by rw [hshortest]; rfl
    have hvalue : (shortestDecimal |x|).1 < 10 ^ 18 := by
      rw [hshortest]
      exact Nat.lt_of_lt_of_le (nearestDecimal_lt k) (Nat.pow_le_pow_right (by decide) (by omega))
    have hlength := decimalDigits_length_le (by decide) hvalue
    have hdropped := dropZeros_length_le (decimalDigits (shortestDecimal |x|).1)
    rw [floatRepr, if_neg hx]
    dsimp only
    split
    · next hrange =>
      rw [Number.print]
      simp only [List.length_append]
      apply (Nat.add_le_add (Nat.add_le_add (Nat.add_le_add (hsign _)
        (decimal_length_le (k := 16) (by decide) ?_)) (printFraction_length_le _)) le_rfl).trans
      · have hzeros := pointZero_length_le (List.replicate
          (-((decimalDigits (shortestDecimal |x|).1).length + (shortestDecimal |x|).2)).toNat 0 ++
          (dropZeros (decimalDigits (shortestDecimal |x|).1)).drop
            ((decimalDigits (shortestDecimal |x|).1).length + (shortestDecimal |x|).2).toNat)
        rw [List.length_append, List.length_replicate, List.length_drop] at hzeros
        have hnone : (printExponent none).length = 0 := rfl
        rw [hnone]
        omega
      · apply (digitsValue_lt _).trans_le
        apply Nat.pow_le_pow_right (by decide)
        rw [List.length_append, List.length_take, List.length_replicate]
        omega
    · next hrange =>
      rw [Number.print]
      simp only [List.length_append]
      apply (Nat.add_le_add (Nat.add_le_add (Nat.add_le_add (hsign _)
        (decimal_length_le (k := 1) (by decide) ?_)) (printFraction_length_le _))
        (printExponent_length_le (by rw [hexponent]; omega))).trans
      · rw [List.length_drop]
        omega
      · apply (digitsValue_lt _).trans_le
        apply Nat.pow_le_pow_right (by decide)
        rw [List.length_take]
        omega

theorem toFloat_moderate {x : ℚ} (hx : 0 ≤ x) (h : x ≤ 10 ^ 12) : Moderate (toFloat x) := by
  by_cases hzero : toFloat x = 0
  · exact .inl hzero
  · right
    have hnonneg := toFloat_nonneg hx
    rw [abs_of_nonneg hnonneg]
    constructor
    · obtain ⟨n, hn⟩ := onGrid_toFloat x
      have hpos : (0 : ℚ) < 2 ^ (-1074 : ℤ) := zpow_pos (by norm_num) _
      have hn₀ : 0 < n := by
        have hprod : 0 < (2 : ℚ) ^ (-1074 : ℤ) * n := hn ▸ lt_of_le_of_ne hnonneg (Ne.symm hzero)
        exact_mod_cast (mul_pos_iff_of_pos_left hpos).1 hprod
      have hone : (1 : ℚ) ≤ n := by exact_mod_cast hn₀
      rw [hn]
      exact le_mul_of_one_le_right hpos.le hone
    · have hbound : toFloat (10 ^ 12) < 10 ^ 13 := by decide +kernel
      exact (toFloat_mono hx h).trans_lt hbound

theorem roundDigits_moderate {x : ℚ} (hx : 0 ≤ x) (h : x ≤ 10 ^ 12) (digits : Nat) :
    Moderate (roundDigits x digits) := by
  have hpow : (0 : ℚ) < 10 ^ digits := by positivity
  apply toFloat_moderate
  · apply div_nonneg _ hpow.le
    have hround : 0 ≤ roundHalfEven (x * 10 ^ digits) := by
      apply le_roundHalfEven
      exact_mod_cast mul_nonneg hx hpow.le
    exact_mod_cast hround
  · rw [div_le_iff₀ hpow]
    have hround : roundHalfEven (x * 10 ^ digits) ≤ 10 ^ 12 * 10 ^ digits := by
      apply roundHalfEven_le
      push_cast
      exact mul_le_mul_of_nonneg_right h hpow.le
    exact_mod_cast hround

mutual

/-- A bound on the length of the text of a value, whatever the order of its keys. -/
def Json.weight : Json → Nat
  | .null => 4
  | .bool _ => 5
  | .num n => n.print.length
  | .str s => (printStr s).length
  | .arr items => 2 + Json.weightItems items
  | .obj fields => 2 + Json.weightFields fields

def Json.weightItems : List Json → Nat
  | [] => 0
  | x :: xs => 1 + x.weight + Json.weightItems xs

def Json.weightFields : List (PyStr × Json) → Nat
  | [] => 0
  | (k, x) :: fields => 2 + (printStr k).length + x.weight + Json.weightFields fields

end

mutual

theorem Json.print_length_le (a : Json) : a.print.length ≤ a.weight := by
  cases a with
  | null => decide
  | bool b =>
    cases b with
    | true => decide
    | false => decide
  | num n => exact le_rfl
  | str s => exact le_rfl
  | arr items =>
    cases items with
    | nil => decide
    | cons x xs =>
      have hx := Json.print_length_le x
      have hxs := Json.printItems_length_le xs
      rw [Json.print, Json.weight, Json.weightItems, List.length_cons, List.length_append]
      omega
  | obj fields =>
    cases fields with
    | nil => decide
    | cons f fields =>
      obtain ⟨k, x⟩ := f
      have hx := Json.print_length_le x
      have hfields := Json.printFields_length_le fields
      rw [Json.print, Json.weight, Json.weightFields, List.length_cons, List.length_append,
        List.length_cons, List.length_append]
      omega

theorem Json.printItems_length_le (items : List Json) :
    (Json.printItems items).length ≤ 1 + Json.weightItems items := by
  cases items with
  | nil => decide
  | cons x xs =>
    have hx := Json.print_length_le x
    have hxs := Json.printItems_length_le xs
    rw [Json.printItems, Json.weightItems, List.length_cons, List.length_append]
    omega

theorem Json.printFields_length_le (fields : Dict) :
    (Json.printFields fields).length ≤ 1 + Json.weightFields fields := by
  cases fields with
  | nil => decide
  | cons f fields =>
    obtain ⟨k, x⟩ := f
    have hx := Json.print_length_le x
    have hfields := Json.printFields_length_le fields
    rw [Json.printFields, Json.weightFields, List.length_cons, List.length_append,
      List.length_cons, List.length_append]
    omega

end

theorem Json.weightFields_eq (fields : Dict) : Json.weightFields fields =
    (fields.map fun f => 2 + (printStr f.1).length + f.2.weight).sum := by
  induction fields with
  | nil => rfl
  | cons f fields ih => rw [Json.weightFields, ih, List.map_cons, List.sum_cons]

mutual

theorem Json.sortKeys_weight (a : Json) : a.sortKeys.weight = a.weight := by
  cases a with
  | null => rfl
  | bool b => rfl
  | num n => rfl
  | str s => rfl
  | arr items =>
    rw [Json.sortKeys, Json.weight, Json.weight, Json.sortKeysItems_weight items]
  | obj fields =>
    rw [Json.sortKeys, Json.weight, Json.weight, ← Json.sortKeysFields_weight fields,
      Json.weightFields_eq, Json.weightFields_eq]
    exact congrArg (2 + ·) ((List.perm_insertionSort _ _).map _).sum_eq

theorem Json.sortKeysItems_weight (items : List Json) :
    Json.weightItems (Json.sortKeysItems items) = Json.weightItems items := by
  cases items with
  | nil => rfl
  | cons x xs =>
    rw [Json.sortKeysItems, Json.weightItems, Json.sortKeys_weight x, Json.sortKeysItems_weight xs,
      Json.weightItems]

theorem Json.sortKeysFields_weight (fields : Dict) :
    Json.weightFields (Json.sortKeysFields fields) = Json.weightFields fields := by
  cases fields with
  | nil => rfl
  | cons f fields =>
    obtain ⟨k, x⟩ := f
    rw [Json.sortKeysFields, Json.weightFields, Json.sortKeys_weight x,
      Json.sortKeysFields_weight fields, Json.weightFields]

end

theorem dumps_length_le (a : Json) : (dumps a).length ≤ a.weight :=
  (Json.print_length_le a.sortKeys).trans_eq (Json.sortKeys_weight a)

theorem utf8ByteSize_ofList_le (chars : List Char) :
    (String.ofList chars).utf8ByteSize ≤ 4 * chars.length := by
  induction chars with
  | nil => decide
  | cons c chars ih =>
    have hone : (String.ofList [c]).utf8ByteSize = c.utf8Size := by
      rw [← String.size_toByteArray, String.toByteArray_ofList, List.utf8Encode_singleton,
        List.size_toByteArray, String.length_utf8EncodeChar]
    have hfour := c.utf8Size_le_four
    rw [← List.singleton_append, String.ofList_append, String.utf8ByteSize_append, hone,
      List.length_append, List.length_singleton]
    omega

theorem encode?_size_le {p : PyStr} {encoded : String} (h : p.encode? = some encoded) :
    encoded.utf8ByteSize ≤ 4 * p.length := by
  have hchars := PyStr.ofString_of_encode? h
  have hlength : p.length = encoded.toList.length := by
    rw [← hchars, PyStr.ofString, List.length_map]
  have hsize := utf8ByteSize_ofList_le encoded.toList
  rw [String.ofList_toList] at hsize
  rw [hlength]
  exact hsize

theorem printStr_length {s : PyStr} (h : ∀ c ∈ s, CodePoint.isEscaped c = false) :
    (printStr s).length = s.length + 2 := by
  have hbody : s.flatMap escape = s := by
    induction s with
    | nil => rfl
    | cons c s ih =>
      rw [List.flatMap_cons, escape_of_not_escaped (h c List.mem_cons_self),
        ih fun d hd => h d (List.mem_cons_of_mem _ hd)]
      rfl
  rw [printStr, hbody, List.length_cons, List.length_append, List.length_singleton]

end Python
