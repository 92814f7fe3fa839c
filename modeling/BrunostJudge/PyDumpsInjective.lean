import BrunostJudge.PyCollections
import BrunostJudge.PyDumps

namespace Python
set_option autoImplicit true

theorem append_inj_of_class {p : α → Bool} {a b s t : List α} (ha : ∀ x ∈ a, p x)
    (hb : ∀ x ∈ b, p x) (hs : ∀ x ∈ s.head?, p x = false) (ht : ∀ x ∈ t.head?, p x = false)
    (h : a ++ s = b ++ t) : a = b ∧ s = t := by
  induction a generalizing b with
  | nil =>
    cases b with
    | nil => exact ⟨rfl, h⟩
    | cons y b =>
      have hhead : y ∈ s.head? := by
        rw [show s = y :: (b ++ t) from h]
        rfl
      cases (hs y hhead).symm.trans (hb y List.mem_cons_self)
  | cons x a ih =>
    cases b with
    | nil =>
      have hhead : x ∈ t.head? := by
        rw [show t = x :: (a ++ s) from h.symm]
        rfl
      cases (ht x hhead).symm.trans (ha x List.mem_cons_self)
    | cons y b =>
      obtain ⟨hxy, hrest⟩ := List.cons.inj h
      obtain ⟨hab, hst⟩ := ih (fun x hx => ha x (List.mem_cons_of_mem _ hx))
        (fun x hx => hb x (List.mem_cons_of_mem _ hx)) hrest
      exact ⟨by rw [hxy, hab], hst⟩

def CodePoint.isDigit (c : CodePoint) : Bool := 0x30 ≤ c.val && c.val ≤ 0x39

theorem decimal_isDigit (n : Nat) : ∀ c ∈ decimal n, c.isDigit := by
  intro c hc
  obtain ⟨d, hd, rfl⟩ := List.mem_map.1 hc
  have hdigit := Char.isDigit_iff_toNat.1 (Nat.isDigit_of_mem_toDigits (by decide) (by decide) hd)
  rw [CodePoint.isDigit, Bool.and_eq_true, decide_eq_true_eq, decide_eq_true_eq]
  exact hdigit

theorem decimal_ne_nil (n : Nat) : decimal n ≠ [] := by
  rw [decimal, ne_eq, List.map_eq_nil_iff]
  exact Nat.toDigits_ne_nil

/-- The value of a decimal text; leading zeros do not count. -/
def decimalValue (p : PyStr) : Nat := Nat.ofDigitChars 10 (p.filterMap CodePoint.toChar?) 0

theorem decimalValue_decimal (n : Nat) : decimalValue (decimal n) = n := by
  have hchars : (decimal n).filterMap CodePoint.toChar? = Nat.toDigits 10 n := by
    rw [decimal, List.filterMap_map, Function.comp_def]
    simp only [CodePoint.toChar?_ofChar, List.filterMap_some]
  rw [decimalValue, hchars]
  exact Nat.ofDigitChars_ten_toDigits

theorem decimal_inj (h : decimal m = decimal n) : m = n := by
  rw [← decimalValue_decimal m, h, decimalValue_decimal]

theorem decimalValue_exponentDigits (n : Nat) : decimalValue (exponentDigits n) = n := by
  rw [exponentDigits]
  split
  · exact decimalValue_decimal n
  · exact decimalValue_decimal n

theorem printExponent_inj (h : printExponent e = printExponent e') : e = e' := by
  cases e with
  | none =>
    cases e' with
    | none => rfl
    | some j => cases h
  | some i =>
    cases e' with
    | none => cases h
    | some j =>
      obtain ⟨hsign, hdigits⟩ := List.cons.inj (List.cons.inj h).2
      have habs : i.natAbs = j.natAbs := by
        rw [← decimalValue_exponentDigits i.natAbs, hdigits, decimalValue_exponentDigits]
      have hneg : i < 0 ↔ j < 0 := by
        by_cases hi : i < 0
        · by_cases hj : j < 0
          · simp [hi, hj]
          · rw [if_pos hi, if_neg hj] at hsign
            cases hsign
        · by_cases hj : j < 0
          · rw [if_neg hi, if_pos hj] at hsign
            cases hsign
          · simp [hi, hj]
      exact congrArg some (by omega)

theorem printFraction_inj (h : printFraction ds = printFraction es) : ds = es := by
  have hdigit : Function.Injective fun d : Fin 10 => (⟨0x30 + d.val, by omega⟩ : CodePoint) := by
    intro d e hde
    have hval := congrArg Fin.val hde
    exact Fin.ext (Nat.add_left_cancel hval)
  cases ds with
  | nil =>
    cases es with
    | nil => rfl
    | cons e es => cases h
  | cons d ds =>
    cases es with
    | nil => cases h
    | cons e es => exact List.map_injective_iff.2 hdigit (List.cons.inj h).2

theorem printFraction_mem (hc : c ∈ printFraction ds) : c = 0x2E ∨ c.isDigit := by
  cases ds with
  | nil => cases hc
  | cons d ds =>
    obtain hdot | hc := List.mem_cons.1 hc
    · exact .inl hdot
    · obtain ⟨e, _, rfl⟩ := List.mem_map.1 hc
      have hlt := e.isLt
      right
      rw [CodePoint.isDigit, Bool.and_eq_true, decide_eq_true_eq, decide_eq_true_eq]
      exact ⟨Nat.le_add_right 0x30 e.val, by change 0x30 + e.val ≤ 0x39; omega⟩

theorem printExponent_mem (hc : c ∈ printExponent e) :
    c = 0x65 ∨ c = 0x2D ∨ c = 0x2B ∨ c.isDigit := by
  have hdigits : ∀ n, ∀ d ∈ exponentDigits n, d.isDigit := by
    intro n d hd
    rw [exponentDigits] at hd
    split at hd
    · obtain hzero | hd := List.mem_cons.1 hd
      · rw [hzero]
        rfl
      · exact decimal_isDigit n d hd
    · exact decimal_isDigit n d hd
  cases e with
  | none => cases hc
  | some i =>
    obtain he | hc := List.mem_cons.1 hc
    · exact .inl he
    · obtain hsign | hc := List.mem_cons.1 hc
      · split at hsign
        · exact .inr (.inl hsign)
        · exact .inr (.inr (.inl hsign))
      · exact .inr (.inr (.inr (hdigits _ c hc)))

def Number.negative : Number → Bool
  | .int i => i < 0
  | .float x => x.negative
  | .nan => false
  | .inf negative => negative

/-- What a float writes after its whole part. -/
def FloatRepr.tail (x : FloatRepr) : PyStr := printFraction x.fraction ++ printExponent x.exponent

/-- The text of a number after its sign. -/
def Number.unsigned : Number → PyStr
  | .int i => decimal i.natAbs ++ []
  | .float x => decimal x.whole ++ x.tail
  | .nan => PyStr.ofString "NaN"
  | .inf _ => PyStr.ofString "Infinity"

theorem Number.print_eq (n : Number) : n.print = printSign n.negative ++ n.unsigned := by
  cases n with
  | int i => rw [Number.unsigned, List.append_nil, Number.negative, Number.print]
  | float x =>
    simp only [Number.print, Number.unsigned, Number.negative, FloatRepr.tail, List.append_assoc]
  | nan => rfl
  | inf negative => rfl

/-- The characters that start a number without its sign: digits, `I` and `N`. -/
def CodePoint.startsNumber (c : CodePoint) : Bool := c.isDigit || c.val = 0x49 || c.val = 0x4E

theorem decimal_append (n : Nat) (p : PyStr) : ∃ c q, decimal n ++ p = c :: q ∧ c.isDigit := by
  cases hd : decimal n with
  | nil => exact absurd hd (decimal_ne_nil n)
  | cons c q =>
    have hc : c ∈ decimal n := by
      rw [hd]
      exact List.mem_cons_self
    exact ⟨c, q ++ p, rfl, decimal_isDigit n c hc⟩

theorem Number.unsigned_cons (n : Number) : ∃ c p, n.unsigned = c :: p ∧ c.startsNumber := by
  have hdecimal : ∀ m p, ∃ c q, decimal m ++ p = c :: q ∧ c.startsNumber := by
    intro m p
    obtain ⟨c, q, hq, hc⟩ := decimal_append m p
    exact ⟨c, q, hq, by simp [CodePoint.startsNumber, hc]⟩
  cases n with
  | int i => exact hdecimal i.natAbs []
  | float x => exact hdecimal x.whole x.tail
  | nan => exact ⟨_, _, rfl, by decide⟩
  | inf negative => exact ⟨_, _, rfl, by decide⟩

theorem printSign_inj {n m : Number} (h : printSign b ++ n.unsigned = printSign c ++ m.unsigned) :
    b = c ∧ n.unsigned = m.unsigned := by
  obtain ⟨x, p, hp, hx⟩ := n.unsigned_cons
  obtain ⟨y, q, hq, hy⟩ := m.unsigned_cons
  cases b with
  | false =>
    cases c with
    | false => exact ⟨rfl, h⟩
    | true =>
      rw [hp] at h
      rw [show x = 0x2D from (List.cons.inj h).1] at hx
      cases hx
  | true =>
    cases c with
    | false =>
      rw [hq] at h
      rw [show y = 0x2D from (List.cons.inj h).1.symm] at hy
      cases hy
    | true => exact ⟨rfl, (List.cons.inj h).2⟩

theorem decimal_append_inj {p q : PyStr} (hp : ∀ c ∈ p.head?, c.isDigit = false)
    (hq : ∀ c ∈ q.head?, c.isDigit = false) (h : decimal m ++ p = decimal n ++ q) :
    m = n ∧ p = q := by
  obtain ⟨hd, hpq⟩ := append_inj_of_class (decimal_isDigit m) (decimal_isDigit n) hp hq h
  exact ⟨decimal_inj hd, hpq⟩

theorem decimal_append_ne {p q : PyStr} (hc : CodePoint.isDigit c = false) :
    decimal n ++ p ≠ c :: q := by
  intro h
  obtain ⟨d, r, hr, hd⟩ := decimal_append n p
  rw [hr] at h
  cases (List.cons.inj h).1
  cases hd.symm.trans hc

theorem FloatRepr.tail_head (x : FloatRepr) : ∀ c ∈ x.tail.head?, c.isDigit = false := by
  intro c hc
  obtain ⟨negative, whole, fraction, exponent, hmarked⟩ := x
  cases fraction with
  | cons d ds =>
    cases hc
    rfl
  | nil =>
    cases exponent with
    | none => cases hc
    | some e =>
      cases hc
      rfl

theorem FloatRepr.tail_ne_nil (x : FloatRepr) : x.tail ≠ [] := by
  obtain ⟨negative, whole, fraction, exponent, hmarked⟩ := x
  intro h
  obtain ⟨hfraction, hexponent⟩ := List.append_eq_nil_iff.1 h
  obtain hmarked | hmarked := hmarked
  · exact hmarked (printFraction_inj (hfraction.trans (show [] = printFraction [] from rfl)))
  · exact hmarked (printExponent_inj (hexponent.trans (show [] = printExponent none from rfl)))

theorem FloatRepr.tail_inj {x y : FloatRepr} (h : x.tail = y.tail) :
    x.fraction = y.fraction ∧ x.exponent = y.exponent := by
  -- The `e` of the exponent is the first character that is neither a digit nor the point.
  have hclass : ∀ ds, ∀ c ∈ printFraction ds, (decide (c = 0x2E) || c.isDigit) = true := by
    intro ds c hc
    simpa using printFraction_mem hc
  have hexponent : ∀ e, ∀ c ∈ (printExponent e).head?,
      (decide (c = 0x2E) || c.isDigit) = false := by
    intro e c hc
    cases e with
    | none => cases hc
    | some i =>
      cases hc
      rfl
  obtain ⟨hf, he⟩ := append_inj_of_class (hclass _) (hclass _) (hexponent _) (hexponent _) h
  exact ⟨printFraction_inj hf, printExponent_inj he⟩

theorem Number.unsigned_inj {n m : Number} (hnegative : n.negative = m.negative)
    (h : n.unsigned = m.unsigned) : n = m := by
  have hnil : ∀ c ∈ ([] : PyStr).head?, c.isDigit = false := by
    intro c hc
    cases hc
  cases n with
  | int i =>
    cases m with
    | int j =>
      have habs := (decimal_append_inj hnil hnil h).1
      have hsign : i < 0 ↔ j < 0 := by simpa [Number.negative] using hnegative
      exact congrArg Number.int (by omega)
    | float y => exact absurd (decimal_append_inj hnil y.tail_head h).2.symm y.tail_ne_nil
    | nan => exact absurd h (decimal_append_ne (by decide))
    | inf b => exact absurd h (decimal_append_ne (by decide))
  | float x =>
    cases m with
    | int j => exact absurd (decimal_append_inj x.tail_head hnil h).2 x.tail_ne_nil
    | float y =>
      obtain ⟨hwhole, htail⟩ := decimal_append_inj x.tail_head y.tail_head h
      obtain ⟨hfraction, hexponent⟩ := FloatRepr.tail_inj htail
      cases x
      cases y
      cases hnegative
      cases hwhole
      cases hfraction
      cases hexponent
      rfl
    | nan => exact absurd h (decimal_append_ne (by decide))
    | inf b => exact absurd h (decimal_append_ne (by decide))
  | nan =>
    cases m with
    | int j => exact absurd h.symm (decimal_append_ne (by decide))
    | float y => exact absurd h.symm (decimal_append_ne (by decide))
    | nan => rfl
    | inf b => cases (List.cons.inj h).1
  | inf b =>
    cases m with
    | int j => exact absurd h.symm (decimal_append_ne (by decide))
    | float y => exact absurd h.symm (decimal_append_ne (by decide))
    | nan => cases (List.cons.inj h).1
    | inf c => exact congrArg Number.inf hnegative

theorem Number.print_inj {n m : Number} (h : n.print = m.print) : n = m := by
  rw [n.print_eq, m.print_eq] at h
  obtain ⟨hnegative, hunsigned⟩ := printSign_inj h
  exact Number.unsigned_inj hnegative hunsigned

/-- The controls, `"` and the backslash. -/
def CodePoint.isEscaped (c : CodePoint) : Bool := c.val < 0x20 || c.val = 0x22 || c.val = 0x5C

theorem escaped_mem (hc : CodePoint.isEscaped c) :
    c ∈ (List.range 0x20 ++ [0x22, 0x5C]).map (Fin.ofNat 0x110000) := by
  simp only [CodePoint.isEscaped, Bool.or_eq_true, decide_eq_true_eq] at hc
  refine List.mem_map.2 ⟨c.val, ?_, Fin.ext (Nat.mod_eq_of_lt c.isLt)⟩
  obtain (hcontrol | hquote) | hbackslash := hc
  · exact List.mem_append_left _ (List.mem_range.2 hcontrol)
  · rw [hquote]
    decide
  · rw [hbackslash]
    decide

theorem escape_of_escaped (hc : CodePoint.isEscaped c) : ∃ p, escape c = 0x5C :: p := by
  have hall : (((List.range 0x20 ++ [0x22, 0x5C]).map (Fin.ofNat 0x110000)).all fun c =>
      (escape c).head? == some 0x5C) = true := by decide +kernel
  have hhead := eq_of_beq (List.all_eq_true.1 hall c (escaped_mem hc))
  cases he : escape c with
  | nil =>
    rw [he] at hhead
    cases hhead
  | cons x p =>
    rw [he] at hhead
    cases hhead
    exact ⟨p, rfl⟩

theorem escape_of_not_escaped (hc : CodePoint.isEscaped c = false) : escape c = [c] := by
  have hcontrol : ¬c < 0x20 := by
    intro hlt
    rw [CodePoint.isEscaped, decide_eq_true (show c.val < 0x20 from hlt)] at hc
    cases hc
  have hne : ∀ d : CodePoint, d.isEscaped → c ≠ d := by
    rintro d hd rfl
    cases hd.symm.trans hc
  rw [escape, if_neg (hne _ (by decide)), if_neg (hne _ (by decide)), if_neg (hne _ (by decide)),
    if_neg (hne _ (by decide)), if_neg (hne _ (by decide)), if_neg (hne _ (by decide)),
    if_neg (hne _ (by decide)), if_neg hcontrol]

theorem escape_prefix_free (hc : CodePoint.isEscaped c) (hd : CodePoint.isEscaped d)
    (h : escape c <+: escape d) : c = d := by
  have hall : (((List.range 0x20 ++ [0x22, 0x5C]).map (Fin.ofNat 0x110000)).all fun c =>
      ((List.range 0x20 ++ [0x22, 0x5C]).map (Fin.ofNat 0x110000)).all fun d =>
        !(escape c).isPrefixOf (escape d) || decide (c = d)) = true := by decide +kernel
  have hcd := List.all_eq_true.1 (List.all_eq_true.1 hall c (escaped_mem hc)) d (escaped_mem hd)
  rw [List.isPrefixOf_iff_prefix.2 h] at hcd
  simpa using hcd

theorem escape_append_inj (h : escape c ++ p = escape d ++ q) : c = d ∧ p = q := by
  have hcd : c = d := by
    cases hc : c.isEscaped with
    | true =>
      cases hd : d.isEscaped with
      | true =>
        obtain hpre | hpre := List.prefix_or_prefix_of_prefix
          (h ▸ List.prefix_append (escape c) p) (List.prefix_append (escape d) q)
        · exact escape_prefix_free hc hd hpre
        · exact (escape_prefix_free hd hc hpre).symm
      | false =>
        obtain ⟨r, hr⟩ := escape_of_escaped hc
        rw [hr, escape_of_not_escaped hd] at h
        rw [← (List.cons.inj h).1] at hd
        cases hd
    | false =>
      cases hd : d.isEscaped with
      | true =>
        obtain ⟨r, hr⟩ := escape_of_escaped hd
        rw [hr, escape_of_not_escaped hc] at h
        rw [(List.cons.inj h).1] at hc
        cases hc
      | false =>
        rw [escape_of_not_escaped hc, escape_of_not_escaped hd] at h
        exact (List.cons.inj h).1
  rw [hcd] at h
  exact ⟨hcd, List.append_cancel_left h⟩

theorem escape_ne_quote : escape c ++ p ≠ 0x22 :: q := by
  intro h
  cases hc : c.isEscaped with
  | true =>
    obtain ⟨r, hr⟩ := escape_of_escaped hc
    rw [hr] at h
    cases (List.cons.inj h).1
  | false =>
    rw [escape_of_not_escaped hc] at h
    rw [(List.cons.inj h).1] at hc
    cases hc

theorem printStr_append_inj {a b s t : PyStr} (h : printStr a ++ s = printStr b ++ t) :
    a = b ∧ s = t := by
  have hbody : a.flatMap escape ++ 0x22 :: s = b.flatMap escape ++ 0x22 :: t := by
    simpa [printStr] using h
  clear h
  induction a generalizing b with
  | nil =>
    cases b with
    | nil => exact ⟨rfl, (List.cons.inj hbody).2⟩
    | cons d b =>
      rw [List.flatMap_cons, List.append_assoc] at hbody
      exact absurd hbody.symm escape_ne_quote
  | cons c a ih =>
    rw [List.flatMap_cons, List.append_assoc] at hbody
    cases b with
    | nil => exact absurd hbody escape_ne_quote
    | cons d b =>
      rw [List.flatMap_cons, List.append_assoc] at hbody
      obtain ⟨hcd, hrest⟩ := escape_append_inj hbody
      obtain ⟨hab, hst⟩ := ih hrest
      exact ⟨by rw [hcd, hab], hst⟩

/-- Which kind of value starts with a character, 6 for none. -/
def CodePoint.kind (c : CodePoint) : Nat :=
  if c.val = 0x6E then 0
  else if c.val = 0x74 ∨ c.val = 0x66 then 1
  else if c.val = 0x2D ∨ c.startsNumber then 2
  else if c.val = 0x22 then 3
  else if c.val = 0x5B then 4
  else if c.val = 0x7B then 5
  else 6

def Json.kind : Json → Nat
  | .null => 0
  | .bool _ => 1
  | .num _ => 2
  | .str _ => 3
  | .arr _ => 4
  | .obj _ => 5

theorem CodePoint.kind_startsNumber {c : CodePoint} (hc : c.startsNumber) : c.kind = 2 := by
  have hval : (0x30 ≤ c.val ∧ c.val ≤ 0x39 ∨ c.val = 0x49) ∨ c.val = 0x4E := by
    simpa [CodePoint.startsNumber, CodePoint.isDigit] using hc
  rw [CodePoint.kind, if_neg (by omega), if_neg (by omega), if_pos (.inr hc)]

theorem Json.print_cons (a : Json) : ∃ c p, a.print = c :: p ∧ c.kind = a.kind := by
  cases a with
  | null => exact ⟨_, _, rfl, rfl⟩
  | bool b => cases b <;> exact ⟨_, _, rfl, rfl⟩
  | num n =>
    rw [Json.print, n.print_eq]
    cases n.negative with
    | true => exact ⟨_, _, rfl, rfl⟩
    | false =>
      obtain ⟨c, p, hp, hc⟩ := n.unsigned_cons
      exact ⟨c, p, hp, CodePoint.kind_startsNumber hc⟩
  | str s => exact ⟨_, _, rfl, rfl⟩
  | arr items => cases items <;> exact ⟨_, _, rfl, rfl⟩
  | obj fields => cases fields <;> exact ⟨_, _, rfl, rfl⟩

theorem Json.print_kind {a b : Json} (h : a.print ++ s = b.print ++ t) : a.kind = b.kind := by
  obtain ⟨c, p, hp, hc⟩ := a.print_cons
  obtain ⟨d, q, hq, hd⟩ := b.print_cons
  rw [hp, hq] at h
  rw [← hc, ← hd, (List.cons.inj h).1]

theorem Json.print_append_ne {a : Json} (hc : CodePoint.kind c = 6) : a.print ++ s ≠ c :: t := by
  intro h
  obtain ⟨d, p, hp, hd⟩ := a.print_cons
  rw [hp] at h
  rw [(List.cons.inj h).1, hc] at hd
  cases a <;> cases hd

/-- What may follow a value: the end, a comma or a closing bracket. -/
def CodePoint.delimits (c : CodePoint) : Bool := c.val = 0x2C || c.val = 0x5D || c.val = 0x7D

def Ends (s : PyStr) : Prop := ∀ c ∈ s.head?, c.delimits = true

theorem CodePoint.delimits_digit {c : CodePoint} (hc : c.isDigit) : c.delimits = false := by
  have hval : 0x30 ≤ c.val ∧ c.val ≤ 0x39 := by simpa [CodePoint.isDigit] using hc
  rw [CodePoint.delimits, decide_eq_false (by omega), decide_eq_false (by omega),
    decide_eq_false (by omega)]
  rfl

theorem FloatRepr.tail_delimits (x : FloatRepr) : ∀ c ∈ x.tail, c.delimits = false := by
  intro c hc
  obtain hc | hc := List.mem_append.1 hc
  · obtain hdot | hdigit := printFraction_mem hc
    · rw [hdot]
      rfl
    · exact CodePoint.delimits_digit hdigit
  · obtain he | hminus | hplus | hdigit := printExponent_mem hc
    · rw [he]
      rfl
    · rw [hminus]
      rfl
    · rw [hplus]
      rfl
    · exact CodePoint.delimits_digit hdigit

theorem Number.print_delimits (n : Number) : ∀ c ∈ n.print, c.delimits = false := by
  have hdecimal : ∀ m, ∀ c ∈ decimal m, c.delimits = false := by
    intro m c hc
    exact CodePoint.delimits_digit (decimal_isDigit m c hc)
  have hword : ∀ p : PyStr, (p.all fun c => !c.delimits) = true → ∀ c ∈ p, c.delimits = false := by
    intro p hp c hc
    simpa using List.all_eq_true.1 hp c hc
  intro c hc
  rw [n.print_eq, List.mem_append] at hc
  obtain hc | hc := hc
  · cases hsign : n.negative with
    | false =>
      rw [hsign] at hc
      cases hc
    | true =>
      rw [hsign] at hc
      exact hword _ (by decide) c hc
  · cases n with
    | int i =>
      rw [Number.unsigned, List.append_nil] at hc
      exact hdecimal _ c hc
    | float x =>
      obtain hc | hc := List.mem_append.1 hc
      · exact hdecimal _ c hc
      · exact x.tail_delimits c hc
    | nan => exact hword _ rfl c hc
    | inf b => exact hword _ rfl c hc

theorem Number.print_append_inj {n m : Number} (hs : Ends s) (ht : Ends t)
    (h : n.print ++ s = m.print ++ t) : n = m ∧ s = t := by
  have hclass : ∀ n : Number, ∀ c ∈ n.print, !c.delimits := by
    intro n c hc
    rw [n.print_delimits c hc]
    rfl
  have hends : ∀ s, Ends s → ∀ c ∈ s.head?, (!c.delimits) = false := by
    intro s hs c hc
    rw [hs c hc]
    rfl
  obtain ⟨hprint, hst⟩ := append_inj_of_class (hclass n) (hclass m) (hends s hs) (hends t ht) h
  exact ⟨Number.print_inj hprint, hst⟩

theorem Json.printItems_ends (items : List Json) (s : PyStr) :
    Ends (Json.printItems items ++ s) := by
  intro c hc
  cases items with
  | nil =>
    cases hc
    rfl
  | cons x xs =>
    cases hc
    rfl

theorem Json.printFields_ends (fields : Dict) (s : PyStr) :
    Ends (Json.printFields fields ++ s) := by
  intro c hc
  cases fields with
  | nil =>
    cases hc
    rfl
  | cons f fields =>
    cases hc
    rfl

mutual

theorem Json.print_append_inj (a b : Json) (hs : Ends s) (ht : Ends t)
    (h : a.print ++ s = b.print ++ t) : a = b ∧ s = t := by
  have hkind := Json.print_kind h
  cases a with
  | null =>
    cases b <;> cases hkind
    exact ⟨rfl, List.append_cancel_left h⟩
  | bool x =>
    cases b <;> cases hkind
    next y =>
    cases x <;> cases y
    · exact ⟨rfl, List.append_cancel_left h⟩
    · cases (List.cons.inj h).1
    · cases (List.cons.inj h).1
    · exact ⟨rfl, List.append_cancel_left h⟩
  | num n =>
    cases b <;> cases hkind
    next m =>
    obtain ⟨hnm, hst⟩ := Number.print_append_inj hs ht h
    exact ⟨by rw [hnm], hst⟩
  | str x =>
    cases b <;> cases hkind
    next y =>
    obtain ⟨hxy, hst⟩ := printStr_append_inj h
    exact ⟨by rw [hxy], hst⟩
  | arr items =>
    cases b <;> cases hkind
    next items' =>
    cases items with
    | nil =>
      cases items' with
      | nil => exact ⟨rfl, List.append_cancel_left h⟩
      | cons y ys =>
        simp only [Json.print, List.cons_append, List.append_assoc, List.cons.injEq, true_and] at h
        exact absurd h.symm (Json.print_append_ne (by decide))
    | cons x xs =>
      cases items' with
      | nil =>
        simp only [Json.print, List.cons_append, List.append_assoc, List.cons.injEq, true_and] at h
        exact absurd h (Json.print_append_ne (by decide))
      | cons y ys =>
        simp only [Json.print, List.cons_append, List.append_assoc, List.cons.injEq, true_and] at h
        obtain ⟨hxy, hrest⟩ := Json.print_append_inj x y (Json.printItems_ends xs s)
          (Json.printItems_ends ys t) h
        obtain ⟨hxys, hst⟩ := Json.printItems_append_inj xs ys hrest
        exact ⟨by rw [hxy, hxys], hst⟩
  | obj fields =>
    cases b <;> cases hkind
    next fields' =>
    cases fields with
    | nil =>
      cases fields' with
      | nil => exact ⟨rfl, List.append_cancel_left h⟩
      | cons g ys => cases (List.cons.inj (List.cons.inj h).2).1
    | cons f xs =>
      cases fields' with
      | nil => cases (List.cons.inj (List.cons.inj h).2).1
      | cons g ys =>
        obtain ⟨k, x⟩ := f
        obtain ⟨l, y⟩ := g
        simp only [Json.print, List.cons_append, List.append_assoc, List.cons.injEq, true_and] at h
        obtain ⟨hkl, h⟩ := printStr_append_inj h
        obtain ⟨hxy, hrest⟩ := Json.print_append_inj x y (Json.printFields_ends xs s)
          (Json.printFields_ends ys t) (List.cons.inj h).2
        obtain ⟨hxys, hst⟩ := Json.printFields_append_inj xs ys hrest
        exact ⟨by rw [hkl, hxy, hxys], hst⟩

theorem Json.printItems_append_inj (xs ys : List Json)
    (h : Json.printItems xs ++ s = Json.printItems ys ++ t) : xs = ys ∧ s = t := by
  cases xs with
  | nil =>
    cases ys with
    | nil => exact ⟨rfl, (List.cons.inj h).2⟩
    | cons y ys => cases (List.cons.inj h).1
  | cons x xs =>
    cases ys with
    | nil => cases (List.cons.inj h).1
    | cons y ys =>
      simp only [Json.printItems, List.cons_append, List.append_assoc, List.cons.injEq,
        true_and] at h
      obtain ⟨hxy, hrest⟩ := Json.print_append_inj x y (Json.printItems_ends xs s)
        (Json.printItems_ends ys t) h
      obtain ⟨hxys, hst⟩ := Json.printItems_append_inj xs ys hrest
      exact ⟨by rw [hxy, hxys], hst⟩

theorem Json.printFields_append_inj (xs ys : Dict)
    (h : Json.printFields xs ++ s = Json.printFields ys ++ t) : xs = ys ∧ s = t := by
  cases xs with
  | nil =>
    cases ys with
    | nil => exact ⟨rfl, (List.cons.inj h).2⟩
    | cons g ys => cases (List.cons.inj h).1
  | cons f xs =>
    cases ys with
    | nil => cases (List.cons.inj h).1
    | cons g ys =>
      obtain ⟨k, x⟩ := f
      obtain ⟨l, y⟩ := g
      simp only [Json.printFields, List.cons_append, List.append_assoc, List.cons.injEq,
        true_and] at h
      obtain ⟨hkl, h⟩ := printStr_append_inj h
      obtain ⟨hxy, hrest⟩ := Json.print_append_inj x y (Json.printFields_ends xs s)
        (Json.printFields_ends ys t) (List.cons.inj h).2
      obtain ⟨hxys, hst⟩ := Json.printFields_append_inj xs ys hrest
      exact ⟨by rw [hkl, hxy, hxys], hst⟩

end

theorem dumps_inj {a b : Json} (h : dumps a = dumps b) : a.sortKeys = b.sortKeys := by
  have hnil : Ends [] := by
    intro c hc
    cases hc
  have hprint : a.sortKeys.print ++ [] = b.sortKeys.print ++ [] := congrArg (· ++ []) h
  exact (Json.print_append_inj _ _ hnil hnil hprint).1

theorem Json.sortKeysFields_eq (fields : Dict) :
    Json.sortKeysFields fields = fields.map fun f => (f.1, f.2.sortKeys) := by
  induction fields with
  | nil => rfl
  | cons f fields ih => rw [Json.sortKeysFields, ih, List.map_cons]

theorem Json.sortKeysItems_eq (items : List Json) :
    Json.sortKeysItems items = items.map Json.sortKeys := by
  induction items with
  | nil => rfl
  | cons x items ih => rw [Json.sortKeysItems, ih, List.map_cons]

/-- An object with its keys in order, on every level. -/
def Dict.sortKeys (d : Dict) : Dict :=
  (d.map fun f => (f.1, f.2.sortKeys)).insertionSort fun f g => f.1 ≤ g.1

theorem Json.sortKeys_obj (d : Dict) : (Json.obj d).sortKeys = .obj d.sortKeys := by
  rw [Json.sortKeys, Json.sortKeysFields_eq]
  rfl

theorem find?_orderedInsert (f : PyStr × Json) (d : Dict) (key : PyStr) :
    (d.orderedInsert (fun f g => f.1 ≤ g.1) f).find? (fun g => g.1 = key) =
      (f :: d).find? fun g => g.1 = key := by
  induction d with
  | nil => rfl
  | cons g d ih =>
    rw [List.orderedInsert]
    split
    · rfl
    · next hlt =>
      rw [List.find?_cons, ih]
      by_cases hg : g.1 = key
      · have hf : f.1 ≠ key := by
          intro hf
          rw [hf, hg] at hlt
          exact hlt le_rfl
        simp [hf, hg]
      · simp [List.find?_cons, hg]

theorem Dict.lookup?_sortKeys (d : Dict) (key : PyStr) :
    d.sortKeys.lookup? key = (d.lookup? key).map Json.sortKeys := by
  rw [Dict.sortKeys]
  induction d with
  | nil => rfl
  | cons f d ih =>
    simp only [Dict.lookup?, List.map_cons, List.insertionSort_cons, find?_orderedInsert,
      List.find?_cons] at ih ⊢
    by_cases hf : f.1 = key
    · simp [hf]
    · simpa [hf] using ih

theorem Dict.get_sortKeys (fields : Dict) (key : PyStr) :
    fields.sortKeys.get key = (fields.get key).sortKeys := by
  rw [Dict.get_eq, Dict.lookup?_sortKeys, Dict.get_eq]
  cases fields.lookup? key <;> rfl

theorem sortKeys_pairwise (fields : Dict) :
    (fields.insertionSort fun f g => f.1 ≤ g.1).Pairwise fun f g => f.1 ≤ g.1 :=
  haveI : Std.Total fun f g : PyStr × Json => f.1 ≤ g.1 := ⟨fun f g => le_total f.1 g.1⟩
  haveI : IsTrans (PyStr × Json) fun f g => f.1 ≤ g.1 := ⟨fun _ _ _ => le_trans⟩
  List.pairwise_insertionSort _ fields

mutual

theorem Json.sortKeys_sortKeys (a : Json) : a.sortKeys.sortKeys = a.sortKeys := by
  cases a with
  | null => rfl
  | bool b => rfl
  | num n => rfl
  | str s => rfl
  | arr items => rw [Json.sortKeys, Json.sortKeys, Json.sortKeysItems_sortKeys items]
  | obj fields =>
    have hsorted := Json.sortKeysFields_sortKeys fields
    rw [Json.sortKeysFields_eq] at hsorted
    have hmap := List.map_insertionSort (fun f g : PyStr × Json => f.1 ≤ g.1)
      (fun f g : PyStr × Json => f.1 ≤ g.1) (fun f => (f.1, f.2.sortKeys))
        (Json.sortKeysFields fields)
      (fun _ _ _ _ => Iff.rfl)
    rw [Json.sortKeys, Json.sortKeys, Json.sortKeysFields_eq, hmap, hsorted]
    exact congrArg Json.obj (sortKeys_pairwise _).insertionSort_eq

theorem Json.sortKeysItems_sortKeys (items : List Json) :
    Json.sortKeysItems (Json.sortKeysItems items) = Json.sortKeysItems items := by
  cases items with
  | nil => rfl
  | cons x xs =>
    rw [Json.sortKeysItems, Json.sortKeysItems, Json.sortKeys_sortKeys x,
      Json.sortKeysItems_sortKeys xs]

theorem Json.sortKeysFields_sortKeys (fields : Dict) :
    Json.sortKeysFields (Json.sortKeysFields fields) = Json.sortKeysFields fields := by
  cases fields with
  | nil => rfl
  | cons f fields =>
    obtain ⟨k, x⟩ := f
    rw [Json.sortKeysFields, Json.sortKeysFields, Json.sortKeys_sortKeys x,
      Json.sortKeysFields_sortKeys fields]

end

/-- Lists of pairs with the same distinct keys in the same order hold the same pairs only if they
are equal. -/
theorem eq_of_perm_of_keys {xs ys : List (α × β)} (hkeys : xs.map Prod.fst = ys.map Prod.fst)
    (hdistinct : (xs.map Prod.fst).Nodup) (h : xs.Perm ys) : xs = ys := by
  induction xs generalizing ys with
  | nil => exact h.nil_eq
  | cons f xs ih =>
    cases ys with
    | nil => cases hkeys
    | cons g ys =>
      obtain ⟨hkey, hkeys⟩ := List.cons.inj hkeys
      obtain ⟨hnot, hdistinct⟩ := List.nodup_cons.1 hdistinct
      have hfg : f = g := by
        obtain heq | hmem := List.mem_cons.1 (h.mem_iff.1 List.mem_cons_self)
        · exact heq
        · rw [hkeys] at hnot
          exact absurd (List.mem_map_of_mem hmem) hnot
      rw [hfg] at h
      rw [hfg, ih hkeys hdistinct h.cons_inv]

theorem Json.sortKeys_obj_inj {xs ys : Dict} (hkeys : xs.map Prod.fst = ys.map Prod.fst)
    (hdistinct : (xs.map Prod.fst).Nodup) (h : (Json.obj xs).sortKeys = (Json.obj ys).sortKeys) :
    (xs.map fun f => (f.1, f.2.sortKeys)) = ys.map fun f => (f.1, f.2.sortKeys) := by
  have hfst : ∀ zs : Dict, (zs.map fun f => (f.1, f.2.sortKeys)).map Prod.fst =
      zs.map Prod.fst := by
    intro zs
    rw [List.map_map, Function.comp_def]
  rw [Json.sortKeys, Json.sortKeys, Json.obj.injEq, Json.sortKeysFields_eq,
    Json.sortKeysFields_eq] at h
  apply eq_of_perm_of_keys
  · rw [hfst, hfst]
    exact hkeys
  · rw [hfst]
    exact hdistinct
  · have hxs := List.perm_insertionSort (fun f g : PyStr × Json => f.1 ≤ g.1)
      (xs.map fun f => (f.1, f.2.sortKeys))
    have hys := List.perm_insertionSort (fun f g : PyStr × Json => f.1 ≤ g.1)
      (ys.map fun f => (f.1, f.2.sortKeys))
    rw [h] at hxs
    exact hxs.symm.trans hys

end Python
