import BrunostJudge.PyJson
import Mathlib.Data.Int.Log
import Mathlib.Data.Rat.Floor
import Mathlib.Tactic.Linarith
import Mathlib.Tactic.Ring
import Mathlib.Tactic.FieldSimp
import Mathlib.Tactic.NormNum

namespace Python
set_option autoImplicit true

/-- The nearest integer, and of two the even one. -/
def roundHalfEven (x : ℚ) : ℤ :=
  if x - ⌊x⌋ < 1 / 2 then ⌊x⌋
  else if 1 / 2 < x - ⌊x⌋ then ⌊x⌋ + 1
  else if ⌊x⌋ % 2 = 0 then ⌊x⌋
  else ⌊x⌋ + 1

/-- The distance between floats of the size of a number. -/
def spacing (x : ℚ) : ℚ := 2 ^ max (Int.log 2 |x| - 52) (-1074)

/-- The nearest float. -/
def toFloat (x : ℚ) : ℚ := spacing x * roundHalfEven (x / spacing x)

/-- `round(x, digits)`. -/
def roundDigits (x : ℚ) (digits : Nat) : ℚ :=
  toFloat (roundHalfEven (x * 10 ^ digits) / 10 ^ digits)

/-- One addition of `sum`, which keeps what rounding loses apart. -/
def sumStep (total : ℚ × ℚ) (x : ℚ) : ℚ × ℚ :=
  let t := toFloat (total.1 + x)
  let lost := if |x| ≤ |total.1| then toFloat (toFloat (total.1 - t) + x)
    else toFloat (toFloat (x - t) + total.1)
  (t, toFloat (total.2 + lost))

/-- `sum` of floats, as Python adds them from 3.12 on. -/
def floatSum (xs : List ℚ) : ℚ :=
  let total := xs.foldl sumStep (0, 0)
  toFloat (total.1 + total.2)

/-- `math.prod` of floats. -/
def floatProd (xs : List ℚ) : ℚ := xs.foldl (fun p x => toFloat (p * x)) 1

/-- The nearest decimal of so many digits, as digits and the exponent of the last one. -/
def nearestDecimal (x : ℚ) (digits : Nat) : Nat × Int :=
  let exponent := Int.log 10 x - digits + 1
  ((roundHalfEven (x / 10 ^ exponent)).toNat, exponent)

def shortestDecimal (x : ℚ) : Nat × Int :=
  let decimals := (List.range 17).map fun i => nearestDecimal x (i + 1)
  (decimals.find? fun d => toFloat (d.1 * 10 ^ d.2) = x).getD (nearestDecimal x 17)

def decimalDigits (n : Nat) : List (Fin 10) :=
  (Nat.toDigits 10 n).map fun c => Fin.ofNat 10 (c.toNat - 48)

def digitsValue (digits : List (Fin 10)) : Nat := digits.foldl (fun n d => 10 * n + d.val) 0

def dropZeros (digits : List (Fin 10)) : List (Fin 10) :=
  (digits.reverse.dropWhile (· = 0)).reverse

def pointZero : List (Fin 10) → List (Fin 10)
  | [] => [0]
  | digits => digits

theorem pointZero_ne_nil (digits : List (Fin 10)) : pointZero digits ≠ [] := by
  cases digits <;> exact List.cons_ne_nil _ _

/-- Exponents are written below `1e-04` and from `1e+16` on. -/
def floatRepr (x : ℚ) : FloatRepr :=
  if x = 0 then ⟨false, 0, [0], none, .inl (List.cons_ne_nil _ _)⟩
  else
    let shortest := shortestDecimal |x|
    let digits := dropZeros (decimalDigits shortest.1)
    -- The digits stand for `0.d₁d₂… * 10 ^ point`.
    let point := (decimalDigits shortest.1).length + shortest.2
    if -4 < point ∧ point ≤ 16 then
      let whole := (digits.take point.toNat) ++ List.replicate (point.toNat - digits.length) 0
      let fraction := pointZero (List.replicate (-point).toNat 0 ++ digits.drop point.toNat)
      ⟨decide (x < 0), digitsValue whole, fraction, none, .inl (pointZero_ne_nil _)⟩
    else ⟨decide (x < 0), digitsValue (digits.take 1), digits.drop 1, some (point - 1),
      .inr (Option.some_ne_none _)⟩

/-- A finite float as a JSON value. -/
def Json.ofFloat (x : ℚ) : Json := .num (.float (floatRepr x))

end Python
