import BrunostJudge.PyText
import Mathlib.Data.Rat.Defs
import Mathlib.Algebra.Order.Ring.Unbundled.Rat
import Mathlib.Data.List.Lex
import Mathlib.Data.List.Sort

namespace Python
set_option autoImplicit true

/-- A finite Python float, kept as the decimal text `float.__repr__` gives it, such as
`0.1`, `1e-05` or `1.5e+300`. -/
structure FloatRepr where
  negative : Bool
  whole : Nat
  fraction : List (Fin 10)
  exponent : Option Int
  marked : fraction ≠ [] ∨ exponent ≠ none
deriving DecidableEq

def FloatRepr.value (x : FloatRepr) : ℚ :=
  let mantissa : ℚ := x.fraction.foldr (fun d v => (v + d.val) / 10) 0
  (if x.negative then -1 else 1) * (x.whole + mantissa) * 10 ^ x.exponent.getD 0

inductive Number where
  | int (i : Int)
  | float (x : FloatRepr)
  | nan
  | inf (negative : Bool)
deriving DecidableEq

/-- What `json.loads` returns. An object keeps its keys in insertion order. -/
inductive Json where
  | null
  | bool (b : Bool)
  | num (n : Number)
  | str (s : PyStr)
  | arr (items : List Json)
  | obj (fields : List (PyStr × Json))

abbrev Dict := List (PyStr × Json)

/-- The text of an ordinary `str`. -/
def Json.text (s : String) : Json := .str s

def Json.textOrNull (s : Option String) : Json := (s.map Json.text).getD .null

mutual

def Json.decEq : (a b : Json) → Decidable (a = b)
  | .null, .null => isTrue rfl
  | .bool a, .bool b => decidable_of_iff (a = b) (by simp)
  | .num a, .num b => decidable_of_iff (a = b) (by simp)
  | .str a, .str b => decidable_of_iff (a = b) (by simp)
  | .arr a, .arr b => @decidable_of_iff _ (a = b) (by simp) (Json.decEqItems a b)
  | .obj a, .obj b => @decidable_of_iff _ (a = b) (by simp) (Json.decEqFields a b)
  | .null, .bool _ | .null, .num _ | .null, .str _ | .null, .arr _ | .null, .obj _
  | .bool _, .null | .bool _, .num _ | .bool _, .str _ | .bool _, .arr _ | .bool _, .obj _
  | .num _, .null | .num _, .bool _ | .num _, .str _ | .num _, .arr _ | .num _, .obj _
  | .str _, .null | .str _, .bool _ | .str _, .num _ | .str _, .arr _ | .str _, .obj _
  | .arr _, .null | .arr _, .bool _ | .arr _, .num _ | .arr _, .str _ | .arr _, .obj _
  | .obj _, .null | .obj _, .bool _ | .obj _, .num _ | .obj _, .str _ | .obj _, .arr _ =>
    isFalse nofun

def Json.decEqItems : (a b : List Json) → Decidable (a = b)
  | [], [] => isTrue rfl
  | [], _ :: _ | _ :: _, [] => isFalse nofun
  | x :: xs, y :: ys =>
    @decidable_of_iff _ (x = y ∧ xs = ys) (by simp)
      (@instDecidableAnd _ _ (Json.decEq x y) (Json.decEqItems xs ys))

def Json.decEqFields : (a b : List (PyStr × Json)) → Decidable (a = b)
  | [], [] => isTrue rfl
  | [], _ :: _ | _ :: _, [] => isFalse nofun
  | (k, x) :: xs, (l, y) :: ys =>
    @decidable_of_iff _ (k = l ∧ x = y ∧ xs = ys) (by simp [and_assoc])
      (@instDecidableAnd _ _ _
        (@instDecidableAnd _ _ (Json.decEq x y) (Json.decEqFields xs ys)))

end

instance : DecidableEq Json := Json.decEq

namespace Dict

def getD (d : Dict) (key : PyStr) (default : Json) : Json :=
  ((d.find? fun f => f.1 = key).map Prod.snd).getD default

/-- `d.get(key)`, `None` being `null`. -/
def get (d : Dict) (key : PyStr) : Json := d.getD key .null

def contains (d : Dict) (key : PyStr) : Bool := d.any fun f => f.1 = key

/-- `d[key] = value`. -/
def set (d : Dict) (key : PyStr) (value : Json) : Dict :=
  if d.contains key then d.map fun f => if f.1 = key then (key, value) else f
  else d ++ [(key, value)]

/-- `d[key] = value` where there is a value. -/
def setSome (d : Dict) (key : PyStr) : Option Json → Dict
  | none => d
  | some value => d.set key value

def setdefault (d : Dict) (key : PyStr) (value : Json) : Dict :=
  if d.contains key then d else d ++ [(key, value)]

/-- `{**d, **other}`. -/
def update (d other : Dict) : Dict := other.foldl (fun d f => d.set f.1 f.2) d

end Dict

/-- `bool(value)`. -/
def Json.truthy : Json → Bool
  | .null => false
  | .bool b => b
  | .num (.int i) => i ≠ 0
  | .num (.float x) => x.whole ≠ 0 ∨ ∃ d ∈ x.fraction, d ≠ 0
  | .num _ => true
  | .str s => s ≠ []
  | .arr items => !items.isEmpty
  | .obj fields => !fields.isEmpty

/-- `value or other`. -/
def Json.or (value other : Json) : Json := if value.truthy then value else other

def Json.hashable : Json → Bool
  | .arr _ | .obj _ => false
  | _ => true

/-- The elements a `for` loop over the value sees. -/
def Json.iter : Json → Except PyError (List Json)
  | .str s => .ok (s.map fun c => .str [c])
  | .arr items => .ok items
  | .obj fields => .ok (fields.map fun f => .str f.1)
  | _ => .error .typeError

/-- The elements of `set(value or ())`; the order of a set means nothing. -/
def Json.setElements (value : Json) : Except PyError (List Json) :=
  if value.truthy then do
    let items ← value.iter
    if items.all Json.hashable then pure items else throw .typeError
  else pure []

/-- A number as Python compares it: a bool is 0 or 1, and `nan` compares with nothing. -/
def Json.numeric : Json → Option Number
  | .bool b => some (.int (if b then 1 else 0))
  | .num n => some n
  | _ => none

def Number.eq : Number → Number → Bool
  | .int i, .int j => i = j
  | .int i, .float y => i = y.value
  | .float x, .int j => x.value = j
  | .float x, .float y => x.value = y.value
  | .inf b, .inf c => b = c
  | _, _ => false

def Number.lt : Number → Number → Bool
  | .int i, .int j => i < j
  | .int i, .float y => i < y.value
  | .float x, .int j => x.value < j
  | .float x, .float y => x.value < y.value
  | .nan, _ | _, .nan => false
  | .inf b, .inf c => b && !c
  | .inf b, _ => b
  | _, .inf c => !c

mutual

/-- `a == b`: numbers by value, objects without regard to the order of their keys. -/
def Json.eq : Json → Json → Bool
  | .null, .null => true
  | .str s, .str t => s = t
  | .arr xs, .arr ys => Json.eqItems xs ys
  | .obj xs, .obj ys => xs.length = ys.length && Json.eqFields xs ys
  | .bool a, .bool b => a = b
  | .bool a, .num n | .num n, .bool a => Number.eq (.int (if a then 1 else 0)) n
  | .num m, .num n => Number.eq m n
  | _, _ => false

def Json.eqItems : List Json → List Json → Bool
  | [], [] => true
  | x :: xs, y :: ys => Json.eq x y && Json.eqItems xs ys
  | _, _ => false

def Json.eqFields : List (PyStr × Json) → List (PyStr × Json) → Bool
  | [], _ => true
  | (k, x) :: xs, ys =>
    (match ys.find? fun f => f.1 = k with
      | some f => Json.eq x f.2
      | none => false) && Json.eqFields xs ys

end

/-- `a < b`, which raises for operands of different kinds. -/
def Json.lt : Json → Json → Except PyError Bool
  | .str s, .str t => .ok (s < t)
  | a, b =>
    match a.numeric, b.numeric with
    | some m, some n => .ok (m.lt n)
    | _, _ => .error .typeError

/-- Adding to a set keeps the element that was there. -/
def setInsert (items : List Json) (x : Json) : List Json :=
  if items.any fun y => y.eq x then items else items ++ [x]

def sortedInsert (x : Json) : List Json → Except PyError (List Json)
  | [] => .ok [x]
  | y :: ys => do
    if ← y.lt x then
      let rest ← sortedInsert x ys
      pure (y :: rest)
    else pure (x :: y :: ys)

/-- `sorted(items)`. -/
def sorted (items : List Json) : Except PyError (List Json) := items.foldrM sortedInsert []

/-- `sorted(set(items))`. -/
def sortedTexts (items : List PyStr) : List PyStr := items.dedup.insertionSort (· ≤ ·)

/-- `sorted` on a set of ordinary strings. -/
def sortedSet (items : List String) : List String := items.dedup.insertionSort (· ≤ ·)

end Python
