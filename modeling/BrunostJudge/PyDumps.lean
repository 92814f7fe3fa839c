import BrunostJudge.PyJson

namespace Python
set_option autoImplicit true

def decimal (n : Nat) : PyStr := (Nat.toDigits 10 n).map CodePoint.ofChar

/-- `float.__repr__` writes at least two digits of an exponent. -/
def exponentDigits (n : Nat) : PyStr := if n < 10 then 0x30 :: decimal n else decimal n

def printExponent : Option Int → PyStr
  | none => []
  | some e => 0x65 :: (if e < 0 then 0x2D else 0x2B) :: exponentDigits e.natAbs

def printFraction : List (Fin 10) → PyStr
  | [] => []
  | d :: ds => 0x2E :: (d :: ds).map fun d => ⟨0x30 + d.val, by omega⟩

def printSign (negative : Bool) : PyStr := if negative then [0x2D] else []

def Number.print : Number → PyStr
  | .int i => printSign (i < 0) ++ decimal i.natAbs
  | .float x =>
    printSign x.negative ++ decimal x.whole ++ printFraction x.fraction ++ printExponent x.exponent
  | .nan => ("NaN" : String)
  | .inf negative => printSign negative ++ PyStr.ofString "Infinity"

def hexDigit (n : Nat) : CodePoint :=
  if n < 10 then Fin.ofNat _ (0x30 + n) else Fin.ofNat _ (0x57 + n)

def escape (c : CodePoint) : PyStr :=
  if c = 0x22 then [0x5C, 0x22]
  else if c = 0x5C then [0x5C, 0x5C]
  else if c = 0x0A then [0x5C, 0x6E]
  else if c = 0x0D then [0x5C, 0x72]
  else if c = 0x09 then [0x5C, 0x74]
  else if c = 0x0C then [0x5C, 0x66]
  else if c = 0x08 then [0x5C, 0x62]
  else if c < 0x20 then [0x5C, 0x75, 0x30, 0x30, hexDigit (c.val / 16), hexDigit (c.val % 16)]
  else [c]

def printStr (s : PyStr) : PyStr := 0x22 :: (s.flatMap escape ++ [0x22])

mutual

/-- The text of a value without blanks: separators `,` and `:`, `ensure_ascii` off. -/
def Json.print : Json → PyStr
  | .null => ("null" : String)
  | .bool true => ("true" : String)
  | .bool false => ("false" : String)
  | .num n => n.print
  | .str s => printStr s
  | .arr [] => [0x5B, 0x5D]
  | .arr (x :: xs) => 0x5B :: (x.print ++ Json.printItems xs)
  | .obj [] => [0x7B, 0x7D]
  | .obj ((k, x) :: fields) => 0x7B :: (printStr k ++ 0x3A :: (x.print ++ Json.printFields fields))

def Json.printItems : List Json → PyStr
  | [] => [0x5D]
  | x :: xs => 0x2C :: (x.print ++ Json.printItems xs)

def Json.printFields : List (PyStr × Json) → PyStr
  | [] => [0x7D]
  | (k, x) :: fields => 0x2C :: (printStr k ++ 0x3A :: (x.print ++ Json.printFields fields))

end

mutual

/-- The value with the keys of every object in order. -/
def Json.sortKeys : Json → Json
  | .arr items => .arr (Json.sortKeysItems items)
  | .obj fields => .obj ((Json.sortKeysFields fields).insertionSort fun f g => f.1 ≤ g.1)
  | .null => .null
  | .bool b => .bool b
  | .num n => .num n
  | .str s => .str s

def Json.sortKeysItems : List Json → List Json
  | [] => []
  | x :: xs => x.sortKeys :: Json.sortKeysItems xs

def Json.sortKeysFields : List (PyStr × Json) → List (PyStr × Json)
  | [] => []
  | (k, x) :: fields => (k, x.sortKeys) :: Json.sortKeysFields fields

end

/-- `json.dumps(value, sort_keys=True, separators=(",", ":"), ensure_ascii=False)`. -/
def dumps (value : Json) : PyStr := value.sortKeys.print

def Number.isFinite : Number → Bool
  | .int _ | .float _ => true
  | .nan | .inf _ => false

mutual

/-- Whether `json.dumps(..., allow_nan=False)` accepts the value. -/
def Json.allFinite : Json → Bool
  | .num n => n.isFinite
  | .arr items => Json.allFiniteItems items
  | .obj fields => Json.allFiniteFields fields
  | .null | .bool _ | .str _ => true

def Json.allFiniteItems : List Json → Bool
  | [] => true
  | x :: xs => x.allFinite && Json.allFiniteItems xs

def Json.allFiniteFields : List (PyStr × Json) → Bool
  | [] => true
  | (_, x) :: fields => x.allFinite && Json.allFiniteFields fields

end

mutual

/-- How deep a value nests, where a value without others in it counts as `leaf`. -/
def Json.nesting (leaf : Nat) : Json → Nat
  | .arr items => Json.nestingItems leaf items + 1
  | .obj fields => Json.nestingFields leaf fields + 1
  | .null | .bool _ | .num _ | .str _ => leaf

def Json.nestingItems (leaf : Nat) : List Json → Nat
  | [] => 0
  | x :: xs => max (x.nesting leaf) (Json.nestingItems leaf xs)

def Json.nestingFields (leaf : Nat) : List (PyStr × Json) → Nat
  | [] => 0
  | (_, x) :: fields => max (x.nesting leaf) (Json.nestingFields leaf fields)

end

theorem Json.nestingFields_le {leaf n : Nat} {fields : Dict} :
    Json.nestingFields leaf fields ≤ n ↔ ∀ f ∈ fields, f.2.nesting leaf ≤ n := by
  induction fields with
  | nil => simp [Json.nestingFields]
  | cons f fields ih => simp [Json.nestingFields, ih]

theorem Json.nesting_obj_le {leaf n : Nat} {fields : Dict} (hn : 1 ≤ n) :
    (Json.obj fields).nesting leaf ≤ n ↔ ∀ f ∈ fields, f.2.nesting leaf + 1 ≤ n := by
  obtain ⟨m, rfl⟩ := Nat.exists_eq_add_of_le' hn
  simp only [Json.nesting, Nat.add_le_add_iff_right, Json.nestingFields_le]

/-- Whether `str` converts the number: it refuses an integer of more than `digits` digits. -/
def Number.isShort (digits : Nat) : Number → Bool
  | .int i => i.natAbs < 10 ^ digits
  | .float _ | .nan | .inf _ => true

mutual

def Json.allShort (digits : Nat) : Json → Bool
  | .num n => n.isShort digits
  | .arr items => Json.allShortItems digits items
  | .obj fields => Json.allShortFields digits fields
  | .null | .bool _ | .str _ => true

def Json.allShortItems (digits : Nat) : List Json → Bool
  | [] => true
  | x :: xs => x.allShort digits && Json.allShortItems digits xs

def Json.allShortFields (digits : Nat) : List (PyStr × Json) → Bool
  | [] => true
  | (_, x) :: fields => x.allShort digits && Json.allShortFields digits fields

end

theorem Json.allShortFields_iff {digits : Nat} {fields : Dict} :
    Json.allShortFields digits fields = true ↔ ∀ f ∈ fields, f.2.allShort digits = true := by
  induction fields with
  | nil => simp [Json.allShortFields]
  | cons f fields ih => simp [Json.allShortFields, ih]

/-- What `json.dumps` gets through: as many containers within each other as the stack of its
caller leaves room for, sixteen at least, and integers of as many digits as the interpreter is
set to convert, which cannot be less than 640. -/
structure Encoder where
  levels : Nat
  digits : Nat
  levels_ge : 16 ≤ levels
  digits_ge : 640 ≤ digits

/-- The default settings of CPython, at the bottom of the stack. -/
def Encoder.standard : Encoder := ⟨1000, 4300, by decide, by decide⟩

/-- Whether `json.dumps(value)` returns. -/
def Json.writable (encoder : Encoder) (value : Json) : Bool :=
  value.nesting 0 ≤ encoder.levels && value.allShort encoder.digits

/-- `json.dumps(value)`, for the value of the text it returns. -/
def writeJson (encoder : Encoder) (value : Json) : Except PyError Json :=
  if value.nesting 0 ≤ encoder.levels then
    if value.allShort encoder.digits then .ok value
    else .error (.valueError ("Exceeds the limit for integer string conversion" : String))
  else .error .recursionError

theorem writeJson_ok {encoder : Encoder} {value written : Json} :
    writeJson encoder value = .ok written ↔ value.writable encoder = true ∧ written = value := by
  rw [writeJson, Json.writable, Bool.and_eq_true, decide_eq_true_eq]
  split
  · next hlevels =>
    split
    · next hshort => simp [hlevels, hshort, eq_comm]
    · next hlong => simp [hlong]
  · next hdeep => simp [hdeep]

example : dumps (.obj [("b", .num (.int (-12))), ("a", .arr [.null, .text "x\ny"])]) =
    PyStr.ofString "\x7b\"a\":[null,\"x\\ny\"],\"b\":-12\x7d" := by decide

end Python
