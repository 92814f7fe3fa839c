import Mathlib.Algebra.Group.Nat.Defs
import Mathlib.Algebra.GroupWithZero.Nat
import Mathlib.Data.List.Basic
import Mathlib.Data.Fin.Basic
import Mathlib.Data.Nat.Notation

namespace Python
set_option autoImplicit true

abbrev CodePoint := Fin 0x110000

/-- A Python `str`: any code points, lone surrogates included. A Lean `String` is the
kind of `str` that has a UTF-8 encoding. -/
abbrev PyStr := List CodePoint

instance codePointCount : NeZero 0x110000 := ⟨by decide⟩
instance digitCount : NeZero 10 := ⟨by decide⟩
instance CodePoint.lawfulBEq : LawfulBEq CodePoint := inferInstance
instance PyStr.lawfulBEq : LawfulBEq PyStr := inferInstance

def CodePoint.ofChar (c : Char) : CodePoint :=
  ⟨c.toNat, by
    rcases c.valid with h | ⟨_, h⟩
    · exact Nat.lt_trans h (by decide)
    · exact h⟩

def CodePoint.toChar? (c : CodePoint) : Option Char :=
  if h : c.val.isValidChar then some (Char.ofNatAux c.val h) else none

theorem CodePoint.toChar?_ofChar (c : Char) : CodePoint.toChar? (.ofChar c) = some c := by
  have hv : (CodePoint.ofChar c).val.isValidChar := c.valid
  rw [CodePoint.toChar?, dif_pos hv]
  exact congrArg some (Char.ext rfl)

theorem CodePoint.ofChar_of_toChar? {p : CodePoint} {c : Char} (h : p.toChar? = some c) :
    .ofChar c = p := by
  by_cases hv : p.val.isValidChar
  · rw [CodePoint.toChar?, dif_pos hv] at h
    cases h
    rfl
  · rw [CodePoint.toChar?, dif_neg hv] at h
    cases h

namespace PyStr

def ofString (s : String) : PyStr := s.toList.map CodePoint.ofChar

instance : Coe String PyStr := ⟨ofString⟩

/-- `str.encode("utf-8")`, up to the choice of `String` for the encoded text: there is none
when the text holds a lone surrogate. -/
def encode? (p : PyStr) : Option String := (p.mapM CodePoint.toChar?).map String.ofList

@[simp] theorem encode?_ofString (s : String) : encode? (ofString s) = some s := by
  have hl : ∀ l : List Char, (l.map CodePoint.ofChar).mapM CodePoint.toChar? = some l := by
    intro l
    induction l with
    | nil => rfl
    | cons c l ih => simp [List.mapM_cons, CodePoint.toChar?_ofChar, ih]
  simp [encode?, ofString, hl]

theorem ofString_of_encode? {p : PyStr} {s : String} (h : p.encode? = some s) : ofString s = p := by
  have hl : ∀ (p : PyStr) (l : List Char), p.mapM CodePoint.toChar? = some l →
      l.map CodePoint.ofChar = p := by
    intro p
    induction p with
    | nil => intro l h; cases h; rfl
    | cons c p ih =>
      intro l h
      simp only [List.mapM_cons, Option.bind_eq_bind, Option.bind_eq_some_iff,
        Option.pure_def, Option.some.injEq] at h
      obtain ⟨d, hd, l', hl', rfl⟩ := h
      simp [CodePoint.ofChar_of_toChar? hd, ih l' hl']
  obtain ⟨l, hl', rfl⟩ := Option.map_eq_some_iff.1 h
  simpa [ofString] using hl p l hl'

theorem encode?_inj {p q : PyStr} {s : String} (hp : p.encode? = some s) (hq : q.encode? = some s) :
    p = q :=
  (ofString_of_encode? hp).symm.trans (ofString_of_encode? hq)

theorem ofString_inj {s t : String} : ofString s = ofString t ↔ s = t := by
  constructor
  · intro h
    have he := encode?_ofString s
    rw [h, encode?_ofString] at he
    exact (Option.some.inj he).symm
  · rintro rfl
    rfl

/-- `separator.join(parts)`. -/
def join (separator : PyStr) : List PyStr → PyStr
  | [] => []
  | [p] => p
  | p :: q :: rest => p ++ separator ++ join separator (q :: rest)

end PyStr

/-- The code points for which `str.isspace` holds. -/
def isSpace (c : Char) : Bool :=
  let n := c.toNat
  (9 ≤ n && n ≤ 13) || (28 ≤ n && n ≤ 32) || n == 0x85 || n == 0xA0 || n == 0x1680 ||
    (0x2000 ≤ n && n ≤ 0x200A) || n == 0x2028 || n == 0x2029 || n == 0x202F || n == 0x205F ||
    n == 0x3000

def strip (s : String) : String :=
  String.ofList ((s.toList.dropWhile isSpace).reverse.dropWhile isSpace).reverse

/-- The exceptions the modelled code raises or lets through. -/
inductive PyError where
  | typeError
  | valueError (message : PyStr)
  | keyError (message : PyStr)
  | overflowError
  | unicodeEncodeError
  | recursionError
  | integrityError
  | operationalError (message : PyStr)
  | dataError
deriving DecidableEq

/-- `isinstance(err, ValueError)`, which an encoding error is. -/
def PyError.isValueError : PyError → Bool
  | .valueError _ | .unicodeEncodeError => true
  | _ => false

end Python
