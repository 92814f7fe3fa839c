import BrunostJudge.PyDumpsInjective

namespace Python
set_option autoImplicit true

def CodePoint.isSurrogate (c : CodePoint) : Bool := 0xD800 ≤ c.val && c.val ≤ 0xDFFF

/-- A text without lone surrogates. -/
def PyStr.encodable (p : PyStr) : Bool := p.all fun c => !c.isSurrogate

/-- The text of a `UnicodeEncodeError`, which names the first surrogates in a row. -/
def PyStr.encodeError (p : PyStr) : PyStr :=
  let start := (p.takeWhile fun c => !c.isSurrogate).length
  let place := match (p.drop start).takeWhile CodePoint.isSurrogate with
    | [c] => ofString "character '\\u" ++ [hexDigit (c.val / 4096), hexDigit (c.val / 256 % 16),
        hexDigit (c.val / 16 % 16), hexDigit (c.val % 16)] ++
        ofString "' in position " ++ decimal start
    | run => ofString "characters in position " ++ decimal start ++ ofString "-" ++
        decimal (start + run.length - 1)
  ofString "'utf-8' codec can't encode " ++ place ++ ofString ": surrogates not allowed"

example : PyStr.encodeError [0x61, Fin.ofNat _ 0xD800] =
    PyStr.ofString ("'utf-8' codec can't encode character '\\ud800' in position 1" ++
      ": surrogates not allowed") := by
  decide +kernel

mutual

/-- A value whose keys and strings hold no lone surrogate. -/
def Json.encodable : Json → Bool
  | .null | .bool _ | .num _ => true
  | .str s => s.encodable
  | .arr items => Json.encodableItems items
  | .obj fields => Json.encodableFields fields

def Json.encodableItems : List Json → Bool
  | [] => true
  | x :: xs => x.encodable && Json.encodableItems xs

def Json.encodableFields : List (PyStr × Json) → Bool
  | [] => true
  | (k, x) :: fields => k.encodable && x.encodable && Json.encodableFields fields

end

namespace PyStr

@[simp] theorem encodable_nil : encodable [] = true := rfl

@[simp] theorem encodable_cons (c : CodePoint) (p : PyStr) :
    encodable (c :: p) = (!c.isSurrogate && encodable p) := List.all_cons

@[simp] theorem encodable_append (p q : PyStr) :
    encodable (p ++ q) = (encodable p && encodable q) := List.all_append

theorem encodable_of_ascii {p : PyStr} (h : ∀ c ∈ p, c.val < 0x80) : p.encodable = true := by
  rw [encodable, List.all_eq_true]
  intro c hc
  have hlt := h c hc
  rw [CodePoint.isSurrogate, decide_eq_false (by omega)]
  rfl

end PyStr

theorem CodePoint.toChar?_isSome (c : CodePoint) : c.toChar?.isSome = !c.isSurrogate := by
  have hc := c.isLt
  by_cases hv : c.val.isValidChar
  · rw [CodePoint.toChar?, dif_pos hv, CodePoint.isSurrogate]
    obtain hlow | ⟨hhigh, _⟩ := hv
    · rw [decide_eq_false (show ¬0xD800 ≤ c.val by omega)]
      rfl
    · rw [decide_eq_false (show ¬c.val ≤ 0xDFFF by omega), Bool.and_false]
      rfl
  · rw [CodePoint.toChar?, dif_neg hv, CodePoint.isSurrogate]
    have hbounds : 0xD800 ≤ c.val ∧ c.val ≤ 0xDFFF := by
      unfold Nat.isValidChar at hv
      omega
    rw [decide_eq_true hbounds.1, decide_eq_true hbounds.2]
    rfl

theorem PyStr.encode?_isSome (p : PyStr) : p.encode?.isSome = p.encodable := by
  rw [PyStr.encode?, Option.isSome_map]
  induction p with
  | nil => rfl
  | cons c p ih =>
    rw [PyStr.encodable_cons, ← c.toChar?_isSome, ← ih, List.mapM_cons]
    cases c.toChar? with
    | none => rfl
    | some d => cases p.mapM CodePoint.toChar? <;> rfl

theorem escape_encodable (c : CodePoint) : PyStr.encodable (escape c) = !c.isSurrogate := by
  cases hc : c.isEscaped with
  | false => rw [escape_of_not_escaped hc, PyStr.encodable_cons, PyStr.encodable_nil, Bool.and_true]
  | true =>
    have hall : (((List.range 0x20 ++ [0x22, 0x5C]).map (Fin.ofNat 0x110000)).all fun c =>
        PyStr.encodable (escape c) && !CodePoint.isSurrogate c) = true := by decide +kernel
    have hboth := List.all_eq_true.1 hall c (escaped_mem hc)
    rw [Bool.and_eq_true] at hboth
    rw [hboth.1, hboth.2]

theorem printStr_encodable (s : PyStr) : PyStr.encodable (printStr s) = s.encodable := by
  have hquote : CodePoint.isSurrogate 0x22 = false := rfl
  have hbody : PyStr.encodable (s.flatMap escape) = s.encodable := by
    induction s with
    | nil => rfl
    | cons c s ih =>
      rw [List.flatMap_cons, PyStr.encodable_append, PyStr.encodable_cons, escape_encodable, ih]
  simp only [printStr, PyStr.encodable_cons, PyStr.encodable_append, PyStr.encodable_nil, hbody,
    hquote, Bool.not_false, Bool.true_and, Bool.and_true]

theorem CodePoint.isDigit_lt {c : CodePoint} (hc : c.isDigit) : c.val < 0x80 := by
  rw [CodePoint.isDigit, Bool.and_eq_true, decide_eq_true_eq, decide_eq_true_eq] at hc
  omega

theorem Number.print_encodable (n : Number) : PyStr.encodable n.print = true := by
  have hsign : ∀ b, PyStr.encodable (printSign b) = true := by
    intro b
    cases b <;> rfl
  have hdecimal : ∀ m, PyStr.encodable (decimal m) = true := by
    intro m
    exact PyStr.encodable_of_ascii fun c hc => CodePoint.isDigit_lt (decimal_isDigit m c hc)
  have htail : ∀ x : FloatRepr, PyStr.encodable x.tail = true := by
    intro x
    apply PyStr.encodable_of_ascii
    intro c hc
    obtain hc | hc := List.mem_append.1 hc
    · obtain hdot | hdigit := printFraction_mem hc
      · rw [hdot]
        decide
      · exact CodePoint.isDigit_lt hdigit
    · obtain he | hminus | hplus | hdigit := printExponent_mem hc
      · rw [he]
        decide
      · rw [hminus]
        decide
      · rw [hplus]
        decide
      · exact CodePoint.isDigit_lt hdigit
  rw [n.print_eq, PyStr.encodable_append, hsign, Bool.true_and]
  cases n with
  | int i => rw [Number.unsigned, PyStr.encodable_append, hdecimal, PyStr.encodable_nil]; rfl
  | float x => rw [Number.unsigned, PyStr.encodable_append, hdecimal, htail]; rfl
  | nan => rfl
  | inf b => rfl

mutual

theorem Json.print_encodable (a : Json) : PyStr.encodable a.print = a.encodable := by
  cases a with
  | null => rfl
  | bool b => cases b <;> rfl
  | num n => exact n.print_encodable
  | str s => exact printStr_encodable s
  | arr items =>
    cases items with
    | nil => rfl
    | cons x xs =>
      rw [Json.print, PyStr.encodable_cons, PyStr.encodable_append, Json.print_encodable x,
        Json.printItems_encodable xs]
      rfl
  | obj fields =>
    cases fields with
    | nil => rfl
    | cons f fields =>
      obtain ⟨k, x⟩ := f
      rw [Json.print, PyStr.encodable_cons, PyStr.encodable_append, PyStr.encodable_cons,
        PyStr.encodable_append, printStr_encodable, Json.print_encodable x,
        Json.printFields_encodable fields]
      exact (Bool.and_assoc k.encodable x.encodable (Json.encodableFields fields)).symm

theorem Json.printItems_encodable (items : List Json) :
    PyStr.encodable (Json.printItems items) = Json.encodableItems items := by
  cases items with
  | nil => rfl
  | cons x xs =>
    rw [Json.printItems, PyStr.encodable_cons, PyStr.encodable_append, Json.print_encodable x,
      Json.printItems_encodable xs]
    rfl

theorem Json.printFields_encodable (fields : Dict) :
    PyStr.encodable (Json.printFields fields) = Json.encodableFields fields := by
  cases fields with
  | nil => rfl
  | cons f fields =>
    obtain ⟨k, x⟩ := f
    rw [Json.printFields, PyStr.encodable_cons, PyStr.encodable_append, PyStr.encodable_cons,
      PyStr.encodable_append, printStr_encodable, Json.print_encodable x,
      Json.printFields_encodable fields]
    exact (Bool.and_assoc k.encodable x.encodable (Json.encodableFields fields)).symm

end

theorem Json.encodableFields_eq (fields : Dict) :
    Json.encodableFields fields = fields.all fun f => f.1.encodable && f.2.encodable := by
  induction fields with
  | nil => rfl
  | cons f fields ih => rw [Json.encodableFields, ih, List.all_cons]

mutual

theorem Json.sortKeys_encodable (a : Json) : a.sortKeys.encodable = a.encodable := by
  cases a with
  | null => rfl
  | bool b => rfl
  | num n => rfl
  | str s => rfl
  | arr items => exact Json.sortKeysItems_encodable items
  | obj fields =>
    rw [Json.sortKeys, Json.encodable, Json.encodable, ← Json.sortKeysFields_encodable fields,
      Json.encodableFields_eq, Json.encodableFields_eq]
    exact (List.perm_insertionSort _ _).all_eq

theorem Json.sortKeysItems_encodable (items : List Json) :
    Json.encodableItems (Json.sortKeysItems items) = Json.encodableItems items := by
  cases items with
  | nil => rfl
  | cons x xs =>
    rw [Json.sortKeysItems, Json.encodableItems, Json.sortKeys_encodable x,
      Json.sortKeysItems_encodable xs]
    rfl

theorem Json.sortKeysFields_encodable (fields : Dict) :
    Json.encodableFields (Json.sortKeysFields fields) = Json.encodableFields fields := by
  cases fields with
  | nil => rfl
  | cons f fields =>
    obtain ⟨k, x⟩ := f
    rw [Json.sortKeysFields, Json.encodableFields, Json.sortKeys_encodable x,
      Json.sortKeysFields_encodable fields]
    rfl

end

theorem dumps_encode?_isSome (a : Json) : (dumps a).encode?.isSome = a.encodable := by
  rw [PyStr.encode?_isSome, dumps, Json.print_encodable, Json.sortKeys_encodable]

end Python
