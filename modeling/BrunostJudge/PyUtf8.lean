import BrunostJudge.PyDumpsInjective

namespace Python
set_option autoImplicit true

/-- `str.encode("utf-8")`. -/
def utf8 (text : PyStr) : Except PyError (List UInt8) :=
  match text.encode? with
  | none => .error .unicodeEncodeError
  | some encoded => .ok encoded.toUTF8.data.toList

theorem utf8_ok {text : PyStr} {bytes : List UInt8} : utf8 text = .ok bytes ↔
    ∃ chars, text.mapM CodePoint.toChar? = some chars ∧
      bytes = chars.flatMap String.utf8EncodeChar := by
  have hbytes : ∀ chars : List Char, (String.ofList chars).toUTF8.data.toList =
      chars.flatMap String.utf8EncodeChar := by
    intro chars
    have harray := String.toByteArray_ofList (l := chars)
    rw [List.utf8Encode] at harray
    rw [String.toUTF8, harray, List.data_toByteArray, List.toList_toArray]
  rw [utf8, PyStr.encode?]
  cases hchars : text.mapM CodePoint.toChar? with
  | none =>
    apply iff_of_false
    · intro h
      cases h
    · rintro ⟨chars, h, _⟩
      cases h
  | some chars =>
    rw [Option.map_some]
    dsimp only
    rw [hbytes]
    constructor
    · intro h
      cases h
      exact ⟨chars, rfl, rfl⟩
    · rintro ⟨chars', h, rfl⟩
      rw [Option.some.inj h]

theorem utf8_append {p q : PyStr} {bytes : List UInt8} : utf8 (p ++ q) = .ok bytes ↔
    ∃ a b, utf8 p = .ok a ∧ utf8 q = .ok b ∧ bytes = a ++ b := by
  simp only [utf8_ok, List.mapM_append, Option.bind_eq_bind, Option.bind_eq_some_iff,
    Option.pure_def, Option.some.injEq]
  constructor
  · rintro ⟨chars, ⟨a, ha, b, hb, rfl⟩, rfl⟩
    exact ⟨_, _, ⟨a, ha, rfl⟩, ⟨b, hb, rfl⟩, List.flatMap_append⟩
  · rintro ⟨_, _, ⟨a, ha, rfl⟩, ⟨b, hb, rfl⟩, rfl⟩
    exact ⟨a ++ b, ⟨a, ha, b, hb, rfl⟩, List.flatMap_append.symm⟩

theorem utf8_inj {p q : PyStr} {bytes : List UInt8} (hp : utf8 p = .ok bytes)
    (hq : utf8 q = .ok bytes) : p = q := by
  rw [utf8] at hp hq
  split at hp
  · cases hp
  · next encoded hencoded =>
    split at hq
    · cases hq
    · next encoded' hencoded' =>
      rw [← Except.ok.inj hq] at hp
      have hbytes : encoded.toByteArray = encoded'.toByteArray :=
        ByteArray.ext (Array.toList_inj.1 (Except.ok.inj hp))
      exact PyStr.encode?_inj hencoded (String.toByteArray_inj.1 hbytes ▸ hencoded')

theorem utf8_ascii {text : PyStr} (h : ∀ c ∈ text, c.val < 0x80) :
    utf8 text = .ok (text.map fun c => UInt8.ofNat c.val) := by
  induction text with
  | nil => rfl
  | cons c text ih =>
    obtain ⟨hc, htext⟩ := List.forall_mem_cons.1 h
    have hfirst : utf8 [c] = .ok [UInt8.ofNat c.val] := by
      have hvalid : c.val.isValidChar := .inl (Nat.lt_trans hc (by decide))
      have hchar : c.toChar? = some (Char.ofNatAux c.val hvalid) := dif_pos hvalid
      have hsize : (Char.ofNatAux c.val hvalid).utf8Size = 1 := by
        rw [Char.utf8Size_eq_one_iff]
        exact Nat.lt_succ_iff.1 hc
      refine utf8_ok.2 ⟨[Char.ofNatAux c.val hvalid], ?_, ?_⟩
      · rw [List.mapM_cons, hchar]
        rfl
      · rw [List.flatMap_singleton, String.utf8EncodeChar_eq_singleton hsize]
        rfl
    exact utf8_append.2 ⟨_, _, hfirst, ih htext, rfl⟩

end Python
