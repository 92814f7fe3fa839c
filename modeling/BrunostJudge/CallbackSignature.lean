import BrunostJudge.AgentProtocol
import BrunostJudge.Framing
import BrunostJudge.PyPath
import BrunostJudge.PyUtf8
import BrunostJudge.Raising

namespace BrunostJudge
open Python
set_option autoImplicit true

/-- `str` of an integer. -/
def intText (i : Int) : PyStr := (Number.int i).print

/-- What is signed ahead of a body. -/
def signaturePrefix (sentAt : PyStr) (eventId : Option PyStr) : PyStr :=
  match eventId.filter (· ≠ []) with
  | some eventId => sentAt ++ dot :: (eventId ++ [dot])
  | none => sentAt ++ [dot]

/-- `callback_signature`; `now` is `int(time.time())`. -/
def callbackSignature (hmac : Bytes → Bytes → PyStr) (now : Int) (payload : Bytes)
    (secret : PyStr) (timestamp eventId : Option PyStr) : Except PyError (PyStr × PyStr) := do
  let sentAt := (timestamp.filter (· ≠ [])).getD (intText now)
  let signed ← utf8 (signaturePrefix sentAt eventId)
  let key ← utf8 secret
  pure (sentAt, PyStr.ofString "sha256=" ++ hmac key (signed ++ payload))

/-- `hmac.compare_digest` of two texts. -/
def compareDigest (a b : PyStr) : Except PyError Bool :=
  if (a ++ b).all fun c => c.val < 0x80 then pure (a = b) else throw .typeError

/-- `verify_callback_signature`; `int?` is `int` of a text. -/
def verifyCallbackSignature (hmac : Bytes → Bytes → PyStr) (int? : PyStr → Option Int) (now : Int)
    (payload : Bytes) (secret signature timestamp : PyStr) (eventId : Option PyStr)
    (toleranceSeconds : Int) (requireEventId : Bool) : Except PyError Bool :=
  if requireEventId ∧ eventId.filter (· ≠ []) = none then pure false
  else
    match int? timestamp with
    | none => pure false
    | some sentAt =>
      if (now - sentAt).natAbs > toleranceSeconds then pure false
      else do
        let (_, expected) ←
          callbackSignature hmac now payload secret (some (intText sentAt)) eventId
        compareDigest expected signature

/-- The byte `.`. -/
def dotByte : UInt8 := 0x2E

/-- One event ID goes on where the other one ends, with a dot and what the other body begins with,
up to a dot. -/
def Spliced (e : PyStr) (p : Bytes) (f : PyStr) (q : Bytes) : Prop :=
  ∃ eventBytes eventBytes' x, utf8 e = .ok eventBytes ∧ utf8 f = .ok eventBytes' ∧
    ((eventBytes' = eventBytes ++ dotByte :: x ∧ p = x ++ dotByte :: q) ∨
      (eventBytes = eventBytes' ++ dotByte :: x ∧ q = x ++ dotByte :: p))

/-- The bytes that are signed for a body. -/
def signedMessage (sentAt eventId : PyStr) (payload : Bytes) : Except PyError Bytes :=
  (utf8 (signaturePrefix sentAt (some eventId))).map (· ++ payload)

section
variable {e f : PyStr} {p q : Bytes} {s t : Int}

theorem intText_mem {i : Int} : ∀ c ∈ intText i, c.val < 0x80 ∧ c ≠ dot := by
  have hdigit : ∀ c : CodePoint, c.isDigit → c.val < 0x80 ∧ c ≠ dot := by
    intro c hc
    rw [CodePoint.isDigit, Bool.and_eq_true, decide_eq_true_eq, decide_eq_true_eq] at hc
    refine ⟨Nat.lt_of_le_of_lt hc.2 (by decide), ?_⟩
    rintro rfl
    exact absurd hc.1 (by decide)
  intro c hc
  obtain hc | hc := List.mem_append.1 hc
  · rw [printSign] at hc
    split at hc
    · rw [List.mem_singleton.1 hc]
      exact ⟨by decide, by decide⟩
    · cases hc
  · exact hdigit c (decimal_isDigit _ c hc)

theorem intText_ne_nil (i : Int) : intText i ≠ [] :=
  List.append_ne_nil_of_right_ne_nil _ (decimal_ne_nil _)

theorem intText_inj (h : intText s = intText t) : s = t :=
  Number.int.inj (Number.print_inj h)

theorem utf8_intText (i : Int) : ∃ bytes, utf8 (intText i) = .ok bytes ∧ dotByte ∉ bytes := by
  refine ⟨_, utf8_ascii fun c hc => (intText_mem c hc).1, ?_⟩
  intro hmem
  obtain ⟨c, hc, hbyte⟩ := List.mem_map.1 hmem
  obtain ⟨hascii, hdot⟩ := intText_mem c hc
  have hval := congrArg UInt8.toNat hbyte
  rw [UInt8.toNat_ofNat', Nat.mod_eq_of_lt (Nat.lt_trans hascii (by decide))] at hval
  exact hdot (Fin.ext hval)

theorem signaturePrefix_some (sentAt : PyStr) (he : e ≠ []) :
    signaturePrefix sentAt (some e) = sentAt ++ dot :: (e ++ [dot]) := by
  have hfilter : (some e).filter (· ≠ []) = some e := by simp [Option.filter, he]
  rw [signaturePrefix, hfilter]

theorem utf8_dot : utf8 [dot] = .ok [dotByte] := by
  rfl

theorem signedMessage_ok (he : e ≠ []) {message : Bytes} :
    signedMessage (intText s) e p = .ok message ↔ ∃ sentAt eventBytes,
      utf8 (intText s) = .ok sentAt ∧ utf8 e = .ok eventBytes ∧
        message = sentAt ++ dotByte :: (eventBytes ++ dotByte :: p) := by
  rw [signedMessage, signaturePrefix_some _ he, map_ok]
  constructor
  · rintro ⟨signed, hsigned, rfl⟩
    obtain ⟨sentAt, rest, hsent, hrest, rfl⟩ := utf8_append.1 hsigned
    rw [← List.singleton_append] at hrest
    obtain ⟨first, event, hfirst, hdotted, rfl⟩ := utf8_append.1 hrest
    obtain ⟨eventBytes, last, hevent, hlast, rfl⟩ := utf8_append.1 hdotted
    obtain rfl := Except.ok.inj (utf8_dot.symm.trans hfirst)
    obtain rfl := Except.ok.inj (utf8_dot.symm.trans hlast)
    refine ⟨sentAt, eventBytes, hsent, hevent, ?_⟩
    simp only [List.append_assoc, List.nil_append, List.cons_append]
  · rintro ⟨sentAt, eventBytes, hsent, hevent, rfl⟩
    refine ⟨sentAt ++ ([dotByte] ++ (eventBytes ++ [dotByte])), ?_, ?_⟩
    · rw [← List.singleton_append]
      exact utf8_append.2 ⟨_, _, hsent,
        utf8_append.2 ⟨_, _, utf8_dot, utf8_append.2 ⟨_, _, hevent, utf8_dot, rfl⟩, rfl⟩, rfl⟩
    · simp only [List.append_assoc, List.nil_append, List.cons_append]

theorem dotted_eq_iff {a b : Bytes} : a ++ dotByte :: p = b ++ dotByte :: q ↔
    (a = b ∧ p = q) ∨ ∃ x, (b = a ++ dotByte :: x ∧ p = x ++ dotByte :: q) ∨
      (a = b ++ dotByte :: x ∧ q = x ++ dotByte :: p) := by
  rw [List.append_eq_append_iff]
  constructor
  · rintro (⟨x, hb, hp⟩ | ⟨x, ha, hq⟩)
    · cases x with
      | nil =>
        rw [List.append_nil] at hb
        exact .inl ⟨hb.symm, (List.cons.inj hp).2⟩
      | cons c x =>
        obtain rfl := (List.cons.inj hp).1
        exact .inr ⟨x, .inl ⟨hb, (List.cons.inj hp).2⟩⟩
    · cases x with
      | nil =>
        rw [List.append_nil] at ha
        exact .inl ⟨ha, (List.cons.inj hq).2.symm⟩
      | cons c x =>
        obtain rfl := (List.cons.inj hq).1
        exact .inr ⟨x, .inr ⟨ha, (List.cons.inj hq).2⟩⟩
  · rintro (⟨rfl, rfl⟩ | ⟨x, ⟨rfl, rfl⟩ | ⟨rfl, rfl⟩⟩)
    · exact .inl ⟨[], (List.append_nil _).symm, rfl⟩
    · exact .inl ⟨_, rfl, rfl⟩
    · exact .inr ⟨_, rfl, rfl⟩

/-- Two messages are the same only if all their parts are, or one event ID takes from the other
body. -/
theorem signedMessage_inj (he : e ≠ []) (hf : f ≠ []) {message : Bytes}
    (h : signedMessage (intText s) e p = .ok message)
    (h' : signedMessage (intText t) f q = .ok message) :
    s = t ∧ ((e = f ∧ p = q) ∨ Spliced e p f q) := by
  obtain ⟨sentAt, eventBytes, hsent, hevent, rfl⟩ := (signedMessage_ok he).1 h
  obtain ⟨sentAt', eventBytes', hsent', hevent', heq⟩ := (signedMessage_ok hf).1 h'
  have hplain : ∀ i bytes, utf8 (intText i) = .ok bytes → dotByte ∉ bytes := by
    intro i bytes hbytes
    obtain ⟨_, hutf8, hdot⟩ := utf8_intText i
    rwa [← Except.ok.inj (hutf8.symm.trans hbytes)]
  obtain ⟨rfl, hrest⟩ := Framing.cut_unique (hplain s _ hsent) (hplain t _ hsent') heq
  refine ⟨intText_inj (utf8_inj hsent hsent'), ?_⟩
  obtain ⟨rfl, rfl⟩ | ⟨x, hx⟩ := dotted_eq_iff.1 hrest
  · exact .inl ⟨utf8_inj hevent hevent', rfl⟩
  · exact .inr ⟨eventBytes, eventBytes', x, hevent, hevent', hx⟩

theorem Spliced.signed (h : Spliced e p f q) (he : e ≠ []) (hf : f ≠ []) : ∃ message,
    signedMessage (intText s) e p = .ok message ∧ signedMessage (intText s) f q = .ok message := by
  obtain ⟨eventBytes, eventBytes', x, hevent, hevent', hx⟩ := h
  obtain ⟨sentAt, hsent, _⟩ := utf8_intText s
  refine ⟨_, (signedMessage_ok he).2 ⟨sentAt, eventBytes, hsent, hevent, rfl⟩,
    (signedMessage_ok hf).2 ⟨sentAt, eventBytes', hsent, hevent', ?_⟩⟩
  rw [dotted_eq_iff.2 (.inr ⟨x, hx⟩)]

theorem Spliced.ne (h : Spliced e p f q) : e ≠ f := by
  rintro rfl
  obtain ⟨eventBytes, eventBytes', x, hevent, hevent', hx⟩ := h
  obtain rfl := Except.ok.inj (hevent.symm.trans hevent')
  have hlength : ∀ y : Bytes, eventBytes ≠ eventBytes ++ dotByte :: y := by
    intro y heq
    have hcount := congrArg List.length heq
    rw [List.length_append, List.length_cons] at hcount
    omega
  obtain ⟨heq, _⟩ | ⟨heq, _⟩ := hx
  · exact hlength x heq
  · exact hlength x heq

variable {hmac : Bytes → Bytes → PyStr} {int? : PyStr → Option Int} {now tolerance : Int}
  {secret signature timestamp sentAt : PyStr}

theorem callbackSignature_ok {timestamp : Option PyStr} {sent : PyStr × PyStr} :
    callbackSignature hmac now p secret timestamp (some e) = .ok sent ↔
      sent.1 = (timestamp.filter (· ≠ [])).getD (intText now) ∧
      ∃ message key, signedMessage sent.1 e p = .ok message ∧ utf8 secret = .ok key ∧
        sent.2 = PyStr.ofString "sha256=" ++ hmac key message := by
  rw [callbackSignature, bind_ok]
  constructor
  · rintro ⟨signed, hsigned, h⟩
    obtain ⟨key, hkey, h⟩ := bind_ok.1 h
    obtain rfl := pure_ok.1 h
    exact ⟨rfl, _, key, map_ok.2 ⟨signed, hsigned, rfl⟩, hkey, rfl⟩
  · rintro ⟨hsent, message, key, hmessage, hkey, hsignature⟩
    obtain ⟨signed, hsigned, rfl⟩ := map_ok.1 hmessage
    rw [hsent] at hsigned
    refine ⟨signed, hsigned, bind_ok.2 ⟨key, hkey, pure_ok.2 ?_⟩⟩
    exact Prod.ext hsent.symm hsignature.symm

theorem compareDigest_true {a b : PyStr} (ha : ∀ c ∈ a, c.val < 0x80) :
    compareDigest a b = .ok true ↔ a = b := by
  rw [compareDigest]
  constructor
  · intro h
    split at h
    · exact of_decide_eq_true (pure_ok.1 h)
    · exact (throw_ok.1 h).elim
  · rintro rfl
    rw [if_pos]
    · exact congrArg Except.ok (decide_eq_true rfl)
    · apply List.all_eq_true.2
      intro c hc
      exact decide_eq_true ((List.mem_append.1 hc).elim (ha c) (ha c))

theorem verify_true (hf : f ≠ []) (htimestamp : int? timestamp = some t)
    (hascii : ∀ key message, ∀ c ∈ hmac key message, c.val < 0x80) (requireEventId : Bool) :
    verifyCallbackSignature hmac int? now q secret signature timestamp (some f) tolerance
        requireEventId = .ok true ↔
      (now - t).natAbs ≤ tolerance ∧ ∃ message key, signedMessage (intText t) f q = .ok message ∧
        utf8 secret = .ok key ∧ signature = PyStr.ofString "sha256=" ++ hmac key message := by
  have hevent : (some f).filter (· ≠ []) ≠ none := by simp [Option.filter, hf]
  have hsent : ((some (intText t)).filter (· ≠ [])).getD (intText now) = intText t := by
    simp [Option.filter, intText_ne_nil]
  rw [verifyCallbackSignature, if_neg fun h => hevent h.2, htimestamp]
  dsimp only
  have hplain : ∀ key message, ∀ c ∈ PyStr.ofString "sha256=" ++ hmac key message,
      c.val < 0x80 := by
    intro key message c hc
    obtain hc | hc := List.mem_append.1 hc
    · have hword : ((PyStr.ofString "sha256=").all fun c => decide (c.val < 0x80)) = true := by
        decide
      exact of_decide_eq_true (List.all_eq_true.1 hword c hc)
    · exact hascii key message c hc
  split
  · next hlate =>
    apply iff_of_false
    · intro h
      cases pure_ok.1 h
    · exact fun h => absurd h.1 (Int.not_le.2 hlate)
  · next hlate =>
    rw [bind_ok]
    constructor
    · rintro ⟨sent, hexpected, h⟩
      obtain ⟨hfirst, message, key, hmessage, hkey, hsecond⟩ := callbackSignature_ok.1 hexpected
      rw [hsent] at hfirst
      rw [hfirst] at hmessage
      rw [hsecond, compareDigest_true (hplain key message)] at h
      exact ⟨Int.not_lt.1 hlate, message, key, hmessage, hkey, h.symm⟩
    · rintro ⟨_, message, key, hmessage, hkey, rfl⟩
      refine ⟨(intText t, _), callbackSignature_ok.2 ⟨hsent.symm, message, key, hmessage, hkey,
        rfl⟩, (compareDigest_true (hplain key message)).2 rfl⟩

end

/-- A signature binds its parts, unless the timestamps agree and one event ID takes from the other
body. The digests of the two messages are only the same if the messages are. -/
theorem signature_binds_iff (hmac : Bytes → Bytes → PyStr) (int? : PyStr → Option Int)
    (secret signature timestamp : PyStr) (sentAt : Option PyStr) (p q : Bytes) (e f : PyStr)
    (s t signedAt now tolerance : Int) (requireEventId : Bool) (he : e ≠ []) (hf : f ≠ [])
    (htimestamp : int? timestamp = some t)
    (hsigned : callbackSignature hmac signedAt p secret sentAt (some e) =
      .ok (intText s, signature))
    (hascii : ∀ key message, ∀ c ∈ hmac key message, c.val < 0x80)
    (hfree : ∀ key message message', signedMessage (intText s) e p = .ok message →
      signedMessage (intText t) f q = .ok message' → hmac key message = hmac key message' →
        message = message') :
    (verifyCallbackSignature hmac int? now q secret signature timestamp (some f) tolerance
        requireEventId = .ok true → p = q ∧ e = f ∧ s = t) ↔
      ¬((now - t).natAbs ≤ tolerance ∧ s = t ∧ Spliced e p f q) := by
  rw [verify_true hf htimestamp hascii]
  obtain ⟨-, message, key, hmessage, hkey, rfl⟩ := callbackSignature_ok.1 hsigned
  constructor
  · rintro hbinds ⟨htolerance, rfl, hspliced⟩
    obtain ⟨message', hmessage₁, hmessage₂⟩ := hspliced.signed (s := s) he hf
    obtain rfl := Except.ok.inj (hmessage.symm.trans hmessage₁)
    have hequal := hbinds ⟨htolerance, message, key, hmessage₂, hkey, rfl⟩
    exact hspliced.ne hequal.2.1
  · rintro hnot ⟨htolerance, message', key', hmessage', hkey', hdigest⟩
    obtain rfl := Except.ok.inj (hkey.symm.trans hkey')
    rw [List.append_cancel_left_eq] at hdigest
    obtain rfl := hfree key message message' hmessage hmessage' hdigest
    obtain ⟨heq, ⟨hevent, hbody⟩ | hspliced⟩ := signedMessage_inj he hf hmessage hmessage'
    · exact ⟨hbody, hevent, heq⟩
    · exact absurd ⟨htolerance, heq, hspliced⟩ hnot

namespace Sample

/-- The digest of `100.e.{}` under the key `secret`. -/
def bodyDigest : PyStr :=
  "7446a3bb849e7ede58584411d33a6e036fcfaeadc71445d6f36310f54d93c507"

/-- The digest of `100.a.b.c` under the key `secret`. -/
def splicedDigest : PyStr :=
  "b2dde12f11ac03e23bbe829fe11617c73529989a107b461831bb541a7fe31a44"

def hundred (text : PyStr) : Option Int := if text = PyStr.ofString "100" then some 100 else none

end Sample

theorem signature_binds_sample :
    verifyCallbackSignature (fun _ _ => Sample.bodyDigest) Sample.hundred 130 [0x7B, 0x7D] "secret"
        (PyStr.ofString "sha256=" ++ Sample.bodyDigest) "100" (some "e") 300 true = .ok true ∧
      [(0x7B : UInt8), 0x7D] = [0x7B, 0x7D] ∧ PyStr.ofString "e" = "e" ∧ (100 : Int) = 100 := by
  have hascii : ∀ c ∈ Sample.bodyDigest, c.val < 0x80 := by
    have hall : (Sample.bodyDigest.all fun c => decide (c.val < 0x80)) = true := by decide +kernel
    exact fun c hc => of_decide_eq_true (List.all_eq_true.1 hall c hc)
  have htext : intText 100 = PyStr.ofString "100" := by decide +kernel
  have hverified : verifyCallbackSignature (fun _ _ => Sample.bodyDigest) Sample.hundred 130
      [0x7B, 0x7D] "secret" (PyStr.ofString "sha256=" ++ Sample.bodyDigest) "100" (some "e") 300
      true = .ok true := by rfl
  refine ⟨hverified, (signature_binds_iff (fun _ _ => Sample.bodyDigest) Sample.hundred "secret" _
    "100" (some "100") [0x7B, 0x7D] [0x7B, 0x7D] "e" "e" 100 100 100 130 300 true (by decide)
    (by decide) rfl ?_ (fun _ _ => hascii) ?_).2 (fun h => h.2.2.ne rfl) hverified⟩
  · exact callbackSignature_ok.2 ⟨htext, _, _, rfl, rfl, rfl⟩
  · exact fun _ _ _ h h' _ => Except.ok.inj (h.symm.trans h')

/-- A body that begins with a text and a dot can give both to its event ID. -/
theorem signature_spliced_sample :
    callbackSignature (fun _ _ => Sample.splicedDigest) 100 [0x62, 0x2E, 0x63] "secret" none
        (some "a") = .ok ("100", PyStr.ofString "sha256=" ++ Sample.splicedDigest) ∧
      signedMessage "100" "a" [0x62, 0x2E, 0x63] = signedMessage "100" "a.b" [0x63] ∧
      verifyCallbackSignature (fun _ _ => Sample.splicedDigest) Sample.hundred 130 [0x63] "secret"
        (PyStr.ofString "sha256=" ++ Sample.splicedDigest) "100" (some "a.b") 300 true = .ok true ∧
      [(0x62 : UInt8), 0x2E, 0x63] ≠ [0x63] ∧ PyStr.ofString "a" ≠ "a.b" := by
  have htext : intText 100 = PyStr.ofString "100" := by decide +kernel
  refine ⟨callbackSignature_ok.2 ⟨htext.symm, _, _, rfl, rfl, rfl⟩, by rfl, by rfl, by decide,
    by decide⟩

end BrunostJudge
