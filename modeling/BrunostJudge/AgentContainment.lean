import BrunostJudge.AgentRuntime
import BrunostJudge.Raising

namespace BrunostJudge
open Python
set_option autoImplicit true

def Rejects (x : Except ProtocolException α) : Prop :=
  ∀ exc, x = .error exc → ∃ message, exc = .invalid message

theorem Rejects.ok (a : α) : Rejects (.ok a) := by
  intro exc h
  cases h

theorem Rejects.reject (message : PyStr) : Rejects (rejectMessage message : Except _ α) := by
  intro exc h
  cases h
  exact ⟨message, rfl⟩

theorem Rejects.bind {x : Except ProtocolException α} {f : α → Except ProtocolException β}
    (hx : Rejects x) (hf : ∀ a, Rejects (f a)) : Rejects (x >>= f) := by
  intro exc h
  obtain h | ⟨a, _, h⟩ := bind_error.1 h
  · exact hx exc h
  · exact hf a exc h

theorem requireString_rejects (payload : Dict) (name : String) :
    Rejects (requireString payload name) := by
  unfold requireString
  split
  · exact .ok ()
  · exact .reject _

theorem requireInt_rejects (payload : Dict) (name : String) :
    Rejects (requireInt payload name) := by
  unfold requireInt
  split
  · exact .ok _
  · exact .reject _

theorem requireNonnegativeInt_rejects (payload : Dict) (name : String) :
    Rejects (requireNonnegativeInt payload name) := by
  apply Rejects.bind (requireInt_rejects payload name)
  intro i
  split
  · exact .reject _
  · exact .ok ()

theorem requirePositiveInt_rejects (payload : Dict) (name : String) :
    Rejects (requirePositiveInt payload name) := by
  apply Rejects.bind (requireInt_rejects payload name)
  intro i
  split
  · exact .reject _
  · exact .ok ()

theorem requireThat_rejects (condition : Bool) (message : String) :
    Rejects (requireThat condition message) := by
  cases condition with
  | false => exact .reject _
  | true => exact .ok ()

theorem requireFields_rejects (payload : Dict) (messageType : Json) :
    Rejects (requireFields payload messageType) := by
  unfold requireFields
  split
  · apply (requireThat_rejects _ _).bind
    intro _
    apply (requireString_rejects payload _).bind
    intro _
    apply (requireNonnegativeInt_rejects payload _).bind
    intro _
    apply (requireInt_rejects payload _).bind
    intro _
    split
    · exact .ok ()
    · exact .reject _
  · split
    · apply (requirePositiveInt_rejects payload _).bind
      intro _
      apply (requireString_rejects payload _).bind
      intro _
      apply (requireNonnegativeInt_rejects payload _).bind
      intro _
      apply (requireInt_rejects payload _).bind
      intro _
      exact requireThat_rejects _ _
    · split
      · exact requireThat_rejects _ _
      · exact .ok ()

namespace ProtocolHost
variable {host : ProtocolHost} {direction : ProtocolDirection} {payload message : Dict}

theorem validateMessage_ok (h : host.validateMessage payload direction = .ok message) :
    message = payload := by
  unfold validateMessage at h
  dsimp only at h
  split at h
  · cases h
  · split at h
    · cases h
    · split at h
      · cases h
      · obtain ⟨_, _, h⟩ := bind_ok.1 h
        exact (pure_ok.1 h).symm

theorem validateMessage_rejects (h : (payload.get "type").hashable) :
    Rejects (host.validateMessage payload direction) := by
  unfold validateMessage
  dsimp only
  split
  · next hunhashable =>
    rw [h] at hunhashable
    cases hunhashable
  · split
    · exact .reject _
    · split
      · exact .reject _
      · apply (requireFields_rejects payload _).bind
        intro _
        exact .ok payload

theorem validateMessage_unhashable (h : (payload.get "type").hashable = false) :
    host.validateMessage payload direction = .error .typeError := by
  unfold validateMessage
  exact if_pos (by rw [h]; rfl)

variable (host)

/-- Whether the text of a line is one that `json.loads` reads or rejects as no JSON, and its type
one that can be looked up. -/
def containable (raw : Bytes) : Bool :=
  match decodeUtf8 raw with
  | none => true
  | some text =>
    match host.loads text with
    | .value (.obj payload) => (Dict.get payload "type").hashable
    | .intTooLong | .tooDeep => false
    | _ => true

variable {host}

theorem decodeMessage_rejects (h : host.containable raw) :
    Rejects (host.decodeMessage raw maxBytes direction) := by
  unfold decodeMessage
  unfold containable at h
  split
  · exact .reject _
  · cases hdecode : decodeUtf8 raw with
    | none => exact .reject _
    | some text =>
      rw [hdecode] at h
      dsimp only at h ⊢
      cases hloads : host.loads text with
      | decodeError exc => exact .reject _
      | constant value => exact .reject _
      | intTooLong =>
        rw [hloads] at h
        cases h
      | tooDeep =>
        rw [hloads] at h
        cases h
      | value v =>
        rw [hloads] at h
        cases v with
        | obj payload => exact validateMessage_rejects h
        | _ => exact .reject _

theorem decodeMessage_escapes (hlength : raw.length ≤ maxBytes) (h : host.containable raw = false) :
    ∃ exc, host.decodeMessage raw maxBytes direction = .error exc ∧
      ∀ message, exc ≠ .invalid message := by
  unfold decodeMessage
  rw [if_neg (Nat.not_lt_of_le hlength)]
  unfold containable at h
  cases hdecode : decodeUtf8 raw with
  | none =>
    rw [hdecode] at h
    cases h
  | some text =>
    rw [hdecode] at h
    dsimp only at h ⊢
    cases hloads : host.loads text with
    | decodeError exc =>
      rw [hloads] at h
      cases h
    | constant value =>
      rw [hloads] at h
      cases h
    | intTooLong => exact ⟨.valueError, rfl, fun _ he => by cases he⟩
    | tooDeep => exact ⟨.recursionError, rfl, fun _ he => by cases he⟩
    | value v =>
      rw [hloads] at h
      cases v with
      | obj payload =>
        exact ⟨.typeError, validateMessage_unhashable h, fun _ he => by cases he⟩
      | _ => cases h

theorem decodeMessage_accepted (h : host.decodeMessage raw maxBytes direction = .ok message) :
    host.validateMessage message direction = .ok message := by
  unfold decodeMessage at h
  split at h
  · cases h
  · split at h
    · cases h
    · split at h
      any_goals cases h
      have hpayload := validateMessage_ok h
      rw [hpayload] at h ⊢
      exact h

/-- A call that returns a message fit for its direction, or raises a protocol error. -/
def Answered (host : ProtocolHost) (outcome : Except ProtocolException Dict) : Prop :=
  (∃ message, outcome = .ok message ∧ host.validateMessage message .agent = .ok message) ∨
    ∃ text, outcome = .error (.invalid text)

theorem decodeMessage_answered (hlength : raw.length ≤ maxBytes) :
    Answered host (host.decodeMessage raw maxBytes .agent) ↔ host.containable raw := by
  constructor
  · intro h
    cases hc : host.containable raw with
    | true => rfl
    | false =>
      obtain ⟨exc, hexc, hother⟩ : ∃ exc, host.decodeMessage raw maxBytes .agent = .error exc ∧
          ∀ message, exc ≠ .invalid message := decodeMessage_escapes hlength hc
      rw [hexc] at h
      obtain ⟨message, hok, _⟩ | ⟨text, hinvalid⟩ := h
      · cases hok
      · exact absurd (Except.error.inj hinvalid) (hother text)
  · intro h
    cases hdecode : host.decodeMessage raw maxBytes .agent with
    | ok message => exact .inl ⟨message, rfl, decodeMessage_accepted hdecode⟩
    | error exc =>
      obtain ⟨text, rfl⟩ := decodeMessage_rejects h exc hdecode
      exact .inr ⟨text, rfl⟩

theorem encodeMessage_rejects (h : (message.get "type").hashable) :
    Rejects (host.encodeMessage message maxBytes) := by
  apply (validateMessage_rejects h).bind
  intro normalized
  split
  · exact .reject _
  · dsimp only
    split
    · exact .reject _
    · exact .ok _

/-- A request that returns a message or raises an `AgentRuntimeError`. -/
def Handled (outcome : Except AgentException Dict) : Prop :=
  ∀ exc, outcome ≠ .error (.escaped exc)

theorem readDecoded_handled {p : AgentProcess}
    (h : Rejects (host.decodeMessage raw p.maxMessageBytes .agent)) :
    Handled (host.readDecoded p (.ok raw)) := by
  intro exc hr
  rw [readDecoded] at hr
  cases hdecode : host.decodeMessage raw p.maxMessageBytes .agent with
  | ok message =>
    rw [hdecode] at hr
    cases hr
  | error e =>
    obtain ⟨text, rfl⟩ := h e hdecode
    rw [hdecode] at hr
    cases hr

/-- What a request raises besides `AgentRuntimeError`, it raises over the line it took. -/
theorem request_handled {p : AgentProcess} {exchange : Exchange}
    (htype : (message.get "type").hashable)
    (hline : ∀ raw buffer events,
      host.readLine p.agentId p.maxMessageBytes p.stdoutBuffer exchange.events =
          some (.ok raw, buffer, events) →
        Rejects (host.decodeMessage raw p.maxMessageBytes .agent))
    (hrun : host.request p message exchange = some (outcome, p', events)) : Handled outcome := by
  have hcontained : ∀ error, Handled (.error (.contained error)) := by
    intro error exc he
    cases he
  unfold request at hrun
  dsimp only at hrun
  split at hrun
  · cases hrun
    exact hcontained _
  · cases hencode : host.encodeMessage message p.maxMessageBytes with
    | error e =>
      obtain ⟨text, rfl⟩ := encodeMessage_rejects htype e hencode
      rw [hencode] at hrun
      cases hrun
      exact hcontained _
    | ok encoded =>
      rw [hencode] at hrun
      dsimp only at hrun
      split at hrun
      · cases hrun
        exact hcontained _
      · split at hrun
        · cases hrun
          exact hcontained _
        · unfold readMessage at hrun
          obtain ⟨⟨read, buffer, rest⟩, hread, hresult⟩ := Option.map_eq_some_iff.1 hrun
          cases hresult
          cases read with
          | error error => exact hcontained error
          | ok raw => exact readDecoded_handled (hline raw buffer rest hread)

/-- The line is contained: decoding it ends as the protocol says, and so does every request that
takes this line, if it takes one. -/
def Contained (host : ProtocolHost) (maxBytes : Nat) (raw : Bytes) : Prop :=
  Answered host (host.decodeMessage raw maxBytes .agent) ∧
    ∀ (p : AgentProcess) (message : Dict) (exchange : Exchange) outcome p' events,
      p.maxMessageBytes = maxBytes → (message.get "type").hashable →
      (∀ line buffer rest,
        host.readLine p.agentId p.maxMessageBytes p.stdoutBuffer exchange.events =
          some (.ok line, buffer, rest) → line = raw) →
      host.request p message exchange = some (outcome, p', events) → Handled outcome

end ProtocolHost

namespace Sample

def readyText : String := "\x7b\"type\": \"ready\"\x7d"

def listTypeText : String := "\x7b\"type\": []\x7d"

def bytesOf (text : String) : Bytes := text.toList.map fun c => UInt8.ofNat c.toNat

/-- `json.loads` on the sample lines. -/
def protocolHost : ProtocolHost where
  loads text :=
    if text = readyText then .value (.obj [("type", .text "ready")])
    else if text = listTypeText then .value (.obj [("type", .arr [])])
    else .decodeError []
  repr _ := []
  unicodeDecodeError _ := []
  describe _ := []

def agentProcess : AgentProcess where
  agentId := "agent"
  maxMessageBytes := 65536
  running := true
  stdoutBuffer := []
  requests := 0

def shutdown : Dict := [("type", .text "shutdown")]

end Sample

end BrunostJudge
