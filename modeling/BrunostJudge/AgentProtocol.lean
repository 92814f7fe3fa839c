import BrunostJudge.PyDumps

namespace BrunostJudge
open Python
set_option autoImplicit true

abbrev Bytes := List UInt8

/-- `bytes.decode("utf-8")`. -/
def decodeUtf8 (raw : Bytes) : Option PyStr := (String.fromUTF8? raw.toByteArray).map PyStr.ofString

/-- How `json.loads` with a `parse_constant` that raises ends. -/
inductive Loaded where
  | value (v : Json)
  | decodeError (exc : PyStr)
  /-- The hook got a constant such as `NaN`. -/
  | constant (value : PyStr)
  /-- A `ValueError` that is no `JSONDecodeError`: an integer of too many digits. -/
  | intTooLong
  /-- A `RecursionError`: nesting that is too deep. -/
  | tooDeep

/-- The Python the agent protocol runs on: `json.loads`, how values print, and the texts of the
exceptions that become part of a message. -/
structure ProtocolHost where
  loads : PyStr → Loaded
  repr : Json → PyStr
  unicodeDecodeError : Bytes → PyStr
  describe : PyError → PyStr

/-- What the protocol functions raise. -/
inductive ProtocolException where
  /-- `ProtocolValidationError`. -/
  | invalid (message : PyStr)
  | typeError
  | valueError
  | recursionError
deriving DecidableEq

inductive ProtocolDirection where
  | controller
  | agent

def ProtocolDirection.text : ProtocolDirection → String
  | .controller => "controller"
  | .agent => "agent"

def protocolVersion : Int := 1

def messageTypes : List String := ["init", "ready", "turn", "action", "shutdown"]

def ProtocolDirection.allowed : ProtocolDirection → List String
  | .controller => ["init", "turn", "shutdown"]
  | .agent => ["ready", "action"]

def rejectMessage {α : Type} (message : PyStr) : Except ProtocolException α :=
  .error (.invalid message)

def requireString (payload : Dict) (name : String) : Except ProtocolException Unit :=
  match payload.get name with
  | .str (_ :: _) => .ok ()
  | _ => rejectMessage (PyStr.ofString name ++ PyStr.ofString " must be a non-empty string")

def requireInt (payload : Dict) (name : String) : Except ProtocolException Int :=
  match payload.get name with
  | .num (.int i) => .ok i
  | _ => rejectMessage (PyStr.ofString name ++ PyStr.ofString " must be an integer")

def requireNonnegativeInt (payload : Dict) (name : String) : Except ProtocolException Unit := do
  let i ← requireInt payload name
  if i < 0 then rejectMessage (PyStr.ofString name ++ PyStr.ofString " must be non-negative")

def requirePositiveInt (payload : Dict) (name : String) : Except ProtocolException Unit := do
  let i ← requireInt payload name
  if i < 1 then rejectMessage (PyStr.ofString name ++ PyStr.ofString " must be positive")

def requireThat (condition : Bool) (message : String) : Except ProtocolException Unit :=
  if condition then .ok () else rejectMessage message

/-- What `validate_message` asks of a message of a known type. -/
def requireFields (payload : Dict) (messageType : Json) : Except ProtocolException Unit :=
  if messageType = .text "init" then do
    requireThat ((payload.get "protocol_version").eq (.num (.int protocolVersion)))
      "protocol_version must be 1"
    requireString payload "agent_id"
    requireNonnegativeInt payload "seat"
    let _ ← requireInt payload "seed"
    match payload.getD "metadata" (.obj []) with
    | .obj _ => pure ()
    | _ => rejectMessage "metadata must be an object"
  else if messageType = .text "turn" then do
    requirePositiveInt payload "turn"
    requireString payload "agent_id"
    requireNonnegativeInt payload "seat"
    let _ ← requireInt payload "seed"
    requireThat (payload.contains "state") "turn requires state"
  else if messageType = .text "action" then
    requireThat (payload.contains "action") "action requires action"
  else .ok ()

namespace ProtocolHost
variable (host : ProtocolHost)

def validateMessage (payload : Dict) (direction : ProtocolDirection) :
    Except ProtocolException Dict :=
  let messageType := payload.get "type"
  -- `in` on a set hashes its left side.
  if !messageType.hashable then .error .typeError
  else if messageType ∉ messageTypes.map Json.text then
    rejectMessage (PyStr.ofString "unknown message type: " ++ host.repr messageType)
  else if messageType ∉ direction.allowed.map Json.text then
    rejectMessage (host.repr messageType ++ PyStr.ofString " is not valid from the " ++
      PyStr.ofString direction.text)
  else do
    requireFields payload messageType
    return payload

def tooLarge {α : Type} (maxBytes : Nat) : Except ProtocolException α :=
  rejectMessage (PyStr.ofString "message exceeds size limit (" ++ decimal maxBytes ++
    PyStr.ofString " bytes)")

/-- `json.dumps(value, separators=(",", ":"), ensure_ascii=False,
allow_nan=False).encode("utf-8")`. -/
def dumpsCompact (value : Json) : Except PyError Bytes :=
  if value.allFinite then
    match value.print.encode? with
    | none => .error .unicodeEncodeError
    | some text => .ok text.toUTF8.data.toList
  else .error (.valueError "Out of range float values are not JSON compliant")

def encodeMessage (message : Dict) (maxBytes : Nat) : Except ProtocolException Bytes := do
  let normalized ← host.validateMessage message .controller
  match dumpsCompact (.obj normalized) with
  | .error exc =>
    rejectMessage (PyStr.ofString "message is not JSON serializable: " ++ host.describe exc)
  | .ok text =>
    let encoded := text ++ [0x0A]
    if encoded.length > maxBytes then tooLarge maxBytes else return encoded

def decodeMessage (raw : Bytes) (maxBytes : Nat) (direction : ProtocolDirection) :
    Except ProtocolException Dict :=
  if raw.length > maxBytes then tooLarge maxBytes
  else
    match decodeUtf8 raw with
    | none =>
      rejectMessage
        (PyStr.ofString "message is not valid UTF-8 JSON: " ++ host.unicodeDecodeError raw)
    | some text =>
      match host.loads text with
      | .decodeError exc =>
        rejectMessage (PyStr.ofString "message is not valid UTF-8 JSON: " ++ exc)
      | .constant value =>
        rejectMessage (PyStr.ofString "non-finite JSON constant is not allowed: " ++ value)
      | .intTooLong => .error .valueError
      | .tooDeep => .error .recursionError
      | .value (.obj payload) => host.validateMessage payload direction
      | .value _ => rejectMessage "message must be a JSON object"

end ProtocolHost

end BrunostJudge
