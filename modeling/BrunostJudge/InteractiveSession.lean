import BrunostJudge.AgentRuntime
import BrunostJudge.Framing
import BrunostJudge.PyCollections
import BrunostJudge.PyEncoding
import BrunostJudge.PyFloat

namespace BrunostJudge
open Python
set_option autoImplicit true

def maxSessionLineBytes : Nat := 64 * 1024
def maxTranscriptEvents : Nat := 2000

/-- What an interactor lets through, by the handler of `run` that takes it. -/
inductive InteractorException where
  | timeout (message : PyStr)
  | overflow (message : PyStr)
  | protocol (message : PyStr)
  | other (message : PyStr)
deriving DecidableEq

/-- What one `os.read` returns before the end of the stream. -/
structure PipeChunk where
  bytes : Bytes
  nonempty : bytes ≠ []
  short : bytes.length ≤ 4096

/-- What one round of `receive` meets when no line is in the buffer; there is no further event
at the end of the stream. -/
inductive PipeEvent where
  | read (chunk : PipeChunk)
  | waited
  | expired

structure TranscriptEvent where
  direction : String
  value : PyStr
deriving DecidableEq

structure InteractiveSession where
  outputLimit : Nat
  outputBytes : Nat
  transcript : List TranscriptEvent
  buffer : Bytes

/-- The Python that a session runs on: `bytes.decode("utf-8", errors="replace")`, `str`,
`str.upper`, and `float` of a text. -/
structure InteractorHost where
  decode : Bytes → PyStr
  str : Json → PyStr
  upper : PyStr → PyStr
  parseFloat : PyStr → Option Number

namespace InteractiveSession

def new (outputLimit : Nat) : InteractiveSession := ⟨outputLimit, 0, [], []⟩

/-- `_record`. -/
def record (session : InteractiveSession) (direction : String) (value : PyStr) :
    InteractiveSession :=
  if session.transcript.length < maxTranscriptEvents then
    { session with transcript :=
        session.transcript ++ [⟨direction, value.take maxSessionLineBytes⟩] }
  else session

/-- `rstrip("\\n")`. -/
def stripNewlines (value : PyStr) : PyStr :=
  (value.reverse.dropWhile fun c => c.val = 0x0A).reverse

/-- The size of a message, with the newline that ends it. -/
def messageSize (value : PyStr) (text : String) : Nat :=
  text.utf8ByteSize + if (value.getLast?.any fun c => c.val = 0x0A) then 0 else 1

def send (session : InteractiveSession) (value : Json) (stdinOpen : Bool) :
    Except InteractorException Unit × InteractiveSession :=
  match value with
  | .str value =>
    match value.encode? with
    | none =>
      (.error (.other (PyStr.ofString "UnicodeEncodeError: " ++ value.encodeError)), session)
    | some text =>
      if maxSessionLineBytes < messageSize value text then
        (.error (.protocol (PyStr.ofString "interactor message exceeds line limit")), session)
      else if stdinOpen then (.ok (), session.record "judge" (stripNewlines value))
      else (.error (.protocol (PyStr.ofString "candidate closed its input")), session)
  | _ => (.error (.protocol (PyStr.ofString "session.send expects a string")), session)

/-- What becomes of a line that was cut off the buffer. -/
def lineReply (host : InteractorHost) (raw : Bytes) : Except InteractorException PyStr :=
  if maxSessionLineBytes < raw.length then
    .error (.overflow (PyStr.ofString "interactive line limit exceeded"))
  else .ok (host.decode raw)

/-- The reply that takes a line from the buffer, where there is one. -/
def takeReply (host : InteractorHost) (session : InteractiveSession) :
    Option (Except InteractorException PyStr × InteractiveSession) :=
  (takeLine session.buffer).map fun (raw, remainder) =>
    let session := { session with buffer := remainder }
    match lineReply host raw with
    | .ok value => (.ok value, session.record "candidate" value)
    | .error exc => (.error exc, session)

/-- `buffer.extend` of what was read. -/
def extend (session : InteractiveSession) (chunk : PipeChunk) : InteractiveSession :=
  { session with
    buffer := session.buffer ++ chunk.bytes
    outputBytes := session.outputBytes + chunk.bytes.length }

/-- `receive`, with what it leaves of the events. A deadline that has passed stays passed. -/
def receive (host : InteractorHost) (session : InteractiveSession) :
    List PipeEvent → Except InteractorException PyStr × InteractiveSession × List PipeEvent
  | [] =>
    match session.takeReply host with
    | some (reply, session) => (reply, session, [])
    | none => (.error (.protocol (PyStr.ofString "candidate closed stdout")), session, [])
  | event :: events =>
    match session.takeReply host with
    | some (reply, session) => (reply, session, event :: events)
    | none =>
      match event with
      | .expired => (.error (.timeout (PyStr.ofString "interactive time limit exceeded")), session,
          event :: events)
      | .waited => receive host session events
      | .read chunk =>
        if session.outputLimit < (session.extend chunk).outputBytes then
          (.error (.overflow (PyStr.ofString "interactive output limit exceeded")),
            session.extend chunk, events)
        else receive host (session.extend chunk) events

end InteractiveSession

/-- A call that an interactor makes on its session. -/
inductive SessionCall where
  | send (value : Json)
  | receive

inductive SessionReply where
  | sent (result : Except InteractorException Unit)
  | received (result : Except InteractorException PyStr)
deriving DecidableEq

/-- What an interactor does next: it calls the session, or it returns or raises. -/
inductive InteractorStep where
  | call (c : SessionCall)
  | ends (result : Except InteractorException Json)

/-- An interactor goes by the replies it has got. -/
abbrev Interactor := List SessionReply → InteractorStep

/-- Where a dialogue stands. -/
structure Dialogue where
  session : InteractiveSession
  events : List PipeEvent
  replies : List SessionReply

namespace Dialogue
variable (host : InteractorHost) (stdinOpen : Nat → Bool)

/-- One call; `stdinOpen` tells which of the calls finds the input of the candidate open. -/
def call (d : Dialogue) : SessionCall → Dialogue
  | .send value =>
    let (reply, session) := d.session.send value (stdinOpen d.replies.length)
    ⟨session, d.events, d.replies ++ [.sent reply]⟩
  | .receive =>
    let (reply, session, events) := d.session.receive host d.events
    ⟨session, events, d.replies ++ [.received reply]⟩

/-- The dialogue after so many further calls, or at its end. -/
def run (interactor : Interactor) : Nat → Dialogue → Dialogue
  | 0, d => d
  | n + 1, d =>
    match interactor d.replies with
    | .ends _ => d
    | .call c => run interactor n (d.call host stdinOpen c)

/-- The dialogue before the first call. -/
def start (outputLimit : Nat) (events : List PipeEvent) : Dialogue :=
  ⟨.new outputLimit, events, []⟩

end Dialogue

namespace InteractorHost
variable (host : InteractorHost)

/-- `float(value)`. -/
def floatOf : Json → Except InteractorException Number
  | .bool b => .ok (.float (floatRepr (if b then 1 else 0)))
  | .num (.int i) =>
    if i.natAbs < 2 ^ 1024 - 2 ^ 970 then .ok (.float (floatRepr (toFloat i)))
    else .error (.overflow (PyStr.ofString "int too large to convert to float"))
  | .num n => .ok n
  | .str s =>
    match host.parseFloat s with
    | some n => .ok n
    | none => .error (.protocol (PyStr.ofString "interactor score must be numeric"))
  | _ => .error (.protocol (PyStr.ofString "interactor score must be numeric"))

def textOf (b : Bool) (yes no : String) : Json := .text (if b then yes else no)

/-- `_result_from_interactor`. -/
def resultFromInteractor : Json → Except InteractorException (PyStr × Number × Option PyStr)
  | .bool true => .ok (PyStr.ofString "AC", .float (floatRepr 1), none)
  | .bool false => .ok (PyStr.ofString "WA", .float (floatRepr 0),
      some (PyStr.ofString "interactor rejected the solution"))
  | .obj fields => do
    let verdict := host.upper (host.str
      (Dict.getD fields "verdict" (textOf (Dict.get fields "ok").truthy "AC" "WA")))
    let verdict := if verdict = PyStr.ofString "OK" then PyStr.ofString "AC" else verdict
    let score ← host.floatOf
      (Dict.getD fields "score" (.ofFloat (if verdict = PyStr.ofString "AC" then 1 else 0)))
    if Number.lt score (.int 0) || Number.lt (.int 1) score || score = .nan then
      throw (.protocol (PyStr.ofString "interactor score must be between 0 and 1"))
    let message := Dict.get fields "message"
    return (verdict, score, if message.truthy then some (host.str message) else none)
  | _ => .error (.protocol (PyStr.ofString "interactor must return bool or an object result"))

/-- The row of a dialogue that ended by an exception. -/
def raisedRow : InteractorException → Dict
  | .timeout message => row "completed" "TLE" message
  | .overflow message => row "completed" "OLE" message
  | .protocol message => row "completed" "RE" message
  | .other message =>
    [("status", .text "failed"), ("verdict", .text "JUDGE_ERROR"), ("message", .str message)]
where
  row (status verdict : String) (message : PyStr) : Dict :=
    [("status", .text status), ("verdict", .text verdict), ("score", .ofFloat 0),
      ("message", .str message)]

def transcriptJson (transcript : List TranscriptEvent) : Json :=
  .arr (transcript.map fun e => .obj [("direction", .text e.direction), ("value", .str e.value)])

/-- `a or b or None` of texts. -/
def firstText (texts : List PyStr) : Json := ((texts.find? (· ≠ [])).map Json.str).getD .null

/-- The row of a dialogue: `exitCode`, `stderr` and `compileStderr` are those of the candidate. -/
def dialogueRow (exitCode : Int) (stderr compileStderr : PyStr)
    (result : Except InteractorException Json) (transcript : List TranscriptEvent) : Dict :=
  match result.bind host.resultFromInteractor with
  | .error exc => raisedRow exc
  | .ok (verdict, score, message) =>
    let crashed := exitCode ≠ 0 ∧ verdict = PyStr.ofString "AC"
    let verdict := if crashed then PyStr.ofString "RE" else verdict
    let score := if crashed then .float (floatRepr 0) else score
    let message := if crashed then
      some (PyStr.ofString "candidate exited before the interaction completed") else message
    [("status", .text "completed"), ("verdict", .str verdict), ("score", .num score),
      ("message", firstText [message.getD [], stderr, compileStderr]),
      ("transcript", transcriptJson transcript)]

end InteractorHost

/-- The row of a dialogue, once its interactor has ended. -/
def Dialogue.row (host : InteractorHost) (interactor : Interactor) (exitCode : Int)
    (stderr compileStderr : PyStr) (d : Dialogue) : Option Dict :=
  match interactor d.replies with
  | .call _ => none
  | .ends result =>
    some (host.dialogueRow exitCode stderr compileStderr result d.session.transcript)

end BrunostJudge
