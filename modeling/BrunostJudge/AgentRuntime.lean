import BrunostJudge.AgentProtocol

namespace BrunostJudge
open Python
set_option autoImplicit true

/-- The subclasses of `AgentRuntimeError` that a request raises, and the class itself. -/
inductive AgentFailureKind where
  | runtime
  | protocol
  | timeout
  | crashed
deriving DecidableEq

structure AgentRuntimeError where
  kind : AgentFailureKind
  message : PyStr
deriving DecidableEq

/-- What a request to an agent raises: a contained failure, or whatever else comes through. -/
inductive AgentException where
  | contained (error : AgentRuntimeError)
  | escaped (exc : ProtocolException)
deriving DecidableEq

/-- What one round of the read loop meets when no line is in the buffer. -/
inductive ReadEvent where
  | deadline
  | exited (code : Int)
  | selectFailed (exc : PyStr)
  | silent
  | readFailed (exc : PyStr)
  | closed
  | chunk (bytes : Bytes)

structure AgentProcess where
  agentId : PyStr
  maxMessageBytes : Nat
  running : Bool
  stdoutBuffer : Bytes
  requests : Nat

/-- What a request meets on its way: whether the total runtime is used up, whether writing to
the agent fails, and what the read loop sees. -/
structure Exchange where
  expired : Bool
  closedStdin : Bool
  events : List ReadEvent

def newline : UInt8 := 0x0A

/-- The first line of the buffer and what follows it. -/
def takeLine (buffer : Bytes) : Option (Bytes × Bytes) :=
  (buffer.idxOf? newline).map fun i => (buffer.take i, buffer.drop (i + 1))

namespace ProtocolHost
variable (host : ProtocolHost)

def agentText (agentId : PyStr) (before after : String) : PyStr :=
  PyStr.ofString before ++ host.repr (.str agentId) ++ PyStr.ofString after

def decimalInt (i : Int) : PyStr := printSign (i < 0) ++ decimal i.natAbs

/-- The failure that ends the wait for a line. -/
def readFailure (agentId : PyStr) : ReadEvent → AgentRuntimeError
  | .deadline | .silent => ⟨.timeout, host.agentText agentId "agent " " exceeded response timeout"⟩
  | .exited code =>
    ⟨.crashed, host.agentText agentId "agent " " exited with code " ++ decimalInt code⟩
  | .selectFailed exc => ⟨.runtime, host.agentText agentId "could not read agent " ": " ++ exc⟩
  | .readFailed exc => ⟨.crashed, host.agentText agentId "could not read agent " ": " ++ exc⟩
  | .closed => ⟨.crashed, host.agentText agentId "agent " " closed stdout"⟩
  | .chunk _ => ⟨.protocol, host.agentText agentId "message from agent " " exceeds size limit"⟩

/-- The read loop: the line it takes out of the buffer or the failure, the buffer it leaves and
the events it has not met. There is no result while the loop waits. -/
def readLine (agentId : PyStr) (maxMessageBytes : Nat) (buffer : Bytes) :
    List ReadEvent → Option (Except AgentRuntimeError Bytes × Bytes × List ReadEvent)
  | [] => (takeLine buffer).map fun l => (.ok l.1, l.2, [])
  | event :: events =>
    match takeLine buffer with
    | some (raw, rest) => some (.ok raw, rest, event :: events)
    | none =>
      match event with
      | .chunk bytes =>
        if (buffer ++ bytes).length > maxMessageBytes then
          some (.error (host.readFailure agentId event), buffer ++ bytes, events)
        else readLine agentId maxMessageBytes (buffer ++ bytes) events
      | _ => some (.error (host.readFailure agentId event), buffer, events)

/-- What becomes of a line. -/
def readDecoded (p : AgentProcess) : Except AgentRuntimeError Bytes → Except AgentException Dict
  | .error error => .error (.contained error)
  | .ok raw =>
    match host.decodeMessage raw p.maxMessageBytes .agent with
    | .ok message => .ok message
    | .error (.invalid message) =>
      .error (.contained ⟨.protocol, host.agentText p.agentId "agent " ": " ++ message⟩)
    | .error exc => .error (.escaped exc)

def readMessage (p : AgentProcess) (events : List ReadEvent) :
    Option (Except AgentException Dict × AgentProcess × List ReadEvent) :=
  (host.readLine p.agentId p.maxMessageBytes p.stdoutBuffer events).map fun r =>
    (host.readDecoded p r.1, { p with stdoutBuffer := r.2.1 }, r.2.2)

def request (p : AgentProcess) (message : Dict) (exchange : Exchange) :
    Option (Except AgentException Dict × AgentProcess × List ReadEvent) :=
  let failed (kind : AgentFailureKind) (text : PyStr) (p : AgentProcess) :=
    some (Except.error (.contained ⟨kind, text⟩), p, exchange.events)
  if !p.running then
    failed .runtime (host.agentText p.agentId "agent " " is not running") p
  else
    match host.encodeMessage message p.maxMessageBytes with
    | .error (.invalid text) =>
      failed .protocol (host.agentText p.agentId "message to agent " ": " ++ text) p
    | .error exc => some (.error (.escaped exc), p, exchange.events)
    | .ok _ =>
      if exchange.expired then
        failed .timeout (host.agentText p.agentId "agent " " exceeded total runtime") p
      else
        let p := { p with requests := p.requests + 1 }
        if exchange.closedStdin then
          failed .crashed (host.agentText p.agentId "agent " " closed stdin") p
        else host.readMessage p exchange.events

end ProtocolHost

end BrunostJudge
