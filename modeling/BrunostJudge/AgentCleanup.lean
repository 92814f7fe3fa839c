import BrunostJudge.AgentTurns

namespace BrunostJudge
open Python
set_option autoImplicit true

def shutdownMessage : Dict := [("type", .text "shutdown")]

/-- How far the start of a seat gets. -/
inductive SeatStart where
  /-- No command is found, or the sandbox for it. -/
  | noCommand
  | notLaunched
  /-- The process runs, but the thread that is to read its stderr does not start. -/
  | unwatched
  | launched (init : Exchange)

def SeatStart.isLaunched : SeatStart → Bool
  | .noCommand | .notLaunched => false
  | .unwatched | .launched _ => true

def SeatStart.isWatched : SeatStart → Bool
  | .launched _ => true
  | _ => false

/-- What the close of a seat raises. -/
inductive CloseException where
  | escaped (exc : ProtocolException)
  /-- The thread that is to be joined was never started. -/
  | unjoined

/-- A seat with all that happens to its process. `process` is the state in which the close finds
it, with any bytes of the agent in its buffer, and `shutdown` is what the request to shut down
meets before its deadline. -/
structure MatchSeat where
  agent : AgentProcess
  init : Dict
  start : SeatStart
  process : AgentProcess
  shutdown : Exchange
  /-- The process has exited before the close. -/
  exited : Bool
  /-- It has exited after the request to shut down. -/
  leaves : Bool
  /-- It exits in time when it is terminated. -/
  obeys : Bool
  /-- It has exited by itself in the end, if nobody has stopped it. -/
  alone : Bool

/-- How a close leaves the process of a seat. -/
inductive SeatEnd where
  | notLaunched
  | exited
  | terminated
  | killed
  | untouched
deriving DecidableEq

/-- The request waits until its deadline at the latest. -/
def Exchange.ending (exchange : Exchange) : Exchange :=
  { exchange with events := exchange.events ++ [.deadline] }

namespace ProtocolHost
variable (host : ProtocolHost)

theorem readLine_ends (agentId : PyStr) (maxBytes : Nat) (buffer : Bytes)
    (events : List ReadEvent) :
    (host.readLine agentId maxBytes buffer (events ++ [.deadline])).isSome := by
  induction events generalizing buffer with
  | nil =>
    rw [List.nil_append]
    cases hline : takeLine buffer with
    | some l =>
      rw [readLine_line hline]
      rfl
    | none =>
      rw [readLine_stop (takeLine_none hline) (by intro bytes h; cases h)]
      rfl
  | cons event events ih =>
    rw [List.cons_append, readLine.eq_def]
    simp only
    split
    · rfl
    · split
      · split
        · rfl
        · exact ih _
      · rfl

theorem request_ends (p : AgentProcess) (message : Dict) (exchange : Exchange) :
    (host.request p message exchange.ending).isSome := by
  unfold request
  simp only
  split
  · rfl
  · split
    · rfl
    · rfl
    · split
      · rfl
      · split
        · rfl
        · rw [readMessage, Option.isSome_map]
          exact readLine_ends host _ _ _ _

/-- What the request to shut down returns or raises. -/
def shutdownReply (s : MatchSeat) : Except AgentException Dict :=
  ((host.request s.process shutdownMessage s.shutdown.ending).get (request_ends host _ _ _)).1

/-- How a process ends that is terminated, and killed if that is not enough. -/
def stopped (s : MatchSeat) : SeatEnd :=
  if s.leaves then .exited else if s.obeys then .terminated else .killed

/-- `_AgentProcess.close`: what it raises, and what becomes of the process. -/
def closeSeat (s : MatchSeat) : Option CloseException × SeatEnd :=
  if !s.start.isLaunched then (none, .notLaunched)
  else if !s.start.isWatched then
    -- The deadline was not set yet, so that the request to shut down times out before it is sent.
    (some .unjoined, if s.exited then .exited else stopped s)
  else if s.exited then (none, .exited)
  else
    match host.shutdownReply s with
    | .error (.escaped exc) => (some (.escaped exc), .untouched)
    | _ => (none, stopped s)

/-- `AgentRuntime.close` on the seats in the order in which it closes them. -/
def closeAll : List MatchSeat → Option CloseException × List (MatchSeat × SeatEnd)
  | [] => (none, [])
  | s :: seats =>
    match host.closeSeat s with
    | (some exc, seatEnd) => (some exc, (s, seatEnd) :: seats.map fun t => (t, .untouched))
    | (none, seatEnd) => ((closeAll seats).1, (s, seatEnd) :: (closeAll seats).2)

/-- `_AgentProcess.start` does not raise. -/
def starts (s : MatchSeat) : Bool :=
  match s.start with
  | .launched init =>
    match host.request s.agent s.init init.ending with
    | some (.ok response, _) => Dict.get response "type" = .text "ready"
    | _ => false
  | _ => false

/-- The seats that `AgentRuntime.start` has got to when it ends or raises. -/
def attempted : List MatchSeat → List MatchSeat
  | [] => []
  | s :: seats => if host.starts s then s :: attempted seats else [s]

/-- The close after a start that raised, or at the end of the match. -/
def cleanUp (seats : List MatchSeat) : Option CloseException × List (MatchSeat × SeatEnd) :=
  host.closeAll (host.attempted seats).reverse

/-- The agent answers the request to shut down with a line that is not contained: decoding it
raises something else than a protocol error. -/
def EscapesShutdown (s : MatchSeat) : Prop :=
  s.start.isWatched = true ∧ s.exited = false ∧
    host.delivers s.process shutdownMessage s.shutdown = true ∧
    ∃ raw buffer rest, host.readLine s.process.agentId s.process.maxMessageBytes
        s.process.stdoutBuffer s.shutdown.ending.events = some (.ok raw, buffer, rest) ∧
      raw.length ≤ s.process.maxMessageBytes ∧ host.containable raw = false

end ProtocolHost

/-- A seat whose process was launched, and is not watched. -/
def Unwatched (s : MatchSeat) : Prop :=
  s.start = .unwatched

/-- The process of a seat ends without being stopped. -/
def EndsAlone (s : MatchSeat) : Prop :=
  s.start.isLaunched = true → s.exited = true ∨ s.alone = true

/-- The process of a seat is no longer running. -/
def Stopped (s : MatchSeat) (seatEnd : SeatEnd) : Prop :=
  seatEnd = .untouched → EndsAlone s

namespace ProtocolHost
variable {host : ProtocolHost}

/-- What the request to shut down raises besides a protocol error, it raises over its reply. -/
theorem shutdownReply_escaped_iff (s : MatchSeat) (hwatched : s.start.isWatched = true)
    (hexited : s.exited = false) :
    (∃ exc, host.shutdownReply s = .error (.escaped exc)) ↔ host.EscapesShutdown s := by
  obtain ⟨⟨outcome, p, events⟩, hrequest⟩ :=
    Option.isSome_iff_exists.1 (request_ends host s.process shutdownMessage s.shutdown)
  have hreply : host.shutdownReply s = outcome := by
    rw [shutdownReply, Option.get_of_eq_some _ hrequest]
  have hdelivers : host.delivers s.process shutdownMessage s.shutdown.ending =
      host.delivers s.process shutdownMessage s.shutdown := rfl
  rw [hreply]
  constructor
  · rintro ⟨exc, rfl⟩
    have htype : (Dict.get shutdownMessage "type").hashable = true := by decide
    refine ⟨hwatched, hexited, ?_, ?_⟩
    · by_contra hrefused
      rw [Bool.not_eq_true, ← hdelivers] at hrefused
      exact (request_refused hrefused hrequest).2.2 htype exc rfl
    · by_contra hline
      apply request_handled htype ?_ hrequest exc rfl
      intro raw buffer rest hread exc' hdecode
      by_contra hinvalid
      apply hline
      refine ⟨raw, buffer, rest, hread, ?_, ?_⟩
      · by_contra hlong
        rw [decodeMessage, if_pos (Nat.lt_of_not_le hlong)] at hdecode
        cases hdecode
        exact hinvalid ⟨_, rfl⟩
      · cases hc : host.containable raw with
        | false => rfl
        | true => exact absurd (decodeMessage_rejects hc exc' hdecode) hinvalid
  · rintro ⟨-, -, hdelivered, raw, buffer, rest, hread, hlength, hescapes⟩
    have hraises : ∃ exc, host.decodeMessage raw s.process.maxMessageBytes .agent = .error exc ∧
        ∀ message, exc ≠ .invalid message := decodeMessage_escapes hlength hescapes
    obtain ⟨exc, hdecode, hinvalid⟩ := hraises
    rw [request_delivered (hdelivers.trans hdelivered), readMessage, hread, Option.map_some,
      Option.some.injEq, Prod.mk.injEq] at hrequest
    obtain ⟨rfl, -⟩ := hrequest
    refine ⟨exc, ?_⟩
    rw [readDecoded]
    simp only [hdecode]

theorem isLaunched_of_isWatched {start : SeatStart} (h : start.isWatched = true) :
    start.isLaunched = true := by
  cases start with
  | launched init => rfl
  | _ => cases h

theorem unwatched_iff {start : SeatStart} (hlaunched : start.isLaunched = true) :
    start.isWatched = false ↔ start = .unwatched := by
  cases start with
  | unwatched => exact iff_of_true rfl rfl
  | launched init => exact iff_of_false Bool.noConfusion SeatStart.noConfusion
  | _ => cases hlaunched

theorem stopped_ne (s : MatchSeat) : stopped s ≠ .untouched := by
  rw [stopped]
  split_ifs <;> decide

theorem closeSeat_stops (hwatched : ¬Unwatched s) (h : ¬host.EscapesShutdown s) :
    ∃ seatEnd, host.closeSeat s = (none, seatEnd) ∧ seatEnd ≠ .untouched := by
  unfold closeSeat
  split
  · exact ⟨_, rfl, by decide⟩
  · next hlaunched =>
    have hlaunched : s.start.isLaunched = true := by simpa using hlaunched
    split
    · next hnot => exact absurd ((unwatched_iff hlaunched).1 (by simpa using hnot)) hwatched
    · next hseen =>
      split
      · exact ⟨_, rfl, by decide⟩
      · next hexited =>
        have hhandled := mt (shutdownReply_escaped_iff s (by simpa using hseen)
          (by simpa using hexited)).1 h
        split
        · next exc hreply => exact absurd ⟨exc, hreply⟩ hhandled
        · exact ⟨_, rfl, stopped_ne s⟩

theorem closeSeat_unwatched (h : Unwatched s) :
    ∃ exc seatEnd, host.closeSeat s = (some exc, seatEnd) ∧ seatEnd ≠ .untouched := by
  rw [Unwatched] at h
  rw [closeSeat, h]
  refine ⟨_, _, rfl, ?_⟩
  split
  · decide
  · exact stopped_ne s

theorem closeSeat_escapes (h : host.EscapesShutdown s) :
    ∃ exc, host.closeSeat s = (some exc, .untouched) := by
  obtain ⟨exc, hreply⟩ := (shutdownReply_escaped_iff s h.1 h.2.1).2 h
  refine ⟨.escaped exc, ?_⟩
  rw [closeSeat, isLaunched_of_isWatched h.1, h.1, h.2.1, hreply]
  rfl

theorem closeAll_seats (seats : List MatchSeat) :
    (host.closeAll seats).2.map Prod.fst = seats := by
  induction seats with
  | nil => rfl
  | cons s seats ih =>
    rw [closeAll]
    split
    · rw [List.map_cons, List.map_map]
      exact congrArg (s :: ·) (List.map_id seats)
    · exact congrArg (s :: ·) ih

/-- A shutdown that escapes leaves neither its own process behind nor one of the seats that were to
be closed after it, and a seat that is not watched none of the latter. -/
def LeavesNone (host : ProtocolHost) (order : List MatchSeat) : Prop :=
  ∀ before s after, order = before ++ s :: after →
    (host.EscapesShutdown s → EndsAlone s) ∧
      (Unwatched s ∨ host.EscapesShutdown s → ∀ t ∈ after, EndsAlone t)

theorem leavesNone_cons : host.LeavesNone (s :: seats) ↔
    ((host.EscapesShutdown s → EndsAlone s) ∧
      (Unwatched s ∨ host.EscapesShutdown s → ∀ t ∈ seats, EndsAlone t)) ∧
      host.LeavesNone seats := by
  constructor
  · intro hleaves
    refine ⟨hleaves [] s seats rfl, ?_⟩
    intro before t after horder
    exact hleaves (s :: before) t after (congrArg (s :: ·) horder)
  · rintro ⟨hfirst, hleaves⟩ before t after horder
    cases before with
    | nil =>
      obtain ⟨rfl, rfl⟩ := List.cons.inj horder
      exact hfirst
    | cons b before =>
      obtain ⟨-, horder⟩ := List.cons.inj horder
      exact hleaves before t after horder

theorem leavesNone_of_endsAlone (h : ∀ s ∈ order, EndsAlone s) : host.LeavesNone order := by
  rintro before s after rfl
  refine ⟨fun _ => h s (List.mem_append_right before List.mem_cons_self), fun _ t ht => ?_⟩
  exact h t (List.mem_append_right before (List.mem_cons_of_mem s ht))

theorem untouched_stopped_iff (seats : List MatchSeat) :
    (∀ r ∈ seats.map fun t => (t, SeatEnd.untouched), Stopped r.1 r.2) ↔
      ∀ t ∈ seats, EndsAlone t := by
  simp [Stopped]

theorem closeAll_stopped_iff (order : List MatchSeat) :
    (∀ r ∈ (host.closeAll order).2, Stopped r.1 r.2) ↔ host.LeavesNone order := by
  induction order with
  | nil =>
    apply iff_of_true
    · intro r hr
      cases hr
    · intro before s after horder
      cases before <;> cases horder
  | cons s seats ih =>
    rw [leavesNone_cons]
    by_cases hescapes : host.EscapesShutdown s
    · obtain ⟨exc, hclose⟩ := closeSeat_escapes hescapes
      rw [closeAll, hclose]
      simp only [List.forall_mem_cons, untouched_stopped_iff]
      constructor
      · rintro ⟨hself, hrest⟩
        exact ⟨⟨fun _ => hself rfl, fun _ => hrest⟩, leavesNone_of_endsAlone hrest⟩
      · rintro ⟨⟨hself, hrest⟩, -⟩
        exact ⟨fun _ => hself hescapes, hrest (.inr hescapes)⟩
    · by_cases hunwatched : Unwatched s
      · obtain ⟨exc, seatEnd, hclose, hend⟩ := closeSeat_unwatched hunwatched
        rw [closeAll, hclose]
        simp only [List.forall_mem_cons, untouched_stopped_iff]
        constructor
        · rintro ⟨-, hrest⟩
          exact ⟨⟨fun h => absurd h hescapes, fun _ => hrest⟩, leavesNone_of_endsAlone hrest⟩
        · rintro ⟨⟨-, hrest⟩, -⟩
          exact ⟨fun huntouched => absurd huntouched hend, hrest (.inl hunwatched)⟩
      · obtain ⟨seatEnd, hclose, hend⟩ := closeSeat_stops hunwatched hescapes
        rw [closeAll, hclose, ← ih]
        simp only [List.forall_mem_cons]
        constructor
        · rintro ⟨-, hrest⟩
          exact ⟨⟨fun h => absurd h hescapes, fun h => absurd h (not_or.2 ⟨hunwatched, hescapes⟩)⟩,
            hrest⟩
        · rintro ⟨-, hrest⟩
          exact ⟨fun huntouched => absurd huntouched hend, hrest⟩

/-- After the start has raised, or the close has returned or raised: the close has got every seat
that was started, and no process of them runs exactly if no shutdown that escapes leaves one, and no
seat that is not watched. -/
theorem cleanUp_stopped_iff (host : ProtocolHost) (seats : List MatchSeat) :
    ((host.cleanUp seats).2.map Prod.fst = (host.attempted seats).reverse ∧
      ∀ r ∈ (host.cleanUp seats).2, Stopped r.1 r.2) ↔
      host.LeavesNone (host.attempted seats).reverse := by
  rw [cleanUp, closeAll_stopped_iff]
  exact and_iff_right (closeAll_seats _)

end ProtocolHost

namespace Sample

/-- An agent that is ready, and that answers the request to shut down with a line. -/
def seatThatSays (text : String) : MatchSeat where
  agent := agentProcess
  init := [("type", .text "init"), ("protocol_version", .num (.int 1)), ("agent_id", .text "agent"),
    ("seat", .num (.int 0)), ("seed", .num (.int 0))]
  start := .launched ⟨false, false, [.chunk (bytesOf readyText ++ [newline])]⟩
  process := agentProcess
  shutdown := ⟨false, false, [.chunk (bytesOf text ++ [newline])]⟩
  exited := false
  leaves := false
  obeys := true
  alone := false

end Sample

/-- The agent of the seat that is closed first says something that cannot be decoded: its process
and that of the other seat are left. -/
theorem escaping_shutdown_sample :
    let seats := [Sample.seatThatSays Sample.readyText, Sample.seatThatSays Sample.listTypeText]
    (Sample.protocolHost.cleanUp seats).2.map Prod.snd = [.untouched, .untouched] ∧
      ¬∀ r ∈ (Sample.protocolHost.cleanUp seats).2, Stopped r.1 r.2 := by
  intro seats
  have hends : (Sample.protocolHost.cleanUp seats).2.map Prod.snd = [.untouched, .untouched] := by
    decide +kernel
  refine ⟨hends, ?_⟩
  intro h
  have hseats : (Sample.protocolHost.cleanUp seats).2.map Prod.fst =
      [Sample.seatThatSays Sample.listTypeText, Sample.seatThatSays Sample.readyText] := by
    rw [ProtocolHost.cleanUp, ProtocolHost.closeAll_seats]
    have hstarts : ∀ s ∈ seats, Sample.protocolHost.starts s = true := by
      decide +kernel
    simp [seats, ProtocolHost.attempted, hstarts]
  cases hclosed : (Sample.protocolHost.cleanUp seats).2 with
  | nil =>
    rw [hclosed] at hends
    cases hends
  | cons r rest =>
    rw [hclosed] at hends hseats h
    obtain ⟨hend, -⟩ := List.cons.inj hends
    obtain ⟨hseat, -⟩ := List.cons.inj hseats
    have hstopped := h r List.mem_cons_self hend
    rw [hseat] at hstopped
    exact absurd (hstopped rfl) (by decide)

end BrunostJudge
