import BrunostJudge.AgentFraming

namespace BrunostJudge
open Python Framing
set_option autoImplicit true

/-- The last response of an agent, as the parent comes to see it: the chunks that reads of the
pipe return, the exit code, and how many of the chunks are read before a poll sees the exit. The
end of the pipe is met only when all of it is read. -/
structure LastResponse where
  chunks : List Bytes
  code : Int
  readFirst : Nat
  ending : ReadEvent
  nonempty : ∀ chunk ∈ chunks, chunk ≠ []
  within : readFirst ≤ chunks.length
  ends : ending = .exited code ∨ readFirst = chunks.length ∧ ending = .closed

/-- What the read loop meets. -/
def LastResponse.events (r : LastResponse) : List ReadEvent :=
  (r.chunks.take r.readFirst).map .chunk ++ [r.ending]

/-- The requests meet the agent while it runs, with nothing left of an earlier reply. -/
structure Pending (host : ProtocolHost) (p : AgentProcess) (message : Dict) : Prop where
  running : p.running = true
  empty : p.stdoutBuffer = []
  encoded : (host.encodeMessage message p.maxMessageBytes).isOk = true

/-- The request has crashed. -/
def Crashed (outcome : Option (Except AgentException Dict × AgentProcess × List ReadEvent)) :
    Prop :=
  ∃ text p events, outcome = some (.error (.contained ⟨.crashed, text⟩), p, events)

namespace ProtocolHost
variable {host : ProtocolHost}

theorem takeLine_complete (h : newline ∉ line) :
    takeLine (line ++ [newline]) = some (line, []) := by
  have hfind : (line ++ [newline]).idxOf? newline = some line.length := by
    rw [List.idxOf?, List.findIdx?_eq_some_iff_getElem]
    refine ⟨by simp, by simp, ?_⟩
    intro j hj
    rw [List.getElem_append_left hj]
    intro heq
    exact h (eq_of_beq heq ▸ List.getElem_mem hj)
  rw [takeLine, hfind]
  simp

theorem takeLine_of_notMem (h : newline ∉ buffer) : takeLine buffer = none := by
  rw [takeLine, Option.map_eq_none_iff, List.idxOf?_eq_none_iff]
  exact h

theorem readLine_stop (h : newline ∉ buffer) (hevent : ∀ bytes, event ≠ .chunk bytes) :
    host.readLine agentId maxBytes buffer (event :: events) =
      some (.error (host.readFailure agentId event), buffer, events) := by
  rw [readLine, takeLine_of_notMem h]
  exact hevent

theorem notMem_of_incomplete {rest : Bytes} (hline : newline ∉ line)
    (h : buffer ++ rest = line ++ [newline]) (hrest : rest ≠ []) :
    newline ∉ buffer ∧ buffer.length ≤ line.length := by
  have hlast := congrArg List.dropLast h
  rw [List.dropLast_append_of_ne_nil hrest, List.dropLast_concat] at hlast
  have hlength := congrArg List.length hlast
  rw [List.length_append] at hlength
  refine ⟨?_, by omega⟩
  intro hmem
  rw [← hlast] at hline
  exact hline (List.mem_append_left _ hmem)

/-- All chunks of a line read before anything else: the line, if its newline fits too. -/
theorem readLine_complete (host : ProtocolHost) (agentId : PyStr) (tail : List ReadEvent)
    {chunks : List Bytes} (hline : newline ∉ line)
    (hchunks : buffer ++ chunks.flatten = line ++ [newline]) (hne : ∀ chunk ∈ chunks, chunk ≠ [])
    (hbuffer : buffer.length ≤ maxBytes) :
    (line.length < maxBytes → host.readLine agentId maxBytes buffer (chunks.map .chunk ++ tail) =
      some (.ok line, [], tail)) ∧
    (maxBytes ≤ line.length → ∃ error buffer' events,
      host.readLine agentId maxBytes buffer (chunks.map .chunk ++ tail) =
        some (.error error, buffer', events)) := by
  induction chunks generalizing buffer with
  | nil =>
    rw [List.flatten_nil, List.append_nil] at hchunks
    rw [hchunks, List.length_append, List.length_singleton] at hbuffer
    rw [hchunks, readLine_line (takeLine_complete hline), List.map_nil, List.nil_append]
    exact ⟨fun _ => rfl, fun hle => absurd hbuffer (Nat.not_lt_of_le hle)⟩
  | cons chunk chunks ih =>
    obtain ⟨hchunk, hne⟩ := List.forall_mem_cons.1 hne
    rw [List.flatten_cons] at hchunks
    have hrest : chunk ++ chunks.flatten ≠ [] := List.append_ne_nil_of_left_ne_nil hchunk _
    obtain ⟨hnot, -⟩ := notMem_of_incomplete hline hchunks hrest
    have hlength := congrArg List.length hchunks
    simp only [List.length_append, List.length_singleton] at hlength
    rw [List.map_cons, List.cons_append, readLine_chunk (takeLine_of_notMem hnot),
      List.length_append]
    split
    · exact ⟨fun hlt => by omega, fun _ => ⟨_, _, _, rfl⟩⟩
    · next hover =>
      rw [← List.append_assoc] at hchunks
      exact ih hchunks hne (by rw [List.length_append]; omega)

theorem readLine_incomplete (host : ProtocolHost) (agentId : PyStr) (maxBytes : Nat) (code : Int)
    (tail : List ReadEvent) {chunks rest : List Bytes} (hline : newline ∉ line)
    (hchunks : buffer ++ (chunks ++ rest).flatten = line ++ [newline])
    (hne : ∀ chunk ∈ chunks, chunk ≠ []) (hrest : rest.flatten ≠ []) :
    ∃ error buffer' events,
      host.readLine agentId maxBytes buffer (chunks.map .chunk ++ .exited code :: tail) =
        some (.error error, buffer', events) := by
  induction chunks generalizing buffer with
  | nil =>
    obtain ⟨hnot, -⟩ := notMem_of_incomplete hline hchunks hrest
    exact ⟨_, _, _, readLine_stop hnot (by intro bytes h; cases h)⟩
  | cons chunk chunks ih =>
    obtain ⟨hchunk, hne⟩ := List.forall_mem_cons.1 hne
    rw [List.cons_append, List.flatten_cons] at hchunks
    have hmore : chunk ++ (chunks ++ rest).flatten ≠ [] :=
      List.append_ne_nil_of_left_ne_nil hchunk _
    obtain ⟨hnot, -⟩ := notMem_of_incomplete hline hchunks hmore
    rw [List.map_cons, List.cons_append, readLine_chunk (takeLine_of_notMem hnot)]
    split
    · exact ⟨_, _, _, rfl⟩
    · rw [← List.append_assoc] at hchunks
      exact ih hchunks hne

theorem request_reads (hrunning : p.running = true)
    (hencoded : (host.encodeMessage message p.maxMessageBytes).isOk = true)
    (events : List ReadEvent) :
    host.request p message ⟨false, false, events⟩ =
      host.readMessage { p with requests := p.requests + 1 } events := by
  obtain ⟨encoded, hencoded⟩ := isOk_iff.1 hencoded
  simp [request, hrunning, hencoded]

theorem readMessage_error (p : AgentProcess)
    (h : host.readLine p.agentId p.maxMessageBytes p.stdoutBuffer events =
      some (.error error, buffer, events')) :
    host.readMessage p events =
      some (.error (.contained error), { p with stdoutBuffer := buffer }, events') := by
  rw [readMessage, h]
  rfl

theorem request_exited (hp : Pending host p message) (closedStdin : Bool)
    (hending : ending = .exited code ∨ ending = .closed) :
    Crashed (host.request p message ⟨false, closedStdin, [ending]⟩) := by
  cases closedStdin with
  | true =>
    obtain ⟨encoded, hencoded⟩ := isOk_iff.1 hp.encoded
    have hrequest : host.request p message ⟨false, true, [ending]⟩ =
        some (.error (.contained ⟨.crashed, host.agentText p.agentId "agent " " closed stdin"⟩),
          { p with requests := p.requests + 1 }, [ending]) := by
      simp [request, hp.running, hencoded]
    exact ⟨_, _, _, hrequest⟩
  | false =>
    have hnone : newline ∉ p.stdoutBuffer := by
      rw [hp.empty]
      exact List.not_mem_nil
    rw [request_reads hp.running hp.encoded]
    obtain rfl | rfl := hending
    · exact ⟨_, _, _, readMessage_error _ (readLine_stop hnone (by intro bytes h; cases h))⟩
    · exact ⟨_, _, _, readMessage_error _ (readLine_stop hnone (by intro bytes h; cases h))⟩

/-- The response of an agent that exits right after it arrives exactly if all of it is read
before a poll sees the exit. The line and its newline have to fit, too. -/
theorem response_before_exit_iff (host : ProtocolHost) (p : AgentProcess)
    (message message' response : Dict) (line : Bytes) (r : LastResponse)
    (hp : Pending host p message)
    (hmessage' : (host.encodeMessage message' p.maxMessageBytes).isOk = true)
    (hline : newline ∉ line)
    (hdecode : host.decodeMessage line p.maxMessageBytes .agent = .ok response)
    (hchunks : r.chunks.flatten = line ++ [newline]) :
    (∃ p' events, host.request p message ⟨false, false, r.events⟩ =
      some (.ok response, p', events) ∧
      ∀ closedStdin, Crashed (host.request p' message' ⟨false, closedStdin, events⟩)) ↔
      r.readFirst = r.chunks.length ∧ line.length < p.maxMessageBytes := by
  have hbuffer : p.stdoutBuffer ++ r.chunks.flatten = line ++ [newline] := by
    rw [hp.empty, List.nil_append, hchunks]
  have hshort : p.stdoutBuffer.length ≤ p.maxMessageBytes := by
    rw [hp.empty]
    exact Nat.zero_le _
  rw [request_reads hp.running hp.encoded, LastResponse.events]
  have hfailed {error : AgentRuntimeError} {buffer : Bytes} {events : List ReadEvent}
      (hread : host.readLine p.agentId p.maxMessageBytes p.stdoutBuffer
        ((r.chunks.take r.readFirst).map .chunk ++ [r.ending]) =
          some (.error error, buffer, events))
      (p' : AgentProcess) (events' : List ReadEvent) :
      host.readMessage { p with requests := p.requests + 1 }
        ((r.chunks.take r.readFirst).map .chunk ++ [r.ending]) ≠
          some (.ok response, p', events') := by
    intro h
    rw [readMessage_error { p with requests := p.requests + 1 } hread] at h
    cases h
  obtain hall | hlt := Nat.eq_or_lt_of_le r.within
  · obtain ⟨hfits, hover⟩ :=
      readLine_complete host p.agentId [r.ending] hline hbuffer r.nonempty hshort
    rw [hall, List.take_length] at hfailed ⊢
    constructor
    · rintro ⟨p', events, hrequest, -⟩
      refine ⟨rfl, ?_⟩
      by_contra hle
      obtain ⟨error, buffer, events', hread⟩ := hover (Nat.le_of_not_lt hle)
      exact hfailed hread p' events hrequest
    · rintro ⟨-, hlength⟩
      refine ⟨{ p with requests := p.requests + 1, stdoutBuffer := [] }, [r.ending], ?_, ?_⟩
      · rw [readMessage, hfits hlength, Option.map_some, readDecoded, hdecode]
      · intro closedStdin
        have hafter : Pending host { p with requests := p.requests + 1, stdoutBuffer := [] }
            message' := ⟨hp.running, rfl, hmessage'⟩
        exact request_exited hafter closedStdin (r.ends.imp_right And.right)
  · have hending : r.ending = .exited r.code :=
      r.ends.resolve_right fun h => Nat.ne_of_lt hlt h.1
    have hrest : (r.chunks.drop r.readFirst).flatten ≠ [] := by
      intro hempty
      have hmem := List.getElem_mem (l := r.chunks.drop r.readFirst) (n := 0)
        (by rw [List.length_drop]; omega)
      exact r.nonempty _ (List.mem_of_mem_drop hmem) (List.flatten_eq_nil_iff.1 hempty _ hmem)
    have hcut : p.stdoutBuffer ++ (r.chunks.take r.readFirst ++ r.chunks.drop r.readFirst).flatten =
        line ++ [newline] := by
      rw [List.take_append_drop, hbuffer]
    obtain ⟨error, buffer, events, hread⟩ := readLine_incomplete host p.agentId
      p.maxMessageBytes r.code [] hline hcut
      (fun chunk hchunk => r.nonempty chunk (List.mem_of_mem_take hchunk)) hrest
    constructor
    · rintro ⟨p', events', hrequest, -⟩
      rw [hending] at hfailed hrequest
      exact absurd hrequest (hfailed hread p' events')
    · rintro ⟨hall, -⟩
      exact absurd hall (Nat.ne_of_lt hlt)

end ProtocolHost

namespace Sample

/-- The agent has written its line and exits: all of it read first, or nothing. -/
def readThenExit : LastResponse where
  chunks := [readyLine]
  code := 0
  readFirst := 1
  ending := .exited 0
  nonempty := by decide
  within := by decide
  ends := .inl rfl

def exitThenRead : LastResponse where
  chunks := [readyLine]
  code := 0
  readFirst := 0
  ending := .exited 0
  nonempty := by decide
  within := by decide
  ends := .inl rfl

end Sample

theorem response_before_exit_sample :
    ∃ p' events, Sample.protocolHost.request Sample.agentProcess Sample.shutdown
        ⟨false, false, Sample.readThenExit.events⟩ =
          some (.ok [("type", .text "ready")], p', events) ∧
      ∀ closedStdin,
        Crashed (Sample.protocolHost.request p' Sample.shutdown ⟨false, closedStdin, events⟩) :=
  (ProtocolHost.response_before_exit_iff Sample.protocolHost Sample.agentProcess Sample.shutdown
    Sample.shutdown [("type", .text "ready")] (Sample.bytesOf Sample.readyText) Sample.readThenExit
    ⟨rfl, rfl, by decide +kernel⟩ (by decide +kernel) (by decide +kernel) (by decide +kernel)
    (by decide +kernel)).2 ⟨rfl, by decide +kernel⟩

/-- The same line is lost to the exit that a poll sees before the read. -/
theorem exit_before_read_sample :
    Sample.exitThenRead.chunks.flatten = Sample.bytesOf Sample.readyText ++ [newline] ∧
      (Sample.protocolHost.request Sample.agentProcess Sample.shutdown
        ⟨false, false, Sample.exitThenRead.events⟩).map Prod.fst =
          some (.error (.contained ⟨.crashed, PyStr.ofString "agent  exited with code 0"⟩)) := by
  decide +kernel

end BrunostJudge
