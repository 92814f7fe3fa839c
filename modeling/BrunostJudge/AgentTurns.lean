import BrunostJudge.AgentExit
import BrunostJudge.Transition

namespace BrunostJudge
open Python Framing
set_option autoImplicit true

/-- A seat and its agent: how many requests have reached the agent, how many of its lines the
runtime has taken from the stream, and what the agent owes or has written that is not yet read. -/
structure Seat where
  number : Nat
  process : AgentProcess
  asked : Nat
  taken : Nat
  out : Bytes

structure MatchRuntime where
  seats : List Seat
  turn : Int
  started : Bool
  maxTurns : Nat
  seed : Int

/-- The bytes of the chunks that a read loop meets. -/
def chunkBytes (events : List ReadEvent) : Bytes :=
  (events.map fun
    | .chunk bytes => bytes
    | _ => []).flatten

namespace ProtocolHost
variable (host : ProtocolHost)

/-- The message of a request gets to the agent. -/
def delivers (p : AgentProcess) (message : Dict) (exchange : Exchange) : Bool :=
  p.running && (host.encodeMessage message p.maxMessageBytes).isOk && !exchange.expired &&
    !exchange.closedStdin

/-- The read loop takes a line from the stream. -/
def takesLine (p : AgentProcess) (events : List ReadEvent) : Bool :=
  (host.readLine p.agentId p.maxMessageBytes p.stdoutBuffer events).any fun r => r.1.isOk

/-- A request to a seat, with all that its read loop meets; `answers` are the lines of the agent. -/
inductive Asks (answers : Nat → Bytes) (s : Seat) (message : Dict) :
    Except AgentException Dict → Seat → Prop
  | refused (exchange : Exchange) (hrefused : host.delivers s.process message exchange = false)
      (hrequest : host.request s.process message exchange = some (outcome, p, [])) :
      Asks answers s message outcome { s with process := p }
  | delivered (exchange : Exchange) (out : Bytes)
      (hdelivered : host.delivers s.process message exchange = true)
      (hrequest : host.request s.process message exchange = some (outcome, p, []))
      (hout : s.out ++ (answers s.asked ++ [newline]) = chunkBytes exchange.events ++ out) :
      Asks answers s message outcome
        { s with
          process := p
          asked := s.asked + 1
          taken := s.taken + if host.takesLine s.process exchange.events then 1 else 0
          out := out }

variable (answers : Nat → Nat → Bytes) (message : Seat → Dict)

/-- The requests of a sequential turn: seat by seat, up to the first that raises. -/
inductive AsksInOrder : List Seat → Except AgentException (List Dict) → List Seat → Prop
  | done : AsksInOrder [] (.ok []) []
  | raised (h : host.Asks (answers s.number) s (message s) (.error exc) s') :
      AsksInOrder (s :: seats) (.error exc) (s' :: seats)
  | answered (h : host.Asks (answers s.number) s (message s) (.ok response) s')
      (hrest : AsksInOrder seats responses seats') :
      AsksInOrder (s :: seats) (responses.map (response :: ·)) (s' :: seats')

/-- The requests of a simultaneous turn, each on its own. -/
inductive AsksAtOnce : List Seat → List (Except AgentException Dict) → List Seat → Prop
  | done : AsksAtOnce [] [] []
  | asked (h : host.Asks (answers s.number) s (message s) outcome s')
      (hrest : AsksAtOnce seats outcomes seats') :
      AsksAtOnce (s :: seats) (outcome :: outcomes) (s' :: seats')

/-- The actions of the responses of a turn. -/
def actionsOf : List Seat → List Dict → Except AgentException (List Json)
  | s :: seats, response :: responses =>
    if Dict.get response "type" = .text "action" ∧ Dict.contains response "action" = true then do
      let actions ← actionsOf seats responses
      pure (Dict.get response "action" :: actions)
    else .error (.contained ⟨.protocol, host.agentText s.process.agentId "agent " " seat " ++
      decimal s.number ++ PyStr.ofString " did not return an action"⟩)
  | _, _ => .ok []

end ProtocolHost

/-- The message of a turn to a seat. -/
def turnMessage (turn : Int) (state : Json) (seed : Int) (s : Seat) : Dict :=
  [("type", .text "turn"), ("turn", .num (.int turn)), ("state", state), ("seed", .num (.int seed)),
    ("agent_id", .str s.process.agentId), ("seat", .num (.int s.number))]

namespace MatchRuntime

def nextTurn (w : MatchRuntime) (turn : Option Int) : Int := turn.getD (w.turn + 1)

def turnInRange (w : MatchRuntime) (turn : Option Int) : Prop :=
  1 ≤ w.nextTurn turn ∧ w.nextTurn turn ≤ w.maxTurns

instance (w : MatchRuntime) (turn : Option Int) : Decidable (w.turnInRange turn) :=
  inferInstanceAs (Decidable (_ ∧ _))

end MatchRuntime

/-- A call of the runtime, with what it returns or raises. -/
inductive RuntimeCall where
  | request (seat : Nat) (message : Dict) (outcome : Except AgentException Dict)
  | step (state : Json) (turn : Option Int) (simultaneous : Bool)
      (result : Except AgentException (List Json))

/-- The calls of `AgentRuntime.request` and `AgentRuntime.step`. -/
inductive RuntimeStep (host : ProtocolHost) (answers : Nat → Nat → Bytes) (w : MatchRuntime) :
    RuntimeCall → MatchRuntime → Prop
  | unknownSeat (hseat : ∀ s ∈ w.seats, s.number ≠ seat) :
      RuntimeStep host answers w (.request seat message (.error (.contained ⟨.runtime,
        PyStr.ofString "unknown or inactive agent seat: " ++ decimal seat⟩))) w
  | requested (hseats : w.seats = before ++ s :: after)
      (hasks : host.Asks (answers s.number) s message outcome s') :
      RuntimeStep host answers w (.request s.number message outcome)
        { w with seats := before ++ s' :: after }
  | notStarted (hstarted : w.started = false) :
      RuntimeStep host answers w (.step state turn simultaneous (.error (.contained ⟨.runtime,
        PyStr.ofString "agent runtime is not started"⟩))) w
  | outOfRange (hstarted : w.started = true) (hturn : ¬w.turnInRange turn) :
      RuntimeStep host answers w (.step state turn simultaneous (.error (.contained ⟨.timeout,
        PyStr.ofString "match exceeded maximum turns"⟩))) w
  | inOrder (hstarted : w.started = true) (hturn : w.turnInRange turn)
      (hasks : host.AsksInOrder answers (turnMessage (w.nextTurn turn) state w.seed) w.seats
        responses seats) :
      RuntimeStep host answers w
        (.step state turn false (responses.bind (host.actionsOf w.seats)))
        { w with seats := seats, turn := w.nextTurn turn }
  | atOnce (hstarted : w.started = true) (hturn : w.turnInRange turn)
      (hasks : host.AsksAtOnce answers (turnMessage (w.nextTurn turn) state w.seed) w.seats
        outcomes seats) :
      RuntimeStep host answers w
        (.step state turn true ((outcomes.mapM id).bind (host.actionsOf w.seats)))
        { w with seats := seats, turn := w.nextTurn turn }

/-- The lines of an agent from one request to before another. -/
def owedLines (answers : Nat → Bytes) (first last : Nat) : Bytes :=
  ((List.range' first (last - first)).map fun k => answers k ++ [newline]).flatten

/-- A seat holds, or is owed, the lines that were not taken yet. -/
structure Owed (answers : Nat → Bytes) (s : Seat) : Prop where
  taken : s.taken ≤ s.asked
  stream : s.process.stdoutBuffer ++ s.out = owedLines answers s.taken s.asked

theorem owedLines_succ (h : first ≤ last) : owedLines answers first (last + 1) =
    owedLines answers first last ++ (answers last ++ [newline]) := by
  have hlast : first + (last - first) = last := Nat.add_sub_of_le h
  rw [owedLines, Nat.sub_add_comm h, List.range'_concat, List.map_append, List.flatten_append,
    Nat.one_mul, hlast, List.map_singleton, List.flatten_singleton, owedLines]

theorem owedLines_cons (h : first < last) : owedLines answers first last =
    answers first ++ newline :: owedLines answers (first + 1) last := by
  obtain ⟨n, rfl⟩ := Nat.exists_eq_add_of_lt h
  have hcount : first + n + 1 - first = n + 1 := by omega
  have hcount' : first + n + 1 - (first + 1) = n := by omega
  rw [owedLines, owedLines, hcount, hcount', List.range'_succ, List.map_cons, List.flatten_cons,
    List.append_assoc, List.singleton_append]

namespace ProtocolHost
variable {host : ProtocolHost} {answers : Nat → Nat → Bytes}

/-- A read loop takes the first line of the stream, or leaves all of it in the buffer. -/
theorem readLine_stream
    (h : host.readLine agentId maxBytes buffer events = some (result, buffer', [])) :
    (∀ raw, result = .ok raw →
      buffer ++ chunkBytes events = raw ++ newline :: buffer' ∧ newline ∉ raw) ∧
    (∀ error, result = .error error → buffer' = buffer ++ chunkBytes events) := by
  induction events generalizing buffer with
  | nil =>
    obtain ⟨⟨raw, rest⟩, hline, heq⟩ := Option.map_eq_some_iff.1 h
    cases heq
    obtain ⟨i, hi, hcut⟩ := Option.map_eq_some_iff.1 hline
    cases hcut
    obtain ⟨hbuffer, hnot⟩ := cut_eq hi
    constructor
    · rintro raw ⟨⟩
      exact ⟨(List.append_nil buffer).trans hbuffer, hnot⟩
    · rintro error ⟨⟩
  | cons event events ih =>
    cases hline : takeLine buffer with
    | some l =>
      rw [readLine_line hline] at h
      cases h
    | none =>
      cases event with
      | chunk bytes =>
        have hchunk : chunkBytes (.chunk bytes :: events) = bytes ++ chunkBytes events := by
          simp [chunkBytes]
        rw [readLine_chunk hline] at h
        split at h
        · cases h
          constructor
          · rintro raw ⟨⟩
          · rintro error -
            rw [hchunk]
            simp [chunkBytes]
        · rw [hchunk, ← List.append_assoc]
          exact ih h
      | _ =>
        rw [readLine_stop (takeLine_none hline) (by intro bytes h; cases h)] at h
        cases h
        constructor
        · rintro raw ⟨⟩
        · rintro error -
          simp [chunkBytes]

theorem request_refused (hrefused : host.delivers p message exchange = false)
    (h : host.request p message exchange = some (outcome, p', events)) :
    (∃ exc, outcome = .error exc) ∧ p'.stdoutBuffer = p.stdoutBuffer ∧
      ((message.get "type").hashable → Handled outcome) := by
  obtain ⟨expired, closedStdin, met⟩ := exchange
  simp only [delivers, Bool.and_eq_false_imp, Bool.and_eq_true, Bool.not_eq_true',
    Bool.not_eq_false'] at hrefused
  have hcontained (error : AgentRuntimeError) : (message.get "type").hashable →
      Handled (.error (.contained error)) := by
    intro _ exc h
    cases h
  unfold request at h
  simp only at h
  split at h
  · cases h
    exact ⟨⟨_, rfl⟩, rfl, hcontained _⟩
  · next hrunning =>
    have hrunning : p.running = true := by simpa using hrunning
    split at h
    · cases h
      exact ⟨⟨_, rfl⟩, rfl, hcontained _⟩
    · next exc hinvalid hencode =>
      cases h
      refine ⟨⟨_, rfl⟩, rfl, ?_⟩
      intro htype
      obtain ⟨text, rfl⟩ := encodeMessage_rejects htype exc hencode
      exact absurd rfl (hinvalid text)
    · next encoded hencoded =>
      split at h
      · cases h
        exact ⟨⟨_, rfl⟩, rfl, hcontained _⟩
      · next hexpired =>
        split at h
        · cases h
          exact ⟨⟨_, rfl⟩, rfl, hcontained _⟩
        · next hclosed =>
          have hok : (host.encodeMessage message p.maxMessageBytes).isOk = true := by
            rw [hencoded]
            rfl
          have hopen := hrefused ⟨⟨hrunning, hok⟩, by simpa using hexpired⟩
          exact absurd hopen hclosed

theorem request_delivered (hdelivered : host.delivers p message exchange = true) :
    host.request p message exchange =
      host.readMessage { p with requests := p.requests + 1 } exchange.events := by
  obtain ⟨expired, closedStdin, events⟩ := exchange
  simp only [delivers, Bool.and_eq_true, Bool.not_eq_true'] at hdelivered
  obtain ⟨⟨⟨hrunning, hencoded⟩, rfl⟩, rfl⟩ := hdelivered
  exact request_reads hrunning hencoded events

/-- The reply of a seat to the request that its counter tells. -/
def ReplyTo (host : ProtocolHost) (answers : Nat → Nat → Bytes) (counter : Seat → Nat) (s : Seat)
    (response : Dict) : Prop :=
  host.decodeMessage (answers s.number (counter s)) s.process.maxMessageBytes .agent = .ok response

theorem Asks.owed (h : host.Asks (answers s.number) s message outcome s')
    (hanswers : ∀ k, newline ∉ answers s.number k) (howed : Owed (answers s.number) s) :
    Owed (answers s.number) s' ∧ s'.number = s.number ∧
      ∀ response, outcome = .ok response → host.ReplyTo answers Seat.taken s response := by
  cases h with
  | @refused p exchange hrefused hrequest =>
    obtain ⟨⟨exc, rfl⟩, hbuffer, -⟩ := request_refused hrefused hrequest
    refine ⟨⟨howed.taken, ?_⟩, rfl, ?_⟩
    · exact (congrArg (· ++ s.out) hbuffer).trans howed.stream
    · rintro response ⟨⟩
  | @delivered p exchange out hdelivered hrequest hout =>
    rw [request_delivered hdelivered] at hrequest
    obtain ⟨⟨result, buffer, events⟩, hread, heq⟩ := Option.map_eq_some_iff.1 hrequest
    cases heq
    obtain ⟨hline, herror⟩ := readLine_stream hread
    have hstream : (s.process.stdoutBuffer ++ chunkBytes exchange.events) ++ out =
        owedLines (answers s.number) s.taken (s.asked + 1) := by
      rw [List.append_assoc, ← hout, owedLines_succ howed.taken, ← howed.stream, List.append_assoc]
    cases result with
    | error error =>
      have htakes : host.takesLine s.process exchange.events = false := by
        unfold takesLine
        rw [hread]
        rfl
      refine ⟨⟨?_, ?_⟩, rfl, ?_⟩
      · simp only [htakes]
        exact Nat.le_succ_of_le howed.taken
      · simp only [htakes, herror error rfl]
        exact hstream
      · rintro response ⟨⟩
    | ok raw =>
      obtain ⟨hraw, hnot⟩ := hline raw rfl
      have htakes : host.takesLine s.process exchange.events = true := by
        unfold takesLine
        rw [hread]
        rfl
      rw [hraw, owedLines_cons (Nat.lt_succ_of_le howed.taken), List.append_assoc,
        List.cons_append] at hstream
      obtain ⟨rfl, hrest⟩ := cut_unique hnot (hanswers s.taken) hstream
      refine ⟨⟨?_, ?_⟩, rfl, ?_⟩
      · simp only [htakes]
        exact Nat.succ_le_succ howed.taken
      · simp only [htakes]
        exact hrest
      · intro response hresponse
        rw [readDecoded] at hresponse
        unfold ReplyTo
        split at hresponse
        · next hdecoded =>
          cases hresponse
          exact hdecoded
        · cases hresponse
        · cases hresponse

/-- The streams of all seats are in order. -/
def AllOwed (answers : Nat → Nat → Bytes) (seats : List Seat) : Prop :=
  ∀ s ∈ seats, Owed (answers s.number) s

section
variable (hanswers : ∀ n k, newline ∉ answers n k)
include hanswers

theorem Asks.keeps (h : host.Asks (answers s.number) s message outcome s')
    (howed : Owed (answers s.number) s) : Owed (answers s'.number) s' := by
  obtain ⟨hafter, hnumber, -⟩ := h.owed (hanswers s.number) howed
  rw [hnumber]
  exact hafter

theorem AsksInOrder.owed (h : host.AsksInOrder answers message seats responses seats')
    (howed : AllOwed answers seats) :
    AllOwed answers seats' ∧
      ∀ rs, responses = .ok rs → List.Forall₂ (host.ReplyTo answers Seat.taken) seats rs := by
  induction h with
  | done =>
    refine ⟨howed, ?_⟩
    rintro rs ⟨⟩
    exact .nil
  | raised h =>
    obtain ⟨hs, hrest⟩ := List.forall_mem_cons.1 howed
    refine ⟨List.forall_mem_cons.2 ⟨h.keeps hanswers hs, hrest⟩, ?_⟩
    rintro rs ⟨⟩
  | @answered s response s' seats responses seats' h hasks ih =>
    obtain ⟨hs, hrest⟩ := List.forall_mem_cons.1 howed
    obtain ⟨hafter, hreplies⟩ := ih hrest
    refine ⟨List.forall_mem_cons.2 ⟨h.keeps hanswers hs, hafter⟩, ?_⟩
    intro rs hrs
    obtain ⟨tail, rfl, rfl⟩ := map_ok.1 hrs
    exact .cons ((h.owed (hanswers s.number) hs).2.2 response rfl) (hreplies tail rfl)

theorem AsksAtOnce.owed (h : host.AsksAtOnce answers message seats outcomes seats')
    (howed : AllOwed answers seats) :
    AllOwed answers seats' ∧
      ∀ rs, outcomes.mapM id = .ok rs →
        List.Forall₂ (host.ReplyTo answers Seat.taken) seats rs := by
  induction h with
  | done =>
    refine ⟨howed, ?_⟩
    rintro rs ⟨⟩
    exact .nil
  | @asked s outcome s' seats outcomes seats' h hasks ih =>
    obtain ⟨hs, hrest⟩ := List.forall_mem_cons.1 howed
    obtain ⟨hafter, hreplies⟩ := ih hrest
    refine ⟨List.forall_mem_cons.2 ⟨h.keeps hanswers hs, hafter⟩, ?_⟩
    intro rs hrs
    rw [List.mapM_cons] at hrs
    obtain ⟨response, hresponse, hrs⟩ := bind_ok.1 hrs
    obtain ⟨tail, htail, hrs⟩ := bind_ok.1 hrs
    cases pure_ok.1 hrs
    exact .cons ((h.owed (hanswers s.number) hs).2.2 response hresponse) (hreplies tail htail)

end

end ProtocolHost

/-- The message that a call returns, or the actions, are those of the replies that a counter
tells for each seat. -/
def AnswersTo (host : ProtocolHost) (answers : Nat → Nat → Bytes) (counter : Seat → Nat)
    (w : MatchRuntime) : RuntimeCall → Prop
  | .request seat _ (.ok response) =>
    ∃ s ∈ w.seats, s.number = seat ∧ host.ReplyTo answers counter s response
  | .step _ _ _ (.ok actions) => List.Forall₂ (fun s action => ∃ response,
      host.ReplyTo answers counter s response ∧ Dict.get response "type" = .text "action" ∧
        Dict.get response "action" = action) w.seats actions
  | _ => True

/-- No seat that a call asks has a reply outstanding: its lines were all taken. -/
def TakenUp (w : MatchRuntime) : RuntimeCall → Prop
  | .request seat _ _ => ∀ s ∈ w.seats, s.number = seat → s.taken = s.asked
  | .step _ _ _ _ => ∀ s ∈ w.seats, s.taken = s.asked

/-- A runtime after `start`, whose agents have answered and owe nothing. -/
def Idle (w : MatchRuntime) : Prop :=
  ∀ s ∈ w.seats, s.taken = s.asked ∧ s.process.stdoutBuffer = [] ∧ s.out = []

namespace ProtocolHost
variable {host : ProtocolHost} {answers : Nat → Nat → Bytes}

theorem actionsOf_ok {seats : List Seat} {responses : List Dict}
    (hreplies : List.Forall₂ (host.ReplyTo answers Seat.taken) seats responses)
    (h : host.actionsOf seats responses = .ok actions) :
    List.Forall₂ (fun s action => ∃ response, host.ReplyTo answers Seat.taken s response ∧
      Dict.get response "type" = .text "action" ∧ Dict.get response "action" = action)
      seats actions := by
  induction hreplies generalizing actions with
  | nil =>
    cases h
    exact .nil
  | @cons s response seats responses hreply hrest ih =>
    unfold actionsOf at h
    split at h
    · next haction =>
      obtain ⟨tail, htail, h⟩ := bind_ok.1 h
      cases pure_ok.1 h
      exact .cons ⟨response, hreply, haction.1, rfl⟩ (ih htail)
    · cases h

end ProtocolHost

section
variable {host : ProtocolHost} {answers : Nat → Nat → Bytes}
variable (hanswers : ∀ n k, newline ∉ answers n k)
include hanswers

/-- Every call keeps the streams in order, and what it returns are the next lines of its seats. -/
theorem RuntimeStep.owed (h : RuntimeStep host answers w call w')
    (howed : ProtocolHost.AllOwed answers w.seats) :
    ProtocolHost.AllOwed answers w'.seats ∧ AnswersTo host answers Seat.taken w call := by
  cases h with
  | unknownSeat hseat => exact ⟨howed, trivial⟩
  | notStarted hstarted => exact ⟨howed, trivial⟩
  | outOfRange hstarted hturn => exact ⟨howed, trivial⟩
  | @requested before s after message outcome s' hseats hasks =>
    have hmem : s ∈ w.seats := by
      rw [hseats]
      exact List.mem_append_right _ List.mem_cons_self
    constructor
    · intro q hq
      obtain hq | hq := List.mem_append.1 hq
      · exact howed q (hseats ▸ List.mem_append_left _ hq)
      · obtain rfl | hq := List.mem_cons.1 hq
        · exact hasks.keeps hanswers (howed s hmem)
        · exact howed q (hseats ▸ List.mem_append_right _ (List.mem_cons_of_mem _ hq))
    · cases outcome with
      | error exc => trivial
      | ok response =>
        exact ⟨s, hmem, rfl, (hasks.owed (hanswers s.number) (howed s hmem)).2.2 response rfl⟩
  | @inOrder turn state responses seats hstarted hturn hasks =>
    obtain ⟨hafter, hreplies⟩ := hasks.owed hanswers howed
    refine ⟨hafter, ?_⟩
    cases hresult : responses.bind (host.actionsOf w.seats) with
    | error exc => trivial
    | ok actions =>
      obtain ⟨rs, hrs, hactions⟩ := bind_ok.1 hresult
      exact ProtocolHost.actionsOf_ok (hreplies rs hrs) hactions
  | @atOnce turn state outcomes seats hstarted hturn hasks =>
    obtain ⟨hafter, hreplies⟩ := hasks.owed hanswers howed
    refine ⟨hafter, ?_⟩
    cases hresult : (outcomes.mapM id).bind (host.actionsOf w.seats) with
    | error exc => trivial
    | ok actions =>
      obtain ⟨rs, hrs, hactions⟩ := bind_ok.1 hresult
      exact ProtocolHost.actionsOf_ok (hreplies rs hrs) hactions

end

theorem Idle.owed (answers : Nat → Nat → Bytes) (h : Idle w) :
    ProtocolHost.AllOwed answers w.seats := by
  intro s hs
  obtain ⟨htaken, hbuffer, hout⟩ := h s hs
  refine ⟨Nat.le_of_eq htaken, ?_⟩
  rw [hbuffer, hout, htaken, owedLines, Nat.sub_self]
  rfl

theorem AnswersTo.settled (h : AnswersTo host answers Seat.taken w call)
    (hsettled : TakenUp w call) :
    AnswersTo host answers Seat.asked w call := by
  cases call with
  | request seat message outcome =>
    cases outcome with
    | error exc => trivial
    | ok response =>
      obtain ⟨s, hs, hseat, hreply⟩ := h
      refine ⟨s, hs, hseat, ?_⟩
      unfold ProtocolHost.ReplyTo at hreply ⊢
      rw [← hsettled s hs hseat]
      exact hreply
  | step state turn simultaneous result =>
    cases result with
    | error exc => trivial
    | ok actions =>
      rw [AnswersTo, List.forall₂_iff_get] at h ⊢
      obtain ⟨hlength, hactions⟩ := h
      refine ⟨hlength, ?_⟩
      intro i hi hi'
      obtain ⟨response, hreply, htype, haction⟩ := hactions i hi hi'
      refine ⟨response, ?_, htype, haction⟩
      unfold ProtocolHost.ReplyTo at hreply ⊢
      rw [← hsettled _ (List.get_mem _ _)]
      exact hreply

/-- However a run went before, a call returns the replies to its own requests, if no seat that it
asks has a reply outstanding. -/
theorem settled_call_answers {host : ProtocolHost} {answers : Nat → Nat → Bytes}
    (hanswers : ∀ n k, newline ∉ answers n k)
    (h : Transition.Run Idle (RuntimeStep host answers) calls w)
    (hcall : RuntimeStep host answers w call w') (hsettled : TakenUp w call) :
    AnswersTo host answers Seat.asked w call := by
  have howed : ProtocolHost.AllOwed answers w.seats := by
    apply h.invariant (I := fun _ w => ProtocolHost.AllOwed answers w.seats)
    · intro s hs
      exact hs.owed answers
    · intro l s e s' _ howed hstep
      exact (hstep.owed hanswers howed).1
  exact (hcall.owed hanswers howed).2.settled hsettled

namespace ProtocolHost
variable {host : ProtocolHost} {answers : Nat → Bytes}

theorem Asks.missed
    (hdelivered : host.delivers s.process message ⟨false, false, [.deadline]⟩ = true)
    (hbuffer : newline ∉ s.process.stdoutBuffer) :
    host.Asks answers s message
      (.error (.contained (host.readFailure s.process.agentId .deadline)))
      { s with
        process := { s.process with requests := s.process.requests + 1 }
        asked := s.asked + 1
        out := s.out ++ (answers s.asked ++ [newline]) } := by
  have hread : host.readLine s.process.agentId s.process.maxMessageBytes s.process.stdoutBuffer
      [.deadline] = some (.error (host.readFailure s.process.agentId .deadline),
        s.process.stdoutBuffer, []) := readLine_stop hbuffer (by intro bytes h; cases h)
  have htakes : host.takesLine s.process [.deadline] = false := by
    rw [takesLine, hread]
    rfl
  have hasks : host.Asks answers s message _ _ := .delivered ⟨false, false, [.deadline]⟩
    (s.out ++ (answers s.asked ++ [newline])) hdelivered
    ((request_delivered hdelivered).trans (readMessage_error _ hread)) rfl
  simp only [htakes] at hasks
  exact hasks

theorem Asks.met (line out : Bytes)
    (hdelivered :
      host.delivers s.process message ⟨false, false, [.chunk (line ++ [newline])]⟩ = true)
    (hbuffer : s.process.stdoutBuffer = []) (hline : newline ∉ line)
    (hshort : line.length < s.process.maxMessageBytes)
    (hdecode : host.decodeMessage line s.process.maxMessageBytes .agent = .ok response)
    (hout : s.out ++ (answers s.asked ++ [newline]) = (line ++ [newline]) ++ out) :
    host.Asks answers s message (.ok response)
      { s with
        process := { s.process with stdoutBuffer := [], requests := s.process.requests + 1 }
        asked := s.asked + 1
        taken := s.taken + 1
        out := out } := by
  have hread : host.readLine s.process.agentId s.process.maxMessageBytes s.process.stdoutBuffer
      [.chunk (line ++ [newline])] = some (.ok line, [], []) := by
    have hstream : s.process.stdoutBuffer ++ [line ++ [newline]].flatten = line ++ [newline] := by
      simp [hbuffer]
    exact (readLine_complete host s.process.agentId [] hline hstream (by simp)
      (by simp [hbuffer])).1
      hshort
  have htakes : host.takesLine s.process [.chunk (line ++ [newline])] = true := by
    rw [takesLine, hread]
    rfl
  have hrequest : host.request s.process message ⟨false, false, [.chunk (line ++ [newline])]⟩ =
      some (.ok response,
        { s.process with stdoutBuffer := [], requests := s.process.requests + 1 }, []) := by
    rw [request_delivered hdelivered, readMessage, hread, Option.map_some, readDecoded, hdecode]
  have hasks : host.Asks answers s message _ _ := .delivered
    ⟨false, false, [.chunk (line ++ [newline])]⟩ out hdelivered hrequest
    (by simpa [chunkBytes] using hout)
  simp only [htakes] at hasks
  exact hasks

end ProtocolHost

namespace Sample

def action (n : Int) : Dict := [("type", .text "action"), ("action", .num (.int n))]

/-- `json.loads` on the lines of an agent that writes `1` and then `2`. -/
def turnHost : ProtocolHost where
  loads text := .value (.obj (action (if text = PyStr.ofString "1" then 1 else 2)))
  repr _ := []
  unicodeDecodeError _ := []
  describe _ := []

def turnAnswers (_ k : Nat) : Bytes := bytesOf (if k = 0 then "1" else "2")

def loneSeat : Seat := ⟨0, agentProcess, 0, 0, []⟩

def soloMatch : MatchRuntime := ⟨[loneSeat], 0, true, 10, 0⟩

/-- The lone seat when its agent did not answer the first turn in time, and has since. -/
def lateSeat : Seat := ⟨0, { agentProcess with requests := 1 }, 1, 0, bytesOf "1" ++ [newline]⟩

def lateMatch : MatchRuntime := { soloMatch with seats := [lateSeat], turn := 1 }

example : turnAnswers 0 1 = bytesOf "2" := by decide +kernel

theorem turnAnswers_line (n k : Nat) : newline ∉ turnAnswers n k := by
  unfold turnAnswers
  split
  · decide +kernel
  · decide +kernel

/-- Two seats after a turn that the second one did not answer in time. -/
def slowSeat : Seat := ⟨1, agentProcess, 0, 0, []⟩

def pairMatch : MatchRuntime := { soloMatch with seats := [loneSeat, slowSeat] }

def answeredSeat : Seat := ⟨0, { agentProcess with requests := 1 }, 1, 1, []⟩

def waitingSeat : Seat := ⟨1, { agentProcess with requests := 1 }, 1, 0, bytesOf "1" ++ [newline]⟩

def splitMatch : MatchRuntime := { pairMatch with seats := [answeredSeat, waitingSeat], turn := 1 }

def splitTurn : RuntimeCall :=
  .step .null none false (.error (.contained (turnHost.readFailure "agent" .deadline)))

theorem splitTurn_step : RuntimeStep turnHost turnAnswers pairMatch splitTurn splitMatch := by
  have hturn : pairMatch.turnInRange none := by decide +kernel
  have hanswered : turnHost.Asks (turnAnswers 0) loneSeat (turnMessage 1 .null 0 loneSeat)
      (.ok (action 1)) answeredSeat :=
    .met (bytesOf "1") [] (by decide +kernel) rfl (by decide +kernel) (by decide +kernel)
      (by decide +kernel) (by decide +kernel)
  have hmissed : turnHost.Asks (turnAnswers 1) slowSeat (turnMessage 1 .null 0 slowSeat)
      (.error (.contained (turnHost.readFailure "agent" .deadline))) waitingSeat :=
    .missed (by decide +kernel) (by decide +kernel)
  exact RuntimeStep.inOrder rfl hturn (.answered hanswered (.raised hmissed))

/-- The first seat is asked once more. -/
def nextRequest : RuntimeCall :=
  .request 0 (turnMessage 2 .null 0 answeredSeat) (.ok (action 2))

theorem nextRequest_step : ∃ w, RuntimeStep turnHost turnAnswers splitMatch nextRequest w := by
  have hasks : turnHost.Asks (turnAnswers 0) answeredSeat (turnMessage 2 .null 0 answeredSeat)
      (.ok (action 2)) _ :=
    .met (bytesOf "2") [] (by decide +kernel) rfl (by decide +kernel) (by decide +kernel)
      (by decide +kernel) (by decide +kernel)
  have hseats : splitMatch.seats = [] ++ answeredSeat :: [waitingSeat] := rfl
  have hstep : RuntimeStep turnHost turnAnswers splitMatch
      (.request answeredSeat.number (turnMessage 2 .null 0 answeredSeat) (.ok (action 2))) _ :=
    .requested hseats hasks
  exact ⟨_, hstep⟩

theorem lateTurn : RuntimeStep turnHost turnAnswers soloMatch
    (.step .null none false (.error (.contained (turnHost.readFailure "agent" .deadline))))
    lateMatch := by
  have hasks : turnHost.Asks (turnAnswers 0) loneSeat (turnMessage 1 .null 0 loneSeat)
      (.error (.contained (turnHost.readFailure "agent" .deadline))) lateSeat :=
    .missed (by decide +kernel) (by decide +kernel)
  have hturn : soloMatch.turnInRange none := by decide +kernel
  exact RuntimeStep.inOrder rfl hturn (ProtocolHost.AsksInOrder.raised hasks)

theorem nextTurn : ∃ w, RuntimeStep turnHost turnAnswers lateMatch
    (.step .null none false (.ok [.num (.int 1)])) w := by
  have hresult : (((Except.ok []).map (action 1 :: ·) : Except AgentException (List Dict)).bind
      (turnHost.actionsOf lateMatch.seats)) = .ok [.num (.int 1)] := by decide +kernel
  rw [← hresult]
  exact ⟨_, .inOrder rfl (by decide +kernel) (.answered (.met (bytesOf "1")
    (bytesOf "2" ++ [newline]) (by decide +kernel) rfl (by decide +kernel) (by decide +kernel)
    (by decide +kernel) (by decide +kernel)) .done)⟩

end Sample

/-- A seat whose reply is late does not keep another one from answering. -/
theorem settled_call_answers_sample :
    Transition.Run Idle (RuntimeStep Sample.turnHost Sample.turnAnswers) [Sample.splitTurn]
        Sample.splitMatch ∧
      (∃ s ∈ Sample.splitMatch.seats, s.taken ≠ s.asked) ∧
      AnswersTo Sample.turnHost Sample.turnAnswers Seat.asked Sample.splitMatch
        Sample.nextRequest := by
  have hidle : Idle Sample.pairMatch := by
    intro s hs
    rcases List.mem_cons.1 hs with rfl | hs
    · exact ⟨rfl, rfl, rfl⟩
    · rw [List.mem_singleton.1 hs]
      exact ⟨rfl, rfl, rfl⟩
  have hrun := (Transition.Run.start hidle).next Sample.splitTurn_step
  obtain ⟨w, hstep⟩ := Sample.nextRequest_step
  refine ⟨hrun, ⟨_, List.mem_cons_of_mem _ List.mem_cons_self, by decide⟩, ?_⟩
  apply settled_call_answers Sample.turnAnswers_line hrun hstep
  intro s hs hnumber
  rcases List.mem_cons.1 hs with rfl | hs
  · rfl
  · rw [List.mem_singleton.1 hs] at hnumber
    cases hnumber

/-- The second turn gets the late answer to the first. -/
theorem late_reply_sample :
    Idle Sample.soloMatch ∧
      RuntimeStep Sample.turnHost Sample.turnAnswers Sample.soloMatch (.step .null none false
        (.error (.contained (Sample.turnHost.readFailure "agent" .deadline)))) Sample.lateMatch ∧
      (∃ w, RuntimeStep Sample.turnHost Sample.turnAnswers Sample.lateMatch
        (.step .null none false (.ok [.num (.int 1)])) w) ∧
      ¬AnswersTo Sample.turnHost Sample.turnAnswers Seat.asked Sample.lateMatch
        (.step .null none false (.ok [.num (.int 1)])) := by
  refine ⟨?_, Sample.lateTurn, Sample.nextTurn, ?_⟩
  · intro s hs
    obtain rfl := List.mem_singleton.1 hs
    exact ⟨rfl, rfl, rfl⟩
  · intro h
    obtain ⟨response, hreply, -, haction⟩ := (List.forall₂_cons.1 h).1
    have hanswer : Sample.turnHost.decodeMessage (Sample.turnAnswers 0 1) 65536 .agent =
        .ok (Sample.action 2) := by decide +kernel
    obtain rfl := Except.ok.inj (hanswer.symm.trans hreply)
    exact absurd haction (by decide +kernel)

end BrunostJudge
