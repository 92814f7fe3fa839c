import BrunostJudge.AgentContainment
import BrunostJudge.Framing

namespace BrunostJudge
open Python Framing
set_option autoImplicit true

/-- What a read of an agent's output amounts to. -/
inductive AgentReply where
  | decoded (payload : Dict)
  | protocolError
  | other
deriving DecidableEq

def AgentReply.ofOutcome : Except AgentException Dict → AgentReply
  | .ok payload => .decoded payload
  | .error (.contained ⟨.protocol, _⟩) => .protocolError
  | .error _ => .other

example : AgentReply.ofOutcome (.error (.contained ⟨.protocol, []⟩)) = .protocolError := by
  decide +kernel

namespace ProtocolHost
variable (host : ProtocolHost)

/-- The outcomes of the first `n` reads; an agent is not read from again after a failure. -/
def successive (p : AgentProcess) : Nat → List ReadEvent → List (Except AgentException Dict)
  | 0, _ => []
  | n + 1, events =>
    match host.readMessage p events with
    | none => []
    | some (.ok message, p', rest) => .ok message :: successive p' n rest
    | some (.error exc, _, _) => [.error exc]

def replies (p : AgentProcess) (n : Nat) (chunks : List Bytes) : List AgentReply :=
  (host.successive p n (chunks.map .chunk)).map AgentReply.ofOutcome

/-- The replies that the lines of a stream stand for: the messages up to the first line that is
too long or no message. `rest` bytes without a newline follow the lines. -/
def answers (maxBytes rest : Nat) : List Bytes → List AgentReply
  | [] => if rest > maxBytes then [.protocolError] else []
  | line :: lines =>
    if line.length + 1 > maxBytes then [.protocolError]
    else
      match host.decodeMessage line maxBytes .agent with
      | .ok message => .decoded message :: answers maxBytes rest lines
      | .error _ => [.protocolError]

/-- The replies of a stream, whatever its chunks. -/
def framed (maxBytes : Nat) (stream : Bytes) : List AgentReply :=
  host.answers maxBytes (unfinished newline stream).length (lines newline stream)

/-- A line that is a message and fits the limit with its newline. -/
def Accepted (maxBytes : Nat) (line : Bytes) : Prop :=
  line.length < maxBytes ∧ ∃ message, host.decodeMessage line maxBytes .agent = .ok message

/-- After lines that are all accepted, a line that is accepted as well is complete while no more
bytes than the limit are held, and one that cannot be contained only while more are. -/
def InStep (maxBytes : Nat) (arrived : List (Bytes × Nat)) : Prop :=
  ∀ before line held after, arrived = before ++ (line, held) :: after →
    (∀ x ∈ before, host.Accepted maxBytes x.1) →
    (host.Accepted maxBytes line → held ≤ maxBytes) ∧
      (line.length < maxBytes → host.containable line = false → maxBytes < held)

variable {host} {maxBytes : Nat}

theorem InStep.nil : host.InStep maxBytes [] := by
  intro before line held after h
  cases before <;> cases h

theorem inStep_cons : host.InStep maxBytes ((line, held) :: arrived) ↔
    ((host.Accepted maxBytes line → held ≤ maxBytes) ∧
      (line.length < maxBytes → host.containable line = false → maxBytes < held)) ∧
    (host.Accepted maxBytes line → host.InStep maxBytes arrived) := by
  constructor
  · intro h
    refine ⟨h [] line held arrived rfl (fun x hx => by cases hx), ?_⟩
    intro haccepted before line' held' after harrived hbefore
    apply h ((line, held) :: before) line' held' after (by rw [harrived]; rfl)
    intro x hx
    obtain rfl | hx := List.mem_cons.1 hx
    · exact haccepted
    · exact hbefore x hx
  · rintro ⟨hhead, hrest⟩ before line' held' after harrived hbefore
    cases before with
    | nil =>
      cases harrived
      exact hhead
    | cons x before =>
      cases harrived
      exact hrest (hbefore _ List.mem_cons_self) before line' held' after rfl
        fun x hx => hbefore x (List.mem_cons_of_mem _ hx)

/-- The replies of the read loop, which looks at how much it holds before it looks for a line. -/
def served (host : ProtocolHost) (maxBytes rest : Nat) : List (Bytes × Nat) → List AgentReply
  | [] => if rest > maxBytes then [.protocolError] else []
  | (line, held) :: arrived =>
    if held > maxBytes then [.protocolError]
    else
      match host.decodeMessage line maxBytes .agent with
      | .ok message => .decoded message :: served host maxBytes rest arrived
      | .error (.invalid _) => [.protocolError]
      | .error _ => [.other]

theorem containable_of_ok (hlength : line.length ≤ maxBytes)
    (h : host.decodeMessage line maxBytes .agent = .ok message) : host.containable line := by
  rw [← decodeMessage_answered hlength, h]
  exact .inl ⟨message, rfl, decodeMessage_accepted h⟩

theorem containable_of_invalid (hlength : line.length ≤ maxBytes)
    (h : host.decodeMessage line maxBytes .agent = .error (.invalid text)) :
    host.containable line := by
  rw [← decodeMessage_answered hlength, h]
  exact .inr ⟨text, rfl⟩

theorem not_containable (hlength : line.length ≤ maxBytes)
    (h : host.decodeMessage line maxBytes .agent = .error exc)
    (hexc : ∀ text, exc ≠ .invalid text) :
    host.containable line = false := by
  rw [← Bool.not_eq_true, ← decodeMessage_answered hlength, h]
  rintro (⟨message, hok, _⟩ | ⟨text, htext⟩)
  · cases hok
  · exact hexc text (Except.error.inj htext)

/-- The loop replies as the lines ask for exactly where they arrive in step. -/
theorem served_eq_answers (rest : Nat) (arrived : List (Bytes × Nat))
    (hheld : ∀ x ∈ arrived, x.1.length < x.2) :
    served host maxBytes rest arrived = host.answers maxBytes rest (arrived.map Prod.fst) ↔
      host.InStep maxBytes arrived := by
  induction arrived with
  | nil => exact iff_of_true rfl .nil
  | cons x arrived ih =>
    obtain ⟨line, held⟩ := x
    have hline : line.length < held := hheld _ List.mem_cons_self
    have ih := ih fun x hx => hheld x (List.mem_cons_of_mem _ hx)
    rw [inStep_cons, List.map_cons, served, answers]
    by_cases hmax : held > maxBytes
    · rw [if_pos hmax]
      by_cases hlong : line.length + 1 > maxBytes
      · rw [if_pos hlong]
        refine iff_of_true rfl ⟨⟨?_, fun _ _ => hmax⟩, ?_⟩
        · rintro ⟨hshort, _⟩
          omega
        · rintro ⟨hshort, _⟩
          omega
      · rw [if_neg hlong]
        cases hdecode : host.decodeMessage line maxBytes .agent with
        | ok message =>
          apply iff_of_false
          · intro h
            cases h
          · rintro ⟨⟨hfits, _⟩, _⟩
            have := hfits ⟨by omega, message, hdecode⟩
            omega
        | error exc =>
          have hnot : ¬host.Accepted maxBytes line := by
            rintro ⟨_, message, hok⟩
            rw [hdecode] at hok
            cases hok
          exact iff_of_true rfl ⟨⟨fun h => absurd h hnot, fun _ _ => hmax⟩, fun h => absurd h hnot⟩
    · have hshort : line.length < maxBytes := by omega
      rw [if_neg hmax, if_neg (show ¬line.length + 1 > maxBytes by omega)]
      cases hdecode : host.decodeMessage line maxBytes .agent with
      | ok message =>
        have haccepted : host.Accepted maxBytes line := ⟨hshort, message, hdecode⟩
        have hcontainable := containable_of_ok (Nat.le_of_lt hshort) hdecode
        dsimp only
        rw [List.cons.injEq, eq_self, true_and, ih]
        constructor
        · intro h
          refine ⟨⟨fun _ => by omega, ?_⟩, fun _ => h⟩
          intro _ hnot
          rw [hcontainable] at hnot
          cases hnot
        · rintro ⟨_, h⟩
          exact h haccepted
      | error exc =>
        have hnot : ¬host.Accepted maxBytes line := by
          rintro ⟨_, message, hok⟩
          rw [hdecode] at hok
          cases hok
        by_cases hinvalid : ∃ text, exc = .invalid text
        · obtain ⟨text, rfl⟩ := hinvalid
          have hcontainable := containable_of_invalid (Nat.le_of_lt hshort) hdecode
          refine iff_of_true rfl ⟨⟨fun h => absurd h hnot, ?_⟩, fun h => absurd h hnot⟩
          intro _ hfalse
          rw [hcontainable] at hfalse
          cases hfalse
        · have hother : ∀ text, exc ≠ .invalid text := fun text h => hinvalid ⟨text, h⟩
          apply iff_of_false
          · cases exc with
            | invalid text => exact absurd rfl (hother text)
            | _ =>
              intro h
              cases h
          · rintro ⟨⟨_, hescape⟩, _⟩
            exact hmax (hescape hshort (not_containable (Nat.le_of_lt hshort) hdecode hother))

theorem takeLine_none (h : takeLine buffer = none) : newline ∉ buffer := by
  rw [takeLine, Option.map_eq_none_iff, List.idxOf?_eq_none_iff] at h
  exact h

theorem takeLine_some (h : takeLine buffer = some (raw, rest)) :
    lines newline buffer = raw :: lines newline rest ∧
      unfinished newline buffer = unfinished newline rest ∧
        buffer.length = raw.length + 1 + rest.length := by
  obtain ⟨i, hi, heq⟩ := Option.map_eq_some_iff.1 h
  cases heq
  obtain ⟨hlines, hrest⟩ := cut_first hi
  have hlt : i < buffer.length := by
    rw [List.idxOf?, List.findIdx?_eq_some_iff_findIdx_eq] at hi
    exact hi.1
  refine ⟨hlines, hrest, ?_⟩
  rw [List.length_take, List.length_drop]
  omega

theorem served_held (rest : Nat) (arrived : List (Bytes × Nat)) (complete : List Bytes)
    (h : held ≤ maxBytes) :
    served host maxBytes rest (complete.map (fun line => (line, held)) ++ arrived) =
      served host maxBytes rest (complete.map (fun line => (line, 0)) ++ arrived) := by
  induction complete with
  | nil => rfl
  | cons line complete ih =>
    simp only [List.map_cons, List.cons_append, served, ih]
    rw [if_neg (Nat.not_lt_of_le h), if_neg (Nat.not_lt_zero _)]

theorem served_crowded (chunks : List Bytes) (hrest : newline ∉ rest)
    (h : rest.length > maxBytes) :
    served host maxBytes (unfinished newline (rest ++ chunks.flatten)).length
      (arrivals newline rest chunks) = [.protocolError] := by
  induction chunks generalizing rest with
  | nil =>
    rw [List.flatten_nil, List.append_nil, unfinished_of_notMem hrest]
    exact if_pos h
  | cons chunk chunks ih =>
    have hheld : (rest ++ chunk).length > maxBytes := by
      rw [List.length_append]
      omega
    rw [arrivals, List.flatten_cons, ← List.append_assoc]
    cases hlines : lines newline (rest ++ chunk) with
    | cons line complete => exact if_pos hheld
    | nil =>
      have hnot : newline ∉ rest ++ chunk := notMem_of_lines_nil hlines
      rw [unfinished_of_notMem hnot]
      exact ih hnot hheld

/-- What is served to an agent whose buffer holds no more than the limit. -/
def expected (host : ProtocolHost) (maxBytes : Nat) (buffer : Bytes) (chunks : List Bytes) :
    List AgentReply :=
  served host maxBytes (unfinished newline (buffer ++ chunks.flatten)).length
    ((lines newline buffer).map (fun line => (line, 0)) ++
      arrivals newline (unfinished newline buffer) chunks)

theorem expected_wait (hbuffer : newline ∉ buffer) (hlength : (buffer ++ chunk).length ≤ maxBytes) :
    expected host maxBytes buffer (chunk :: chunks) =
      expected host maxBytes (buffer ++ chunk) chunks := by
  rw [expected, expected, lines_of_notMem hbuffer, unfinished_of_notMem hbuffer, arrivals,
    List.flatten_cons, ← List.append_assoc, List.map_nil, List.nil_append,
      served_held _ _ _ hlength]

theorem expected_overflow (hbuffer : newline ∉ buffer)
    (hlength : (buffer ++ chunk).length > maxBytes) :
    expected host maxBytes buffer (chunk :: chunks) = [.protocolError] := by
  rw [expected, lines_of_notMem hbuffer, unfinished_of_notMem hbuffer, List.map_nil,
    List.nil_append, arrivals, List.flatten_cons, ← List.append_assoc]
  cases hlines : lines newline (buffer ++ chunk) with
  | cons line complete => exact if_pos hlength
  | nil =>
    have hnot : newline ∉ buffer ++ chunk := notMem_of_lines_nil hlines
    rw [unfinished_of_notMem hnot]
    exact served_crowded chunks hnot hlength

theorem expected_line (h : takeLine buffer = some (raw, rest)) :
    expected host maxBytes buffer chunks =
      match host.decodeMessage raw maxBytes .agent with
      | .ok message => .decoded message :: expected host maxBytes rest chunks
      | .error (.invalid _) => [.protocolError]
      | .error _ => [.other] := by
  obtain ⟨hlines, hrest, _⟩ := takeLine_some h
  rw [expected, expected, hlines, hrest, unfinished_append, hrest, ← unfinished_append]
  exact if_neg (Nat.not_lt_zero _)

theorem readLine_line (h : takeLine buffer = some (raw, rest)) (events : List ReadEvent) :
    host.readLine agentId maxBytes buffer events = some (.ok raw, rest, events) := by
  cases events with
  | nil => rw [readLine, h, Option.map_some]
  | cons event events =>
    unfold readLine
    rw [h]

theorem readLine_chunk (h : takeLine buffer = none) (chunk : Bytes) (events : List ReadEvent) :
    host.readLine agentId maxBytes buffer (.chunk chunk :: events) =
      if (buffer ++ chunk).length > maxBytes then
        some (.error (host.readFailure agentId (.chunk chunk)), buffer ++ chunk, events)
      else host.readLine agentId maxBytes (buffer ++ chunk) events := by
  rw [readLine, h]

theorem replies_line (p : AgentProcess) (h : takeLine buffer = some (raw, rest)) :
    host.replies { p with stdoutBuffer := buffer } (n + 1) chunks =
      match host.decodeMessage raw p.maxMessageBytes .agent with
      | .ok message => .decoded message :: host.replies { p with stdoutBuffer := rest } n chunks
      | .error (.invalid _) => [.protocolError]
      | .error _ => [.other] := by
  rw [replies, successive, readMessage, readLine_line h, Option.map_some]
  dsimp only
  rw [readDecoded]
  dsimp only
  cases host.decodeMessage raw p.maxMessageBytes .agent with
  | ok message => rfl
  | error exc => cases exc <;> rfl

theorem replies_wait (p : AgentProcess) (h : takeLine buffer = none)
    (hlength : (buffer ++ chunk).length ≤ p.maxMessageBytes) :
    host.replies { p with stdoutBuffer := buffer } (n + 1) (chunk :: chunks) =
      host.replies { p with stdoutBuffer := buffer ++ chunk } (n + 1) chunks := by
  simp only [replies, successive, readMessage, List.map_cons, readLine_chunk h,
    if_neg (Nat.not_lt_of_le hlength)]
  rfl

theorem replies_overflow (p : AgentProcess) (h : takeLine buffer = none)
    (hlength : (buffer ++ chunk).length > p.maxMessageBytes) :
    host.replies { p with stdoutBuffer := buffer } (n + 1) (chunk :: chunks) =
      [.protocolError] := by
  simp only [replies, successive, readMessage, List.map_cons, readLine_chunk h, if_pos hlength]
  rfl

theorem replies_expected (p : AgentProcess) (n : Nat) (buffer : Bytes) (chunks : List Bytes)
    (hlength : buffer.length ≤ p.maxMessageBytes) :
    host.replies { p with stdoutBuffer := buffer } n chunks =
      (expected host p.maxMessageBytes buffer chunks).take n := by
  induction n generalizing buffer chunks with
  | zero => rfl
  | succ n ih =>
    have hline : ∀ buffer chunks raw rest, takeLine buffer = some (raw, rest) →
        buffer.length ≤ p.maxMessageBytes →
        host.replies { p with stdoutBuffer := buffer } (n + 1) chunks =
          (expected host p.maxMessageBytes buffer chunks).take (n + 1) := by
      intro buffer chunks raw rest htake hlength
      obtain ⟨_, _, hparts⟩ := takeLine_some htake
      rw [replies_line p htake, expected_line htake]
      cases host.decodeMessage raw p.maxMessageBytes .agent with
      | ok message =>
        dsimp only
        rw [List.take_succ_cons, ih rest chunks (by omega)]
      | error exc => cases exc <;> simp
    induction chunks generalizing buffer with
    | nil =>
      cases htake : takeLine buffer with
      | none =>
        have hbuffer := takeLine_none htake
        have hserved : served host p.maxMessageBytes buffer.length [] = [] :=
          if_neg (Nat.not_lt_of_le hlength)
        rw [expected, lines_of_notMem hbuffer, List.flatten_nil, List.append_nil,
          unfinished_of_notMem hbuffer, List.map_nil, List.nil_append, arrivals, hserved, replies,
          List.map_nil, successive, readMessage, readLine, htake]
        rfl
      | some l => exact hline buffer [] l.1 l.2 htake hlength
    | cons chunk chunks ihchunks =>
      cases htake : takeLine buffer with
      | none =>
        have hbuffer := takeLine_none htake
        by_cases hfits : (buffer ++ chunk).length > p.maxMessageBytes
        · rw [replies_overflow p htake hfits, expected_overflow hbuffer hfits,
            List.take_succ_cons, List.take_nil]
        · have hfits := Nat.le_of_not_gt hfits
          rw [replies_wait p htake hfits, expected_wait hbuffer hfits]
          exact ihchunks (buffer ++ chunk) hfits
      | some l => exact hline buffer (chunk :: chunks) l.1 l.2 htake hlength

end ProtocolHost

/-- A fresh agent, whose stream has just begun. -/
def AgentProcess.fresh (p : AgentProcess) : AgentProcess := { p with stdoutBuffer := [] }

theorem replies_framed (host : ProtocolHost) (p : AgentProcess) (chunks : List Bytes) :
    (∀ n, host.replies p.fresh n chunks =
        (host.framed p.maxMessageBytes chunks.flatten).take n) ↔
      host.InStep p.maxMessageBytes (arrivals newline [] chunks) := by
  have hnil : newline ∉ ([] : Bytes) := List.not_mem_nil
  have hreplies : ∀ n, host.replies p.fresh n chunks =
      (host.served p.maxMessageBytes (unfinished newline chunks.flatten).length
        (arrivals newline [] chunks)).take n := by
    intro n
    rw [AgentProcess.fresh, ProtocolHost.replies_expected p n [] chunks (Nat.zero_le _),
      ProtocolHost.expected, lines_of_notMem hnil, unfinished_of_notMem hnil]
    rfl
  have hheld : ∀ x ∈ arrivals newline [] chunks, x.1.length < x.2 := by
    intro x hx
    exact length_lt_of_mem_arrivals hx
  rw [← ProtocolHost.served_eq_answers (unfinished newline chunks.flatten).length _ hheld,
    arrivals_lines [] chunks hnil]
  constructor
  · intro h
    -- Both lists are whole after as many reads as they have replies together.
    have hall := h ((host.served p.maxMessageBytes (unfinished newline chunks.flatten).length
      (arrivals newline [] chunks)).length +
      (host.framed p.maxMessageBytes chunks.flatten).length)
    rw [hreplies, List.take_of_length_le (Nat.le_add_right _ _),
      List.take_of_length_le (Nat.le_add_left _ _)] at hall
    exact hall
  · intro h n
    rw [hreplies, h]
    rfl

/-- Two ways in which one stream arrives give the replies of its lines exactly when both arrive
in step. -/
theorem framing_independent (host : ProtocolHost) (p : AgentProcess) (chunks chunks' : List Bytes)
    (hstream : chunks.flatten = chunks'.flatten) :
    (∀ n, host.replies p.fresh n chunks = (host.framed p.maxMessageBytes chunks.flatten).take n ∧
        host.replies p.fresh n chunks' =
          (host.framed p.maxMessageBytes chunks.flatten).take n) ↔
      host.InStep p.maxMessageBytes (arrivals newline [] chunks) ∧
        host.InStep p.maxMessageBytes (arrivals newline [] chunks') := by
  rw [forall_and, replies_framed, hstream, replies_framed]

namespace Sample

def readyLine : Bytes := bytesOf readyText ++ [newline]

def curtAgent : AgentProcess := { agentProcess with maxMessageBytes := 40 }

/-- An agent whose messages may have 20 bytes. -/
def terseAgent : AgentProcess := { agentProcess with maxMessageBytes := 20 }

end Sample

theorem ready_inStep (h : ∀ x ∈ arrived, x.1 = Sample.bytesOf Sample.readyText ∧ x.2 ≤ 40) :
    Sample.protocolHost.InStep 40 arrived := by
  intro before line held after heq _
  obtain ⟨hline, hheld⟩ := h (line, held) (heq ▸ List.mem_append_right _ List.mem_cons_self)
  dsimp only at hline
  refine ⟨fun _ => hheld, fun _ hescape => ?_⟩
  rw [hline] at hescape
  exact absurd hescape (by decide +kernel)

/-- Two lines in one chunk, and in three. -/
theorem framing_independent_sample :
    Sample.protocolHost.replies Sample.curtAgent.fresh 2 [Sample.readyLine ++ Sample.readyLine] =
        (Sample.protocolHost.framed 40 [Sample.readyLine ++ Sample.readyLine].flatten).take 2 ∧
      Sample.protocolHost.replies Sample.curtAgent.fresh 2
          [Sample.readyLine, Sample.bytesOf Sample.readyText, [newline]] =
        (Sample.protocolHost.framed 40 [Sample.readyLine ++ Sample.readyLine].flatten).take 2 :=
  (framing_independent Sample.protocolHost Sample.curtAgent
    [Sample.readyLine ++ Sample.readyLine]
    [Sample.readyLine, Sample.bytesOf Sample.readyText, [newline]] (by decide +kernel)).2
    ⟨ready_inStep (by decide +kernel), ready_inStep (by decide +kernel)⟩ 2

theorem framing_dependent_sample :
    let ready := AgentReply.decoded [("type", .text "ready")]
    Sample.protocolHost.replies Sample.terseAgent.fresh 2 [Sample.readyLine, Sample.readyLine] =
        [ready, ready] ∧
      Sample.protocolHost.replies Sample.terseAgent.fresh 2
        [Sample.readyLine ++ Sample.readyLine] = [.protocolError] := by
  decide +kernel

end BrunostJudge
