import BrunostJudge.AgentFraming
import BrunostJudge.InteractiveSession

namespace BrunostJudge
open Python Framing
set_option autoImplicit true

/-- What is read of the candidate's output, chunk by chunk. -/
def reads (events : List PipeEvent) : List PipeChunk :=
  events.filterMap fun
    | .read chunk => some chunk
    | _ => none

/-- The output of a candidate. -/
def candidateOutput (events : List PipeEvent) : Bytes :=
  ((reads events).map PipeChunk.bytes).flatten

/-- For each chunk that ends beyond the output limit, how many lines were complete before it. -/
def overruns (outputLimit : Nat) (before : Bytes) : List PipeChunk → List Nat
  | [] => []
  | chunk :: chunks =>
    (if outputLimit < (before ++ chunk.bytes).length then
      [(lines newline before).length] else []) ++
      overruns outputLimit (before ++ chunk.bytes) chunks

/-- What the calls of `receive` meet in turn: a line, or a chunk beyond the output limit. -/
def tokens (outputLimit : Nat) (outputBytes : Nat) (rest : Bytes) :
    List PipeChunk → List (Option Bytes)
  | [] => []
  | chunk :: chunks =>
    (if outputLimit < outputBytes + chunk.bytes.length then [none] else []) ++
      (lines newline (rest ++ chunk.bytes)).map some ++
      tokens outputLimit (outputBytes + chunk.bytes.length)
        (unfinished newline (rest ++ chunk.bytes)) chunks

theorem reduceOption_map_some (l : List Bytes) : (l.map some).reduceOption = l := by
  simp [List.reduceOption]

theorem tokens_lines (outputLimit outputBytes : Nat) (rest : Bytes) (chunks : List PipeChunk)
    (h : newline ∉ rest) :
    (tokens outputLimit outputBytes rest chunks).reduceOption =
      lines newline (rest ++ (chunks.map PipeChunk.bytes).flatten) := by
  induction chunks generalizing outputBytes rest with
  | nil =>
    rw [List.map_nil, List.flatten_nil, List.append_nil, lines_of_notMem h]
    rfl
  | cons chunk chunks ih =>
    have hmark : (if outputLimit < outputBytes + chunk.bytes.length then [none] else [] :
        List (Option Bytes)).reduceOption = [] := by
      split
      · rfl
      · rfl
    rw [tokens, List.reduceOption_append, List.reduceOption_append, hmark, List.nil_append,
      reduceOption_map_some, ih _ _ (notMem_unfinished _), List.map_cons, List.flatten_cons,
      ← List.append_assoc, ← lines_append]

theorem tokens_marks (outputLimit : Nat) (before : Bytes) (chunks : List PipeChunk) :
    marks (lines newline before).length
        (tokens outputLimit before.length (unfinished newline before) chunks) =
      overruns outputLimit before chunks := by
  induction chunks generalizing before with
  | nil => rfl
  | cons chunk chunks ih =>
    have hlines := lines_append (d := newline) before chunk.bytes
    have hstep := ih (before ++ chunk.bytes)
    rw [hlines, List.length_append, List.length_append, unfinished_append] at hstep
    rw [tokens, overruns, List.length_append, List.append_assoc]
    split
    · rw [List.cons_append, List.nil_append, marks, marks_append, marks_map_some, List.nil_append,
        List.cons_append, List.nil_append, ← hstep, reduceOption_map_some]
    · rw [List.nil_append, marks_append, marks_map_some, List.nil_append, List.nil_append, ← hstep,
        reduceOption_map_some]

/-- The tokens that a session has still to meet. -/
def pending (session : InteractiveSession) (events : List PipeEvent) : List (Option Bytes) :=
  (lines newline session.buffer).map some ++
    tokens session.outputLimit session.outputBytes (unfinished newline session.buffer)
      (reads events)

/-- The reply to a call of `receive`. -/
def tokenReply (host : InteractorHost) : Option (Option Bytes) → Except InteractorException PyStr
  | none => .error (.protocol (PyStr.ofString "candidate closed stdout"))
  | some none => .error (.overflow (PyStr.ofString "interactive output limit exceeded"))
  | some (some raw) => InteractiveSession.lineReply host raw

/-- What the transcript is after a call of `receive`. -/
def noted (transcript : List TranscriptEvent) :
    Except InteractorException PyStr → List TranscriptEvent
  | .ok value =>
    if transcript.length < maxTranscriptEvents then
      transcript ++ [⟨"candidate", value.take maxSessionLineBytes⟩]
    else transcript
  | .error _ => transcript

theorem record_pending (session : InteractiveSession) (direction : String) (value : PyStr)
    (events : List PipeEvent) :
    pending (session.record direction value) events = pending session events := by
  unfold InteractiveSession.record
  split
  · rfl
  · rfl

theorem takeReply_none {session : InteractiveSession} (h : session.takeReply host = none) :
    newline ∉ session.buffer := by
  rw [InteractiveSession.takeReply, Option.map_eq_none_iff] at h
  exact ProtocolHost.takeLine_none h

theorem takeReply_some {session session' : InteractiveSession}
    (h : session.takeReply host = some (reply, session')) (events : List PipeEvent) :
    ∃ raw, pending session events = some raw :: pending session' events ∧
      reply = InteractiveSession.lineReply host raw ∧
      session'.transcript = noted session.transcript reply := by
  obtain ⟨⟨raw, remainder⟩, hline, htaken⟩ := Option.map_eq_some_iff.1 h
  obtain ⟨hlines, hrest, -⟩ := ProtocolHost.takeLine_some hline
  have hpending : pending session events =
      some raw :: pending { session with buffer := remainder } events := by
    rw [pending, pending, hlines, hrest]
    rfl
  refine ⟨raw, ?_⟩
  rw [hpending]
  simp only at htaken
  cases hreply : InteractiveSession.lineReply host raw with
  | error exc =>
    rw [hreply] at htaken
    cases htaken
    exact ⟨rfl, rfl, rfl⟩
  | ok value =>
    rw [hreply] at htaken
    cases htaken
    refine ⟨by rw [record_pending], rfl, ?_⟩
    unfold InteractiveSession.record noted
    split
    · rfl
    · rfl

/-- How a call of `receive` ends, and what it leaves to the next one. -/
structure Received (host : InteractorHost) (session : InteractiveSession) (events : List PipeEvent)
    (reply : Except InteractorException PyStr) (session' : InteractiveSession)
    (events' : List PipeEvent) : Prop where
  answered : reply = tokenReply host (pending session events).head?
  rest : pending session' events' = (pending session events).tail
  transcript : session'.transcript = noted session.transcript reply
  inTime : .expired ∉ events'

theorem receive_spec (host : InteractorHost) (session : InteractiveSession)
    {events : List PipeEvent} (h : .expired ∉ events) :
    Received host session events (session.receive host events).1 (session.receive host events).2.1
      (session.receive host events).2.2 := by
  induction events generalizing session with
  | nil =>
    rw [InteractiveSession.receive]
    split
    · next reply session' htaken =>
      obtain ⟨raw, hpending, hreply, htranscript⟩ := takeReply_some htaken []
      exact ⟨by rw [hreply, hpending]; rfl, by rw [hpending]; rfl, htranscript, h⟩
    · next htaken =>
      have hpending : pending session [] = [] := by
        rw [pending, lines_of_notMem (takeReply_none htaken)]
        rfl
      exact ⟨by rw [hpending]; rfl, by rw [hpending]; rfl, rfl, h⟩
  | cons event events ih =>
    rw [List.mem_cons, not_or] at h
    obtain ⟨hevent, htail⟩ := h
    rw [InteractiveSession.receive.eq_def]
    simp only
    split
    · next reply session' htaken =>
      obtain ⟨raw, hpending, hreply, htranscript⟩ := takeReply_some htaken (event :: events)
      refine ⟨by rw [hreply, hpending]; rfl, by rw [hpending]; rfl, htranscript, ?_⟩
      rw [List.mem_cons, not_or]
      exact ⟨hevent, htail⟩
    · next htaken =>
      have hbuffer := takeReply_none htaken
      cases event with
      | expired => exact absurd rfl hevent
      | waited =>
        obtain ⟨hreply, hrest, htranscript, hin⟩ := ih session htail
        exact ⟨hreply, hrest, htranscript, hin⟩
      | read chunk =>
        have hpending : pending session (.read chunk :: events) =
            (if session.outputLimit < (session.extend chunk).outputBytes then [none] else []) ++
              pending (session.extend chunk) events := by
          have hreads : reads (.read chunk :: events) = chunk :: reads events := rfl
          rw [pending, lines_of_notMem hbuffer, unfinished_of_notMem hbuffer, List.map_nil,
            List.nil_append, hreads, tokens, List.append_assoc]
          rfl
        simp only
        split
        · next hover =>
          rw [if_pos hover] at hpending
          exact ⟨by rw [hpending]; rfl, by rw [hpending]; rfl, rfl, htail⟩
        · next hover =>
          rw [if_neg hover, List.nil_append] at hpending
          obtain ⟨hreply, hrest, htranscript, hin⟩ := ih (session.extend chunk) htail
          exact ⟨by rw [hpending, hreply], by rw [hpending, hrest], htranscript, hin⟩

/-- Dialogues that no further call tells apart. -/
structure Alike (d d' : Dialogue) : Prop where
  replies : d.replies = d'.replies
  transcript : d.session.transcript = d'.session.transcript
  pending : pending d.session d.events = pending d'.session d'.events
  inTime : .expired ∉ d.events
  inTime' : .expired ∉ d'.events

theorem send_spec (session : InteractiveSession) (value : Json) (isOpen : Bool)
    (events : List PipeEvent) :
    pending (session.send value isOpen).2 events = pending session events := by
  unfold InteractiveSession.send
  split
  · split
    · rfl
    · split_ifs
      · rfl
      · exact record_pending _ _ _ _
      · rfl
  · rfl

theorem send_congr {session session' : InteractiveSession}
    (h : session.transcript = session'.transcript) (value : Json) (isOpen : Bool) :
    (session.send value isOpen).1 = (session'.send value isOpen).1 ∧
      (session.send value isOpen).2.transcript = (session'.send value isOpen).2.transcript := by
  unfold InteractiveSession.send
  split
  · split
    · exact ⟨rfl, h⟩
    · split_ifs
      · exact ⟨rfl, h⟩
      · refine ⟨rfl, ?_⟩
        simp only [InteractiveSession.record, h]
        split
        · rfl
        · exact h
      · exact ⟨rfl, h⟩
  · exact ⟨rfl, h⟩

theorem Alike.call (h : Alike d d') (host : InteractorHost) (stdinOpen : Nat → Bool)
    (c : SessionCall) : Alike (d.call host stdinOpen c) (d'.call host stdinOpen c) := by
  cases c with
  | send value =>
    obtain ⟨hreply, htranscript⟩ := send_congr h.transcript value (stdinOpen d.replies.length)
    refine ⟨?_, ?_, ?_, h.inTime, h.inTime'⟩
    · simp only [Dialogue.call, ← h.replies, hreply]
    · simp only [Dialogue.call, ← h.replies]
      exact htranscript
    · simp only [Dialogue.call, send_spec]
      exact h.pending
  | receive =>
    have hd := receive_spec host d.session h.inTime
    have hd' := receive_spec host d'.session h.inTime'
    have hreply := hd.answered.trans ((congrArg (fun t => tokenReply host t.head?) h.pending).trans
      hd'.answered.symm)
    refine ⟨?_, ?_, ?_, hd.inTime, hd'.inTime⟩
    · simp only [Dialogue.call, h.replies, hreply]
    · simp only [Dialogue.call]
      rw [hd.transcript, hd'.transcript, h.transcript, hreply]
    · exact hd.rest.trans ((congrArg List.tail h.pending).trans hd'.rest.symm)

theorem Alike.run (h : Alike d d') (host : InteractorHost) (stdinOpen : Nat → Bool)
    (interactor : Interactor) (n : Nat) :
    Alike (d.run host stdinOpen interactor n) (d'.run host stdinOpen interactor n) := by
  induction n generalizing d d' with
  | zero => exact h
  | succ n ih =>
    rw [Dialogue.run, Dialogue.run, ← h.replies]
    cases interactor d.replies with
    | ends result => exact h
    | call c => exact ih (h.call host stdinOpen c)

theorem Alike.row (h : Alike d d') (host : InteractorHost) (interactor : Interactor)
    (exitCode : Int) (stderr compileStderr : PyStr) :
    d.row host interactor exitCode stderr compileStderr =
      d'.row host interactor exitCode stderr compileStderr := by
  unfold Dialogue.row
  rw [h.replies, h.transcript]

/-- An interactor that only listens. -/
def listener : Interactor := fun _ => .call .receive

theorem listener_replies (host : InteractorHost) (stdinOpen : Nat → Bool) (n : Nat) (d : Dialogue)
    (h : .expired ∉ d.events) :
    (d.run host stdinOpen listener n).replies = d.replies ++
      (List.range n).map fun i => .received (tokenReply host (pending d.session d.events)[i]?) := by
  induction n generalizing d with
  | zero => rw [List.range_zero, List.map_nil, List.append_nil, Dialogue.run]
  | succ n ih =>
    have hd := receive_spec host d.session h
    have hrun : d.run host stdinOpen listener (n + 1) =
        (d.call host stdinOpen .receive).run host stdinOpen listener n := rfl
    rw [hrun, ih _ hd.inTime, List.range_succ_eq_map, List.map_cons, List.map_map]
    simp only [Dialogue.call, hd.rest, hd.answered, List.append_assoc, List.singleton_append,
      List.head?_eq_getElem?]
    congr 2
    apply List.map_congr_left
    intro i _
    simp only [Function.comp_apply, Nat.succ_eq_add_one, List.getElem?_tail]

theorem tokenReply_eq_overflow (host : InteractorHost) (token : Option (Option Bytes)) :
    tokenReply host token =
        .error (.overflow (PyStr.ofString "interactive output limit exceeded")) ↔
      token = some none := by
  constructor
  · intro h
    rcases token with - | - | raw
    · cases h
    · rfl
    · simp only [tokenReply, InteractiveSession.lineReply] at h
      split at h
      · rw [Except.error.injEq, InteractorException.overflow.injEq] at h
        exact absurd (PyStr.ofString_inj.1 h) (by decide)
      · cases h
  · rintro rfl
    rfl

theorem pending_of_replies (host : InteractorHost) (d d' : Dialogue) (hd : .expired ∉ d.events)
    (hd' : .expired ∉ d'.events) (hreplies : d.replies = d'.replies)
    (hlines : (pending d.session d.events).reduceOption =
      (pending d'.session d'.events).reduceOption)
    (h : ∀ n, (d.run host (fun _ => true) listener n).replies =
      (d'.run host (fun _ => true) listener n).replies) :
    pending d.session d.events = pending d'.session d'.events := by
  apply eq_of_marked hlines
  intro i
  have hrun := h (i + 1)
  rw [listener_replies host _ _ _ hd, listener_replies host _ _ _ hd', hreplies,
    List.append_cancel_left_eq, List.map_inj_left] at hrun
  have hi := SessionReply.received.inj (hrun i (List.mem_range.2 (Nat.lt_succ_self i)))
  rw [← tokenReply_eq_overflow host, ← tokenReply_eq_overflow host, hi]

/-- The same output in other chunks: the dialogues of all interactors go alike exactly if the
chunks beyond the output limit come after the same lines. -/
theorem dialogue_independent_iff (host : InteractorHost) (outputLimit : Nat)
    (events events' : List PipeEvent) (houtput : candidateOutput events = candidateOutput events')
    (hin : .expired ∉ events) (hin' : .expired ∉ events') :
    (∀ (interactor : Interactor) (stdinOpen : Nat → Bool) (n : Nat) (exitCode : Int)
      (stderr compileStderr : PyStr),
      let d := (Dialogue.start outputLimit events).run host stdinOpen interactor n
      let d' := (Dialogue.start outputLimit events').run host stdinOpen interactor n
      d.replies = d'.replies ∧
        d.row host interactor exitCode stderr compileStderr =
          d'.row host interactor exitCode stderr compileStderr) ↔
      overruns outputLimit [] (reads events) = overruns outputLimit [] (reads events') := by
  have hlines : (pending (.new outputLimit) events).reduceOption =
      (pending (.new outputLimit) events').reduceOption := by
    have hreads (es : List PipeEvent) : (pending (.new outputLimit) es).reduceOption =
        lines newline (candidateOutput es) :=
      tokens_lines outputLimit 0 [] (reads es) List.not_mem_nil
    rw [hreads, hreads, houtput]
  have hmarks (es : List PipeEvent) :
      marks 0 (pending (.new outputLimit) es) = overruns outputLimit [] (reads es) :=
    tokens_marks outputLimit [] (reads es)
  rw [← hmarks, ← hmarks, ← eq_iff_marks hlines]
  constructor
  · intro h
    apply pending_of_replies host (.start outputLimit events) (.start outputLimit events') hin hin'
      rfl hlines
    intro n
    exact (h listener (fun _ => true) n 0 [] []).1
  · intro h interactor stdinOpen n exitCode stderr compileStderr
    have halike : Alike (.start outputLimit events) (.start outputLimit events') :=
      ⟨rfl, rfl, h, hin, hin'⟩
    have hrun := halike.run host stdinOpen interactor n
    exact ⟨hrun.replies, hrun.row host interactor exitCode stderr compileStderr⟩

namespace Sample

/-- Texts of ASCII characters only, and no numbers in them. -/
def interactorHost : InteractorHost where
  decode raw := PyStr.ofString (String.ofList (raw.map fun b => Char.ofNat b.toNat))
  str
    | .str s => s
    | _ => []
  upper := id
  parseFloat _ := none

/-- An interactor that wants one line. -/
def oneLine : Interactor
  | [] => .call .receive
  | .received (.error exc) :: _ => .ends (.error exc)
  | _ => .ends (.ok (.bool true))

def shortLine : PipeChunk := ⟨[0x61, newline], List.cons_ne_nil _ _, by decide⟩
def longRest : PipeChunk := ⟨[0x62, 0x63, 0x64], List.cons_ne_nil _ _, by decide⟩
def atOnce : PipeChunk := ⟨[0x61, newline, 0x62, 0x63, 0x64], List.cons_ne_nil _ _, by decide⟩

/-- The verdict on a candidate whose output arrives so, where four bytes are allowed. -/
def verdictOn (chunks : List PipeChunk) : Option Json :=
  let d := (Dialogue.start 4 (chunks.map .read)).run interactorHost (fun _ => true) oneLine 1
  (d.row interactorHost oneLine 0 [] []).map fun row => Dict.get row "verdict"

end Sample

theorem dialogue_independent_sample :
    ((Dialogue.start 5 [.read Sample.atOnce]).run Sample.interactorHost (fun _ => true)
        Sample.oneLine 1).replies =
      ((Dialogue.start 5 [.read Sample.shortLine, .waited, .read Sample.longRest]).run
        Sample.interactorHost (fun _ => true) Sample.oneLine 1).replies :=
  ((dialogue_independent_iff Sample.interactorHost 5 [.read Sample.atOnce]
    [.read Sample.shortLine, .waited, .read Sample.longRest] (by decide +kernel)
    (by simp) (by simp)).2 (by decide +kernel) Sample.oneLine (fun _ => true) 1 0 [] []).1

/-- The same five bytes: the line before the limit counts only if it is read by itself. -/
theorem dialogue_dependent_sample :
    candidateOutput ([Sample.shortLine, Sample.longRest].map .read) =
        candidateOutput ([Sample.atOnce].map .read) ∧
      Sample.verdictOn [Sample.shortLine, Sample.longRest] = some (.text "AC") ∧
      Sample.verdictOn [Sample.atOnce] = some (.text "OLE") := by
  decide +kernel

end BrunostJudge
