import BrunostJudge.InteractiveRunner
import BrunostJudge.Provenance
import BrunostJudge.PyDicts

namespace BrunostJudge
open Python
set_option autoImplicit true

theorem asciiSizeItems_eq (items : List Json) : Json.asciiSizeItems items =
    (items.map Json.asciiSize).sum + 2 * (items.length - 1) := by
  induction items with
  | nil => rfl
  | cons x xs ih =>
    rw [Json.asciiSizeItems, ih, List.map_cons, List.sum_cons, List.length_cons]
    cases xs with
    | nil => rfl
    | cons y ys =>
      simp only [List.isEmpty_cons, List.length_cons, Bool.false_eq_true, if_false]
      omega

/-- The bytes of a line of the dialogue in the report. -/
def lineBytes (e : TranscriptEvent) : Nat :=
  26 + asciiSizeOf (PyStr.ofString e.direction) + asciiSizeOf e.value

def transcriptBytes (transcript : List TranscriptEvent) : Nat :=
  2 + (transcript.map lineBytes).sum + 2 * (transcript.length - 1)

/-- The bytes of the report on a dialogue that ended by an exception. -/
def raisedBytes : InteractorException → Nat
  | .timeout message | .overflow message => 69 + asciiSizeOf message
  | .protocol message => 68 + asciiSizeOf message
  | .other message => 60 + asciiSizeOf message

/-- The bytes of the report on a dialogue that ended by an answer. -/
def answerBytes (verdict : PyStr) (score : Number) (message : Json)
    (transcript : List TranscriptEvent) : Nat :=
  77 + asciiSizeOf verdict + score.print.length + message.asciiSize + transcriptBytes transcript

def crashMessage : PyStr := PyStr.ofString "candidate exited before the interaction completed"

/-- The bytes that a worker prints on a dialogue, with the newline that ends them. -/
def reportBytes (host : InteractorHost) (exitCode : Int) (stderr compileStderr : PyStr)
    (result : Except InteractorException Json) (transcript : List TranscriptEvent) : Nat :=
  match result.bind host.resultFromInteractor with
  | .error exc => raisedBytes exc
  | .ok (verdict, score, message) =>
    if exitCode ≠ 0 ∧ verdict = PyStr.ofString "AC" then
      answerBytes (PyStr.ofString "RE") (.float (floatRepr 0)) (.str crashMessage) transcript
    else
      answerBytes verdict score (InteractorHost.firstText [message.getD [], stderr, compileStderr])
        transcript

/-- `{"direction": "candidate", "value": "3"}` -/
example : lineBytes ⟨"candidate", PyStr.ofString "3"⟩ = 40 := by decide +kernel

theorem zero_print : (Number.float (floatRepr 0)).print.length = 3 := by decide +kernel

theorem transcript_bytes (transcript : List TranscriptEvent) :
    (InteractorHost.transcriptJson transcript).asciiSize = transcriptBytes transcript := by
  have hline (e : TranscriptEvent) :
      (Json.obj [("direction", .text e.direction), ("value", .str e.value)]).asciiSize =
        lineBytes e := by
    have hdirection : asciiSizeOf (PyStr.ofString "direction") = 11 := by decide +kernel
    have hvalue : asciiSizeOf (PyStr.ofString "value") = 7 := by decide +kernel
    simp only [Json.asciiSize, Json.asciiSizeFields, Json.text, hdirection, hvalue, lineBytes,
      List.isEmpty_cons, List.isEmpty_nil, Bool.false_eq_true, if_true, if_false]
    omega
  rw [InteractorHost.transcriptJson, Json.asciiSize, asciiSizeItems_eq, List.map_map,
    List.length_map, transcriptBytes, ← Nat.add_assoc]
  congr 3
  apply List.map_congr_left
  intro e _
  exact hline e

theorem status_bytes : asciiSizeOf (PyStr.ofString "status") = 8 ∧
    asciiSizeOf (PyStr.ofString "verdict") = 9 ∧ asciiSizeOf (PyStr.ofString "score") = 7 ∧
    asciiSizeOf (PyStr.ofString "message") = 9 ∧ asciiSizeOf (PyStr.ofString "completed") = 11 := by
  decide +kernel

theorem raisedRow_bytes (exc : InteractorException) :
    (Json.obj (InteractorHost.raisedRow exc)).asciiSize + 1 = raisedBytes exc := by
  obtain ⟨hstatus, hverdict, hscore, hmessage, hcompleted⟩ := status_bytes
  have hfailed : asciiSizeOf (PyStr.ofString "failed") = 8 := by decide +kernel
  have htle : asciiSizeOf (PyStr.ofString "TLE") = 5 := by decide +kernel
  have hole : asciiSizeOf (PyStr.ofString "OLE") = 5 := by decide +kernel
  have hre : asciiSizeOf (PyStr.ofString "RE") = 4 := by decide +kernel
  have herror : asciiSizeOf (PyStr.ofString "JUDGE_ERROR") = 13 := by decide +kernel
  have hzero := zero_print
  cases exc with
  | timeout message =>
    simp only [InteractorHost.raisedRow, InteractorHost.raisedRow.row, Json.asciiSize,
      Json.asciiSizeFields, Json.text, Json.ofFloat, raisedBytes, List.isEmpty_cons,
      List.isEmpty_nil, Bool.false_eq_true, if_true, if_false]
    omega
  | overflow message =>
    simp only [InteractorHost.raisedRow, InteractorHost.raisedRow.row, Json.asciiSize,
      Json.asciiSizeFields, Json.text, Json.ofFloat, raisedBytes, List.isEmpty_cons,
      List.isEmpty_nil, Bool.false_eq_true, if_true, if_false]
    omega
  | protocol message =>
    simp only [InteractorHost.raisedRow, InteractorHost.raisedRow.row, Json.asciiSize,
      Json.asciiSizeFields, Json.text, Json.ofFloat, raisedBytes, List.isEmpty_cons,
      List.isEmpty_nil, Bool.false_eq_true, if_true, if_false]
    omega
  | other message =>
    simp only [InteractorHost.raisedRow, Json.asciiSize, Json.asciiSizeFields, Json.text,
      raisedBytes, List.isEmpty_cons, List.isEmpty_nil, Bool.false_eq_true, if_true, if_false]
    omega

/-- The row of an answer. -/
def answerRow (verdict : PyStr) (score : Number) (message : Json)
    (transcript : List TranscriptEvent) : Dict :=
  [("status", .text "completed"), ("verdict", .str verdict), ("score", .num score),
    ("message", message), ("transcript", InteractorHost.transcriptJson transcript)]

theorem answerRow_bytes (verdict : PyStr) (score : Number) (message : Json)
    (transcript : List TranscriptEvent) :
    (Json.obj (answerRow verdict score message transcript)).asciiSize + 1 =
      answerBytes verdict score message transcript := by
  obtain ⟨hstatus, hverdict, hscore, hmessage, hcompleted⟩ := status_bytes
  have htranscript : asciiSizeOf (PyStr.ofString "transcript") = 12 := by decide +kernel
  simp only [answerRow, Json.asciiSize, Json.asciiSizeFields, Json.text, transcript_bytes,
    answerBytes, List.isEmpty_cons, List.isEmpty_nil, Bool.false_eq_true, if_true, if_false]
  omega

theorem dialogueRow_cases (host : InteractorHost) (exitCode : Int) (stderr compileStderr : PyStr)
    (result : Except InteractorException Json) (transcript : List TranscriptEvent) :
    (∃ exc, result.bind host.resultFromInteractor = .error exc ∧
      host.dialogueRow exitCode stderr compileStderr result transcript =
        InteractorHost.raisedRow exc) ∨
    (∃ verdict score message,
      result.bind host.resultFromInteractor = .ok (verdict, score, message) ∧
      exitCode ≠ 0 ∧ verdict = PyStr.ofString "AC" ∧
      host.dialogueRow exitCode stderr compileStderr result transcript =
        answerRow (PyStr.ofString "RE") (.float (floatRepr 0)) (.str crashMessage) transcript) ∨
    (∃ verdict score message,
      result.bind host.resultFromInteractor = .ok (verdict, score, message) ∧
      ¬(exitCode ≠ 0 ∧ verdict = PyStr.ofString "AC") ∧
      host.dialogueRow exitCode stderr compileStderr result transcript =
        answerRow verdict score
          (InteractorHost.firstText [message.getD [], stderr, compileStderr]) transcript) := by
  rw [InteractorHost.dialogueRow]
  cases hresult : result.bind host.resultFromInteractor with
  | error exc => exact .inl ⟨exc, rfl, rfl⟩
  | ok answer =>
    obtain ⟨verdict, score, message⟩ := answer
    simp only
    by_cases hcrashed : exitCode ≠ 0 ∧ verdict = PyStr.ofString "AC"
    · refine .inr (.inl ⟨verdict, score, message, rfl, hcrashed.1, hcrashed.2, ?_⟩)
      simp only [if_pos hcrashed]
      rfl
    · refine .inr (.inr ⟨verdict, score, message, rfl, hcrashed, ?_⟩)
      simp only [if_neg hcrashed]
      rfl

theorem dialogueRow_bytes (host : InteractorHost) (exitCode : Int) (stderr compileStderr : PyStr)
    (result : Except InteractorException Json) (transcript : List TranscriptEvent) :
    (Json.obj (host.dialogueRow exitCode stderr compileStderr result transcript)).asciiSize + 1 =
      reportBytes host exitCode stderr compileStderr result transcript := by
  rw [reportBytes]
  obtain ⟨exc, hresult, hrow⟩ | ⟨verdict, score, message, hresult, hexit, haccepted, hrow⟩ |
    ⟨verdict, score, message, hresult, hcrashed, hrow⟩ :=
    dialogueRow_cases host exitCode stderr compileStderr result transcript
  · rw [hrow, hresult, raisedRow_bytes]
  · rw [hrow, hresult, answerRow_bytes]
    exact (if_pos ⟨hexit, haccepted⟩).symm
  · rw [hrow, hresult, answerRow_bytes]
    exact (if_neg hcrashed).symm

/-- What a session raises for a text that cannot be sent. -/
def encodeError (value : PyStr) : InteractorException :=
  .other (PyStr.ofString "UnicodeEncodeError: " ++ value.encodeError)

/-- A session raises nothing that is no failure of the candidate, but for a text that cannot be
sent. -/
def SessionReply.Contained : SessionReply → Prop
  | .sent (.error (.other text)) => ∃ value, InteractorException.other text = encodeError value
  | .received (.error (.other _)) => False
  | _ => True

theorem send_contained (session : InteractiveSession) (value : Json) (isOpen : Bool) :
    (SessionReply.sent (session.send value isOpen).1).Contained := by
  unfold InteractiveSession.send
  split
  · split
    · exact ⟨_, rfl⟩
    · split_ifs
      · trivial
      · trivial
      · trivial
  · trivial

theorem takeReply_contained {host : InteractorHost} {session session' : InteractiveSession}
    (h : session.takeReply host = some (reply, session')) :
    (SessionReply.received reply).Contained := by
  obtain ⟨raw, -, hreply, -⟩ := takeReply_some h []
  rw [hreply, InteractiveSession.lineReply]
  split
  · trivial
  · trivial

theorem receive_contained (host : InteractorHost) (session : InteractiveSession)
    (events : List PipeEvent) :
    (SessionReply.received (session.receive host events).1).Contained := by
  induction events generalizing session with
  | nil =>
    rw [InteractiveSession.receive]
    split
    · next htaken => exact takeReply_contained htaken
    · trivial
  | cons event events ih =>
    rw [InteractiveSession.receive.eq_def]
    simp only
    split
    · next htaken => exact takeReply_contained htaken
    · cases event with
      | expired => trivial
      | waited => exact ih session
      | read chunk =>
        simp only
        split
        · trivial
        · exact ih (session.extend chunk)

theorem call_contained (host : InteractorHost) (stdinOpen : Nat → Bool) {d : Dialogue}
    (h : ∀ reply ∈ d.replies, reply.Contained) (c : SessionCall) :
    ∀ reply ∈ (d.call host stdinOpen c).replies, reply.Contained := by
  intro reply hreply
  cases c with
  | send value =>
    rcases List.mem_append.1 hreply with hold | hnew
    · exact h reply hold
    · rw [List.mem_singleton.1 hnew]
      exact send_contained _ _ _
  | receive =>
    rcases List.mem_append.1 hreply with hold | hnew
    · exact h reply hold
    · rw [List.mem_singleton.1 hnew]
      exact receive_contained _ _ _

theorem run_contained (host : InteractorHost) (stdinOpen : Nat → Bool) (interactor : Interactor)
    (n : Nat) {d : Dialogue} (h : ∀ reply ∈ d.replies, reply.Contained) :
    ∀ reply ∈ (d.run host stdinOpen interactor n).replies, reply.Contained := by
  induction n generalizing d with
  | zero => exact h
  | succ n ih =>
    rw [Dialogue.run]
    cases interactor d.replies with
    | ends result => exact h
    | call c => exact ih (call_contained host stdinOpen h c)

theorem floatOf_contained (host : InteractorHost) (value : Json) (text : PyStr) :
    host.floatOf value ≠ .error (.other text) := by
  intro h
  unfold InteractorHost.floatOf at h
  split at h
  · cases h
  · split at h
    · cases h
    · cases h
  · cases h
  · split at h
    · cases h
    · cases h
  · cases h

theorem resultFromInteractor_contained (host : InteractorHost) (answer : Json) (text : PyStr) :
    host.resultFromInteractor answer ≠ .error (.other text) := by
  intro h
  unfold InteractorHost.resultFromInteractor at h
  split at h
  · cases h
  · cases h
  · rcases bind_error.1 h with hscore | ⟨score, hscore, h⟩
    · exact floatOf_contained host _ _ hscore
    · rcases guard_error.1 h with ⟨-, hraised⟩ | ⟨-, hreturned⟩
      · cases hraised
      · cases hreturned
  · cases h

theorem resultFromInteractor_score {host : InteractorHost} {answer : Json}
    (h : host.resultFromInteractor answer = .ok (verdict, score, message)) :
    ∃ n, host.floatOf (.num score) = .ok n := by
  unfold InteractorHost.resultFromInteractor at h
  split at h
  · cases h
    exact ⟨_, rfl⟩
  · cases h
    exact ⟨_, rfl⟩
  · obtain ⟨given, -, h⟩ := bind_ok.1 h
    obtain ⟨hrange, h⟩ := guard_ok.1 h
    cases h
    simp only [Bool.or_eq_true, not_or, Bool.not_eq_true, decide_eq_true_eq] at hrange
    obtain ⟨⟨hlow, hhigh⟩, -⟩ := hrange
    cases score with
    | int i =>
      have hsmall : i.natAbs < 2 ^ 1024 - 2 ^ 970 := by
        have hnonneg : ¬ i < 0 := of_decide_eq_false hlow
        have hle : ¬ 1 < i := of_decide_eq_false hhigh
        have hone : i.natAbs ≤ 1 := by omega
        exact Nat.lt_of_le_of_lt hone (by decide +kernel)
      rw [InteractorHost.floatOf, if_pos hsmall]
      exact ⟨_, rfl⟩
    | float x => exact ⟨_, rfl⟩
    | nan => exact ⟨_, rfl⟩
    | inf negative => exact ⟨_, rfl⟩
  · cases h

/-- The verdicts on a candidate that failed. -/
def contestantVerdicts : List Verdict := [.ce, .tle, .ole, .re]

/-- The row of a test that a candidate failed at. -/
structure RowZeroed (host : InteractiveHost) (row : Dict) : Prop where
  verdict : ∃ v ∈ contestantVerdicts, Dict.get row "verdict" = .text v.text
  score : rowScore host row = .ok (.float (floatRepr 0))

/-- The row of a worker that came to a verdict. -/
structure RowJudged (row : Dict) (verdict : PyStr) (score : Number) : Prop where
  completed : Dict.get row "status" = .text "completed"
  verdict : Dict.get row "verdict" = .str verdict
  score : Dict.lookup? row "score" = some (.num score)

theorem raisedRow_judged {exc : InteractorException} (h : ∀ text, exc ≠ .other text) :
    ∃ v ∈ contestantVerdicts, RowJudged (InteractorHost.raisedRow exc) (PyStr.ofString v.text)
      (.float (floatRepr 0)) := by
  cases exc with
  | timeout message => exact ⟨.tle, by decide, rfl, rfl, rfl⟩
  | overflow message => exact ⟨.ole, by decide, rfl, rfl, rfl⟩
  | protocol message => exact ⟨.re, by decide, rfl, rfl, rfl⟩
  | other text => exact absurd rfl (h text)

theorem answerRow_judged (verdict : PyStr) (score : Number) (message : Json)
    (transcript : List TranscriptEvent) :
    RowJudged (answerRow verdict score message transcript) verdict score :=
  ⟨rfl, rfl, rfl⟩

theorem rowScore_of_lookup {host : InteractiveHost} {row : Dict}
    (hscore : Dict.lookup? row "score" = some (.num score))
    (hfloat : host.floatOf (.num score) = .ok n) : rowScore host row = .ok n := by
  rw [rowScore, Dict.getD_eq, hscore]
  exact mapError_ok.2 hfloat

theorem Dict.lookup?_setdefault_text (d : Dict) (v : Json) {key key' : String} (hkey : key ≠ key') :
    (Dict.setdefault d key v).lookup? key' = d.lookup? key' := by
  rw [Dict.setdefault]
  split
  · rfl
  · next hnew =>
    have hset : d ++ [(PyStr.ofString key, v)] = Dict.set d key v := (if_neg hnew).symm
    rw [hset, Dict.lookup?_set_text d v hkey]

theorem finished_lookup {row : Dict} (hverdict : Dict.get row "verdict" ≠ .null)
    (id default time : Json) {key : String} (hid : "id" ≠ key) (htime : "time_ms" ≠ key) :
    Dict.lookup? (((Dict.setdefault row "id" id).setdefault "verdict" default).set "time_ms" time)
      key = Dict.lookup? row key := by
  have hsame : Dict.get (Dict.setdefault row "id" id) "verdict" ≠ .null := by
    rw [Dict.get_eq, Dict.lookup?_setdefault_text _ _ (by decide), ← Dict.get_eq]
    exact hverdict
  rw [Dict.lookup?_set_text _ _ htime, Dict.setdefault_present hsame,
    Dict.lookup?_setdefault_text _ _ hid]

section
variable {host : InteractiveHost} {config : ClassicConfig} {testId : PyStr} {run : WorkerRun}

theorem interactiveRow_tle
    (h : (runProcess (some config.outputLimitBytes) run.process).verdict = .tle) :
    ∃ row, interactiveRow host config testId run = .ok row ∧ RowZeroed host row := by
  have hverdict : Dict.get [(PyStr.ofString "id", .str testId), ("verdict", .text "TLE")]
      "verdict" ≠ .null := by
    intro hnull
    cases hnull
  refine ⟨_, bind_ok.2 ⟨_, if_pos h, rfl⟩, ⟨.tle, by decide, ?_⟩, ?_⟩
  · rw [Dict.get_eq, finished_lookup hverdict _ _ _ (by decide) (by decide)]
    rfl
  · rw [rowScore, Dict.getD_eq, finished_lookup hverdict _ _ _ (by decide) (by decide), rowAccepted,
      Dict.get_eq, finished_lookup hverdict _ _ _ (by decide) (by decide)]
    rfl

theorem interactiveRow_ok {row : Dict} (testId : PyStr)
    (h : (runProcess (some config.outputLimitBytes) run.process).verdict = .ok)
    (hprinted : run.printed = .ok (.obj row.sortKeys)) (hrow : RowJudged row verdict score)
    (hfloat : host.floatOf (.num score) = .ok n) :
    ∃ finished, interactiveRow host config testId run = .ok finished ∧
      Dict.get finished "verdict" = .str verdict ∧ rowScore host finished = .ok n := by
  have hstatus : Dict.get row.sortKeys "status" = .text "completed" := by
    rw [Dict.get_sortKeys, hrow.completed]
    rfl
  have hverdict : Dict.get row.sortKeys "verdict" = .str verdict := by
    rw [Dict.get_sortKeys, hrow.verdict]
    rfl
  have hscore : Dict.lookup? row.sortKeys "score" = some (.num score) := by
    rw [Dict.lookup?_sortKeys, hrow.score]
    rfl
  have hread : readWorkerRow host (runProcess (some config.outputLimitBytes) run.process) testId
      run.printed = .ok row.sortKeys := by
    have hnot : Dict.get row.sortKeys "status" ≠ .text "failed" := by
      rw [hstatus]
      decide
    rw [readWorkerRow.eq_def, if_neg (h ▸ by decide), if_neg (not_not.2 h), hprinted]
    exact if_neg hnot
  have hjudged : Dict.get row.sortKeys "verdict" ≠ .null := by
    rw [hverdict]
    intro hnull
    cases hnull
  refine ⟨_, bind_ok.2 ⟨_, hread, rfl⟩, ?_, ?_⟩
  · rw [Dict.get_eq, finished_lookup hjudged _ _ _ (by decide) (by decide), ← Dict.get_eq]
    exact hverdict
  · apply rowScore_of_lookup _ hfloat
    rw [finished_lookup hjudged _ _ _ (by decide) (by decide)]
    exact hscore

theorem interactiveRow_failed {row finished : Dict}
    (h : (runProcess (some config.outputLimitBytes) run.process).verdict = .ok)
    (hprinted : run.printed = .ok (.obj row.sortKeys))
    (hrow : Dict.get row "status" = .text "failed") :
    interactiveRow host config testId run ≠ .ok finished := by
  have hstatus : Dict.get row.sortKeys "status" = .text "failed" := by
    rw [Dict.get_sortKeys, hrow]
    rfl
  intro hok
  obtain ⟨read, hread, -⟩ := bind_ok.1 hok
  rw [readWorkerRow.eq_def, if_neg (h ▸ by decide), if_neg (not_not.2 h), hprinted] at hread
  simp only [if_pos hstatus] at hread
  cases hread

theorem interactiveRow_cut {finished : Dict}
    (h : (runProcess (some config.outputLimitBytes) run.process).verdict ∈ [Verdict.ole, .re]) :
    interactiveRow host config testId run ≠ .ok finished := by
  have hverdicts : ∀ v ∈ [Verdict.ole, .re], v ≠ .tle ∧ v ≠ .ok := by decide
  obtain ⟨hnot, hbad⟩ := hverdicts _ h
  intro hok
  obtain ⟨read, hread, -⟩ := bind_ok.1 hok
  rw [readWorkerRow.eq_def, if_neg hnot, if_pos hbad] at hread
  cases hread

end

/-- Everything about a test works but its submission, and the interactor lets through only what its
session raises. The source is copied under the limit on the size of the worker's files. -/
structure InteractiveTest.Working (config : ClassicConfig) (test : InteractiveTest) : Prop where
  staged : test.compiler.staged = .ok () ↔ test.sourceBytes ≤ config.outputLimitBytes
  available : test.compiler.available = true
  started : test.started = .ok ()
  raises : ∀ replies exc, test.interactor replies = .ends (.error exc) →
    .sent (.error exc) ∈ replies ∨ .received (.error exc) ∈ replies

/-- How a worker that has come to a row, or to none, ends under its limits: its time runs out, it
has printed its row, the row is cut off at the limit on the size of its file, or its memory runs
out, and it dies of that or says so. -/
inductive WorkerEnds (limit : Nat) : Bool → Option Dict → WorkerRun → Prop
  | expired (elapsedMs : ℚ) (stderr : PyStr) (returncode : Int) (printed : Except PyStr Json)
      (houtput : outputBytes ≤ limit) (hstderr : stderrBytes ≤ maxStderrBytes) :
      WorkerEnds limit fitsMemory row?
        ⟨.ended (some .time) elapsedMs outputBytes stderrBytes stderr returncode, printed⟩
  | done {row : Dict} (elapsedMs : ℚ) (stderr : PyStr)
      (hfits : (Json.obj row).asciiSize + 1 ≤ limit) (hstderr : stderrBytes ≤ maxStderrBytes) :
      WorkerEnds limit true (some row)
        ⟨.ended none elapsedMs ((Json.obj row).asciiSize + 1) stderrBytes stderr 0,
          .ok (.obj row.sortKeys)⟩
  | cut {row : Dict} (elapsedMs : ℚ) (stderr : PyStr) (printed : Except PyStr Json)
      (hlarge : limit < (Json.obj row).asciiSize + 1) (houtput : limit ≤ outputBytes)
      (hstop : stop ∈ [none, some ProcessStop.stdout]) (hstderr : stderrBytes ≤ maxStderrBytes)
      (hreturncode : returncode ≠ 0) :
      WorkerEnds limit true (some row)
        ⟨.ended stop elapsedMs outputBytes stderrBytes stderr returncode, printed⟩
  | exhausted (elapsedMs : ℚ) (stderr : PyStr) (printed : Except PyStr Json)
      (hstop : stop ∈ [none, some ProcessStop.stdout]) (hstderr : stderrBytes ≤ maxStderrBytes)
      (hreturncode : returncode ≠ 0) :
      WorkerEnds limit false row?
        ⟨.ended stop elapsedMs outputBytes stderrBytes stderr returncode, printed⟩
  | refused (elapsedMs : ℚ) (stderr text : PyStr) (houtput : outputBytes ≤ limit)
      (hstderr : stderrBytes ≤ maxStderrBytes) :
      WorkerEnds limit false row?
        ⟨.ended none elapsedMs outputBytes stderrBytes stderr 0,
          .ok (.obj (Dict.sortKeys (InteractorHost.raisedRow (.other text))))⟩

/-- The time of the worker ran out. -/
def WorkerRun.Expired (run : WorkerRun) : Prop :=
  ∃ elapsedMs outputBytes stderrBytes stderr returncode,
    run.process = .ended (some .time) elapsedMs outputBytes stderrBytes stderr returncode

section
variable (host : InteractiveHost) (config : ClassicConfig) (test : InteractiveTest)

/-- What the interactor ends with. -/
def InteractiveTest.ending : Option (Except InteractorException Json) :=
  match test.interactor (test.dialogue host config).replies with
  | .call _ => none
  | .ends result => some result

/-- The compiler takes the source. -/
def InteractiveTest.Compiles : Prop :=
  config.language = "python" ∨ (runProcess none test.compiler.process).verdict = .ok

def InteractiveTest.compileStderr : PyStr :=
  if config.language = "python" then [] else (runProcess none test.compiler.process).stderr

/-- The worker gets by with its memory, the submission has a source that can be copied and
compiles, no text of the interactor fails to be sent, and what is said in the dialogue fits into the
report. -/
structure InteractiveTest.Reported : Prop where
  memory : test.fitsMemory = true
  found : test.source = .ok ()
  small : test.sourceBytes ≤ config.outputLimitBytes
  compiles : test.Compiles config
  encodable : ∀ value, test.ending host config ≠ some (.error (encodeError value))
  fits : ∀ result, test.ending host config = some result →
    reportBytes host.toInteractorHost test.exitCode test.stderr (test.compileStderr config) result
      (test.dialogue host config).session.transcript ≤ config.outputLimitBytes

/-- The contestant failed at the test: in time, at the compiler, by what the session raised, or by
an exit code. -/
def InteractiveTest.Misbehaved (run : WorkerRun) : Prop :=
  run.Expired ∨ ¬test.Compiles config ∨ (∃ exc, test.ending host config = some (.error exc)) ∨
    ∃ answer score message, test.ending host config = some (.ok answer) ∧
      host.resultFromInteractor answer = .ok (PyStr.ofString "AC", score, message) ∧
      test.exitCode ≠ 0

end

section
variable {host : InteractiveHost} {config : ClassicConfig} {test : InteractiveTest}

theorem compileSource_ok (h : test.Working config) (text : PyStr) :
    compileSource config.language test.compiler = .ok text ↔
      test.sourceBytes ≤ config.outputLimitBytes ∧ test.Compiles config ∧
        test.compileStderr config = text := by
  have hstaged : test.compiler.staged.mapError CompileException.raised = .ok () ↔
      test.sourceBytes ≤ config.outputLimitBytes := mapError_ok.trans h.staged
  unfold compileSource
  by_cases hpython : config.language = "python"
  · simp only [if_pos hpython]
    constructor
    · intro hok
      obtain ⟨⟨⟩, hcopied, hok⟩ := bind_ok.1 hok
      exact ⟨hstaged.1 hcopied, .inl hpython, (if_pos hpython).trans (pure_ok.1 hok)⟩
    · intro ⟨hsmall, _, htext⟩
      exact bind_ok.2 ⟨_, hstaged.2 hsmall, pure_ok.2 ((if_pos hpython).symm.trans htext)⟩
  · simp only [if_neg hpython]
    constructor
    · intro hok
      obtain ⟨⟨⟩, hcopied, hok⟩ := bind_ok.1 hok
      obtain ⟨-, hok⟩ := guard_ok.1 hok
      obtain ⟨-, hok⟩ := guard_ok.1 hok
      obtain ⟨hverdict, hok⟩ := guard_ok.1 hok
      exact ⟨hstaged.1 hcopied, .inr (not_not.1 hverdict),
        (if_neg hpython).trans (pure_ok.1 hok)⟩
    · intro ⟨hsmall, hcompiles, htext⟩
      have hverdict := hcompiles.resolve_left hpython
      have havailable : ¬(!test.compiler.available) = true := by
        rw [h.available]
        decide
      have hstarted : (runProcess none test.compiler.process).verdict ≠ .judgeError := by
        rw [hverdict]
        decide
      exact bind_ok.2 ⟨_, hstaged.2 hsmall, guard_ok.2 ⟨havailable, guard_ok.2 ⟨hstarted, guard_ok.2
        ⟨not_not.2 hverdict, pure_ok.2 ((if_neg hpython).symm.trans htext)⟩⟩⟩⟩

/-- The worker comes to the dialogue exactly with a source that can be copied and compiles. -/
theorem prepare_ok (host : InteractiveHost) (h : test.Working config) (text : PyStr) :
    test.prepare host config (.ok ()) = .ok text ↔
      test.source = .ok () ∧ test.sourceBytes ≤ config.outputLimitBytes ∧ test.Compiles config ∧
        test.compileStderr config = text := by
  rw [InteractiveTest.prepare]
  constructor
  · intro hok
    obtain ⟨-, -, hok⟩ := bind_ok.1 hok
    obtain ⟨⟨⟩, hsource, hok⟩ := bind_ok.1 hok
    obtain ⟨compileStderr, hcompiled, hok⟩ := bind_ok.1 hok
    obtain ⟨-, -, hok⟩ := bind_ok.1 hok
    cases pure_ok.1 hok
    exact ⟨mapError_ok.1 hsource, (compileSource_ok h _).1 (mapError_ok.1 hcompiled)⟩
  · intro ⟨hsource, hcompiled⟩
    exact bind_ok.2 ⟨(), rfl, bind_ok.2 ⟨(), mapError_ok.2 hsource, bind_ok.2 ⟨text,
      mapError_ok.2 ((compileSource_ok h text).2 hcompiled), bind_ok.2 ⟨(), h.started, rfl⟩⟩⟩⟩

/-- An interactor that ends by an exception ends by a failure of the candidate, or by a text that
cannot be sent. -/
theorem ending_contained (h : test.Working config)
    (hending : test.ending host config = some (.error exc)) :
    (∃ value, exc = encodeError value) ∨ ∀ text, exc ≠ .other text := by
  have hends : test.interactor (test.dialogue host config).replies = .ends (.error exc) := by
    rw [InteractiveTest.ending] at hending
    split at hending
    · cases hending
    · next result hresult =>
      rw [hresult, Option.some.inj hending]
  have hreplies : ∀ reply ∈ (test.dialogue host config).replies, reply.Contained :=
    run_contained host.toInteractorHost test.stdinOpen test.interactor test.calls
      fun reply hreply => absurd hreply List.not_mem_nil
  cases exc with
  | other text =>
    rcases h.raises _ _ hends with hsent | hreceived
    · exact .inl (hreplies _ hsent)
    · exact (hreplies _ hreceived).elim
  | timeout message | overflow message | protocol message =>
    right
    intro text he
    cases he

theorem workerRow_dialogue (h : test.Working config) (hsource : test.source = .ok ())
    (hsmall : test.sourceBytes ≤ config.outputLimitBytes) (hcompiles : test.Compiles config) :
    test.workerRow host config (.ok ()) = (test.ending host config).map fun result =>
      host.dialogueRow test.exitCode test.stderr (test.compileStderr config) result
        (test.dialogue host config).session.transcript := by
  have hprepare := (prepare_ok host h _).2 ⟨hsource, hsmall, hcompiles, rfl⟩
  rw [InteractiveTest.workerRow, hprepare, InteractiveTest.ending]
  simp only [Dialogue.row]
  cases test.interactor (test.dialogue host config).replies with
  | call c => rfl
  | ends result => rfl

theorem workerRow_failed (host : InteractiveHost) (h : test.Working config)
    (hnot : ¬(test.source = .ok () ∧ test.sourceBytes ≤ config.outputLimitBytes ∧
      test.Compiles config)) :
    ∃ text, test.workerRow host config (.ok ()) =
      some (InteractorHost.raisedRow (.other text)) := by
  cases hprepare : test.prepare host config (.ok ()) with
  | error text =>
    rw [InteractiveTest.workerRow, hprepare]
    exact ⟨text, rfl⟩
  | ok text =>
    obtain ⟨hsource, hsmall, hcompiles, -⟩ := (prepare_ok host h text).1 hprepare
    exact absurd ⟨hsource, hsmall, hcompiles⟩ hnot

theorem runProcess_verdict {limit outputBytes stderrBytes : Nat} {stop : Option ProcessStop}
    (elapsedMs : ℚ) (stderr : PyStr) (returncode : Int) (hstop : stop ≠ some .stderr)
    (hstderr : stderrBytes ≤ maxStderrBytes) :
    (runProcess (some limit)
      (.ended stop elapsedMs outputBytes stderrBytes stderr returncode)).verdict =
      if stop = some .stdout ∨ limit < outputBytes then .ole
      else if stop = some .time then .tle
      else if returncode ≠ 0 ∧ limit ≤ outputBytes then .ole
      else if returncode ≠ 0 then .re
      else .ok := by
  have hquiet : ¬(stop = some .stderr ∨ stderrBytes > maxStderrBytes) :=
    not_or.2 ⟨hstop, Nat.not_lt.2 hstderr⟩
  simp only [runProcess, if_neg hquiet, Option.any_some, decide_eq_true_eq]
  split_ifs
  · rfl
  · rfl
  · rfl
  · rfl
  · rfl

theorem runProcess_done {limit outputBytes stderrBytes : Nat} (elapsedMs : ℚ) (stderr : PyStr)
    (houtput : outputBytes ≤ limit) (hstderr : stderrBytes ≤ maxStderrBytes) :
    (runProcess (some limit)
      (.ended none elapsedMs outputBytes stderrBytes stderr 0)).verdict = .ok := by
  rw [runProcess_verdict _ _ _ (by decide) hstderr, if_neg, if_neg (by decide), if_neg,
    if_neg (not_not.2 rfl)]
  · exact fun h => h.1 rfl
  · exact not_or.2 ⟨by decide, Nat.not_lt.2 houtput⟩

theorem runProcess_stopped {limit outputBytes stderrBytes : Nat} {stop : Option ProcessStop}
    (elapsedMs : ℚ) (stderr : PyStr) (returncode : Int)
    (hstop : stop ∈ [none, some ProcessStop.stdout]) (hstderr : stderrBytes ≤ maxStderrBytes)
    (hreturncode : returncode ≠ 0) :
    (runProcess (some limit)
      (.ended stop elapsedMs outputBytes stderrBytes stderr returncode)).verdict ∈
        [Verdict.ole, .re] := by
  have hloud : stop ≠ some .stderr := by
    rintro rfl
    exact absurd hstop (by decide)
  have hearly : stop ≠ some .time := by
    rintro rfl
    exact absurd hstop (by decide)
  rw [runProcess_verdict _ _ _ hloud hstderr, if_neg hearly, if_pos hreturncode]
  split_ifs
  · decide
  · decide
  · decide

theorem WorkerEnds.outcome {limit : Nat} {run : WorkerRun}
    (h : WorkerEnds limit fitsMemory row? run) :
    (run.Expired ∧ (runProcess (some limit) run.process).verdict = .tle) ∨
    (¬run.Expired ∧ fitsMemory = true ∧ ∃ row, row? = some row ∧
      (Json.obj row).asciiSize + 1 ≤ limit ∧ run.printed = .ok (.obj row.sortKeys) ∧
      (runProcess (some limit) run.process).verdict = .ok) ∨
    (¬run.Expired ∧ (fitsMemory = true → ∃ row, row? = some row ∧
        limit < (Json.obj row).asciiSize + 1) ∧
      ((runProcess (some limit) run.process).verdict ∈ [Verdict.ole, .re] ∨
        (runProcess (some limit) run.process).verdict = .ok ∧
          ∃ text, run.printed = .ok (.obj (InteractorHost.raisedRow (.other text)).sortKeys))) := by
  cases h with
  | expired elapsedMs stderr returncode printed houtput hstderr =>
    left
    refine ⟨⟨_, _, _, _, _, rfl⟩, ?_⟩
    rw [runProcess_verdict _ _ _ (by decide) hstderr, if_neg, if_pos rfl]
    exact not_or.2 ⟨by decide, Nat.not_lt.2 houtput⟩
  | done elapsedMs stderr hfits hstderr =>
    right
    left
    refine ⟨?_, rfl, _, rfl, hfits, rfl, ?_⟩
    · intro ⟨_, _, _, _, _, hprocess⟩
      cases hprocess
    · exact runProcess_done _ _ hfits hstderr
  | cut elapsedMs stderr printed hlarge houtput hstop hstderr hreturncode =>
    right
    right
    refine ⟨?_, fun _ => ⟨_, rfl, hlarge⟩,
      .inl (runProcess_stopped _ _ _ hstop hstderr hreturncode)⟩
    intro ⟨_, _, _, _, _, hprocess⟩
    cases hprocess
    exact absurd hstop (by decide)
  | exhausted elapsedMs stderr printed hstop hstderr hreturncode =>
    right
    right
    refine ⟨?_, nofun, .inl (runProcess_stopped _ _ _ hstop hstderr hreturncode)⟩
    intro ⟨_, _, _, _, _, hprocess⟩
    cases hprocess
    exact absurd hstop (by decide)
  | refused elapsedMs stderr text houtput hstderr =>
    right
    right
    refine ⟨?_, nofun, .inr ⟨runProcess_done _ _ houtput hstderr, text, rfl⟩⟩
    intro ⟨_, _, _, _, _, hprocess⟩
    cases hprocess

theorem dialogueRow_judged (h : test.Working config)
    (hending : test.ending host config = some result)
    (hencodable : ∀ value, test.ending host config ≠ some (.error (encodeError value)))
    (compileStderr : PyStr) (transcript : List TranscriptEvent) :
    ∃ verdict score n,
      RowJudged (host.dialogueRow test.exitCode test.stderr compileStderr result transcript)
        verdict score ∧ host.floatOf (.num score) = .ok n ∧
      ((∃ exc, result = .error exc) ∨ (∃ answer score message, result = .ok answer ∧
        host.resultFromInteractor answer = .ok (PyStr.ofString "AC", score, message) ∧
        test.exitCode ≠ 0) →
        n = .float (floatRepr 0) ∧ ∃ v ∈ contestantVerdicts, verdict = PyStr.ofString v.text) := by
  obtain ⟨exc, hresult, hrow⟩ | ⟨verdict, score, message, hresult, hexit, haccepted, hrow⟩ |
    ⟨verdict, score, message, hresult, hcrashed, hrow⟩ :=
    dialogueRow_cases host.toInteractorHost test.exitCode test.stderr compileStderr result
      transcript
  · have hother : ∀ text, exc ≠ .other text := by
      cases result with
      | error raised =>
        cases hresult
        rcases ending_contained h hending with ⟨value, rfl⟩ | hother
        · exact absurd hending (hencodable value)
        · exact hother
      | ok answer =>
        intro text he
        rw [he] at hresult
        exact resultFromInteractor_contained _ _ _ hresult
    obtain ⟨v, hv, hjudged⟩ := raisedRow_judged hother
    rw [hrow]
    exact ⟨_, _, _, hjudged, rfl, fun _ => ⟨rfl, v, hv, rfl⟩⟩
  · rw [hrow]
    exact ⟨_, _, _, answerRow_judged _ _ _ _, rfl, fun _ => ⟨rfl, .re, by decide, rfl⟩⟩
  · rw [hrow]
    cases result with
    | error raised => cases hresult
    | ok answer =>
      obtain ⟨n, hn⟩ := resultFromInteractor_score hresult
      refine ⟨_, _, n, answerRow_judged _ _ _ _, hn, fun hfailed => ?_⟩
      rcases hfailed with ⟨exc, herror⟩ | ⟨answer', score', message', hanswer, haccepted, hexit⟩
      · cases herror
      · cases hanswer
        cases hresult.symm.trans haccepted
        exact absurd ⟨hexit, rfl⟩ hcrashed

/-- A test that is reported has a row, and one that scores what the contestant failed at. -/
theorem interactiveRow_reported (hworking : test.Working config)
    (hends : WorkerEnds config.outputLimitBytes test.fitsMemory
      (test.workerRow host config (.ok ())) run)
    (h : run.Expired ∨ test.Reported host config) :
    ∃ row, interactiveRow host config test.testId run = .ok row ∧
      (∃ n, rowScore host row = .ok n) ∧
      (test.Misbehaved host config run → RowZeroed host row) := by
  rcases hends.outcome with ⟨-, htle⟩ | ⟨halive, -, row, hrow, -, hprinted, hok⟩ |
    ⟨halive, hlarge, -⟩
  · obtain ⟨row, hrow, hzeroed⟩ := interactiveRow_tle htle
    exact ⟨row, hrow, ⟨_, hzeroed.score⟩, fun _ => hzeroed⟩
  · have hreported := h.resolve_left halive
    rw [workerRow_dialogue hworking hreported.found hreported.small hreported.compiles] at hrow
    obtain ⟨result, hending, rfl⟩ := Option.map_eq_some_iff.1 hrow
    obtain ⟨verdict, score, n, hjudged, hfloat, hfailed⟩ := dialogueRow_judged hworking hending
      hreported.encodable (test.compileStderr config) (test.dialogue host config).session.transcript
    obtain ⟨finished, hfinished, hverdict, hscore⟩ :=
      interactiveRow_ok test.testId hok hprinted hjudged hfloat
    refine ⟨finished, hfinished, ⟨n, hscore⟩, fun hmisbehaved => ?_⟩
    have hcause : (∃ exc, result = .error exc) ∨ (∃ answer score message, result = .ok answer ∧
        host.resultFromInteractor answer = .ok (PyStr.ofString "AC", score, message) ∧
        test.exitCode ≠ 0) := by
      rcases hmisbehaved with hexpired | hcompile | ⟨exc, herror⟩ | ⟨answer, s, m, hanswer, hrest⟩
      · exact absurd hexpired halive
      · exact absurd hreported.compiles hcompile
      · exact .inl ⟨exc, Option.some.inj (hending.symm.trans herror)⟩
      · exact .inr ⟨answer, s, m, Option.some.inj (hending.symm.trans hanswer), hrest⟩
    obtain ⟨rfl, v, hv, rfl⟩ := hfailed hcause
    exact ⟨⟨v, hv, hverdict⟩, hscore⟩
  · have hreported := h.resolve_left halive
    obtain ⟨row, hrow, hlarge⟩ := hlarge hreported.memory
    rw [workerRow_dialogue hworking hreported.found hreported.small hreported.compiles] at hrow
    obtain ⟨result, hending, rfl⟩ := Option.map_eq_some_iff.1 hrow
    rw [dialogueRow_bytes] at hlarge
    exact absurd (hreported.fits result hending) (Nat.not_le.2 hlarge)

theorem reported_of_row (hworking : test.Working config)
    (hends : WorkerEnds config.outputLimitBytes test.fitsMemory
      (test.workerRow host config (.ok ())) run)
    (h : interactiveRow host config test.testId run = .ok row) :
    run.Expired ∨ test.Reported host config := by
  rcases hends.outcome with ⟨hexpired, -⟩ |
    ⟨halive, hmemory, printed, hprinted, hfits, hfile, hok⟩ |
    ⟨-, -, hstopped | ⟨hok, text, hfile⟩⟩
  · exact .inl hexpired
  · right
    by_cases hstarts : test.source = .ok () ∧ test.sourceBytes ≤ config.outputLimitBytes ∧
        test.Compiles config
    · obtain ⟨hsource, hsmall, hcompiles⟩ := hstarts
      rw [workerRow_dialogue hworking hsource hsmall hcompiles] at hprinted
      obtain ⟨result, hending, rfl⟩ := Option.map_eq_some_iff.1 hprinted
      refine ⟨hmemory, hsource, hsmall, hcompiles, ?_, ?_⟩
      · intro value herror
        cases hending.symm.trans herror
        exact interactiveRow_failed hok hfile rfl h
      · intro result' hending'
        cases hending.symm.trans hending'
        rw [dialogueRow_bytes] at hfits
        exact hfits
    · obtain ⟨text, hfailed⟩ := workerRow_failed host hworking hstarts
      cases hprinted.symm.trans hfailed
      exact absurd h (interactiveRow_failed hok hfile rfl)
  · exact absurd h (interactiveRow_cut hstopped)
  · exact absurd h (interactiveRow_failed hok hfile rfl)

end

/-- A test and the worker that ran it. -/
abbrev Evaluated := InteractiveTest × WorkerRun

section
variable (host : InteractiveHost) (config : ClassicConfig) (evaluated : List Evaluated)

/-- The evaluation of a task whose manifest and interactor load. -/
def evaluateInteractive : Dict :=
  runInteractive host (.ok config) (evaluated.map fun e => (e.1.testId, e.2))

/-- The evaluation is completed, with score 0 and a verdict on the contestant for each test that
the contestant failed at. -/
def Absorbed : Prop :=
  Dict.get (evaluateInteractive host config evaluated) "status" = .text "completed" ∧
    ∃ metrics rows, Dict.get (evaluateInteractive host config evaluated) "metrics" = .obj metrics ∧
      Dict.get metrics "tests" = .arr (rows.map Json.obj) ∧
      List.Forall₂ (fun e row => e.1.Misbehaved host config e.2 → RowZeroed host row) evaluated rows

end

theorem judgeInteractive_ok {host : InteractiveHost} {config : ClassicConfig}
    {evaluated : List Evaluated} (hkind : config.kind = "interactive") (hne : evaluated ≠ [])
    (result : Dict) :
    judgeInteractive host (.ok config) (evaluated.map fun e => (e.1.testId, e.2)) = .ok result ↔
      ∃ rows scores,
        evaluated.mapM (fun e => interactiveRow host config e.1.testId e.2) = .ok rows ∧
        rows.mapM (rowScore host) = .ok scores ∧
        result = ([("status", .text "completed"), ("score", .num (meanNumber scores)),
          ("metrics", .obj (interactiveMetrics config rows))] : Dict) := by
  have htests : ¬(evaluated.map fun e => (e.1.testId, e.2)).isEmpty = true := by
    rw [List.isEmpty_iff, List.map_eq_nil_iff]
    exact hne
  rw [judgeInteractive]
  constructor
  · intro h
    obtain ⟨_, hconfig, h⟩ := bind_ok.1 h
    cases hconfig
    obtain ⟨-, h⟩ := guard_ok.1 h
    obtain ⟨-, h⟩ := guard_ok.1 h
    obtain ⟨rows, hrows, h⟩ := bind_ok.1 h
    obtain ⟨scores, hscores, h⟩ := bind_ok.1 h
    rw [List.mapM_map] at hrows
    exact ⟨rows, scores, hrows, hscores, (pure_ok.1 h).symm⟩
  · intro ⟨rows, scores, hrows, hscores, hresult⟩
    exact bind_ok.2 ⟨config, rfl, guard_ok.2 ⟨not_not.2 hkind, guard_ok.2 ⟨htests, bind_ok.2
      ⟨rows, List.mapM_map.trans hrows, bind_ok.2 ⟨scores, hscores, pure_ok.2 hresult.symm⟩⟩⟩⟩⟩

namespace Sample

def interactiveHost : InteractiveHost := { interactorHost with repr := id }

def interactiveConfig : ClassicConfig where
  kind := "interactive"
  language := "c"
  entrypoint := none
  interactor := "interactor.py"
  timeLimitMs := 1000
  memoryLimitMb := 64
  outputLimitBytes := 1000
  answerSource := "answer_key"
  scoringMode := .percentage
  referenceLanguage := "python"
  referenceEntrypoint := none

/-- A test of an interactor that wants one line, for a compiler that ends so. -/
def lineTest (returncode : Int) (events : List PipeEvent) : InteractiveTest where
  testId := "1"
  fitsMemory := true
  source := .ok ()
  sourceBytes := 300
  compiler := ⟨.ok (), "gcc", true, .ended none 5 0 0 [] returncode⟩
  started := .ok ()
  interactor := oneLine
  calls := 1
  events := events
  stdinOpen _ := true
  exitCode := 0
  stderr := []

example : ((lineTest 0 []).workerRow interactiveHost interactiveConfig (.ok ())).isSome := by
  decide +kernel

theorem lineTest_working (returncode : Int) (events : List PipeEvent) :
    (lineTest returncode events).Working interactiveConfig := by
  refine ⟨iff_of_true rfl (by decide : 300 ≤ 1000), rfl, rfl, fun replies exc hends => ?_⟩
  rcases replies with - | ⟨reply, replies⟩
  · cases hends
  · cases reply with
    | sent result => cases hends
    | received result =>
      cases result with
      | ok line => cases hends
      | error raised =>
        cases hends
        exact .inr List.mem_cons_self

/-- The worker of a test that prints its row. -/
def printing (test : InteractiveTest) : WorkerRun :=
  let row := ((test.workerRow interactiveHost interactiveConfig (.ok ())).getD [])
  ⟨.ended none 50 ((Json.obj row).asciiSize + 1) 0 [] 0, .ok (.obj row.sortKeys)⟩

theorem printing_ends {test : InteractiveTest} {row : Dict}
    (h : test.workerRow interactiveHost interactiveConfig (.ok ()) = some row)
    (hfits : (Json.obj row).asciiSize + 1 ≤ 1000) :
    WorkerEnds 1000 true (test.workerRow interactiveHost interactiveConfig (.ok ()))
      (printing test) := by
  rw [printing, h]
  exact .done 50 [] hfits (by decide)

/-- A line of control characters, six bytes each in the report. -/
def controls : PipeChunk :=
  ⟨List.replicate 200 1 ++ [newline], by decide +kernel, by decide +kernel⟩

/-- The worker of a test whose row is cut off. -/
def cutOff : WorkerRun := ⟨.ended none 50 1000 0 [] 1, .error "JSONDecodeError"⟩

theorem cutOff_ends {row? : Option Dict} (h : row?.isSome = true)
    (hlarge : 1000 < (Json.obj (row?.getD [])).asciiSize + 1) :
    WorkerEnds 1000 true row? cutOff := by
  obtain ⟨row, rfl⟩ := Option.isSome_iff_exists.1 h
  exact .cut 50 [] _ hlarge (Nat.le_refl 1000) (by decide) (by decide) (by decide)

end Sample

end BrunostJudge
