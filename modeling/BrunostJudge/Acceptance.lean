import BrunostJudge.ConformanceSpec
import BrunostJudge.Publication
import BrunostJudge.PyCollections
import BrunostJudge.Registrations
import BrunostJudge.Fencing
import BrunostJudge.Worker

namespace BrunostJudge
open Python Relational Transition JudgeStore
set_option autoImplicit true

/-- What a sandbox says about a file it packed. -/
def ArtifactPayload.labels (payload : ArtifactPayload) : List Json :=
  [payload.mediaType, payload.kind]

section
variable {host : WorkerHost} {sha256 : ByteArray → String}

theorem collectArtifacts_names {declarations : List (PyStr × Json)}
    (h : host.collectArtifacts total declarations = .ok payloads) :
    payloads.map Prod.fst = declarations.map Prod.fst := by
  induction declarations generalizing total payloads with
  | nil =>
    cases h
    rfl
  | cons d declarations ih =>
    obtain ⟨⟨payload, total'⟩, _, h⟩ := bind_ok.1 h
    obtain ⟨rest, hrest, h⟩ := bind_ok.1 h
    cases pure_ok.1 h
    rw [List.map_cons, List.map_cons, ih hrest]

theorem put_id (hsha : ∀ b, isArtifactId (.text (sha256 b)))
    (h : host.put sha256 data = .ok stored) : isArtifactId (stored.get "artifact_id") := by
  rw [WorkerHost.put] at h
  obtain ⟨_, h⟩ := guard_ok.1 h
  obtain ⟨_, _, h⟩ := bind_ok.1 h
  cases pure_ok.1 h
  exact hsha data

theorem persistArtifact_ok (hsha : ∀ b, isArtifactId (.text (sha256 b)))
    (h : host.persistArtifact sha256 artifact = .ok stored) :
    stored.1 = artifact.1 ∧ ∃ d : Dict, stored.2 = .obj d ∧ isArtifactId (d.get "artifact_id") := by
  obtain ⟨reference, hput, h⟩ := bind_ok.1 h
  cases pure_ok.1 h
  refine ⟨rfl, _, rfl, ?_⟩
  rw [Dict.get_set_text _ _ (by decide), Dict.get_setSome_text _ _ (by decide),
    Dict.get_setSome_text _ _ (by decide), Dict.get_set_text _ _ (by decide)]
  exact put_id hsha hput

/-- Whether a property holds of all that a reference says depends on what the sandbox said. -/
theorem persistArtifact_forall {P : Json → Prop} (hstr : ∀ s, P (.str s)) (hnull : P .null)
    (h : host.persistArtifact sha256 artifact = .ok stored) :
    ∃ fields, stored.2 = .obj fields ∧ ((∀ f ∈ fields, P f.2) ↔
      P (.num (.int artifact.2.data.size)) ∧ ∀ label ∈ artifact.2.labels, P label) := by
  obtain ⟨reference, hput, h⟩ := bind_ok.1 h
  cases pure_ok.1 h
  rw [WorkerHost.put] at hput
  obtain ⟨_, hput⟩ := guard_ok.1 hput
  obtain ⟨_, _, hput⟩ := bind_ok.1 hput
  cases pure_ok.1 hput
  obtain ⟨name, data, mediaType, kind, filename⟩ := artifact
  refine ⟨_, rfl, ?_⟩
  by_cases hmedia : mediaType = .null <;> by_cases hkind : kind = .null <;>
    simp [Dict.set, Dict.setSome, Dict.contains, ArtifactPayload.labels, hmedia, hkind, hnull,
      Json.text, hstr, PyStr.ofString_inj]

/-- What a sandbox returns to its worker: the files it declares are collected, or nothing was
packed. -/
def WorkerHost.Returns (host : WorkerHost) (raw : RawResult) : Prop :=
  raw.payloads = none ∨ host.collectResultArtifacts raw.fields = .ok raw

theorem persistResultArtifacts_forall {P : Json → Prop} (hstr : ∀ s, P (.str s)) (hnull : P .null)
    (h : host.persistResultArtifacts sha256 raw = .ok artifacts) :
    (∀ a ∈ artifacts, ∃ fields, a.2 = .obj fields ∧ ∀ f ∈ fields, P f.2) ↔
      ∀ artifact ∈ raw.payloads.getD [],
        P (.num (.int artifact.2.data.size)) ∧ ∀ label ∈ artifact.2.labels, P label := by
  unfold WorkerHost.persistResultArtifacts at h
  split at h
  · next payloads hpayloads =>
    rw [hpayloads, Option.getD_some]
    clear hpayloads
    have hstored := mapM_forall₂ h
    clear h
    induction hstored with
    | nil => simp
    | cons hstored _ ih =>
      obtain ⟨fields, hfields, hiff⟩ := persistArtifact_forall hstr hnull hstored
      rw [List.forall_mem_cons, List.forall_mem_cons]
      refine and_congr ?_ ih
      rw [← hiff]
      constructor
      · rintro ⟨fields', hfields', hall⟩
        cases hfields.symm.trans hfields'
        exact hall
      · exact fun hall => ⟨fields, hfields, hall⟩
  · next hpayloads =>
    rw [hpayloads]
    split at h
    · cases h
    · cases pure_ok.1 h
      simp

theorem collectResultArtifacts_some (h : host.collectResultArtifacts fields = .ok raw)
    (hpayloads : raw.payloads = some payloads) :
    ∃ declarations, fields.get "artifacts" = .obj declarations ∧
      payloads.map Prod.fst = declarations.map Prod.fst := by
  unfold WorkerHost.collectResultArtifacts at h
  split at h
  · cases h
    cases hpayloads
  · next declarations _ hor =>
    split at h
    · next payloads' hcollect =>
      cases h
      cases hpayloads
      refine ⟨declarations, ?_, collectArtifacts_names hcollect⟩
      unfold Json.or at hor
      split at hor
      · exact hor
      · next hempty =>
        cases hor
        contradiction
    · cases h
      cases hpayloads
    · cases h
  · cases h
    cases hpayloads

theorem getD_of_get {d : Dict} (h : d.get key = value) (hne : value ≠ .null) (default : Json) :
    d.getD key default = value := by
  unfold Dict.get Dict.getD at *
  cases hfind : (d.find? fun f => f.1 = key).map Prod.snd with
  | none =>
    rw [hfind] at h
    exact absurd h.symm hne
  | some v =>
    rw [hfind] at h
    exact h

theorem persistResultArtifacts_valid (hsha : ∀ b, isArtifactId (.text (sha256 b)))
    (hraw : host.Returns raw)
    (hpaths : validateArtifactPaths (raw.fields.getD "artifacts" (.obj [])) label = [])
    (h : host.persistResultArtifacts sha256 raw = .ok artifacts) :
    validateArtifactReferences (.obj artifacts) pre = [] := by
  unfold WorkerHost.persistResultArtifacts at h
  split at h
  · next payloads hpayloads =>
    have hpacked : raw.payloads ≠ none := by simp [hpayloads]
    have hcollect := hraw.resolve_left hpacked
    obtain ⟨declarations, hget, hnames⟩ := collectResultArtifacts_some hcollect hpayloads
    have hobj : Json.obj declarations ≠ .null := by simp
    rw [getD_of_get hget hobj] at hpaths
    obtain ⟨hlength, hvalid⟩ := validateArtifactPaths_nil hpaths
    have hsame : artifacts.map Prod.fst = declarations.map Prod.fst := by
      rw [← hnames]
      exact mapM_map (fun a b hab => (persistArtifact_ok hsha hab).1) h
    apply validateArtifactReferences_nil
    · have hlengths := congrArg List.length hsame
      simp only [List.length_map] at hlengths
      omega
    · intro f hf
      have hmem : f.1 ∈ declarations.map Prod.fst := hsame ▸ List.mem_map_of_mem hf
      obtain ⟨g, hg, hgf⟩ := List.mem_map.1 hmem
      rw [← hgf]
      exact hvalid g hg
    · intro f hf
      obtain ⟨a, _, ha⟩ := (mapM_ok h).2 f hf
      exact (persistArtifact_ok hsha ha).2
  · split at h
    · cases h
    · cases h
      rfl

end

theorem bindReal_ok (hscore : value = .null ∨ ∃ n, value = .num n ∧ isFiniteNumber n) :
    (∃ score, bindReal value = .ok score) ↔
      ∀ i, value = .num (.int i) → -2 ^ 63 ≤ i ∧ i < 2 ^ 63 := by
  obtain hnull | ⟨n, hn, _⟩ := hscore
  · subst hnull
    simp [bindReal]
  · subst hn
    cases n with
    | int i =>
      have hbind : (∃ score, bindReal (.num (.int i)) = .ok score) ↔ -2 ^ 63 ≤ i ∧ i < 2 ^ 63 := by
        simp only [bindReal, map_ok, bindInt]
        constructor
        · rintro ⟨_, _, hi, _⟩
          split at hi
          · assumption
          · cases hi
        · intro hi
          exact ⟨_, i, if_pos hi, rfl⟩
      rw [hbind]
      constructor
      · intro hi j hj
        cases hj
        exact hi
      · intro hi
        exact hi i rfl
    | _ => simp [bindReal]

theorem bindText_ok : (∃ text, bindText value = .ok text) ↔
    value = .null ∨ ∃ s, value = .str s ∧ s.encode? ≠ none := by
  cases value with
  | null => simp [bindText]
  | str s =>
    simp only [bindText, map_ok, bindStr_ok, Json.str.injEq, reduceCtorEq, false_or]
    constructor
    · rintro ⟨_, stored, rfl, _⟩
      exact ⟨_, rfl, by rw [PyStr.encode?_ofString]; exact Option.some_ne_none _⟩
    · rintro ⟨_, rfl, hs⟩
      obtain ⟨stored, hstored⟩ := Option.ne_none_iff_exists'.1 hs
      exact ⟨_, stored, (PyStr.ofString_of_encode? hstored).symm, rfl⟩
  | _ => simp [bindText]

theorem bindResult_ok_iff : (∃ columns, bindResult encoder res = .ok columns) ↔
    (res.metrics.writable encoder ∧ res.scores.writable encoder ∧ res.artifacts.writable encoder) ∧
      (∃ score, bindReal res.score = .ok score) ∧ (∃ winner, bindText res.winner = .ok winner) ∧
      ∃ reason, bindText res.failureReason = .ok reason := by
  constructor
  · rintro ⟨columns, h⟩
    obtain ⟨metrics, hmetrics, h⟩ := bind_ok.1 h
    obtain ⟨scores, hscores, h⟩ := bind_ok.1 h
    obtain ⟨artifacts, hartifacts, h⟩ := bind_ok.1 h
    obtain ⟨score, hscore, h⟩ := bind_ok.1 h
    obtain ⟨winner, hwinner, h⟩ := bind_ok.1 h
    obtain ⟨reason, hreason, _⟩ := bind_ok.1 h
    exact ⟨⟨(writeJson_ok.1 hmetrics).1, (writeJson_ok.1 hscores).1, (writeJson_ok.1 hartifacts).1⟩,
      ⟨score, hscore⟩, ⟨winner, hwinner⟩, reason, hreason⟩
  · rintro ⟨⟨hmetrics, hscores, hartifacts⟩, ⟨score, hscore⟩, ⟨winner, hwinner⟩, reason, hreason⟩
    refine ⟨⟨score, res.metrics, res.scores, winner, res.artifacts, reason⟩, ?_⟩
    apply bind_ok.2 ⟨_, writeJson_ok.2 ⟨hmetrics, rfl⟩, ?_⟩
    apply bind_ok.2 ⟨_, writeJson_ok.2 ⟨hscores, rfl⟩, ?_⟩
    apply bind_ok.2 ⟨_, writeJson_ok.2 ⟨hartifacts, rfl⟩, ?_⟩
    exact bind_ok.2 ⟨score, hscore, bind_ok.2 ⟨winner, hwinner, bind_ok.2 ⟨reason, hreason, rfl⟩⟩⟩

/-- The result is taken, and the execution is over. -/
def Finishes (s : JudgeStore) (room : Room) (now : Instant) (E w : String)
    (res : ExecutionResult) : Prop :=
  ∃ reply s' r, s.finish room now E res w = .ok (some reply, s') ∧
    s'.executions.find? E = some r ∧ r.status.terminal

/-- The values nest no deeper than `as_dict` gets through. -/
def ExecutionResult.Shallow (copies : Nat) (res : ExecutionResult) : Prop :=
  ∀ f ∈ res.asDict, f.2.nesting 1 ≤ copies

theorem finishes_iff (res : ExecutionResult) (hr : s.executions.find? E = some r)
    (hheld : heldBy now E w r) (hid : res.executionId = E) (htask : res.taskRef = r.taskRef)
    (hstatus : Status.among (Status.all.filter Status.terminal) res.status = .ok (some status)) :
    Finishes s room now E w res ↔ strip w ≠ "" ∧ res.Shallow room.copies ∧
      validateResultPayload room.encoder res.asDict = .ok [] ∧
      ∃ columns, bindResult room.encoder res = .ok columns := by
  constructor
  · rintro ⟨reply, s', _, h, _, _⟩
    obtain ⟨hw, ⟨hnone, _⟩ | ⟨_, columns, r', _, _, hvalid, hcolumns, _⟩⟩ := finish_ok h
    · cases hnone
    · obtain ⟨_, _, hshallow, hpayload⟩ := validateFinishResult_ok hvalid
      exact ⟨hw, hshallow, hpayload, columns, hcolumns⟩
  · rintro ⟨hw, hshallow, hpayload, columns, hcolumns⟩
    have hvalid : validateFinishResult room E r.taskRef res = .ok () := by
      rw [validateFinishResult]
      apply guard_ok.2 ⟨not_not.2 hid, ?_⟩
      apply guard_ok.2 ⟨not_not.2 htask, ?_⟩
      exact bind_ok.2 ⟨_, copied_ok.2 ⟨hshallow, rfl⟩, bind_ok.2 ⟨[], hpayload, rfl⟩⟩
    refine ⟨_, _, _, finish_accepts hw hstatus hr hvalid hcolumns hheld,
      finishStore_row status columns hr hheld, ?_⟩
    obtain ⟨hterminal, _⟩ := among_terminal hstatus
    cases hcancel : r.cancelRequested with
    | false => simpa [finished, hcancel] using hterminal
    | true => simp [finished, hcancel, Status.terminal]

/-- What a result keeps of the execution it is for. -/
def ExecutionResult.carried (execution : ExecutionResult) : List Json :=
  [execution.metadata, execution.taskDigest, execution.evaluator, execution.runtimeImage,
    execution.seed, execution.eventId]

/-- The reference to a packed file can be copied and written. -/
structure ArtifactPayload.Storable (room : Room) (payload : ArtifactPayload) : Prop where
  size : payload.data.size < 10 ^ room.encoder.digits
  copied : ∀ label ∈ payload.labels, label.nesting 1 + 2 ≤ room.copies
  written : ∀ label ∈ payload.labels,
    label.nesting 0 + 2 ≤ room.encoder.levels ∧ label.allShort room.encoder.digits

/-- What the store asks of a sandbox result and of the execution it is for. -/
structure Storable (room : Room) (workerId : String) (execution : ExecutionResult)
    (raw : RawResult) : Prop where
  workerId : strip workerId ≠ ""
  executionId : execution.executionId ≠ ""
  taskRef : execution.taskRef ≠ ""
  carried : ∀ value ∈ execution.carried, value.nesting 1 ≤ room.copies
  copied : (raw.fields.getD "metrics" (.obj [])).nesting 1 ≤ room.copies
  written : (raw.fields.getD "metrics" (.obj [])).writable room.encoder = true
  artifacts : ∀ artifact ∈ raw.payloads.getD [], artifact.2.Storable room
  score : ∀ i, raw.fields.get "score" = .num (.int i) → -2 ^ 63 ≤ i ∧ i < 2 ^ 63
  winner : ∀ s, raw.fields.get "winner" = .str s → s.encode? ≠ none
  failureReason : raw.fields.get "failure_reason" = .null ∨
    ∃ s, raw.fields.get "failure_reason" = .str s ∧ s.encode? ≠ none

theorem or_obj_of_accepted {d : Dict} (h : ∃ fields, d.getD key (.obj []) = .obj fields) :
    (d.get key).or (.obj []) = d.getD key (.obj []) := by
  obtain ⟨fields, h⟩ := h
  unfold Dict.get Dict.getD at *
  cases hfind : (d.find? fun f => f.1 = key).map Prod.snd with
  | none => rfl
  | some v =>
    rw [hfind] at h
    cases (show v = .obj fields from h)
    cases fields with
    | nil => rfl
    | cons f fields => rfl

theorem scores_of_accepted {d : Dict} (h : validateScores (d.get key) label = []) :
    ∃ scores, (d.get key).or (.obj []) = .obj scores ∧ scores.length ≤ maxResultScores ∧
      ∀ f ∈ scores, ¬(f.1 = [] ∨ f.1.length > 200) ∧ ∃ n, f.2 = .num n ∧ isFiniteNumber n := by
  obtain hnull | ⟨scores, hobj, hvalid⟩ := validateScores_nil.1 h
  · rw [hnull]
    exact ⟨[], rfl, Nat.zero_le _, fun f hf => absurd hf List.not_mem_nil⟩
  · rw [hobj]
    cases scores with
    | nil => exact ⟨[], rfl, hvalid⟩
    | cons f scores => exact ⟨_, rfl, hvalid⟩

theorem short_of_finite (encoder : Encoder) (h : isFiniteNumber n) :
    n.isShort encoder.digits = true := by
  cases n with
  | int i =>
    rw [isFiniteNumber, decide_eq_true_eq] at h
    rw [Number.isShort, decide_eq_true_eq]
    have hpow : ∀ n, n = 8 * 128 → 2 ^ n = (2 ^ 8) ^ 128 := by
      rintro _ rfl
      exact pow_mul 2 8 128
    refine h.trans_le ((Nat.sub_le (2 ^ 1024) (2 ^ 970)).trans ?_)
    have hdigits : 5 * 128 ≤ encoder.digits := encoder.digits_ge
    have hten : (10 ^ 5) ^ 128 ≤ 10 ^ encoder.digits := by
      obtain ⟨more, hmore⟩ := Nat.exists_eq_add_of_le hdigits
      rw [hmore, pow_add, pow_mul]
      exact Nat.le_mul_of_pos_right _ (Nat.pow_pos (by decide))
    rw [hpow 1024 rfl]
    exact (Nat.pow_le_pow_left (by decide : 2 ^ 8 ≤ 10 ^ 5) 128).trans hten
  | _ => rfl

theorem isNonEmptyStr_text (s : String) : isNonEmptyStr (.text s) ↔ s ≠ "" := by
  have hnil : PyStr.ofString s = [] ↔ s = "" := by
    rw [← PyStr.ofString_inj]
    rfl
  simp [isNonEmptyStr, Json.text, hnil]

theorem validateResultPayload_asDict (res : ExecutionResult) :
    validateResultPayload encoder res.asDict = .ok [] ↔
      (res.executionId ≠ "" ∧ res.taskRef ≠ "") ∧
      (∃ status, Status.among Status.all res.status = .ok (some status)) ∧
      validateScore res.score "score" = [] ∧
      validateMetrics encoder res.metrics "metrics" = .ok [] ∧
      validateScores res.scores "scores" = [] ∧ validateWinner res.winner "winner" = [] ∧
      validateArtifactReferences res.artifacts "artifacts" = [] ∧
      validateFailureReason res.failureReason = [] ∧
      validateResultVersion res.resultVersion = [] := by
  have hid : (res.asDict.get "execution_id").or (res.asDict.get "evaluation_id") =
      .text res.executionId := ite_self _
  have href : res.asDict.get "task_ref" = .text res.taskRef := rfl
  constructor
  · intro h
    refine ⟨?_, validateResultPayload_accepts h⟩
    obtain ⟨status, _, h⟩ := bind_ok.1 h
    obtain ⟨metrics, _, h⟩ := bind_ok.1 h
    have hnil := pure_ok.1 h
    simp only [List.append_eq_nil_iff, hid, href] at hnil
    obtain ⟨⟨⟨⟨⟨⟨⟨⟨⟨hexecution, htask⟩, _⟩, _⟩, _⟩, _⟩, _⟩, _⟩, _⟩, _⟩ := hnil
    constructor
    · rw [← isNonEmptyStr_text]
      simpa using hexecution
    · rw [← isNonEmptyStr_text]
      simpa using htask
  · rintro ⟨⟨hexecution, htask⟩, ⟨status, hstatus⟩, hscore, hmetrics, hscores, hwinner, hartifacts,
      hreason, hversion⟩
    apply bind_ok.2 ⟨some status, hstatus, ?_⟩
    apply bind_ok.2 ⟨[], hmetrics, ?_⟩
    apply pure_ok.2
    simp only [List.append_eq_nil_iff, hid, href]
    refine ⟨⟨⟨⟨⟨⟨⟨⟨⟨?_, ?_⟩, rfl⟩, hscore⟩, trivial⟩, hscores⟩, hwinner⟩, hartifacts⟩, hreason⟩,
      hversion⟩
    · exact if_pos ((isNonEmptyStr_text _).2 hexecution)
    · exact if_pos ((isNonEmptyStr_text _).2 htask)

theorem among_of_runner (h : Status.among [.completed, .failed] value = .ok (some status)) :
    Status.among Status.all value = .ok (some status) ∧
      Status.among (Status.all.filter Status.terminal) value = .ok (some status) := by
  rw [Status.among] at h
  split at h
  · have hfind := Except.ok.inj h
    have htext : Json.text status.text = value := by simpa using List.find?_some hfind
    have hmem := List.mem_of_find?_eq_some hfind
    rw [← htext]
    rcases List.mem_cons.1 hmem with hcompleted | hmem
    · subst hcompleted
      decide
    · cases List.mem_singleton.1 hmem
      decide
  · cases h

/-- An accepted sandbox result makes a valid result, but for its names, its reason, and metrics
that the store cannot write. -/
theorem evaluatedResult_valid (execution : ExecutionResult) (encoder : Encoder)
    (haccepted : validateRunnerResultPayload runnerEncoder fields = .ok [])
    (hartifacts : validateArtifactReferences (.obj artifacts) "artifacts" = []) :
    validateResultPayload encoder (WorkerHost.evaluatedResult execution fields artifacts).asDict =
        .ok [] ↔
      (execution.executionId ≠ "" ∧ execution.taskRef ≠ "") ∧
        (fields.getD "metrics" (.obj [])).writable encoder = true ∧
        (fields.get "failure_reason" = .null ∨ ∃ s, fields.get "failure_reason" = .str s) := by
  obtain ⟨⟨status, hstatus⟩, hscore, hmetrics, hscores, hwinner, _, hreason, _⟩ :=
    validateRunnerResultPayload_accepts haccepted
  rw [validateResultPayload_asDict]
  have hstatus' : fields.getD "status" (.text "failed") = fields.get "status" := by
    apply getD_of_get rfl
    intro hnull
    rw [hnull] at hstatus
    cases hstatus
  obtain ⟨hobj, hfinite, _, hsize⟩ := (validateMetrics_ok ..).1 hmetrics
  have hmetrics' : validateMetrics encoder ((fields.get "metrics").or (.obj [])) "metrics" =
      .ok [] ↔ (fields.getD "metrics" (.obj [])).writable encoder = true := by
    rw [or_obj_of_accepted hobj, validateMetrics_ok]
    exact ⟨fun h => h.2.2.1, fun hwritable => ⟨hobj, hfinite, hwritable, hsize⟩⟩
  have hscores' : validateScores ((fields.get "scores").or (.obj [])) "scores" = [] := by
    obtain ⟨scores, hsame, hlength, hvalid⟩ := scores_of_accepted hscores
    rw [hsame]
    exact validateScores_nil.2 (.inr ⟨scores, rfl, hlength, hvalid⟩)
  have hreason' : validateFailureReason (fields.get "failure_reason") = [] ↔
      fields.get "failure_reason" = .null ∨ ∃ s, fields.get "failure_reason" = .str s := by
    rw [validateFailureReason_nil]
    constructor
    · rintro (hnull | ⟨s, hs, _⟩)
      · exact .inl hnull
      · exact .inr ⟨s, hs⟩
    · rintro (hnull | ⟨s, hs⟩)
      · exact .inl hnull
      · refine .inr ⟨s, hs, ?_⟩
        rw [hs] at hreason
        simpa [validateRunnerFailureReason] using hreason
  constructor
  · rintro ⟨hnames, _, _, hmetrics, _, _, _, hreason, _⟩
    exact ⟨hnames, hmetrics'.1 hmetrics, hreason'.1 hreason⟩
  · rintro ⟨hnames, hmetrics, hreason⟩
    refine ⟨hnames, ⟨status, ?_⟩, validateScore_nil.2 (validateScore_nil.1 hscore),
      hmetrics'.2 hmetrics, hscores', validateWinner_nil.2 (validateWinner_nil.1 hwinner),
      hartifacts, hreason'.2 hreason, rfl⟩
    rw [← hstatus'] at hstatus
    exact (among_of_runner hstatus).1

theorem scores_written {scores : Dict} (room : Room)
    (hscores : ∀ f ∈ scores, ∃ n, f.2 = .num n ∧ isFiniteNumber n) :
    (Json.obj scores).nesting 1 ≤ room.copies ∧
      (Json.obj scores).writable room.encoder = true := by
  have hcopies := room.copies_ge
  have hlevels := room.encoder.levels_ge
  have hnumber : ∀ leaf, ∀ f ∈ scores, f.2.nesting leaf = leaf := by
    intro leaf f hf
    obtain ⟨n, hn, _⟩ := hscores f hf
    rw [hn, Json.nesting]
  refine ⟨(Json.nesting_obj_le (by omega)).2 fun f hf => ?_, ?_⟩
  · rw [hnumber 1 f hf]
    omega
  · rw [Json.writable, Bool.and_eq_true, decide_eq_true_eq, Json.nesting_obj_le (by omega),
      Json.allShort, Json.allShortFields_iff]
    constructor
    · intro f hf
      rw [hnumber 0 f hf]
      omega
    · intro f hf
      obtain ⟨n, hn, hfinite⟩ := hscores f hf
      rw [hn, Json.allShort]
      exact short_of_finite room.encoder hfinite

theorem evaluatedResult_shallow (execution : ExecutionResult) (room : Room)
    (haccepted : validateRunnerResultPayload runnerEncoder fields = .ok [])
    (hreason : fields.get "failure_reason" = .null ∨ ∃ s, fields.get "failure_reason" = .str s) :
    (WorkerHost.evaluatedResult execution fields artifacts).Shallow room.copies ↔
      (∀ value ∈ execution.carried, value.nesting 1 ≤ room.copies) ∧
        (fields.getD "metrics" (.obj [])).nesting 1 ≤ room.copies ∧
        (Json.obj artifacts).nesting 1 ≤ room.copies := by
  obtain ⟨⟨status, hstatus⟩, hscore, hmetrics, hscores, hwinner, _⟩ :=
    validateRunnerResultPayload_accepts haccepted
  have hcopies := room.copies_ge
  have hstatus' : (fields.getD "status" (.text "failed")).nesting 1 = 1 := by
    have hne : fields.get "status" ≠ .null := by
      intro hnull
      rw [hnull] at hstatus
      cases hstatus
    rw [getD_of_get rfl hne, (among_some hstatus).2]
    rfl
  have hscore' : (fields.get "score").nesting 1 = 1 := by
    obtain hnull | ⟨n, hn, _⟩ := validateScore_nil.1 hscore
    · rw [hnull]
      rfl
    · rw [hn]
      rfl
  have hwinner' : (fields.get "winner").nesting 1 = 1 := by
    obtain hnull | htext := validateWinner_nil.1 hwinner
    · rw [hnull]
      rfl
    · cases hget : fields.get "winner" with
      | str s => rfl
      | _ =>
        rw [hget] at htext
        cases htext
  have hreason' : (fields.get "failure_reason").nesting 1 = 1 := by
    obtain hnull | ⟨s, hs⟩ := hreason
    · rw [hnull]
      rfl
    · rw [hs]
      rfl
  have hscores' : ((fields.get "scores").or (.obj [])).nesting 1 ≤ room.copies := by
    obtain ⟨scores, hsame, _, hvalid⟩ := scores_of_accepted hscores
    rw [hsame]
    exact (scores_written room fun f hf => (hvalid f hf).2).1
  have htext : ∀ s : String, (Json.text s).nesting 1 = 1 := fun _ => rfl
  have hnumber : ∀ n, (Json.num n).nesting 1 = 1 := fun _ => rfl
  have hroom : 1 ≤ room.copies := by omega
  rw [ExecutionResult.Shallow, ← or_obj_of_accepted ((validateMetrics_ok ..).1 hmetrics).1]
  simp only [ExecutionResult.asDict, WorkerHost.evaluatedResult, ExecutionResult.carried,
    List.forall_mem_cons, List.not_mem_nil, htext, hnumber, hstatus', hscore', hwinner', hreason',
    hscores', hroom, false_imp_iff, implies_true, true_and, and_true]
  tauto

section
variable {host : WorkerHost} {s s₁ s₂ : JudgeStore} {sha256 : ByteArray → String}

theorem nesting_objects_le {d : Dict} (hobj : ∀ a ∈ d, ∃ fields, a.2 = .obj fields)
    (hn : 2 ≤ n) : (Json.obj d).nesting leaf ≤ n ↔
      ∀ a ∈ d, ∃ fields, a.2 = .obj fields ∧ ∀ f ∈ fields, f.2.nesting leaf + 2 ≤ n := by
  rw [Json.nesting_obj_le (by omega)]
  refine forall₂_congr fun a ha => ?_
  obtain ⟨fields, hfields⟩ := hobj a ha
  obtain ⟨m, rfl⟩ := Nat.exists_eq_add_of_le' hn
  rw [hfields]
  simp [Json.nesting_obj_le]

theorem allShort_objects {d : Dict} (hobj : ∀ a ∈ d, ∃ fields, a.2 = .obj fields) :
    (Json.obj d).allShort digits = true ↔
      ∀ a ∈ d, ∃ fields, a.2 = .obj fields ∧ ∀ f ∈ fields, f.2.allShort digits = true := by
  rw [Json.allShort, Json.allShortFields_iff]
  refine forall₂_congr fun a ha => ?_
  obtain ⟨fields, hfields⟩ := hobj a ha
  rw [hfields]
  simp [Json.allShort, Json.allShortFields_iff]

theorem artifacts_storable (room : Room)
    (h : host.persistResultArtifacts sha256 raw = .ok artifacts) :
    ((Json.obj artifacts).nesting 1 ≤ room.copies ∧
      (Json.obj artifacts).writable room.encoder = true) ↔
        ∀ artifact ∈ raw.payloads.getD [], artifact.2.Storable room := by
  have hcopies := room.copies_ge
  have hlevels := room.encoder.levels_ge
  have hobj : ∀ a ∈ artifacts, ∃ fields, a.2 = .obj fields := by
    have hall := persistResultArtifacts_forall (P := fun _ => True) (fun _ => trivial) trivial h
    intro a ha
    obtain ⟨fields, hfields, _⟩ := hall.2 (fun _ _ => ⟨trivial, fun _ _ => trivial⟩) a ha
    exact ⟨fields, hfields⟩
  rw [Json.writable, Bool.and_eq_true, decide_eq_true_eq, nesting_objects_le hobj (by omega),
    nesting_objects_le hobj (by omega), allShort_objects hobj,
    persistResultArtifacts_forall (P := fun v => v.nesting 1 + 2 ≤ room.copies)
      (fun _ => by rw [Json.nesting]; omega) (by rw [Json.nesting]; omega) h,
    persistResultArtifacts_forall (P := fun v => v.nesting 0 + 2 ≤ room.encoder.levels)
      (fun _ => by rw [Json.nesting]; omega) (by rw [Json.nesting]; omega) h,
    persistResultArtifacts_forall (P := fun v => v.allShort room.encoder.digits = true)
      (fun _ => rfl) rfl h]
  constructor
  · rintro ⟨hcopied, hnesting, hshort⟩ artifact hmem
    refine ⟨?_, (hcopied artifact hmem).2, fun label hlabel =>
      ⟨(hnesting artifact hmem).2 label hlabel, (hshort artifact hmem).2 label hlabel⟩⟩
    exact of_decide_eq_true (hshort artifact hmem).1
  · intro hstorable
    refine ⟨fun artifact hmem => ⟨?_, (hstorable artifact hmem).copied⟩, fun artifact hmem =>
      ⟨?_, fun label hlabel => ((hstorable artifact hmem).written label hlabel).1⟩,
      fun artifact hmem => ⟨decide_eq_true (hstorable artifact hmem).size,
        fun label hlabel => ((hstorable artifact hmem).written label hlabel).2⟩⟩
    · rw [Json.nesting]
      omega
    · rw [Json.nesting]
      omega

theorem claim_row (h : s.claimNext parameterLimit now request = .ok (some c, s₁)) :
    ∃ r, s₁.executions.find? c.execution.executionId = some r ∧
      r.taskRef = c.execution.taskRef := by
  obtain ⟨hnone, _⟩ | ⟨row, task, lease, worker, hmem, _, _, _, hreply, hs⟩ := claimNext_ok h
  · cases hnone
  · cases hreply
    subst hs
    obtain ⟨hrow, _⟩ := mem_candidates.1 hmem
    have hrow' : (s.expireLeases now).executions.find? row.executionId = some row :=
      Table.find?_mem hrow
    refine ⟨claimed now lease worker row, ?_, rfl⟩
    have hid : (claimReply now lease worker request row task).execution.executionId =
      row.executionId := rfl
    rw [hid, claimStore, Table.find?_update, hrow']
    simp

theorem path_taskRef (hpath : StorePath sha256 s l s₁)
    (h : ∃ r, s.executions.find? E = some r ∧ r.taskRef = taskRef) :
    ∃ r, s₁.executions.find? E = some r ∧ r.taskRef = taskRef := by
  apply hpath.preserves h
  rintro s e s' ⟨r, hr, htask⟩ hs
  obtain ⟨r', hr', hsubmission⟩ := store_submission hs hr
  have htask' : r'.taskRef = r.taskRef := congrArg Submission.taskRef hsubmission
  exact ⟨r', hr', htask'.trans htask⟩

theorem evaluate_ok_iff (execution : ExecutionResult)
    (haccepted : validateRunnerResultPayload host.encoder raw.fields = .ok []) :
    host.evaluate sha256 execution false false (.ok raw) = .ok res ↔
      ∃ artifacts, host.persistResultArtifacts sha256 raw = .ok artifacts ∧
        res = WorkerHost.evaluatedResult execution raw.fields artifacts := by
  have hvalidated : host.sandboxResult false false (.ok raw) = .ok raw :=
    bind_ok.2 ⟨raw, rfl, bind_ok.2 ⟨[], mapError_ok.2 haccepted, rfl⟩⟩
  have hreferences : host.artifactReferences sha256 raw =
      host.persistResultArtifacts sha256 raw := by
    apply if_neg
    intro hcanceled
    obtain ⟨⟨status, hstatus⟩, _⟩ := validateRunnerResultPayload_accepts haccepted
    rw [hcanceled] at hstatus
    cases hstatus
  rw [WorkerHost.evaluate, bind_ok]
  constructor
  · rintro ⟨raw', hraw, h⟩
    cases hvalidated.symm.trans hraw
    obtain ⟨artifacts, hartifacts, h⟩ := bind_ok.1 h
    exact ⟨artifacts, hreferences ▸ hartifacts, (pure_ok.1 h).symm⟩
  · rintro ⟨artifacts, hartifacts, rfl⟩
    exact ⟨raw, hvalidated, bind_ok.2 ⟨artifacts, hreferences ▸ hartifacts, rfl⟩⟩

theorem claim_heldBy (hclaim : s.claimNext parameterLimit claimedAt request = .ok (some c, s₁))
    (hpath : StorePath sha256 s₁ l s₂)
    (hlease : HoldsLease s₂ now c.execution.executionId workerId) :
    ∃ r, s₂.executions.find? c.execution.executionId = some r ∧
      heldBy now c.execution.executionId workerId r ∧ c.execution.taskRef = r.taskRef := by
  obtain ⟨r, hr, htask⟩ := path_taskRef hpath (claim_row hclaim)
  obtain ⟨r', lease, hr', hrunning, hw, hl, hle⟩ := hlease
  cases Option.some.inj (hr'.symm.trans hr)
  exact ⟨r, hr, (heldBy_iff (Table.key_of_find? hr)).2 ⟨hw, hrunning, lease, hl, hle⟩, htask.symm⟩

theorem evaluatedResult_terminal (execution : ExecutionResult) (artifacts : Dict)
    (haccepted : validateRunnerResultPayload runnerEncoder fields = .ok []) :
    ∃ status, Status.among (Status.all.filter Status.terminal)
      (WorkerHost.evaluatedResult execution fields artifacts).status = .ok (some status) := by
  obtain ⟨⟨status, hstatus⟩, _⟩ := validateRunnerResultPayload_accepts haccepted
  have hreported : fields.getD "status" (.text "failed") = fields.get "status" := by
    apply getD_of_get rfl
    intro hnull
    rw [hnull] at hstatus
    cases hstatus
  refine ⟨status, ?_⟩
  rw [← hreported] at hstatus
  exact (among_of_runner hstatus).2

theorem evaluatedResult_binds (execution : ExecutionResult) (room : Room) (artifacts : Dict)
    (haccepted : validateRunnerResultPayload runnerEncoder fields = .ok []) :
    (∃ columns, bindResult room.encoder (WorkerHost.evaluatedResult execution fields artifacts) =
        .ok columns) ↔
      ((fields.getD "metrics" (.obj [])).writable room.encoder = true ∧
        (Json.obj artifacts).writable room.encoder = true) ∧
      (∀ i, fields.get "score" = .num (.int i) → -2 ^ 63 ≤ i ∧ i < 2 ^ 63) ∧
      (∀ s, fields.get "winner" = .str s → s.encode? ≠ none) ∧
      (fields.get "failure_reason" = .null ∨
        ∃ s, fields.get "failure_reason" = .str s ∧ s.encode? ≠ none) := by
  obtain ⟨_, hscore, hmetrics, hscores, hwinner, _⟩ := validateRunnerResultPayload_accepts haccepted
  have hwinner' : (∃ winner, bindText (fields.get "winner") = .ok winner) ↔
      ∀ s, fields.get "winner" = .str s → s.encode? ≠ none := by
    rw [bindText_ok]
    obtain hnull | htext := validateWinner_nil.1 hwinner
    · simp [hnull]
    · cases hget : fields.get "winner" with
      | str s => simp
      | _ =>
        rw [hget] at htext
        cases htext
  have hscores' : ((fields.get "scores").or (.obj [])).writable room.encoder = true := by
    obtain ⟨scores, hsame, _, hvalid⟩ := scores_of_accepted hscores
    rw [hsame]
    exact (scores_written room fun f hf => (hvalid f hf).2).2
  have hwritten : ((fields.get "metrics").or (.obj [])).writable room.encoder = true ∧
      ((fields.get "scores").or (.obj [])).writable room.encoder = true ∧
      (Json.obj artifacts).writable room.encoder = true ↔
        (fields.getD "metrics" (.obj [])).writable room.encoder = true ∧
        (Json.obj artifacts).writable room.encoder = true := by
    rw [or_obj_of_accepted ((validateMetrics_ok ..).1 hmetrics).1, and_iff_right hscores']
  rw [bindResult_ok_iff]
  exact and_congr hwritten (and_congr (bindReal_ok (validateScore_nil.1 hscore))
    (and_congr hwinner' bindText_ok))

/-- A sandbox result that the worker accepted ends its execution, as long as the worker holds the
lease, exactly when the store can take it. -/
theorem accepted_result_finishes_iff (hsha : ∀ b, isArtifactId (.text (sha256 b)))
    (hclaim : s.claimNext parameterLimit claimedAt request = .ok (some c, s₁))
    (hpath : StorePath sha256 s₁ l s₂)
    (hlease : HoldsLease s₂ now c.execution.executionId workerId) (hraw : host.Returns raw)
    (haccepted : validateRunnerResultPayload host.encoder raw.fields = .ok [])
    (hres : host.evaluate sha256 c.execution false false (.ok raw) = .ok res) (room : Room) :
    Finishes s₂ room now c.execution.executionId workerId res ↔
      Storable room workerId c.execution raw := by
  obtain ⟨artifacts, hartifacts, hres⟩ := (evaluate_ok_iff _ haccepted).1 hres
  subst hres
  obtain ⟨_, _, _, _, _, hpaths, _⟩ := validateRunnerResultPayload_accepts haccepted
  obtain ⟨r, hr, hheld, htask⟩ := claim_heldBy hclaim hpath hlease
  obtain ⟨status, hstatus⟩ := evaluatedResult_terminal c.execution artifacts haccepted
  have hreferences : validateArtifactReferences (.obj artifacts) "artifacts" = [] :=
    persistResultArtifacts_valid hsha hraw hpaths hartifacts
  have hstorable := artifacts_storable room hartifacts
  rw [finishes_iff (WorkerHost.evaluatedResult c.execution raw.fields artifacts) hr hheld rfl htask
      hstatus, evaluatedResult_valid c.execution room.encoder haccepted hreferences,
    evaluatedResult_binds c.execution room artifacts haccepted]
  constructor
  · rintro ⟨hw, hshallow, ⟨⟨hE, href⟩, hmetrics, hreason'⟩, ⟨_, hwritten⟩, hscore, hwinner, hreason⟩
    obtain ⟨hcarried, hcopied, hcopies⟩ :=
      (evaluatedResult_shallow c.execution room haccepted hreason').1 hshallow
    exact ⟨hw, hE, href, hcarried, hcopied, hmetrics, hstorable.1 ⟨hcopies, hwritten⟩, hscore,
      hwinner, hreason⟩
  · rintro ⟨hw, hE, href, hcarried, hcopied, hmetrics, hfiles, hscore, hwinner, hreason⟩
    obtain ⟨hcopies, hwritten⟩ := hstorable.2 hfiles
    have hreason' : raw.fields.get "failure_reason" = .null ∨
        ∃ s, raw.fields.get "failure_reason" = .str s := by
      obtain hnull | ⟨s, hs, _⟩ := hreason
      · exact .inl hnull
      · exact .inr ⟨s, hs⟩
    exact ⟨hw, (evaluatedResult_shallow c.execution room haccepted hreason').2
        ⟨hcarried, hcopied, hcopies⟩, ⟨⟨hE, href⟩, hmetrics, hreason'⟩, ⟨hmetrics, hwritten⟩,
      hscore, hwinner, hreason⟩

/-- What a worker reports for an exception is stored if the text of the exception can be. -/
theorem containedFailure_finishes_iff
    (hclaim : s.claimNext parameterLimit claimedAt request = .ok (some c, s₁))
    (hpath : StorePath sha256 s₁ l s₂)
    (hlease : HoldsLease s₂ now c.execution.executionId workerId) (text : PyStr) (room : Room) :
    Finishes s₂ room now c.execution.executionId workerId
        (WorkerHost.containedFailure c.execution text) ↔
      strip workerId ≠ "" ∧ (c.execution.executionId ≠ "" ∧ c.execution.taskRef ≠ "") ∧
        (∀ value ∈ c.execution.carried, value.nesting 1 ≤ room.copies) ∧
        PyStr.encode? ((PyStr.ofString "worker failure: " ++ text).take 2000) ≠ none := by
  obtain ⟨r, hr, hheld, htask⟩ := claim_heldBy hclaim hpath hlease
  have hstatus : Status.among (Status.all.filter Status.terminal)
      (WorkerHost.containedFailure c.execution text).status = .ok (some .failed) :=
    (by decide : Status.among (Status.all.filter Status.terminal) (.text "failed") = _)
  have hempty : (Json.obj []).writable room.encoder = true := by
    rw [Json.writable, Bool.and_eq_true, decide_eq_true_eq]
    exact ⟨(by decide : 1 ≤ 16).trans room.encoder.levels_ge, rfl⟩
  have hmetrics : validateMetrics room.encoder (.obj []) "metrics" = .ok [] := by
    have hencoded : ∃ encoded, (dumps (.obj [])).encode? = some encoded ∧
        encoded.utf8ByteSize ≤ maxResultMetricsBytes := ⟨"\x7b\x7d", by decide +kernel⟩
    exact (validateMetrics_ok ..).2 ⟨⟨[], rfl⟩, rfl, hempty, hencoded⟩
  have hshallow : (WorkerHost.containedFailure c.execution text).Shallow room.copies ↔
      ∀ value ∈ c.execution.carried, value.nesting 1 ≤ room.copies := by
    have hroom : 1 ≤ room.copies := (by decide : 1 ≤ 16).trans room.copies_ge
    simp only [ExecutionResult.Shallow, ExecutionResult.asDict, WorkerHost.containedFailure,
      ExecutionResult.carried, List.forall_mem_cons, List.not_mem_nil, Json.nesting,
      Json.nestingFields, Json.text, hroom, false_imp_iff, implies_true, true_and, and_true]
  have hvalid : validateResultPayload room.encoder
      (WorkerHost.containedFailure c.execution text).asDict = .ok [] ↔
        c.execution.executionId ≠ "" ∧ c.execution.taskRef ≠ "" := by
    rw [validateResultPayload_asDict]
    constructor
    · rintro ⟨hnames, _⟩
      exact hnames
    · intro hnames
      refine ⟨hnames, ⟨.failed, ?_⟩, rfl, hmetrics, rfl, rfl, rfl, ?_, rfl⟩
      · exact (by decide : Status.among Status.all (.text "failed") = .ok (some .failed))
      · exact validateFailureReason_nil.2 (.inr ⟨_, rfl, List.length_take_le _ _⟩)
  have hbinds : (∃ columns, bindResult room.encoder
      (WorkerHost.containedFailure c.execution text) = .ok columns) ↔
        PyStr.encode? ((PyStr.ofString "worker failure: " ++ text).take 2000) ≠ none := by
    rw [bindResult_ok_iff, bindText_ok, bindText_ok]
    simp [WorkerHost.containedFailure, bindReal, hempty]
  rw [finishes_iff (WorkerHost.containedFailure c.execution text) hr hheld rfl htask hstatus,
    hshallow, hvalid, hbinds]
  constructor
  · rintro ⟨hw, hcarried, hnames, htext⟩
    exact ⟨hw, hnames, hcarried, htext⟩
  · rintro ⟨hw, hnames, hcarried, htext⟩
    exact ⟨hw, hcarried, hnames, htext⟩

end

namespace Sample

/-- SHA-256 where its value is known, and zeros elsewhere. -/
def hexSha256 (b : ByteArray) : String :=
  match digests.find? fun d => d.1.toByteArray.data = b.data with
  | some d => d.2
  | none => String.ofList (List.replicate 64 '0')

theorem hexSha256_hex (b : ByteArray) : isArtifactId (.text (hexSha256 b)) := by
  rw [hexSha256]
  split
  · next d hd =>
    have hdigests : ∀ d ∈ digests, isArtifactId (.text d.2) := by decide +kernel
    exact hdigests d (List.mem_of_find?_eq_some hd)
  · decide +kernel

/-- A machine on which sandboxes leave one file behind, whatever they call it. -/
def host : WorkerHost where
  output _ := .ok (.found "log.txt" 5 (.ok "hello".toByteArray))
  artifactLimit := 67108864
  maxBytes := 536870912
  write _ _ := .ok ()
  repr text := PyStr.ofString "'" ++ text ++ PyStr.ofString "'"
  describe _ := "TypeError: unhashable type"
  encoder := .standard

def raw (failureReason : Json) : RawResult where
  fields := [("status", .text "completed"), ("score", .num (.int 1)),
    ("failure_reason", failureReason)]
  payloads := none

/-- A result with metrics and a file. -/
def measured : RawResult where
  fields := [("status", .text "completed"), ("score", .num (.int 1)),
    ("metrics", .obj [("loss", .arr [.num (.int 3), .num (.int 2)])]),
    ("artifacts", .obj [("log", .obj [("path", .text "log.txt"), ("kind", .text "log")])])]
  payloads := some [("log", ⟨"hello".toByteArray, .null, .text "log", "log.txt"⟩)]

theorem measured_collected : host.collectResultArtifacts measured.fields = .ok measured := rfl

theorem queued_claim : ∃ c s₁, (performAll hexSha256 .empty queued).2.claimNext parameterLimit
    (clock 2) (claim "w1" 60) = .ok (some c, s₁) ∧ c.execution.executionId = "e7" ∧
    c.execution.taskRef = "cats" ∧
    (∀ value ∈ c.execution.carried, value.nesting 1 ≤ room.copies) ∧
    HoldsLease s₁ (clock 30) "e7" "w1" := by
  have hclaim : (((performAll hexSha256 .empty queued).2.claimNext parameterLimit (clock 2)
      (claim "w1" 60)).toOption.any fun p => p.1.any fun c =>
        c.execution.executionId = "e7" && c.execution.taskRef = "cats" &&
          c.execution.carried.all (fun value => value.nesting 1 ≤ room.copies) &&
          (p.2.executions.find? "e7").any (heldBy (clock 30) "e7" "w1")) = true := by
    decide +kernel
  obtain ⟨⟨c?, s₁⟩, hok, hc⟩ := (Option.any_eq_true _ _).1 hclaim
  obtain ⟨c, hsome, hc⟩ := (Option.any_eq_true _ _).1 hc
  cases hsome
  simp only [Bool.and_eq_true, decide_eq_true_eq, List.all_eq_true] at hc
  obtain ⟨⟨⟨hE, htask⟩, hcarried⟩, hheld⟩ := hc
  obtain ⟨r, hr, hheld⟩ := (Option.any_eq_true _ _).1 hheld
  exact ⟨c, s₁, toOption_eq_some.1 hok, hE, htask, hcarried, holdsLease_of_heldBy hr hheld⟩

end Sample

theorem accepted_result_finishes_iff_sample :
    ∃ c s₁ res, (performAll Sample.hexSha256 .empty Sample.queued).2.claimNext
        Sample.parameterLimit (Sample.clock 2) (Sample.claim "w1" 60) = .ok (some c, s₁) ∧
      Sample.host.evaluate Sample.hexSha256 c.execution false false (.ok Sample.measured) =
        .ok res ∧
      Finishes s₁ Sample.room (Sample.clock 30) c.execution.executionId "w1" res := by
  obtain ⟨c, s₁, hclaim, hE, htask, hcarried, hlease⟩ := Sample.queued_claim
  have haccepted : validateRunnerResultPayload Sample.host.encoder Sample.measured.fields =
      .ok [] := by
    decide +kernel
  obtain ⟨artifacts, hartifacts⟩ := isOk_iff.1 (by decide +kernel :
    (Sample.host.persistResultArtifacts Sample.hexSha256 Sample.measured).isOk = true)
  have hres := (evaluate_ok_iff c.execution haccepted).2 ⟨artifacts, hartifacts, rfl⟩
  refine ⟨c, s₁, _, hclaim, hres, ?_⟩
  rw [← hE] at hlease
  apply (accepted_result_finishes_iff Sample.hexSha256_hex hclaim .refl hlease
    (.inr Sample.measured_collected) haccepted hres Sample.room).2
  exact {
    workerId := by decide
    executionId := by rw [hE]; decide
    taskRef := by rw [htask]; decide
    carried := hcarried
    copied := by decide
    written := by decide +kernel
    artifacts := by
      intro artifact hmem
      cases List.mem_singleton.1 hmem
      exact ⟨by decide +kernel, by decide, by decide +kernel⟩
    score := by
      intro i hi
      cases hi
      decide
    winner := nofun
    failureReason := .inl rfl }

/-- The sandbox may give any reason with a completed result, and the worker accepts it. -/
theorem completed_reason_sample :
    ¬∀ (host : WorkerHost) sha256 (s s₁ s₂ : JudgeStore) (claimedAt now : Instant)
        (request : ClaimRequest) (workerId : String) (c : Claim) l (raw : RawResult)
        (res : ExecutionResult),
      (∀ b, isArtifactId (.text (sha256 b))) →
      s.claimNext Sample.parameterLimit claimedAt request = .ok (some c, s₁) →
      StorePath sha256 s₁ l s₂ → HoldsLease s₂ now c.execution.executionId workerId →
      host.Returns raw → validateRunnerResultPayload host.encoder raw.fields = .ok [] →
      host.evaluate sha256 c.execution false false (.ok raw) = .ok res →
      Finishes s₂ Sample.room now c.execution.executionId workerId res := by
  intro hall
  obtain ⟨c, s₁, hclaim, hE, _, _, hlease⟩ := Sample.queued_claim
  rw [← hE] at hlease
  have haccepted : validateRunnerResultPayload Sample.host.encoder
      (Sample.raw (.num (.int 5))).fields = .ok [] := by
    decide +kernel
  let res := WorkerHost.evaluatedResult c.execution (Sample.raw (.num (.int 5))).fields []
  have hres : Sample.host.evaluate Sample.hexSha256 c.execution false false
      (.ok (Sample.raw (.num (.int 5)))) = .ok res :=
    (evaluate_ok_iff c.execution haccepted).2 ⟨[], rfl, rfl⟩
  have hpath : StorePath Sample.hexSha256 s₁ [] s₁ := .refl
  have hfinishes := hall Sample.host Sample.hexSha256 _ s₁ s₁ _ _ _ "w1" c [] _ _
    Sample.hexSha256_hex hclaim hpath hlease (.inl rfl) haccepted hres
  obtain ⟨r, hr, hheld, htask⟩ := claim_heldBy hclaim hpath hlease
  obtain ⟨status, hstatus⟩ := evaluatedResult_terminal c.execution [] haccepted
  obtain ⟨_, _, hvalid, _⟩ := (finishes_iff res hr hheld rfl htask hstatus).1 hfinishes
  have hreferences : validateArtifactReferences (.obj []) "artifacts" = [] := rfl
  obtain ⟨_, _, hnull | ⟨s, hs⟩⟩ :=
    (evaluatedResult_valid c.execution Sample.room.encoder haccepted hreferences).1 hvalid
  · cases hnull
  · cases hs

end BrunostJudge
