import BrunostJudge.Conformance
import BrunostJudge.PyEncoding

namespace BrunostJudge
open Python
set_option autoImplicit true

theorem validateScore_nil :
    validateScore value label = [] ↔ value = .null ∨ ∃ n, value = .num n ∧ isFiniteNumber n := by
  cases value with
  | null => simp [validateScore]
  | num n => simp [validateScore]
  | _ => simp [validateScore]

theorem validateMetrics_ok (encoder : Encoder) (value : Json) (label : PyStr) :
    validateMetrics encoder value label = .ok [] ↔ (∃ fields, value = .obj fields) ∧
      value.allFinite = true ∧ value.writable encoder = true ∧
      ∃ encoded, (dumps value).encode? = some encoded ∧
        encoded.utf8ByteSize ≤ maxResultMetricsBytes := by
  cases value with
  | obj fields =>
    rw [validateMetrics, validateJsonSize]
    by_cases hwritten : (Json.allFinite (.obj fields) && Json.writable encoder (.obj fields)) = true
    · rw [if_pos hwritten]
      obtain ⟨hfinite, hwritable⟩ := Bool.and_eq_true_iff.1 hwritten
      cases hencoded : (dumps (.obj fields)).encode? with
      | none => simp
      | some encoded =>
        by_cases hsize : encoded.utf8ByteSize > maxResultMetricsBytes
        · simp [hsize]
        · simp [hsize, hfinite, hwritable, Nat.le_of_not_gt hsize]
    · rw [if_neg hwritten]
      constructor
      · intro h
        cases h
      · rintro ⟨-, hfinite, hwritable, -⟩
        exact absurd (Bool.and_eq_true_iff.2 ⟨hfinite, hwritable⟩) hwritten
  | _ => simp [validateMetrics]

theorem validateScoreEntry_nil : validateScoreEntry pre seat score = [] ↔
    ¬(seat = [] ∨ seat.length > 200) ∧ ∃ n, score = .num n ∧ isFiniteNumber n := by
  cases score with
  | num n => simp [validateScoreEntry]
  | _ => simp [validateScoreEntry]

theorem validateScores_nil : validateScores value pre = [] ↔
    value = .null ∨ ∃ fields, value = .obj fields ∧ fields.length ≤ maxResultScores ∧
      ∀ f ∈ fields, ¬(f.1 = [] ∨ f.1.length > 200) ∧ ∃ n, f.2 = .num n ∧ isFiniteNumber n := by
  cases value with
  | null => simp [validateScores]
  | obj fields =>
    simp only [validateScores, List.append_eq_nil_iff, List.flatMap_eq_nil_iff,
      validateScoreEntry_nil]
    simp
  | _ => simp [validateScores]

theorem validateWinner_nil :
    validateWinner value label = [] ↔ value = .null ∨ isNonEmptyStr value := by
  cases value with
  | null => simp [validateWinner]
  | str s => simp [validateWinner, isNonEmptyStr]
  | _ => simp [validateWinner, isNonEmptyStr]

theorem validateFailureReason_nil : validateFailureReason value = [] ↔
    value = .null ∨ ∃ s, value = .str s ∧ s.length ≤ maxResultFailureReasonChars := by
  cases value with
  | null => simp [validateFailureReason]
  | str s => simp [validateFailureReason]
  | _ => simp [validateFailureReason]

/-- A sandbox's files are as many and as well named as the references to them have to be. -/
theorem validateArtifactPaths_nil (h : validateArtifactPaths (.obj fields) pre = []) :
    fields.length ≤ maxResultArtifacts ∧ ∀ f ∈ fields, ¬(f.1 = [] ∨ f.1.length > 200) := by
  simp only [validateArtifactPaths, List.append_eq_nil_iff, List.flatMap_eq_nil_iff] at h
  obtain ⟨hlength, hfields⟩ := h
  refine ⟨by simpa using hlength, ?_⟩
  intro f hf hname
  have hpath := hfields f hf
  unfold validateArtifactPath at hpath
  rw [if_pos hname] at hpath
  cases hpath

theorem validateArtifactReferences_nil (hlength : fields.length ≤ maxResultArtifacts)
    (hnames : ∀ f ∈ fields, ¬(f.1 = [] ∨ f.1.length > 200))
    (hids : ∀ f ∈ fields, ∃ d : Dict, f.2 = .obj d ∧ isArtifactId (d.get "artifact_id")) :
    validateArtifactReferences (.obj fields) pre = [] := by
  simp only [validateArtifactReferences, List.append_eq_nil_iff, List.flatMap_eq_nil_iff]
  refine ⟨if_neg (by omega), ?_⟩
  intro f hf
  obtain ⟨d, hd, hid⟩ := hids f hf
  unfold validateArtifactReference
  rw [if_neg (hnames f hf), hd]
  exact if_pos hid

theorem among_some {statuses : List Status} (h : Status.among statuses value = .ok (some status)) :
    status ∈ statuses ∧ value = .text status.text := by
  unfold Status.among at h
  split at h
  · have hfind := Except.ok.inj h
    exact ⟨List.mem_of_find?_eq_some hfind,
      (of_decide_eq_true (List.find?_some hfind :)).symm⟩
  · cases h

theorem among_isOk (statuses : List Status) (value : Json) :
    (Status.among statuses value).isOk = value.hashable := by
  unfold Status.among
  cases value.hashable <;> rfl

/-- Whether the size of the metrics can be told: only the size of an object that `json.dumps`
writes is asked for. -/
def metricsMeasurable (encoder : Encoder) (value : Json) : Bool :=
  match value with
  | .obj _ => !(value.allFinite && value.writable encoder) || value.encodable
  | _ => true

theorem validateMetrics_isOk (encoder : Encoder) (value : Json) (label : PyStr) :
    (validateMetrics encoder value label).isOk = metricsMeasurable encoder value := by
  cases value with
  | obj fields =>
    rw [validateMetrics, validateJsonSize, metricsMeasurable, ← dumps_encode?_isSome]
    cases Json.allFinite (.obj fields) && Json.writable encoder (.obj fields) with
    | false => rfl
    | true =>
      cases (dumps (.obj fields)).encode? with
      | none => rfl
      | some encoded =>
        rw [if_pos rfl]
        dsimp only
        split <;> rfl
  | _ => rfl

/-- What a payload without complaints holds. -/
structure Sound (statuses : List Status) (payload : Dict) : Prop where
  status : ∃ status ∈ statuses, payload.get "status" = .text status.text
  score : payload.get "score" = .null ∨ ∃ n, payload.get "score" = .num n ∧ n.isFinite
  scores : payload.get "scores" = .null ∨ ∃ fields, payload.get "scores" = .obj fields ∧
    ∀ f ∈ fields, ∃ n, f.2 = .num n ∧ n.isFinite
  metrics : ∃ encoded, (dumps (payload.getD "metrics" (.obj []))).encode? = some encoded ∧
    encoded.utf8ByteSize ≤ 1000000

/-- A validator that returns its complaints, and has none only about a sound payload. -/
def Reports (statuses : List Status) (payload : Dict) (outcome : Except PyError (List PyStr)) :
    Prop :=
  ∃ errors, outcome = .ok errors ∧ (errors = [] → Sound statuses payload)

theorem isFinite_of_isFiniteNumber (h : isFiniteNumber n) : n.isFinite := by
  cases n with
  | int i => rfl
  | float x => rfl
  | nan => cases h
  | inf b => cases h

theorem sound_of_accepted {statuses : List Status} {payload : Dict}
    (hstatus : ∃ status, Status.among statuses (payload.get "status") = .ok (some status))
    (hscore : validateScore (payload.get "score") scoreLabel = [])
    (hmetrics : validateMetrics encoder (payload.getD "metrics" (.obj [])) metricsLabel = .ok [])
    (hscores : validateScores (payload.get "scores") scoresLabel = []) :
    Sound statuses payload where
  status := by
    obtain ⟨status, hstatus⟩ := hstatus
    exact ⟨status, among_some hstatus⟩
  score := by
    obtain hnull | ⟨n, hn, hfinite⟩ := validateScore_nil.1 hscore
    · exact .inl hnull
    · exact .inr ⟨n, hn, isFinite_of_isFiniteNumber hfinite⟩
  scores := by
    obtain hnull | ⟨fields, hobj, _, hfields⟩ := validateScores_nil.1 hscores
    · exact .inl hnull
    · right
      refine ⟨fields, hobj, ?_⟩
      intro f hf
      obtain ⟨_, n, hn, hfinite⟩ := hfields f hf
      exact ⟨n, hn, isFinite_of_isFiniteNumber hfinite⟩
  metrics := ((validateMetrics_ok ..).1 hmetrics).2.2.2

theorem validateRunnerResultPayload_reports (encoder : Encoder) (payload : Dict) :
    Reports [.completed, .failed] payload (validateRunnerResultPayload encoder payload) ↔
      (payload.get "status").hashable ∧
        metricsMeasurable encoder (payload.getD "metrics" (.obj [])) := by
  rw [← among_isOk [.completed, .failed], ← validateMetrics_isOk _ _ "sandbox result metrics",
    isOk_iff, isOk_iff]
  constructor
  · rintro ⟨errors, hrun, _⟩
    obtain ⟨status, hstatus, hrun⟩ := bind_ok.1 hrun
    obtain ⟨metrics, hmetrics, _⟩ := bind_ok.1 hrun
    exact ⟨⟨status, hstatus⟩, metrics, hmetrics⟩
  · rintro ⟨⟨status, hstatus⟩, metrics, hmetrics⟩
    refine ⟨_, bind_ok.2 ⟨status, hstatus, bind_ok.2 ⟨metrics, hmetrics, rfl⟩⟩, ?_⟩
    intro hnil
    have hrun : validateRunnerResultPayload encoder payload = .ok [] := by
      rw [← hnil]
      exact bind_ok.2 ⟨status, hstatus, bind_ok.2 ⟨metrics, hmetrics, rfl⟩⟩
    obtain ⟨hstatus, hscore, hmetrics, hscores, _⟩ := validateRunnerResultPayload_accepts hrun
    exact sound_of_accepted hstatus hscore hmetrics hscores

theorem validateResultPayload_reports (encoder : Encoder) (payload : Dict) :
    Reports Status.all payload (validateResultPayload encoder payload) ↔
      (payload.get "status").hashable ∧
        metricsMeasurable encoder (payload.getD "metrics" (.obj [])) := by
  rw [← among_isOk Status.all, ← validateMetrics_isOk _ _ "metrics", isOk_iff, isOk_iff]
  constructor
  · rintro ⟨errors, hrun, _⟩
    obtain ⟨status, hstatus, hrun⟩ := bind_ok.1 hrun
    obtain ⟨metrics, hmetrics, _⟩ := bind_ok.1 hrun
    exact ⟨⟨status, hstatus⟩, metrics, hmetrics⟩
  · rintro ⟨⟨status, hstatus⟩, metrics, hmetrics⟩
    refine ⟨_, bind_ok.2 ⟨status, hstatus, bind_ok.2 ⟨metrics, hmetrics, rfl⟩⟩, ?_⟩
    intro hnil
    have hrun : validateResultPayload encoder payload = .ok [] := by
      rw [← hnil]
      exact bind_ok.2 ⟨status, hstatus, bind_ok.2 ⟨metrics, hmetrics, rfl⟩⟩
    obtain ⟨hstatus, hscore, hmetrics, hscores, _⟩ := validateResultPayload_accepts hrun
    exact sound_of_accepted hstatus hscore hmetrics hscores

/-- Both validators return their complaints unless the status is a list or an object, or the
metrics hold a lone surrogate and nothing that `json.dumps` stops at. -/
theorem validators_report (encoder : Encoder) (payload : Dict) :
    Reports [.completed, .failed] payload (validateRunnerResultPayload encoder payload) ∧
        Reports Status.all payload (validateResultPayload encoder payload) ↔
      (payload.get "status").hashable ∧
        ∀ fields, payload.getD "metrics" (.obj []) = .obj fields →
          Json.allFiniteFields fields → Json.writable encoder (.obj fields) →
          Json.encodableFields fields := by
  have hmeasurable : metricsMeasurable encoder (payload.getD "metrics" (.obj [])) ↔
      ∀ fields, payload.getD "metrics" (.obj []) = .obj fields →
        Json.allFiniteFields fields → Json.writable encoder (.obj fields) →
        Json.encodableFields fields := by
    cases payload.getD "metrics" (.obj []) with
    | obj fields =>
      rw [metricsMeasurable, Json.allFinite, Json.encodable]
      cases hfinite : Json.allFiniteFields fields <;>
        cases hwritable : Json.writable encoder (.obj fields) <;> simp [hfinite, hwritable]
    | _ => simp [metricsMeasurable]
  rw [validateRunnerResultPayload_reports, validateResultPayload_reports, and_self, hmeasurable]

namespace Sample

def listStatus : Dict := [("status", .arr [])]

def surrogateMetrics : Dict :=
  [("status", .text "completed"), ("metrics", .obj [("note", .str [Fin.ofNat _ 0xD800])])]

end Sample

theorem validators_raise_sample :
    validateRunnerResultPayload .standard Sample.listStatus = .error .typeError ∧
      validateResultPayload .standard Sample.listStatus = .error .typeError ∧
      validateRunnerResultPayload .standard Sample.surrogateMetrics = .error .unicodeEncodeError ∧
      validateResultPayload .standard Sample.surrogateMetrics = .error .unicodeEncodeError := by
  decide +kernel

end BrunostJudge
