import BrunostJudge.Contracts
import BrunostJudge.PyDumps
import BrunostJudge.Raising

namespace BrunostJudge
open Python
set_option autoImplicit true

def maxResultMetricsBytes : Nat := 1000000
def maxResultFailureReasonChars : Nat := 2000
def maxResultArtifacts : Nat := 32
def maxResultScores : Nat := 64

def isNonEmptyStr : Json → Bool
  | .str s => s ≠ []
  | _ => false

/-- `_is_finite_number`. An int that rounds to `2 ^ 1024` or beyond does not fit a float. -/
def isFiniteNumber : Number → Bool
  | .int i => i.natAbs < 2 ^ 1024 - 2 ^ 970
  | .float _ => true
  | .nan | .inf _ => false

/-- `_ARTIFACT_ID_RE.fullmatch`. -/
def isArtifactId : Json → Bool
  | .str s => s.length = 64 && s.all fun c =>
      (0x30 ≤ c.val && c.val ≤ 0x39) || (0x41 ≤ c.val && c.val ≤ 0x46) ||
        (0x61 ≤ c.val && c.val ≤ 0x66)
  | _ => false

def validateScore (value : Json) (label : PyStr) : List PyStr :=
  match value with
  | .null => []
  | .num n => if isFiniteNumber n then [] else [label ++ PyStr.ofString " must be finite"]
  | _ => [label ++ PyStr.ofString " must be numeric or null"]

def validateJsonSize (encoder : Encoder) (value : Json) (label : PyStr) :
    Except PyError (List PyStr) :=
  if value.allFinite && value.writable encoder then
    match (dumps value).encode? with
    | none => .error .unicodeEncodeError
    | some encoded =>
      if encoded.utf8ByteSize > maxResultMetricsBytes then
        .ok [label ++ PyStr.ofString " exceeds 1000000 bytes"]
      else .ok []
  else .ok [label ++ PyStr.ofString " must contain only JSON-compatible finite values"]

def validateMetrics (encoder : Encoder) (value : Json) (label : PyStr) :
    Except PyError (List PyStr) :=
  match value with
  | .obj _ => validateJsonSize encoder value label
  | _ => .ok [label ++ PyStr.ofString " must be an object"]

def validateScoreEntry (pre seat : PyStr) (score : Json) : List PyStr :=
  (if seat = [] ∨ seat.length > 200 then [pre ++ PyStr.ofString " keys must be non-empty strings"]
    else []) ++
  match score with
  | .num n => if isFiniteNumber n then [] else [pre ++ PyStr.ofString " values must be finite"]
  | _ => [pre ++ PyStr.ofString " values must be numeric"]

/-- `_validate_scores`. -/
def validateScores (value : Json) (pre : PyStr) : List PyStr :=
  match value with
  | .null => []
  | .obj fields =>
    (if fields.length > maxResultScores then [pre ++ PyStr.ofString " contains too many entries"]
      else []) ++
    fields.flatMap fun f => validateScoreEntry pre f.1 f.2
  | _ => [pre ++ PyStr.ofString " must be an object"]

def validateWinner (value : Json) (label : PyStr) : List PyStr :=
  match value with
  | .null => []
  | value =>
    if isNonEmptyStr value then []
    else [label ++ PyStr.ofString " must be a non-empty string or null"]

def validateArtifactReference (pre name : PyStr) (descriptor : Json) : List PyStr :=
  if name = [] ∨ name.length > 200 then [pre ++ PyStr.ofString " names must be non-empty strings"]
  else
    let identifier := match descriptor with
      | .obj fields => Dict.get fields "artifact_id"
      | _ => .null
    if isArtifactId identifier then []
    else [pre ++ PyStr.ofString "." ++ name ++ PyStr.ofString " must declare an artifact_id"]

/-- `_validate_artifacts` with `references=True`, the form stored results are held to. -/
def validateArtifactReferences (value : Json) (pre : PyStr) : List PyStr :=
  match value with
  | .null => []
  | .obj fields =>
    (if fields.length > maxResultArtifacts then
      [pre ++ PyStr.ofString " contains too many entries"] else []) ++
    fields.flatMap fun f => validateArtifactReference pre f.1 f.2
  | _ => [pre ++ PyStr.ofString " must be an object"]

/-- `Path(path).is_absolute() or ".." in Path(path).parts`. -/
def leavesRoot (path : PyStr) : Bool :=
  path.head?.any (fun c => c.val = 0x2F) ||
    (path.splitOnP fun c => c.val = 0x2F).contains (PyStr.ofString "..")

def validateArtifactPath (pre name : PyStr) (descriptor : Json) : List PyStr :=
  if name = [] ∨ name.length > 200 then [pre ++ PyStr.ofString " names must be non-empty strings"]
  else
    let path : Json := match descriptor with
      | .str s => .str s
      | .obj fields => Dict.get fields "path"
      | _ => .null
    match path with
    | .str (c :: s) =>
      if leavesRoot (c :: s) then
        [pre ++ PyStr.ofString "." ++ name ++ PyStr.ofString " path must be relative"]
      else []
    | _ => [pre ++ PyStr.ofString "." ++ name ++ PyStr.ofString " must declare a path"]

/-- `_validate_artifacts` with `references=False`, the form a sandbox declares its files in. -/
def validateArtifactPaths (value : Json) (pre : PyStr) : List PyStr :=
  match value with
  | .null => []
  | .obj fields =>
    (if fields.length > maxResultArtifacts then
      [pre ++ PyStr.ofString " contains too many entries"] else []) ++
    fields.flatMap fun f => validateArtifactPath pre f.1 f.2
  | _ => [pre ++ PyStr.ofString " must be an object"]

def validateFailureReason (value : Json) : List PyStr :=
  let tooLong : PyStr := "failure_reason must be at most 2000 characters"
  match value with
  | .null => []
  | .str s => if s.length > maxResultFailureReasonChars then [tooLong] else []
  | _ => [tooLong]

def validateResultVersion (value : Json) : List PyStr :=
  if value = .null ∨ value.eq (.num (.int resultSchemaVersion)) then []
  else [PyStr.ofString "result_version must be 1"]

def validateResultPayload (encoder : Encoder) (payload : Dict) : Except PyError (List PyStr) := do
  let executionId := (payload.get "execution_id").or (payload.get "evaluation_id")
  let identity :=
    (if isNonEmptyStr executionId then [] else [PyStr.ofString "missing evaluation_id"]) ++
    (if isNonEmptyStr (payload.get "task_ref") then [] else [PyStr.ofString "missing task_ref"])
  let status ← Status.among Status.all (payload.get "status")
  let status := if status.isSome then [] else
    [PyStr.ofString "status must be queued, running, completed, failed, or canceled"]
  let metrics ← validateMetrics encoder (payload.getD "metrics" (.obj [])) "metrics"
  pure (identity ++ status ++ validateScore (payload.get "score") "score" ++ metrics ++
    validateScores (payload.get "scores") "scores" ++
    validateWinner (payload.get "winner") "winner" ++
    validateArtifactReferences (payload.getD "artifacts" (.obj [])) "artifacts" ++
    validateFailureReason (payload.get "failure_reason") ++
    validateResultVersion (payload.get "result_version"))

/-- The reason a sandbox gives. Only a failed result needs one, and only a text is measured. -/
def validateRunnerFailureReason (status value : Json) : List PyStr :=
  match value with
  | .str s =>
    if s.length > maxResultFailureReasonChars then
      [PyStr.ofString "sandbox result failure_reason must be at most 2000 characters"] else []
  | _ =>
    if status = .text "failed" then [PyStr.ofString "failed sandbox results need a failure_reason"]
    else []

def validateRunnerResultPayload (encoder : Encoder) (payload : Dict) :
    Except PyError (List PyStr) := do
  let status ← Status.among [.completed, .failed] (payload.get "status")
  let status := if status.isSome then [] else
    [PyStr.ofString "sandbox result status must be completed or failed"]
  let metrics ← validateMetrics encoder (payload.getD "metrics" (.obj [])) "sandbox result metrics"
  pure (status ++ validateScore (payload.get "score") "sandbox result score" ++ metrics ++
    validateScores (payload.get "scores") "sandbox result scores" ++
    validateWinner (payload.get "winner") "sandbox result winner" ++
    validateArtifactPaths (payload.getD "artifacts" (.obj [])) "sandbox result artifacts" ++
    validateRunnerFailureReason (payload.get "status") (payload.get "failure_reason") ++
    validateResultVersion (payload.get "result_version"))

theorem validateResultPayload_accepts {encoder : Encoder} {payload : Dict}
    (h : validateResultPayload encoder payload = .ok []) :
    (∃ status, Status.among Status.all (payload.get "status") = .ok (some status)) ∧
      validateScore (payload.get "score") "score" = [] ∧
      validateMetrics encoder (payload.getD "metrics" (.obj [])) "metrics" = .ok [] ∧
      validateScores (payload.get "scores") "scores" = [] ∧
      validateWinner (payload.get "winner") "winner" = [] ∧
      validateArtifactReferences (payload.getD "artifacts" (.obj [])) "artifacts" = [] ∧
      validateFailureReason (payload.get "failure_reason") = [] ∧
      validateResultVersion (payload.get "result_version") = [] := by
  obtain ⟨status, hstatus, h⟩ := bind_ok.1 h
  obtain ⟨metrics, hmetrics, h⟩ := bind_ok.1 h
  have hnil := pure_ok.1 h
  simp only [List.append_eq_nil_iff] at hnil
  obtain ⟨⟨⟨⟨⟨⟨⟨⟨_, hsome⟩, hscore⟩, hm⟩, hscores⟩, hwinner⟩, hartifacts⟩, hreason⟩, hversion⟩ :=
    hnil
  subst hm
  refine ⟨?_, hscore, hmetrics, hscores, hwinner, hartifacts, hreason, hversion⟩
  cases status with
  | none => simp at hsome
  | some status => exact ⟨status, hstatus⟩

theorem validateRunnerResultPayload_accepts {encoder : Encoder} {payload : Dict}
    (h : validateRunnerResultPayload encoder payload = .ok []) :
    (∃ status, Status.among [.completed, .failed] (payload.get "status") = .ok (some status)) ∧
      validateScore (payload.get "score") "sandbox result score" = [] ∧
      validateMetrics encoder (payload.getD "metrics" (.obj [])) "sandbox result metrics" = .ok [] ∧
      validateScores (payload.get "scores") "sandbox result scores" = [] ∧
      validateWinner (payload.get "winner") "sandbox result winner" = [] ∧
      validateArtifactPaths (payload.getD "artifacts" (.obj [])) "sandbox result artifacts" = [] ∧
      validateRunnerFailureReason (payload.get "status") (payload.get "failure_reason") = [] ∧
      validateResultVersion (payload.get "result_version") = [] := by
  obtain ⟨status, hstatus, h⟩ := bind_ok.1 h
  obtain ⟨metrics, hmetrics, h⟩ := bind_ok.1 h
  have hnil := pure_ok.1 h
  simp only [List.append_eq_nil_iff] at hnil
  obtain ⟨⟨⟨⟨⟨⟨⟨hsome, hscore⟩, hm⟩, hscores⟩, hwinner⟩, hartifacts⟩, hreason⟩, hversion⟩ := hnil
  subst hm
  refine ⟨?_, hscore, hmetrics, hscores, hwinner, hartifacts, hreason, hversion⟩
  cases status with
  | none => simp at hsome
  | some status => exact ⟨status, hstatus⟩

end BrunostJudge
