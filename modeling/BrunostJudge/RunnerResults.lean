import BrunostJudge.ClassicRunner
import BrunostJudge.ConformanceSpec
import BrunostJudge.Notifications
import BrunostJudge.PyDumpsSize

namespace BrunostJudge
open Python
set_option autoImplicit true

/-- What the sandbox makes of a result without files. -/
def sandboxResult (encoder : Encoder) (result : Dict) : Except PyError Dict := do
  let errors ← validateRunnerResultPayload encoder result
  if errors = [] then return result
  else return [("status", .text "failed"), ("score", .ofFloat 0), ("metrics", .obj []),
    ("failure_reason", .str (PyStr.ofString "invalid sandbox result: " ++
      (PyStr.ofString "; ").intercalate errors))]

/-- Metrics that the validator lets pass. -/
structure MetricsFit (encoder : Encoder) (metrics : Dict) : Prop where
  finite : Json.allFinite (.obj metrics) = true
  writable : Json.writable encoder (.obj metrics) = true
  size : ∃ encoded, (dumps (.obj metrics)).encode? = some encoded ∧
    encoded.utf8ByteSize ≤ maxResultMetricsBytes

theorem validateMetrics_fit (label : PyStr) :
    validateMetrics encoder (.obj metrics) label = .ok [] ↔ MetricsFit encoder metrics := by
  rw [validateMetrics_ok]
  constructor
  · rintro ⟨-, hfinite, hwritable, hsize⟩
    exact ⟨hfinite, hwritable, hsize⟩
  · rintro ⟨hfinite, hwritable, hsize⟩
    exact ⟨⟨metrics, rfl⟩, hfinite, hwritable, hsize⟩

theorem metricsFit_of_weight (hfinite : Json.allFinite (.obj metrics) = true)
    (hwritable : Json.writable encoder (.obj metrics) = true)
    (hencodable : Json.encodable (.obj metrics) = true)
    (hweight : Json.weight (.obj metrics) ≤ 250000) : MetricsFit encoder metrics := by
  refine ⟨hfinite, hwritable, ?_⟩
  rw [← dumps_encode?_isSome, Option.isSome_iff_exists] at hencodable
  obtain ⟨encoded, hencoded⟩ := hencodable
  have hsize := encode?_size_le hencoded
  have hlength := dumps_length_le (.obj metrics)
  have hmax : maxResultMetricsBytes = 1000000 := rfl
  exact ⟨encoded, hencoded, by omega⟩

theorem short_natCast {n : Nat} (encoder : Encoder) (h : n < 10 ^ 3) :
    Number.isShort encoder.digits (.int n) = true := by
  have hdigits : 3 ≤ encoder.digits := (by decide : 3 ≤ 640).trans encoder.digits_ge
  rw [Number.isShort, decide_eq_true_eq, Int.natAbs_natCast]
  exact h.trans_le (Nat.pow_le_pow_right (by decide) hdigits)

/-- The shape of a result with a score, and without seats, files and a version. -/
structure ScoredResult (status : Status) (metrics : Dict) (reason : Json) (result : Dict) :
    Prop where
  reported : Dict.get result "status" = .text status.text
  ended : status ∈ [Status.completed, .failed]
  scored : ∃ x, Dict.get result "score" = .ofFloat x
  measured : Dict.getD result "metrics" (.obj []) = .obj metrics
  noScores : Dict.get result "scores" = .null
  noWinner : Dict.get result "winner" = .null
  noFiles : Dict.getD result "artifacts" (.obj []) = .obj []
  explained : Dict.get result "failure_reason" = reason
  noVersion : Dict.get result "result_version" = .null

theorem among_text {statuses : List Status} {status : Status} (h : status ∈ statuses) :
    Status.among statuses (.text status.text) = .ok (some status) := by
  have hfind : statuses.find? (fun s => .text s.text = Json.text status.text) = some status := by
    cases hfound : statuses.find? (fun s => .text s.text = Json.text status.text) with
    | none => exact absurd (decide_eq_true rfl) (List.find?_eq_none.1 hfound status h)
    | some s =>
      have htext : Json.text s.text = Json.text status.text :=
        of_decide_eq_true (List.find?_some hfound :)
      rw [Status.text_inj (Json.text_inj htext)]
  exact congrArg Except.ok hfind

/-- A result of that shape passes when its metrics fit and its reason is short enough. -/
theorem ScoredResult.valid_iff (h : ScoredResult status metrics reason result) :
    validateRunnerResultPayload encoder result = .ok [] ↔
      MetricsFit encoder metrics ∧ validateRunnerFailureReason (.text status.text) reason = [] := by
  obtain ⟨x, hscore⟩ := h.scored
  constructor
  · intro hvalid
    obtain ⟨-, -, hmetrics, -, -, -, hreason, -⟩ := validateRunnerResultPayload_accepts hvalid
    rw [h.measured, validateMetrics_fit] at hmetrics
    rw [h.reported, h.explained] at hreason
    exact ⟨hmetrics, hreason⟩
  · rintro ⟨hmetrics, hreason⟩
    rw [validateRunnerResultPayload]
    refine bind_ok.2 ⟨some status, by rw [h.reported]; exact among_text h.ended, bind_ok.2
      ⟨[], by rw [h.measured]; exact (validateMetrics_fit _).2 hmetrics, ?_⟩⟩
    rw [hscore, h.noScores, h.noWinner, h.noFiles, h.reported, h.explained, h.noVersion, hreason]
    rfl

theorem failureReason_text {reason : PyStr} (status : Status) :
    validateRunnerFailureReason (.text status.text) (.str reason) = [] ↔ reason.length ≤ 2000 := by
  rw [validateRunnerFailureReason]
  split
  · next hlong => exact iff_of_false (List.cons_ne_nil _ _) (Nat.not_le.2 hlong)
  · next hshort => exact iff_of_true rfl (Nat.not_lt.1 hshort)

theorem failureReason_null :
    validateRunnerFailureReason (.text Status.completed.text) .null = [] := by
  decide

theorem take_length_le {reason : PyStr} :
    (reason.take maxDiagnosticChars).length ≤ 2000 ↔ reason.length ≤ 2000 := by
  have hmax : maxDiagnosticChars = 4000 := rfl
  rw [List.length_take, hmax]
  omega

end BrunostJudge
