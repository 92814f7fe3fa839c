import BrunostJudge.Conformance
import BrunostJudge.PyCollections
import BrunostJudge.PyFloat

namespace BrunostJudge
open Python
set_option autoImplicit true

def maxReasonChars : Nat := 2000

inductive OfficialSplit where
  | publicScore
  | privateScore
deriving DecidableEq

def OfficialSplit.key : OfficialSplit → String
  | .publicScore => "public"
  | .privateScore => "private"

/-- `_finite_float`. `parseFloat` is `float` of a text, `none` where that raises or the float is
not finite. -/
def finiteFloat (parseFloat : PyStr → Option FloatRepr) : Json → Except PyError (Option FloatRepr)
  | .bool b => .ok (some (floatRepr (if b then 1 else 0)))
  | .num (.int i) =>
    if isFiniteNumber (.int i) then .ok (some (floatRepr (toFloat i))) else .error .overflowError
  | .num (.float x) => .ok (some x)
  | .num .nan | .num (.inf _) => .ok none
  | .str s => .ok (parseFloat s)
  | .null | .arr _ | .obj _ => .ok none

/-- `_failed`. -/
def scorerFailed (reason : PyStr) (metrics : Dict) : Dict :=
  [("status", .text "failed"), ("score", .ofFloat 0), ("metrics", .obj metrics),
    ("failure_reason", .str (reason.take maxReasonChars))]

/-- What `normalize_result` has read when it chooses the score. -/
structure ReadScores where
  metrics : Dict
  publicScore : Option FloatRepr
  privateScore : Option FloatRepr

/-- The loop over the two details. -/
def copyDetails (metrics source : Dict) : Dict :=
  ["public_detail", "private_detail"].foldl (fun metrics (key : String) =>
    match Dict.get source key with
    | .obj detail => metrics.set key (.obj detail)
    | _ => metrics) metrics

section
variable (parseFloat : PyStr → Option FloatRepr) (officialSplit : Option OfficialSplit)

/-- A score that stands for itself: the private one where that one is official. -/
def readPlain (metrics : Dict) (value : Json) : Except PyError ReadScores := do
  let score ← finiteFloat parseFloat value
  pure (if officialSplit = some .privateScore then ⟨metrics, none, score⟩
    else ⟨metrics, score, none⟩)

/-- `score` of a dictionary. -/
def readScoreField (metrics : Dict) : Json → Except PyError ReadScores
  | .obj score => do
    let publicScore ← finiteFloat parseFloat
      (Dict.getD score "public_a" (Dict.get score "public"))
    let privateScore ← finiteFloat parseFloat
      (Dict.getD score "private_b" (Dict.get score "private"))
    pure ⟨copyDetails metrics score, publicScore, privateScore⟩
  | .null => .ok ⟨metrics, none, none⟩
  | value => readPlain parseFloat officialSplit metrics value

/-- A flat key wins if it is present. -/
def readFlat (value : Json) (before : Option FloatRepr) : Except PyError (Option FloatRepr) :=
  if value = .null then .ok before else finiteFloat parseFloat value

/-- The metrics that the scorer gives itself. -/
def givenMetrics (fields : Dict) : Dict :=
  match Dict.get fields "metrics" with
  | .obj metrics => Dict.update [] metrics
  | _ => []

def readObject (fields : Dict) : Except PyError ReadScores := do
  let nested ← readScoreField parseFloat officialSplit (givenMetrics fields)
    (Dict.get fields "score")
  let publicScore ← readFlat parseFloat (Dict.get fields "public") nested.publicScore
  let privateScore ← readFlat parseFloat (Dict.get fields "private") nested.privateScore
  pure ⟨copyDetails nested.metrics fields, publicScore, privateScore⟩

/-- `type(raw).__name__` of what is neither a number nor a dictionary. -/
def scorerTypeName : Json → String
  | .null => "NoneType"
  | .str _ => "str"
  | .arr _ => "list"
  | _ => ""

def scorerCompleted (score : FloatRepr) (metrics : Dict) : Dict :=
  [("status", .text "completed"), ("score", .num (.float score)), ("metrics", .obj metrics)]

/-- The metrics of a result, with the scores among them. -/
def ReadScores.published (scores : ReadScores) : Dict :=
  let metrics := scores.metrics.setSome "public" (scores.publicScore.map fun x => .num (.float x))
  metrics.setSome "private" (scores.privateScore.map fun x => .num (.float x))

def ReadScores.official (scores : ReadScores) : Option FloatRepr :=
  if officialSplit = some .privateScore then scores.privateScore
  else scores.publicScore.or scores.privateScore

/-- The end of `normalize_result`, which chooses the score. -/
def chooseScore (requireOfficial : Bool) (scores : ReadScores) : Dict :=
  if requireOfficial && officialSplit = some .privateScore && scores.privateScore.isNone then
    scorerFailed (PyStr.ofString "Scorer did not return the required private score")
      scores.published
  else
    match scores.official officialSplit with
    | none =>
      scorerFailed (PyStr.ofString "Scorer returned no usable numeric score") scores.published
    | some score => scorerCompleted score scores.published

def normalizeResult (requireOfficial : Bool) (raw : Json) : Except PyError Dict :=
  match raw with
  | .bool _ => .ok (scorerFailed (PyStr.ofString "Scorer returned a boolean, not a score") [])
  | .num n => do
    let scores ← readPlain parseFloat officialSplit [] (.num n)
    pure (chooseScore officialSplit requireOfficial scores)
  | .obj fields => do
    let scores ← readObject parseFloat officialSplit fields
    pure (chooseScore officialSplit requireOfficial scores)
  | raw => .ok (scorerFailed (PyStr.ofString "Scorer returned unsupported type " ++
      PyStr.ofString (scorerTypeName raw)) [])

end

/-- The value of a split in `score`. -/
def nestedValue (officialSplit : Option OfficialSplit) (split : OfficialSplit) : Json → Json
  | .obj score =>
    match split with
    | .publicScore => Dict.getD score "public_a" (Dict.get score "public")
    | .privateScore => Dict.getD score "private_b" (Dict.get score "private")
  | value => if split = officialSplit.getD .publicScore then value else .null

/-- The value that decides a split: the flat one, and else the one in `score`. -/
def decidingValue (officialSplit : Option OfficialSplit) (split : OfficialSplit) : Json → Json
  | .num n => nestedValue officialSplit split (.num n)
  | .obj fields =>
    if Dict.get fields split.key = .null then
      nestedValue officialSplit split (Dict.get fields "score")
    else Dict.get fields split.key
  | _ => .null

/-- The values that are turned into floats. -/
def coercedValues (officialSplit : Option OfficialSplit) : Json → List Json
  | .num n => [.num n]
  | .obj fields =>
    [nestedValue officialSplit .publicScore (Dict.get fields "score"),
      nestedValue officialSplit .privateScore (Dict.get fields "score"),
      Dict.get fields "public", Dict.get fields "private"]
  | _ => []

/-- An integer that no float holds. -/
def TooLarge (value : Json) : Prop := ∃ i, value = .num (.int i) ∧ isFiniteNumber (.int i) = false

/-- The value is a number, or is read as one. -/
def Reads (parseFloat : PyStr → Option FloatRepr) (value : Json) (x : FloatRepr) : Prop :=
  finiteFloat parseFloat value = .ok (some x)

/-- The float of a value that is no such integer. -/
def coerced (parseFloat : PyStr → Option FloatRepr) (value : Json) : Option FloatRepr :=
  (finiteFloat parseFloat value).toOption.join

theorem finiteFloat_of_tooLarge (h : TooLarge value) :
    finiteFloat parseFloat value = .error .overflowError := by
  obtain ⟨i, rfl, hi⟩ := h
  simp [finiteFloat, hi]

theorem finiteFloat_eq (h : ¬TooLarge value) :
    finiteFloat parseFloat value = .ok (coerced parseFloat value) := by
  cases value with
  | num n =>
    cases n with
    | int i =>
      have hi : isFiniteNumber (.int i) = true := by
        by_contra hi
        exact h ⟨i, rfl, by simpa using hi⟩
      simp [coerced, finiteFloat, hi, Except.toOption]
    | _ => rfl
  | _ => rfl

theorem reads_iff (h : ¬TooLarge value) :
    Reads parseFloat value x ↔ coerced parseFloat value = some x := by
  rw [Reads, finiteFloat_eq h, Except.ok.injEq]

theorem not_tooLarge_null : ¬TooLarge .null := by
  rintro ⟨i, hi, -⟩
  cases hi

theorem readPlain_eq (parseFloat : PyStr → Option FloatRepr) (officialSplit : Option OfficialSplit)
    (metrics : Dict) (h : ¬TooLarge value) (hvalue : ∀ score, value ≠ .obj score) :
    readPlain parseFloat officialSplit metrics value = .ok ⟨metrics,
      coerced parseFloat (nestedValue officialSplit .publicScore value),
      coerced parseFloat (nestedValue officialSplit .privateScore value)⟩ := by
  have hnested (split) : nestedValue officialSplit split value =
      if split = officialSplit.getD .publicScore then value else .null := by
    cases value with
    | obj score => exact absurd rfl (hvalue score)
    | _ => rfl
  rw [readPlain, finiteFloat_eq h, hnested, hnested]
  rcases officialSplit with - | - | - <;> rfl

theorem readPlain_error (h : TooLarge value) :
    readPlain parseFloat officialSplit metrics value = .error .overflowError := by
  rw [readPlain, finiteFloat_of_tooLarge h]
  rfl

theorem readScoreField_eq (parseFloat : PyStr → Option FloatRepr) (metrics : Dict) (value : Json)
    (h : ∀ split, ¬TooLarge (nestedValue officialSplit split value)) :
    ∃ details, readScoreField parseFloat officialSplit metrics value = .ok ⟨details,
      coerced parseFloat (nestedValue officialSplit .publicScore value),
      coerced parseFloat (nestedValue officialSplit .privateScore value)⟩ := by
  have hpublic := h .publicScore
  have hprivate := h .privateScore
  have hplain (hvalue : ∀ score, value ≠ .obj score) :
      readPlain parseFloat officialSplit metrics value = .ok ⟨metrics,
        coerced parseFloat (nestedValue officialSplit .publicScore value),
        coerced parseFloat (nestedValue officialSplit .privateScore value)⟩ := by
    apply readPlain_eq parseFloat officialSplit metrics ?_ hvalue
    have hsplit := h (officialSplit.getD .publicScore)
    cases value with
    | obj score => exact absurd rfl (hvalue score)
    | _ => simpa [nestedValue] using hsplit
  cases value with
  | obj score =>
    refine ⟨copyDetails metrics score, ?_⟩
    simp only [nestedValue] at hpublic hprivate
    simp only [readScoreField, finiteFloat_eq hpublic, finiteFloat_eq hprivate]
    rfl
  | null =>
    refine ⟨metrics, ?_⟩
    rcases officialSplit with - | - | - <;> rfl
  | bool b => exact ⟨metrics, hplain (by intro score h; cases h)⟩
  | num n => exact ⟨metrics, hplain (by intro score h; cases h)⟩
  | str s => exact ⟨metrics, hplain (by intro score h; cases h)⟩
  | arr items => exact ⟨metrics, hplain (by intro score h; cases h)⟩

theorem readScoreField_error (h : TooLarge (nestedValue officialSplit split value)) :
    ∃ err, readScoreField parseFloat officialSplit metrics value = .error err := by
  cases value with
  | obj score =>
    cases split with
    | publicScore =>
      simp only [nestedValue] at h
      exact ⟨_, by simp only [readScoreField, finiteFloat_of_tooLarge h]; rfl⟩
    | privateScore =>
      simp only [nestedValue] at h
      cases hpublic : finiteFloat parseFloat
        (Dict.getD score "public_a" (Dict.get score "public")) with
      | error err => exact ⟨err, by simp only [readScoreField, hpublic]; rfl⟩
      | ok x =>
        exact ⟨_, by simp only [readScoreField, hpublic, finiteFloat_of_tooLarge h]; rfl⟩
  | num n =>
    refine ⟨.overflowError, readPlain_error ?_⟩
    simp only [nestedValue] at h
    split at h
    · exact h
    · exact absurd h not_tooLarge_null
  | _ =>
    simp only [nestedValue] at h
    obtain ⟨i, hi, -⟩ := h
    split at hi <;> cases hi

theorem readFlat_eq (h : ¬TooLarge value) :
    readFlat parseFloat value (coerced parseFloat nested) =
      .ok (coerced parseFloat (if value = .null then nested else value)) := by
  unfold readFlat
  split
  · rfl
  · rw [finiteFloat_eq h]

theorem readFlat_error (h : TooLarge value) :
    readFlat parseFloat value before = .error .overflowError := by
  have hvalue : value ≠ .null := by
    rintro rfl
    exact not_tooLarge_null h
  rw [readFlat, if_neg hvalue, finiteFloat_of_tooLarge h]

theorem readObject_eq (fields : Dict)
    (h : ∀ value ∈ coercedValues officialSplit (.obj fields), ¬TooLarge value) :
    ∃ details, readObject parseFloat officialSplit fields = .ok ⟨details,
      coerced parseFloat (decidingValue officialSplit .publicScore (.obj fields)),
      coerced parseFloat (decidingValue officialSplit .privateScore (.obj fields))⟩ := by
  simp only [coercedValues, List.forall_mem_cons] at h
  obtain ⟨hpublic, hprivate, hflat, hflat', -⟩ := h
  have hnested : ∀ split,
      ¬TooLarge (nestedValue officialSplit split (Dict.get fields "score")) := by
    rintro (- | -)
    · exact hpublic
    · exact hprivate
  obtain ⟨details, hscore⟩ :=
    readScoreField_eq parseFloat (givenMetrics fields) (Dict.get fields "score") hnested
  refine ⟨copyDetails details fields, ?_⟩
  simp only [readObject, hscore, decidingValue, OfficialSplit.key]
  exact bind_ok.2 ⟨_, rfl, bind_ok.2 ⟨_, readFlat_eq hflat, bind_ok.2 ⟨_, readFlat_eq hflat', rfl⟩⟩⟩

theorem readObject_error (parseFloat : PyStr → Option FloatRepr) (fields : Dict)
    (h : ∃ value ∈ coercedValues officialSplit (.obj fields), TooLarge value) :
    ∃ err, readObject parseFloat officialSplit fields = .error err := by
  cases hread : readObject parseFloat officialSplit fields with
  | error err => exact ⟨err, rfl⟩
  | ok read =>
    obtain ⟨nested, hnested, hread⟩ := bind_ok.1 hread
    obtain ⟨x, hx, hread⟩ := bind_ok.1 hread
    obtain ⟨y, hy, -⟩ := bind_ok.1 hread
    have hscore (split) :
        ¬TooLarge (nestedValue officialSplit split (Dict.get fields "score")) := by
      intro hlarge
      obtain ⟨err, herr⟩ := readScoreField_error hlarge
      rw [hnested] at herr
      cases herr
    obtain ⟨value, hvalue, hlarge⟩ := h
    simp only [coercedValues, List.mem_cons, List.not_mem_nil, or_false] at hvalue
    rcases hvalue with rfl | rfl | rfl | rfl
    · exact absurd hlarge (hscore .publicScore)
    · exact absurd hlarge (hscore .privateScore)
    · rw [readFlat_error hlarge] at hx
      cases hx
    · rw [readFlat_error hlarge] at hy
      cases hy

theorem chooseScore_some (requireOfficial : Bool) {scores : ReadScores}
    (h : scores.official officialSplit = some x) :
    chooseScore officialSplit requireOfficial scores = scorerCompleted x scores.published := by
  unfold chooseScore
  rw [if_neg, h]
  intro hmissing
  simp only [Bool.and_eq_true, decide_eq_true_eq, Option.isNone_iff_eq_none] at hmissing
  rw [ReadScores.official, if_pos hmissing.1.2, hmissing.2] at h
  cases h

theorem chooseScore_none (requireOfficial : Bool) {scores : ReadScores}
    (h : scores.official officialSplit = none) :
    ∃ reason, chooseScore officialSplit requireOfficial scores =
      scorerFailed reason scores.published := by
  unfold chooseScore
  split
  · exact ⟨_, rfl⟩
  · rw [h]
    exact ⟨_, rfl⟩

theorem chooseScore_metrics (requireOfficial : Bool) (scores : ReadScores) :
    Dict.get (chooseScore officialSplit requireOfficial scores) "metrics" =
      .obj scores.published := by
  cases h : scores.official officialSplit with
  | none =>
    obtain ⟨reason, hfailed⟩ := chooseScore_none requireOfficial h
    rw [hfailed]
    rfl
  | some x =>
    rw [chooseScore_some requireOfficial h]
    rfl

theorem published_public {scores : ReadScores} (h : scores.publicScore = some x) :
    scores.published.get "public" = .num (.float x) := by
  unfold ReadScores.published
  rw [Dict.get_setSome_text _ _ (by decide), h]
  exact Dict.get_set_self _ _ _

theorem published_private {scores : ReadScores} (h : scores.privateScore = some x) :
    scores.published.get "private" = .num (.float x) := by
  unfold ReadScores.published
  rw [h]
  exact Dict.get_set_self _ _ _

/-- The score that a value gives: that of the official split, and a private one where there is
no public one and the private one is not official. -/
def OfficialScore (parseFloat : PyStr → Option FloatRepr) (officialSplit : Option OfficialSplit)
    (raw : Json) (x : FloatRepr) : Prop :=
  if officialSplit = some .privateScore then
    Reads parseFloat (decidingValue officialSplit .privateScore raw) x
  else
    Reads parseFloat (decidingValue officialSplit .publicScore raw) x ∨
      (∀ y, ¬Reads parseFloat (decidingValue officialSplit .publicScore raw) y) ∧
        Reads parseFloat (decidingValue officialSplit .privateScore raw) x

/-- What the scores of a value have become, when it was read. -/
structure ReadFrom (parseFloat : PyStr → Option FloatRepr) (officialSplit : Option OfficialSplit)
    (raw : Json) (scores : ReadScores) : Prop where
  publicScore : scores.publicScore =
    coerced parseFloat (decidingValue officialSplit .publicScore raw)
  privateScore : scores.privateScore =
    coerced parseFloat (decidingValue officialSplit .privateScore raw)

theorem not_tooLarge_deciding (hsmall : ∀ value ∈ coercedValues officialSplit raw, ¬TooLarge value)
    (split : OfficialSplit) : ¬TooLarge (decidingValue officialSplit split raw) := by
  cases raw with
  | num n =>
    simp only [decidingValue, nestedValue]
    split_ifs
    · exact hsmall _ (List.mem_singleton.2 rfl)
    · exact not_tooLarge_null
  | obj fields =>
    simp only [coercedValues, List.forall_mem_cons] at hsmall
    obtain ⟨hpublic, hprivate, hflat, hflat', -⟩ := hsmall
    simp only [decidingValue]
    split_ifs
    · cases split with
      | publicScore => exact hpublic
      | privateScore => exact hprivate
    · cases split with
      | publicScore => exact hflat
      | privateScore => exact hflat'
  | _ => exact not_tooLarge_null

/-- A result of scores that were read. -/
inductive Normalization (parseFloat : PyStr → Option FloatRepr)
    (officialSplit : Option OfficialSplit) (requireOfficial : Bool) (raw : Json) : Dict → Prop where
  | rejected (reason : PyStr) (h : ∀ split, decidingValue officialSplit split raw = .null) :
      Normalization parseFloat officialSplit requireOfficial raw (scorerFailed reason [])
  | chosen {scores : ReadScores} (h : ReadFrom parseFloat officialSplit raw scores) :
      Normalization parseFloat officialSplit requireOfficial raw
        (chooseScore officialSplit requireOfficial scores)

theorem normalizeResult_ok (parseFloat : PyStr → Option FloatRepr)
    (officialSplit : Option OfficialSplit) (requireOfficial : Bool) (raw : Json)
    (hsmall : ∀ value ∈ coercedValues officialSplit raw, ¬TooLarge value) :
    ∃ result, normalizeResult parseFloat officialSplit requireOfficial raw = .ok result ∧
      Normalization parseFloat officialSplit requireOfficial raw result := by
  cases raw with
  | num n =>
    have hnum : ∀ score, Json.num n ≠ .obj score := by
      intro score h
      cases h
    have hread := readPlain_eq parseFloat officialSplit []
        (hsmall _ (List.mem_singleton.2 rfl)) hnum
    exact ⟨_, bind_ok.2 ⟨_, hread, rfl⟩, .chosen ⟨rfl, rfl⟩⟩
  | obj fields =>
    obtain ⟨details, hread⟩ := readObject_eq fields hsmall
    exact ⟨_, bind_ok.2 ⟨_, hread, rfl⟩, .chosen ⟨rfl, rfl⟩⟩
  | null => exact ⟨_, rfl, .rejected _ fun split => rfl⟩
  | bool b => exact ⟨_, rfl, .rejected _ fun split => rfl⟩
  | str s => exact ⟨_, rfl, .rejected _ fun split => rfl⟩
  | arr items => exact ⟨_, rfl, .rejected _ fun split => rfl⟩

theorem normalizeResult_small {raw : Json}
    (h : normalizeResult parseFloat officialSplit requireOfficial raw = .ok result) :
    ∀ value ∈ coercedValues officialSplit raw, ¬TooLarge value := by
  intro value hvalue hlarge
  cases raw with
  | num n =>
    obtain rfl := List.mem_singleton.1 hvalue
    obtain ⟨scores, hread, -⟩ := bind_ok.1 h
    rw [readPlain_error hlarge] at hread
    cases hread
  | obj fields =>
    obtain ⟨err, hraised⟩ := 
      readObject_error parseFloat fields ⟨value, hvalue, hlarge⟩
    obtain ⟨scores, hread, -⟩ := bind_ok.1 h
    rw [hraised] at hread
    cases hread
  | _ => exact absurd hvalue List.not_mem_nil

/-- What a result has to be for the value that a scorer returned. -/
structure Normalized (parseFloat : PyStr → Option FloatRepr)
    (officialSplit : Option OfficialSplit) (raw : Json) (result : Dict) : Prop where
  /-- A completed result has the official score, which is finite. -/
  completed : Dict.get result "status" = .text "completed" →
    ∃ x, OfficialScore parseFloat officialSplit raw x ∧ Dict.get result "score" = .num (.float x)
  /-- A split is published as the value that decides it, the flat one before the nested one. -/
  splits : ∀ split x, Reads parseFloat (decidingValue officialSplit split raw) x →
    ∃ metrics, Dict.get result "metrics" = .obj metrics ∧
      Dict.get metrics split.key = .num (.float x)
  /-- No boolean is a score. -/
  notBoolean : Dict.get result "status" = .text "completed" →
    ∀ split b, decidingValue officialSplit split raw ≠ .bool b

/-- The two values agree, except in fields of the given names. -/
def AgreeExcept (names : List String) (d d' : Dict) : Prop :=
  ∀ key : PyStr, (∀ name ∈ names, key ≠ PyStr.ofString name) → d.lookup? key = d'.lookup? key

def SameScoreField : Json → Json → Prop
  | .obj score, .obj score' => AgreeExcept ["public_a", "public", "public_detail"] score score'
  | score, score' => score = score'

/-- The two values differ only in public fields. -/
def SameButPublic : Json → Json → Prop
  | .obj fields, .obj fields' =>
    AgreeExcept ["public", "public_detail", "score"] fields fields' ∧
      SameScoreField (Dict.get fields "score") (Dict.get fields' "score")
  | raw, raw' => raw = raw'

/-- The status and the score of a result. -/
def shownResult (result : Except PyError Dict) : Except PyError (Json × Json) :=
  result.map fun result => (Dict.get result "status", Dict.get result "score")

/-- What a scorer has to return: no integer beyond the floats where a score is read, and no
boolean for a score where there is an official one. -/
structure SoundReturn (parseFloat : PyStr → Option FloatRepr)
    (officialSplit : Option OfficialSplit) (raw : Json) : Prop where
  small : ∀ value ∈ coercedValues officialSplit raw, ¬TooLarge value
  notBoolean : (∃ x, OfficialScore parseFloat officialSplit raw x) →
    ∀ split b, decidingValue officialSplit split raw ≠ .bool b

theorem ReadFrom.official_iff (h : ReadFrom parseFloat officialSplit raw scores)
    (hsmall : ∀ value ∈ coercedValues officialSplit raw, ¬TooLarge value) :
    scores.official officialSplit = some x ↔ OfficialScore parseFloat officialSplit raw x := by
  unfold ReadScores.official OfficialScore
  simp only [reads_iff (not_tooLarge_deciding hsmall _), ← h.publicScore, ← h.privateScore]
  split
  · rfl
  · cases scores.publicScore <;> simp

theorem not_officialScore_of_null (h : ∀ split, decidingValue officialSplit split raw = .null) :
    ¬OfficialScore parseFloat officialSplit raw x := by
  have hnull : ∀ y, ¬Reads parseFloat .null y := by
    intro y hy
    cases hy
  unfold OfficialScore
  simp only [h]
  split
  · exact hnull x
  · rintro (hread | ⟨-, hread⟩)
    · exact hnull x hread
    · exact hnull x hread

theorem Normalization.outcome_cases (hsmall : ∀ value ∈ coercedValues officialSplit raw,
    ¬TooLarge value)
    (h : Normalization parseFloat officialSplit requireOfficial raw result) :
    (∃ x, OfficialScore parseFloat officialSplit raw x ∧
      Dict.get result "status" = .text "completed" ∧ Dict.get result "score" = .num (.float x)) ∨
    (∀ x, ¬OfficialScore parseFloat officialSplit raw x) ∧
      Dict.get result "status" = .text "failed" ∧ Dict.get result "score" = .ofFloat 0 := by
  cases h with
  | rejected reason hnull =>
    exact .inr ⟨fun x => not_officialScore_of_null hnull, rfl, rfl⟩
  | @chosen scores hread =>
    cases hofficial : scores.official officialSplit with
    | some x =>
      rw [chooseScore_some requireOfficial hofficial]
      exact .inl ⟨x, (hread.official_iff hsmall).1 hofficial, rfl, rfl⟩
    | none =>
      obtain ⟨reason, hfailed⟩ := chooseScore_none requireOfficial hofficial
      rw [hfailed]
      refine .inr ⟨?_, rfl, rfl⟩
      intro x hx
      rw [(hread.official_iff hsmall).2 hx] at hofficial
      cases hofficial

theorem Normalization.splits (hsmall : ∀ value ∈ coercedValues officialSplit raw, ¬TooLarge value)
    (h : Normalization parseFloat officialSplit requireOfficial raw result) (split : OfficialSplit)
    (hx : Reads parseFloat (decidingValue officialSplit split raw) x) :
    ∃ metrics, Dict.get result "metrics" = .obj metrics ∧
      Dict.get metrics split.key = .num (.float x) := by
  cases h with
  | rejected reason hnull =>
    rw [hnull split] at hx
    cases hx
  | @chosen scores hread =>
    refine ⟨scores.published, chooseScore_metrics requireOfficial scores, ?_⟩
    rw [reads_iff (not_tooLarge_deciding hsmall split)] at hx
    cases split with
    | publicScore => exact published_public (hread.publicScore.trans hx)
    | privateScore => exact published_private (hread.privateScore.trans hx)

theorem AgreeExcept.get_eq (h : AgreeExcept names d d') {key : String} (hkey : key ∉ names) :
    Dict.get d key = Dict.get d' key := by
  rw [Dict.get_eq, Dict.get_eq, h key]
  intro name hname he
  exact hkey (PyStr.ofString_inj.1 he ▸ hname)

theorem AgreeExcept.getD_eq (h : AgreeExcept names d d') {key : String} (hkey : key ∉ names)
    (value : Json) : Dict.getD d key value = Dict.getD d' key value := by
  have hlookup : d.lookup? key = d'.lookup? key := by
    apply h
    intro name hname he
    exact hkey (PyStr.ofString_inj.1 he ▸ hname)
  exact congrArg (Option.getD · value) hlookup

theorem SameScoreField.private_eq (h : SameScoreField score score') :
    nestedValue officialSplit .privateScore score =
      nestedValue officialSplit .privateScore score' := by
  cases score <;> cases score'
  case obj.obj score score' =>
    have hkeys : AgreeExcept ["public_a", "public", "public_detail"] score score' := h
    simp only [nestedValue]
    rw [hkeys.getD_eq (by decide), hkeys.get_eq (by decide)]
  all_goals rw [show _ = _ from h]

theorem SameButPublic.private_eq (h : SameButPublic raw raw') :
    decidingValue officialSplit .privateScore raw =
      decidingValue officialSplit .privateScore raw' := by
  cases raw <;> cases raw'
  case obj.obj fields fields' =>
    obtain ⟨hfields, hscore⟩ := h
    have hflat : Dict.get fields OfficialSplit.privateScore.key =
        Dict.get fields' OfficialSplit.privateScore.key := hfields.get_eq (by decide)
    simp only [decidingValue]
    rw [hflat, hscore.private_eq]
  all_goals rw [show _ = _ from h]

theorem SameButPublic.official_iff (h : SameButPublic raw raw') :
    OfficialScore parseFloat (some .privateScore) raw x ↔
      OfficialScore parseFloat (some .privateScore) raw' x := by
  unfold OfficialScore
  rw [if_pos rfl, if_pos rfl, h.private_eq]

theorem normalized_iff (parseFloat : PyStr → Option FloatRepr)
    (officialSplit : Option OfficialSplit) (requireOfficial : Bool) (raw : Json) :
    (∃ result, normalizeResult parseFloat officialSplit requireOfficial raw = .ok result ∧
      Normalized parseFloat officialSplit raw result) ↔
        SoundReturn parseFloat officialSplit raw := by
  constructor
  · rintro ⟨result, hresult, h⟩
    have hsmall := normalizeResult_small hresult
    refine ⟨hsmall, ?_⟩
    rintro ⟨x, hx⟩
    obtain ⟨result', hresult', hnormal⟩ :=
      normalizeResult_ok parseFloat officialSplit requireOfficial raw hsmall
    obtain rfl : result = result' := by
      rw [hresult] at hresult'
      exact Except.ok.inj hresult'
    obtain ⟨y, -, hstatus, -⟩ | ⟨hnone, -⟩ := hnormal.outcome_cases hsmall
    · exact h.notBoolean hstatus
    · exact absurd hx (hnone x)
  · intro hsound
    obtain ⟨result, hresult, hnormal⟩ :=
      normalizeResult_ok parseFloat officialSplit requireOfficial raw hsound.small
    refine ⟨result, hresult, ?_, fun split x => hnormal.splits hsound.small split, ?_⟩
    · intro hstatus
      obtain ⟨x, hx, -, hscore⟩ | ⟨-, hfailed, -⟩ := hnormal.outcome_cases hsound.small
      · exact ⟨x, hx, hscore⟩
      · rw [hfailed] at hstatus
        exact absurd (Json.text_inj hstatus) (by decide)
    · intro hstatus
      obtain ⟨x, hx, -⟩ | ⟨-, hfailed, -⟩ := hnormal.outcome_cases hsound.small
      · exact hsound.notBoolean ⟨x, hx⟩
      · rw [hfailed] at hstatus
        exact absurd (Json.text_inj hstatus) (by decide)

/-- With the private split official, public fields change neither the status nor the score. -/
theorem outcome_private (hsmall : ∀ value ∈ coercedValues (some .privateScore) raw, ¬TooLarge value)
    (hsmall' : ∀ value ∈ coercedValues (some .privateScore) raw', ¬TooLarge value)
    (h : SameButPublic raw raw') :
    shownResult (normalizeResult parseFloat (some .privateScore) requireOfficial raw) =
      shownResult (normalizeResult parseFloat (some .privateScore) requireOfficial raw') := by
  obtain ⟨result, hresult, hnormal⟩ := normalizeResult_ok parseFloat _ requireOfficial raw hsmall
  obtain ⟨result', hresult', hnormal'⟩ :=
    normalizeResult_ok parseFloat _ requireOfficial raw' hsmall'
  rw [hresult, hresult']
  simp only [shownResult, Except.map, Except.ok.injEq, Prod.mk.injEq]
  obtain ⟨x, hx, hstatus, hscore⟩ | ⟨hnone, hstatus, hscore⟩ := hnormal.outcome_cases hsmall
  · obtain ⟨x', hx', hstatus', hscore'⟩ | ⟨hnone', -⟩ := hnormal'.outcome_cases hsmall'
    · have hread := h.official_iff.1 hx
      unfold OfficialScore at hread hx'
      rw [if_pos rfl] at hread hx'
      have heq : x = x' := Option.some.inj (Except.ok.inj (hread.symm.trans hx'))
      rw [hstatus, hscore, hstatus', hscore', heq]
      exact ⟨rfl, rfl⟩
    · exact absurd (h.official_iff.1 hx) (hnone' x)
  · obtain ⟨x', hx', -⟩ | ⟨-, hstatus', hscore'⟩ := hnormal'.outcome_cases hsmall'
    · exact absurd (h.official_iff.2 hx') (hnone x')
    · rw [hstatus, hscore, hstatus', hscore']
      exact ⟨rfl, rfl⟩

theorem normalizeResult_safe_iff (parseFloat : PyStr → Option FloatRepr)
    (officialSplit : Option OfficialSplit) (requireOfficial : Bool) (raw raw' : Json) :
    ((∃ result, normalizeResult parseFloat officialSplit requireOfficial raw = .ok result ∧
        Normalized parseFloat officialSplit raw result) ∧
      (∃ result, normalizeResult parseFloat officialSplit requireOfficial raw' = .ok result ∧
        Normalized parseFloat officialSplit raw' result) ∧
      (officialSplit = some .privateScore → SameButPublic raw raw' →
        shownResult (normalizeResult parseFloat officialSplit requireOfficial raw) =
          shownResult (normalizeResult parseFloat officialSplit requireOfficial raw'))) ↔
      SoundReturn parseFloat officialSplit raw ∧ SoundReturn parseFloat officialSplit raw' := by
  rw [normalized_iff, normalized_iff]
  constructor
  · rintro ⟨h, h', -⟩
    exact ⟨h, h'⟩
  · rintro ⟨h, h'⟩
    refine ⟨h, h', ?_⟩
    rintro rfl hsame
    exact outcome_private h.small h'.small hsame

theorem huge_score_sample :
    ¬(∃ result, normalizeResult (fun _ => none) none false (.num (.int (.ofNat (10 ^ 400)))) =
        .ok result ∧ Normalized (fun _ => none) none (.num (.int (.ofNat (10 ^ 400)))) result) ∧
    ¬(∃ result, normalizeResult (fun _ => none) none false (.obj [("score", .bool true)]) =
        .ok result ∧ Normalized (fun _ => none) none (.obj [("score", .bool true)]) result) := by
  constructor
  · rintro ⟨result, hresult, -⟩
    have hlarge : TooLarge (.num (.int (.ofNat (10 ^ 400)))) := ⟨_, rfl, by decide +kernel⟩
    exact normalizeResult_small hresult _ (List.mem_singleton.2 rfl) hlarge
  · rintro ⟨result, hresult, hnormal⟩
    obtain rfl := Except.ok.inj hresult
    exact hnormal.notBoolean rfl .publicScore true rfl

end BrunostJudge
