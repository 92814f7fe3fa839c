import BrunostJudge.PyDicts
import BrunostJudge.PyFloat
import BrunostJudge.PyPath

namespace BrunostJudge
open Python
set_option autoImplicit true

def maxPluginReasonChars : Nat := 2000

def maxPluginArtifacts : Nat := 32

/-- `str` of what is no text, `repr` of a text, and an exception with its traceback. -/
structure PluginHost where
  str : Json → PyStr
  repr : PyStr → PyStr
  detail : PyError → PyStr

inductive PluginStatus where
  | completed
  | failed
deriving DecidableEq

def PluginStatus.text : PluginStatus → String
  | .completed => "completed"
  | .failed => "failed"

/-- What `normalize_plugin_result` fails a result for. -/
inductive PluginFault where
  | unsupported (typeName : String)
  | status
  | score
  | metrics
  | scores
  | seat
  | seatScore
  | winner
  | artifacts
  | artifactName
  | undeclaredPath (name : PyStr)
  | outsidePath (name : PyStr)
  | mediaType (name : PyStr)
  | kind (name : PyStr)
  | tooMany

def PluginFault.reason (host : PluginHost) : PluginFault → PyStr
  | .unsupported typeName => PyStr.ofString ("runner returned unsupported type " ++ typeName)
  | .status => "runner result status must be completed or failed"
  | .score => "runner result score must be a finite number"
  | .metrics => "runner result metrics must be an object"
  | .scores => "runner result scores must be an object"
  | .seat => "runner result score keys must be non-empty strings"
  | .seatScore => "runner result scores must be finite numbers"
  | .winner => "runner result winner must be a non-empty string or null"
  | .artifacts => "runner result artifacts must be an object"
  | .artifactName => "runner artifact names must be non-empty strings"
  | .undeclaredPath name => PyStr.ofString "runner artifact " ++ host.repr name ++
      PyStr.ofString " must declare a path"
  | .outsidePath name => PyStr.ofString "runner artifact " ++ host.repr name ++
      PyStr.ofString " path must stay below output_path"
  | .mediaType name => PyStr.ofString "runner artifact " ++ host.repr name ++
      PyStr.ofString " media_type is invalid"
  | .kind name => PyStr.ofString "runner artifact " ++ host.repr name ++
      PyStr.ofString " kind is invalid"
  | .tooMany => "runner returned too many artifacts"

/-- How `normalize_plugin_result` ends before its last line. -/
inductive PluginExit where
  | failed (fault : PluginFault)
  | raised (exc : PyError)

/-- `_failed`. -/
def pluginFailed (reason : PyStr) : Dict :=
  [("status", .text "failed"), ("score", .ofFloat 0), ("metrics", .obj []),
    ("failure_reason", .str (reason.take maxPluginReasonChars))]

/-- `type(raw).__name__`. -/
def pluginTypeName : Json → String
  | .null => "NoneType"
  | .bool _ => "bool"
  | .num (.int _) => "int"
  | .num _ => "float"
  | .str _ => "str"
  | .arr _ => "list"
  | .obj _ => "dict"

def pluginStatus (value : Json) : Except PluginExit PluginStatus :=
  if value = .text "completed" then .ok .completed
  else if value = .text "failed" then .ok .failed
  else if value.hashable then .error (.failed .status)
  else .error (.raised .typeError)

/-- `float(value)` of a finite number that is no bool. -/
def pluginFloat (fault : PluginFault) (value : Json) : Except PluginExit FloatRepr :=
  match value with
  | .num (.int i) =>
    if i.natAbs < 2 ^ 1024 - 2 ^ 970 then .ok (floatRepr (toFloat i))
    else .error (.raised .overflowError)
  | .num (.float x) => .ok x
  | _ => .error (.failed fault)

def pluginMetrics (value : Json) : Except PluginExit Dict :=
  match value with
  | .obj metrics => .ok metrics
  | _ => .error (.failed .metrics)

/-- `str(value)`. -/
def PluginHost.text (host : PluginHost) : Json → PyStr
  | .str s => s
  | value => host.str value

def pluginReason (host : PluginHost) (value : Json) : Option PyStr :=
  if value = .null then none else some ((host.text value).take maxPluginReasonChars)

/-- One round of the loop over the scores. -/
def pluginSeatScore (entry : PyStr × Json) : Except PluginExit (PyStr × Json) :=
  if entry.1 = [] then .error (.failed .seat)
  else (pluginFloat .seatScore entry.2).map fun x => (entry.1, .num (.float x))

def pluginScores (value : Json) : Except PluginExit (Option Dict) :=
  match value with
  | .null => .ok none
  | .obj items => (items.mapM pluginSeatScore).map fun scores => some (Dict.update [] scores)
  | _ => .error (.failed .scores)

/-- The winner of a result that has the key. -/
def pluginWinner (value : Option Json) : Except PluginExit (Option Json) :=
  match value with
  | none => .ok none
  | some .null => .ok (some .null)
  | some (.str s) => if s = [] then .error (.failed .winner) else .ok (some (.str s))
  | some _ => .error (.failed .winner)

/-- A field of a descriptor that is absent, or a short text. -/
def pluginLabel (fault : PluginFault) (limit : Nat) (value : Json) :
    Except PluginExit (Option Json) :=
  match value with
  | .null => .ok none
  | .str s =>
    if s = [] ∨ s.length > limit then .error (.failed fault) else .ok (some (.str s))
  | _ => .error (.failed fault)

/-- The fields of a descriptor; a text stands for its path. -/
def pluginDescriptor (name : PyStr) (value : Json) : Except PluginExit (Dict × PyStr) :=
  match value with
  | .str path => .ok ([("path", .str path)], path)
  | .obj fields =>
    match Dict.get fields "path" with
    | .str path => .ok (fields, path)
    | _ => .error (.failed (.undeclaredPath name))
  | _ => .error (.failed (.undeclaredPath name))

/-- `normalized`, where `path.as_posix()` joins the parts of the path. -/
def normalizedDescriptor (parts : List PyStr) (mediaType kind : Option Json) : Dict :=
  let normalized : Dict := [("path", .str (PyStr.join [slash] parts))]
  (normalized.setSome "media_type" mediaType).setSome "kind" kind

/-- One round of the loop over the artifacts. -/
def pluginArtifact (entry : PyStr × Json) : Except PluginExit (PyStr × Json) := do
  let name := entry.1
  if name = [] ∨ name.length > 100 then
    throw (.failed .artifactName)
  let (fields, path) ← pluginDescriptor name entry.2
  let parts := pathParts path
  if isAbsolutePath path ∨ PyStr.ofString ".." ∈ parts ∨ parts = [] then
    throw (.failed (.outsidePath name))
  let mediaType ← pluginLabel (.mediaType name) 200 (Dict.get fields "media_type")
  let kind ← pluginLabel (.kind name) 100 (Dict.get fields "kind")
  return (name, .obj (normalizedDescriptor parts mediaType kind))

def pluginArtifacts (value : Json) : Except PluginExit Dict :=
  match value with
  | .obj items => do
    let artifacts ← items.mapM pluginArtifact
    let artifacts := Dict.update [] artifacts
    if artifacts.length > maxPluginArtifacts then
      throw (.failed .tooMany)
    return artifacts
  | _ => .error (.failed .artifacts)

structure PluginResult where
  status : PluginStatus
  score : FloatRepr
  metrics : Dict
  failureReason : Option PyStr
  scores : Option Dict
  winner : Option Json
  artifacts : Dict

/-- The fields of a result, with the scores and the replay among the metrics. -/
def readPluginResult (host : PluginHost) (raw : Dict) : Except PluginExit PluginResult := do
  let status ← pluginStatus (raw.get "status")
  let score ← pluginFloat .score
    (raw.getD "score" (if status = .failed then .ofFloat 0 else .null))
  let metrics ← pluginMetrics (raw.getD "metrics" (.obj []))
  let failureReason := pluginReason host (raw.get "failure_reason")
  let scores ← pluginScores (raw.get "scores")
  let metrics := metrics.setSome "scores" (scores.map .obj)
  let winner ← pluginWinner (raw.lookup? "winner")
  let metrics := metrics.setSome "replay" (raw.lookup? "replay")
  let artifacts ← pluginArtifacts (raw.getD "artifacts" (.obj []))
  return { status, score, metrics, failureReason, scores, winner, artifacts }

/-- Whether the last lines put a reason in. -/
def PluginResult.unexplained (result : PluginResult) : Bool :=
  result.status = .failed && result.failureReason.getD [] = []

def PluginResult.asDict (result : PluginResult) : Dict :=
  let d : Dict := [("status", .text result.status.text), ("score", .num (.float result.score)),
    ("metrics", .obj result.metrics)]
  let d := d.setSome "failure_reason" (result.failureReason.map .str)
  let d := d.setSome "scores" (result.scores.map .obj)
  let d := d.setSome "winner" result.winner
  let d := d.set "artifacts" (.obj result.artifacts)
  if result.unexplained then d.set "failure_reason" (.text "runner failed without a reason") else d

/-- `normalize_plugin_result`. -/
def normalizePluginResult (host : PluginHost) (raw : Json) : Except PyError Dict :=
  match raw with
  | .obj fields =>
    match readPluginResult host fields with
    | .ok result => .ok result.asDict
    | .error (.failed fault) => .ok (pluginFailed (fault.reason host))
    | .error (.raised exc) => .error exc
  | raw => .ok (pluginFailed (PluginFault.reason host (.unsupported (pluginTypeName raw))))

/-- What `PythonTaskPlugin.run` comes upon. -/
inductive PluginRun where
  | unreadableManifest (exc : PyError)
  | missingRunner
  | unloadable
  | noEntrypoint
  | raised (detail : PyStr)
  | returned (raw : Json)

/-- `PythonTaskPlugin.run`. An unreadable manifest is read outside the `try`. -/
def pythonTaskPlugin (host : PluginHost) : PluginRun → Except PyError Dict
  | .unreadableManifest exc => .error exc
  | .missingRunner => .ok (pluginFailed "plugin task is missing runner.py")
  | .unloadable => .ok (pluginFailed "could not load task runner.py")
  | .noEntrypoint => .ok (pluginFailed "runner.py must define run(context)")
  | .raised detail => .ok (pluginFailed (PyStr.ofString "runner plugin failed: " ++ detail))
  | .returned raw =>
    match normalizePluginResult host raw with
    | .ok result => .ok result
    | .error exc => .ok (pluginFailed (PyStr.ofString "runner plugin failed: " ++ host.detail exc))

/-- `RunnerRegistry.run` with the plugin registered. -/
def registryRun (host : PluginHost) (run : PluginRun) : Except PyError Dict := do
  let raw ← pythonTaskPlugin host run
  normalizePluginResult host (.obj raw)

theorem PluginFault.reason_ne_nil (host : PluginHost) (fault : PluginFault) :
    fault.reason host ≠ [] := by
  cases fault with
  | unsupported typeName =>
    intro h
    rw [PluginFault.reason, PyStr.ofString, List.map_eq_nil_iff, String.toList_append] at h
    cases (List.append_eq_nil_iff.1 h).1
  | undeclaredPath | outsidePath | mediaType | kind =>
    intro h
    cases (List.append_eq_nil_iff.1 (List.append_eq_nil_iff.1 h).1).1
  | _ =>
    intro h
    cases h

theorem pluginStatus_text (status : PluginStatus) :
    pluginStatus (.text status.text) = .ok status := by
  cases status with
  | completed => rfl
  | failed =>
    rw [pluginStatus, if_neg (by decide)]
    rfl

theorem pluginFloat_float (fault : PluginFault) (x : FloatRepr) :
    pluginFloat fault (.num (.float x)) = .ok x := rfl

theorem pluginReason_text (host : PluginHost) {reason : PyStr}
    (h : reason.length ≤ maxPluginReasonChars) : pluginReason host (.str reason) = some reason := by
  have hne : Json.str reason ≠ .null := by
    intro h
    cases h
  rw [pluginReason, if_neg hne, PluginHost.text, List.take_of_length_le h]

theorem pluginReason_length {host : PluginHost} {value : Json} {reason : PyStr}
    (h : pluginReason host value = some reason) : reason.length ≤ maxPluginReasonChars := by
  rw [pluginReason] at h
  split at h
  · cases h
  · cases h
    exact List.length_take_le _ _

theorem pluginSeatScore_again {entry score : PyStr × Json} (h : pluginSeatScore entry = .ok score) :
    pluginSeatScore score = .ok score := by
  rw [pluginSeatScore] at h
  split at h
  · cases h
  · next hseat =>
    obtain ⟨x, _, rfl⟩ := map_ok.1 h
    rw [pluginSeatScore, if_neg hseat]
    rfl

theorem pluginWinner_again {value winner : Option Json} (h : pluginWinner value = .ok winner) :
    pluginWinner winner = .ok winner := by
  rw [pluginWinner.eq_def] at h
  split at h
  · cases h
    rfl
  · cases h
    rfl
  · split at h
    · cases h
    · next hs =>
      cases h
      exact if_neg hs
  · cases h

theorem pluginLabel_again {fault : PluginFault} {limit : Nat} {value : Json} {label : Option Json}
    (h : pluginLabel fault limit value = .ok label) :
    pluginLabel fault limit (label.getD .null) = .ok label := by
  rw [pluginLabel.eq_def] at h
  split at h
  · cases h
    rfl
  · split at h
    · cases h
    · next hs =>
      cases h
      exact if_neg hs
  · cases h

theorem mapM_again {ε α : Type} {f : α → Except ε α} {l values : List α}
    (hagain : ∀ a b, f a = .ok b → f b = .ok b) (h : l.mapM f = .ok values) {kept : List α}
    (hkept : ∀ b ∈ kept, b ∈ values) : kept.mapM f = .ok kept := by
  apply mapM_self
  intro b hb
  obtain ⟨a, _, hab⟩ := (mapM_ok h).2 b (hkept b hb)
  exact hagain a b hab

theorem update_again {pairs : Dict} :
    Dict.update [] (Dict.update [] pairs) = Dict.update [] pairs :=
  Dict.update_self (Dict.update_spec (d := []) .nil pairs).1

theorem update_mem {pairs : Dict} {f : PyStr × Json} (hf : f ∈ Dict.update [] pairs) :
    f ∈ pairs := by
  rcases (Dict.update_spec (d := []) .nil pairs).2 f hf with h | h
  · exact absurd h List.not_mem_nil
  · exact h

theorem pluginScores_again {value : Json} {scores : Option Dict}
    (h : pluginScores value = .ok scores) :
    pluginScores ((scores.map .obj).getD .null) = .ok scores := by
  rw [pluginScores.eq_def] at h
  split at h
  · cases h
    rfl
  · next items =>
    obtain ⟨pairs, hpairs, rfl⟩ := map_ok.1 h
    have hsame := mapM_again (fun _ _ => pluginSeatScore_again) hpairs fun _ => update_mem
    rw [Option.map_some, Option.getD_some, pluginScores, hsame]
    exact congrArg (fun d : Dict => Except.ok (some d)) update_again
  · cases h

theorem splitOn_part {c : CodePoint} {name part : PyStr} (h : part ∈ name.splitOn c) :
    c ∉ part := by
  rw [List.splitOn] at h
  induction name generalizing part with
  | nil =>
    rw [List.splitOnP_nil, List.mem_singleton] at h
    rw [h]
    exact List.not_mem_nil
  | cons d name ih =>
    rw [List.splitOnP_cons_eq_if_modifyHead] at h
    split at h
    · rcases List.mem_cons.1 h with rfl | h
      · exact List.not_mem_nil
      · exact ih h
    · next hd =>
      cases hparts : List.splitOnP (· == c) name with
      | nil =>
        rw [hparts] at h
        cases h
      | cons first rest =>
        rw [hparts, List.modifyHead_cons] at h
        rw [hparts] at ih
        rcases List.mem_cons.1 h with rfl | h
        · rw [List.mem_cons]
          rintro (rfl | hc)
          · exact hd (beq_self_eq_true c)
          · exact ih List.mem_cons_self hc
        · exact ih (List.mem_cons_of_mem _ h)

theorem pathParts_fileName {name part : PyStr} (h : part ∈ pathParts name) : FileName part := by
  obtain ⟨hpart, hname⟩ := List.mem_filter.1 h
  have hname := of_decide_eq_true hname
  exact ⟨hname.1, hname.2, splitOn_part hpart⟩

theorem normalizedDescriptor_fields (parts : List PyStr) (mediaType kind : Option Json) :
    Dict.get (normalizedDescriptor parts mediaType kind) "path" =
        .str (PyStr.join [slash] parts) ∧
      Dict.get (normalizedDescriptor parts mediaType kind) "media_type" = mediaType.getD .null ∧
      Dict.get (normalizedDescriptor parts mediaType kind) "kind" = kind.getD .null := by
  have hbase : ∀ key : String, key ≠ "path" →
      Dict.lookup? [("path", .str (PyStr.join [slash] parts))] key = none := by
    intro key hkey
    exact Dict.lookup?_cons_text [] _ hkey.symm
  rw [normalizedDescriptor, Dict.get_eq, Dict.get_eq, Dict.get_eq]
  refine ⟨?_, ?_, ?_⟩
  · rw [Dict.lookup?_setSome_text _ _ (by decide), Dict.lookup?_setSome_text _ _ (by decide)]
    rfl
  · rw [Dict.lookup?_setSome_text _ _ (by decide), Dict.lookup?_setSome_self,
      hbase _ (by decide), Option.or_none]
  · rw [Dict.lookup?_setSome_self, Dict.lookup?_setSome_text _ _ (by decide),
      hbase _ (by decide), Option.or_none]

theorem pluginArtifact_again {entry artifact : PyStr × Json}
    (h : pluginArtifact entry = .ok artifact) : pluginArtifact artifact = .ok artifact := by
  rw [pluginArtifact] at h
  obtain ⟨hname, h⟩ := guard_ok.1 h
  obtain ⟨⟨fields, path⟩, _, h⟩ := bind_ok.1 h
  obtain ⟨hpath, h⟩ := guard_ok.1 h
  obtain ⟨mediaType, hmedia, h⟩ := bind_ok.1 h
  obtain ⟨kind, hkind, h⟩ := bind_ok.1 h
  cases pure_ok.1 h
  have hparts : ∀ part ∈ pathParts path, FileName part := fun part => pathParts_fileName
  rw [not_or, not_or] at hpath
  have hjoin := pathParts_join hpath.2.2 hparts
  obtain ⟨hpathField, hmediaField, hkindField⟩ :=
    normalizedDescriptor_fields (pathParts path) mediaType kind
  have hdescriptor : pluginDescriptor entry.1
      (.obj (normalizedDescriptor (pathParts path) mediaType kind)) =
        .ok (normalizedDescriptor (pathParts path) mediaType kind,
          PyStr.join [slash] (pathParts path)) := by
    rw [pluginDescriptor, hpathField]
  rw [pluginArtifact]
  refine guard_ok.2 ⟨hname, bind_ok.2 ⟨_, hdescriptor, guard_ok.2 ⟨?_, bind_ok.2
    ⟨mediaType, ?_, bind_ok.2 ⟨kind, ?_, ?_⟩⟩⟩⟩⟩
  · rw [hjoin, isAbsolutePath_join hparts, not_or, not_or]
    exact ⟨Bool.false_ne_true, hpath.2⟩
  · rw [hmediaField]
    exact pluginLabel_again hmedia
  · rw [hkindField]
    exact pluginLabel_again hkind
  · rw [hjoin]
    rfl

theorem pluginArtifacts_again {value : Json} {artifacts : Dict}
    (h : pluginArtifacts value = .ok artifacts) :
    pluginArtifacts (.obj artifacts) = .ok artifacts := by
  cases value with
  | obj items =>
    rw [pluginArtifacts] at h
    obtain ⟨pairs, hpairs, h⟩ := bind_ok.1 h
    obtain ⟨hfew, h⟩ := guard_ok.1 h
    cases pure_ok.1 h
    have hsame := mapM_again (fun _ _ => pluginArtifact_again) hpairs fun _ => update_mem
    rw [pluginArtifacts]
    refine bind_ok.2 ⟨_, hsame, guard_ok.2 ⟨?_, ?_⟩⟩
    · rw [update_again]
      exact hfew
    · exact congrArg Except.ok update_again
  | _ => cases h

/-- What reading a result establishes: each field would be read again as it is. -/
structure PluginResult.Normal (result : PluginResult) : Prop where
  reason : ∀ reason ∈ result.failureReason, reason.length ≤ maxPluginReasonChars
  scores : pluginScores ((result.scores.map .obj).getD .null) = .ok result.scores
  folded : result.metrics.setSome "scores" (result.scores.map .obj) = result.metrics
  winner : pluginWinner result.winner = .ok result.winner
  artifacts : pluginArtifacts (.obj result.artifacts) = .ok result.artifacts

theorem folded_again (metrics : Dict) (scores replay : Option Json) :
    ((metrics.setSome "scores" scores).setSome "replay" replay).setSome "scores" scores =
      (metrics.setSome "scores" scores).setSome "replay" replay := by
  have hne : PyStr.ofString "scores" ≠ PyStr.ofString "replay" := by decide
  cases scores with
  | none => rfl
  | some scores =>
    cases replay with
    | none => exact Dict.set_set_same metrics _ scores
    | some replay => exact Dict.set_set_again metrics scores replay hne

theorem readPluginResult_normal {host : PluginHost} {raw : Dict} {result : PluginResult}
    (h : readPluginResult host raw = .ok result) : result.Normal := by
  rw [readPluginResult] at h
  obtain ⟨status, _, h⟩ := bind_ok.1 h
  obtain ⟨score, _, h⟩ := bind_ok.1 h
  obtain ⟨metrics, _, h⟩ := bind_ok.1 h
  obtain ⟨scores, hscores, h⟩ := bind_ok.1 h
  obtain ⟨winner, hwinner, h⟩ := bind_ok.1 h
  obtain ⟨artifacts, hartifacts, h⟩ := bind_ok.1 h
  cases pure_ok.1 h
  exact ⟨fun reason hreason => pluginReason_length hreason, pluginScores_again hscores,
    folded_again metrics _ _, pluginWinner_again hwinner, pluginArtifacts_again hartifacts⟩

/-- The reason that a result reports. -/
def PluginResult.reported (result : PluginResult) : Option PyStr :=
  if result.unexplained then some (PyStr.ofString "runner failed without a reason")
  else result.failureReason

theorem PluginResult.asDict_lookup (result : PluginResult) (key : PyStr) :
    Dict.lookup? result.asDict key =
      if key = PyStr.ofString "failure_reason" then result.reported.map .str
      else if key = PyStr.ofString "artifacts" then some (.obj result.artifacts)
      else if key = PyStr.ofString "winner" then result.winner
      else if key = PyStr.ofString "scores" then result.scores.map .obj
      else Dict.lookup? [("status", .text result.status.text),
        ("score", .num (.float result.score)), ("metrics", .obj result.metrics)] key := by
  have hbase : ∀ key : String, key ≠ "status" → key ≠ "score" → key ≠ "metrics" →
      Dict.lookup? [("status", .text result.status.text), ("score", .num (.float result.score)),
        ("metrics", .obj result.metrics)] key = none := by
    intro key hstatus hscore hmetrics
    rw [Dict.lookup?_cons_text _ _ hstatus.symm, Dict.lookup?_cons_text _ _ hscore.symm,
      Dict.lookup?_cons_text _ _ hmetrics.symm]
    rfl
  rw [PluginResult.asDict]
  by_cases hreason : key = PyStr.ofString "failure_reason"
  · rw [if_pos hreason, hreason, PluginResult.reported]
    split
    · rw [Dict.lookup?_set_self]
      rfl
    · rw [Dict.lookup?_set_text _ _ (by decide), Dict.lookup?_setSome_text _ _ (by decide),
        Dict.lookup?_setSome_text _ _ (by decide), Dict.lookup?_setSome_self,
        hbase _ (by decide) (by decide) (by decide), Option.or_none]
  · have hlast : ∀ d : Dict, ∀ v : Json, Dict.lookup? (if result.unexplained = true then
        d.set "failure_reason" v else d) key = Dict.lookup? d key := by
      intro d v
      split
      · rw [Dict.lookup?_set, if_neg (Ne.symm hreason)]
      · rfl
    rw [hlast, if_neg hreason]
    by_cases hartifacts : key = PyStr.ofString "artifacts"
    · rw [if_pos hartifacts, hartifacts, Dict.lookup?_set_self]
    · rw [if_neg hartifacts, Dict.lookup?_set, if_neg (Ne.symm hartifacts)]
      by_cases hwinner : key = PyStr.ofString "winner"
      · rw [if_pos hwinner, hwinner, Dict.lookup?_setSome_self,
          Dict.lookup?_setSome_text _ _ (by decide), Dict.lookup?_setSome_text _ _ (by decide),
          hbase _ (by decide) (by decide) (by decide), Option.or_none]
      · rw [if_neg hwinner, Dict.lookup?_setSome, if_neg (Ne.symm hwinner)]
        by_cases hscores : key = PyStr.ofString "scores"
        · rw [if_pos hscores, hscores, Dict.lookup?_setSome_self,
            Dict.lookup?_setSome_text _ _ (by decide),
            hbase _ (by decide) (by decide) (by decide), Option.or_none]
        · rw [if_neg hscores, Dict.lookup?_setSome, if_neg (Ne.symm hscores),
            Dict.lookup?_setSome, if_neg (Ne.symm hreason)]

/-- The result that reading it again gives: its reason is the one it reports. -/
def PluginResult.settled (result : PluginResult) : PluginResult :=
  { result with failureReason := result.reported }

theorem PluginResult.settled_reported (result : PluginResult) :
    result.settled.reported = result.reported := by
  cases hreason : result.unexplained with
  | false =>
    have hsame : result.settled = result := by
      rw [PluginResult.settled, PluginResult.reported, hreason]
      rfl
    rw [hsame]
  | true =>
    have hreported : result.reported =
        some (PyStr.ofString "runner failed without a reason") := by
      rw [PluginResult.reported, hreason]
      rfl
    rw [PluginResult.reported, PluginResult.settled, hreported]
    exact ite_self _

theorem PluginResult.Normal.again {result : PluginResult} (h : result.Normal)
    (host : PluginHost) : readPluginResult host result.asDict = .ok result.settled := by
  have hne : ∀ {a b : String}, a ≠ b → ¬PyStr.ofString a = PyStr.ofString b :=
    fun hab he => hab (PyStr.ofString_inj.1 he)
  have hstatus : Dict.lookup? result.asDict "status" = some (.text result.status.text) := by
    rw [result.asDict_lookup, if_neg (hne (by decide)), if_neg (hne (by decide)),
      if_neg (hne (by decide)), if_neg (hne (by decide)), Dict.lookup?_cons_self]
  have hscore : Dict.lookup? result.asDict "score" = some (.num (.float result.score)) := by
    rw [result.asDict_lookup, if_neg (hne (by decide)), if_neg (hne (by decide)),
      if_neg (hne (by decide)), if_neg (hne (by decide)),
      Dict.lookup?_cons_text _ _ (by decide), Dict.lookup?_cons_self]
  have hmetrics : Dict.lookup? result.asDict "metrics" = some (.obj result.metrics) := by
    rw [result.asDict_lookup, if_neg (hne (by decide)), if_neg (hne (by decide)),
      if_neg (hne (by decide)), if_neg (hne (by decide)),
      Dict.lookup?_cons_text _ _ (by decide), Dict.lookup?_cons_text _ _ (by decide),
      Dict.lookup?_cons_self]
  have hreason : Dict.lookup? result.asDict "failure_reason" = result.reported.map .str := by
    rw [result.asDict_lookup, if_pos rfl]
  have hscores : Dict.lookup? result.asDict "scores" = result.scores.map .obj := by
    rw [result.asDict_lookup, if_neg (hne (by decide)), if_neg (hne (by decide)),
      if_neg (hne (by decide)), if_pos rfl]
  have hwinner : Dict.lookup? result.asDict "winner" = result.winner := by
    rw [result.asDict_lookup, if_neg (hne (by decide)), if_neg (hne (by decide)), if_pos rfl]
  have hreplay : Dict.lookup? result.asDict "replay" = none := by
    rw [result.asDict_lookup, if_neg (hne (by decide)), if_neg (hne (by decide)),
      if_neg (hne (by decide)), if_neg (hne (by decide)),
      Dict.lookup?_cons_text _ _ (by decide), Dict.lookup?_cons_text _ _ (by decide),
      Dict.lookup?_cons_text _ _ (by decide)]
    rfl
  have hartifacts : Dict.lookup? result.asDict "artifacts" = some (.obj result.artifacts) := by
    rw [result.asDict_lookup, if_neg (hne (by decide)), if_pos rfl]
  have hreported : pluginReason host (Dict.get result.asDict "failure_reason") =
      result.reported := by
    rw [Dict.get_eq, hreason]
    cases hreport : result.reported with
    | none => rfl
    | some reason =>
      apply pluginReason_text
      rw [PluginResult.reported] at hreport
      split at hreport
      · cases hreport
        decide
      · exact h.reason reason hreport
  rw [readPluginResult]
  refine bind_ok.2 ⟨result.status, ?_, bind_ok.2 ⟨result.score, ?_, bind_ok.2
    ⟨result.metrics, ?_, bind_ok.2 ⟨result.scores, ?_, bind_ok.2 ⟨result.winner, ?_, bind_ok.2
      ⟨result.artifacts, ?_, ?_⟩⟩⟩⟩⟩⟩
  · rw [Dict.get_eq, hstatus]
    exact pluginStatus_text result.status
  · rw [Dict.getD_eq, hscore]
    exact pluginFloat_float _ result.score
  · rw [Dict.getD_eq, hmetrics]
    rfl
  · rw [Dict.get_eq, hscores]
    exact h.scores
  · rw [hwinner]
    exact h.winner
  · rw [Dict.getD_eq, hartifacts]
    exact h.artifacts
  · rw [h.folded, hreplay, hreported]
    rfl

/-- The same dictionary, in whatever order its keys are. -/
def SameDict (d d' : Dict) : Prop := ∀ key, Dict.lookup? d key = Dict.lookup? d' key

theorem PluginResult.settled_asDict (result : PluginResult) :
    SameDict result.settled.asDict result.asDict := by
  intro key
  rw [asDict_lookup, asDict_lookup, settled_reported]
  rfl

theorem contains_artifacts (result : PluginResult) :
    Dict.contains result.asDict "artifacts" = true := by
  have hne : ¬PyStr.ofString "artifacts" = PyStr.ofString "failure_reason" := by decide
  rw [Dict.contains_eq, result.asDict_lookup, if_neg hne, if_pos rfl]
  rfl

/-- What reading a failure gives. -/
def PluginResult.ofFailure (reason : PyStr) : PluginResult where
  status := .failed
  score := floatRepr 0
  metrics := []
  failureReason := some (reason.take maxPluginReasonChars)
  scores := none
  winner := none
  artifacts := []

theorem readPluginResult_failed (host : PluginHost) (reason : PyStr) :
    readPluginResult host (pluginFailed reason) = .ok (.ofFailure reason) := by
  have hreported : pluginReason host (Dict.get (pluginFailed reason) "failure_reason") =
      some (reason.take maxPluginReasonChars) :=
    pluginReason_text host (List.length_take_le _ _)
  rw [readPluginResult]
  refine bind_ok.2 ⟨.failed, pluginStatus_text .failed, bind_ok.2 ⟨floatRepr 0, rfl, bind_ok.2
    ⟨[], rfl, bind_ok.2 ⟨none, rfl, bind_ok.2 ⟨none, rfl, bind_ok.2 ⟨[], rfl, ?_⟩⟩⟩⟩⟩⟩
  rw [hreported]
  rfl

theorem pluginFailed_again (host : PluginHost) {reason : PyStr} (hreason : reason ≠ []) :
    ∃ d', normalizePluginResult host (.obj (pluginFailed reason)) = .ok d' ∧
      SameDict d' ((pluginFailed reason).setdefault "artifacts" (.obj [])) := by
  have htake : reason.take maxPluginReasonChars ≠ [] := by
    intro h
    rcases List.take_eq_nil_iff.1 h with hzero | hnil
    · cases hzero
    · exact hreason hnil
  have hexplained : (PluginResult.ofFailure reason).unexplained = false := decide_eq_false htake
  refine ⟨(PluginResult.ofFailure reason).asDict, ?_, fun key => ?_⟩
  · rw [normalizePluginResult, readPluginResult_failed]
  · rw [PluginResult.asDict, hexplained]
    rfl

/-- Normalising a normal result again changes nothing; what is missing are the artifacts of a
failure. -/
theorem normalizePluginResult_again (host : PluginHost) {raw : Json} {d : Dict}
    (h : normalizePluginResult host raw = .ok d) :
    ∃ d', normalizePluginResult host (.obj d) = .ok d' ∧
      SameDict d' (d.setdefault "artifacts" (.obj [])) := by
  cases raw with
  | obj fields =>
    rw [normalizePluginResult] at h
    split at h
    · next result hread =>
      cases h
      refine ⟨result.settled.asDict, ?_, ?_⟩
      · rw [normalizePluginResult, (readPluginResult_normal hread).again host]
      · rw [Dict.setdefault, if_pos (contains_artifacts result)]
        exact result.settled_asDict
    · next fault _ =>
      cases h
      exact pluginFailed_again host (fault.reason_ne_nil host)
    · cases h
  | _ =>
    cases h
    exact pluginFailed_again host (PluginFault.reason_ne_nil host _)

theorem pythonTaskPlugin_again (host : PluginHost) {run : PluginRun} {d : Dict}
    (h : pythonTaskPlugin host run = .ok d) :
    ∃ d', normalizePluginResult host (.obj d) = .ok d' ∧
      SameDict d' (d.setdefault "artifacts" (.obj [])) := by
  have hdetail : ∀ detail : PyStr, PyStr.ofString "runner plugin failed: " ++ detail ≠ [] := by
    intro detail he
    cases (List.append_eq_nil_iff.1 he).1
  cases run with
  | unreadableManifest exc => cases h
  | raised detail =>
    cases h
    exact pluginFailed_again host (hdetail detail)
  | returned raw =>
    rw [pythonTaskPlugin] at h
    split at h
    · next hresult =>
      cases h
      exact normalizePluginResult_again host hresult
    · cases h
      exact pluginFailed_again host (hdetail _)
  | _ =>
    cases h
    apply pluginFailed_again host
    intro he
    cases he

/-- A second normalisation changes nothing, and so the registry reports what its plugin does. -/
theorem normalize_twice (host : PluginHost) :
    (∀ raw : Json,
      (∃ exc, normalizePluginResult host raw = .error exc ∧
        (normalizePluginResult host raw >>= fun d => normalizePluginResult host (.obj d)) =
          .error exc) ∨
      ∃ d d', normalizePluginResult host raw = .ok d ∧
        normalizePluginResult host (.obj d) = .ok d' ∧
        SameDict d' (d.setdefault "artifacts" (.obj []))) ∧
    ∀ run : PluginRun,
      (∃ exc, pythonTaskPlugin host run = .error exc ∧ registryRun host run = .error exc) ∨
      ∃ d d', pythonTaskPlugin host run = .ok d ∧ registryRun host run = .ok d' ∧
        SameDict d' (d.setdefault "artifacts" (.obj [])) := by
  constructor
  · intro raw
    cases hresult : normalizePluginResult host raw with
    | error exc => exact .inl ⟨exc, rfl, rfl⟩
    | ok d =>
      obtain ⟨d', hagain, hsame⟩ := normalizePluginResult_again host hresult
      exact .inr ⟨d, d', rfl, hagain, hsame⟩
  · intro run
    cases hresult : pythonTaskPlugin host run with
    | error exc =>
      refine .inl ⟨exc, rfl, ?_⟩
      rw [registryRun, hresult]
      rfl
    | ok d =>
      obtain ⟨d', hagain, hsame⟩ := pythonTaskPlugin_again host hresult
      refine .inr ⟨d, d', rfl, ?_, hsame⟩
      rw [registryRun, hresult]
      exact hagain

end BrunostJudge
