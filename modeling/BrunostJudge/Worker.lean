import BrunostJudge.Executions

namespace BrunostJudge
open Python
set_option autoImplicit true

/-- What a path below the artifacts directory of a sandbox names. Packing a file may still
raise. -/
inductive OutputFile where
  | outside
  | missing
  | special
  | found (filename : PyStr) (size : Nat) (packed : Except PyStr ByteArray)

/-- The machine a worker runs on: the files its sandboxes leave behind, its artifact storage, and
how its Python prints and writes JSON. Inside the worker's `try` an exception counts by its
text alone, `f"{type(exc).__name__}: {exc}"`. -/
structure WorkerHost where
  output : PyStr → Except PyStr OutputFile
  artifactLimit : Nat
  maxBytes : Nat
  write : String → ByteArray → Except PyStr Unit
  repr : PyStr → PyStr
  describe : PyError → PyStr
  encoder : Encoder

/-- A file that a sandbox declared, packed. -/
structure ArtifactPayload where
  data : ByteArray
  mediaType : Json
  kind : Json
  filename : PyStr

/-- What a sandbox returns. The packed files sit beside the JSON fields, under the key
`_artifact_payloads`. -/
structure RawResult where
  fields : Dict
  payloads : Option (List (PyStr × ArtifactPayload))

theorem zero_digit : 0 < 10 := by decide

/-- The score `0.0`. -/
def zeroScore : Json :=
  .num (.float ⟨false, 0, [⟨0, zero_digit⟩], none, .inl (List.cons_ne_nil _ _)⟩)

/-- A result without metrics that only says why. -/
def bareResult (status : String) (reason : PyStr) : Dict :=
  [("status", .text status), ("score", zeroScore), ("metrics", .obj []),
    ("failure_reason", .str reason)]

/-- How collecting artifacts ends early: in a failed result, or in an exception. -/
inductive Collection where
  | failed (reason : PyStr)
  | raised (text : PyStr)

namespace WorkerHost
variable (host : WorkerHost)

def artifactFailed {α : Type} (name : PyStr) (reason : String) : Except Collection α :=
  .error (.failed (PyStr.ofString "result artifact " ++ host.repr name ++ PyStr.ofString reason))

/-- One round of the loop: the packed file, and the bytes declared so far. -/
def collectArtifact (total : Nat) (name : PyStr) (descriptor : Json) :
    Except Collection (ArtifactPayload × Nat) := do
  let entry (key : String) : Json := match descriptor with
    | .obj fields => Dict.get fields key
    | _ => .null
  let path : Json := match descriptor with
    | .obj _ => entry "path"
    | value => value
  match path with
  | .str path =>
    match ← (host.output path).mapError .raised with
    | .outside => host.artifactFailed name " escapes output_path"
    | .missing => host.artifactFailed name " was not created"
    | .special => host.artifactFailed name " is not a file or directory"
    | .found filename size packed =>
      if size > host.artifactLimit then
        host.artifactFailed name " exceeds configured size limit"
      else if total + size > host.artifactLimit * 4 then
        throw (.failed (PyStr.ofString "result artifacts exceed configured total size limit"))
      else
        let data ← packed.mapError .raised
        pure (⟨data, entry "media_type", entry "kind", filename⟩, total + size)
  | _ => host.artifactFailed name " has no path"

def collectArtifacts (total : Nat) :
    List (PyStr × Json) → Except Collection (List (PyStr × ArtifactPayload))
  | [] => pure []
  | (name, descriptor) :: rest => do
    let (payload, total) ← host.collectArtifact total name descriptor
    let payloads ← collectArtifacts total rest
    pure ((name, payload) :: payloads)

/-- `collect_result_artifacts`. -/
def collectResultArtifacts (result : Dict) : Except PyStr RawResult :=
  match (result.get "artifacts").or (.obj []) with
  | .obj [] => .ok ⟨result, none⟩
  | .obj declarations =>
    match host.collectArtifacts 0 declarations with
    | .ok payloads => .ok ⟨result, some payloads⟩
    | .error (.failed reason) => .ok ⟨bareResult "failed" reason, none⟩
    | .error (.raised text) => .error text
  | _ => .ok ⟨bareResult "failed" ("result artifacts must be an object" : String), none⟩

/-- `ArtifactStore.put`, over the hexadecimal SHA-256 digest of a byte string. -/
def put (sha256 : ByteArray → String) (data : ByteArray) : Except PyStr Dict := do
  if data.size > host.maxBytes then
    throw (PyStr.ofString
      ("ArtifactError: artifact exceeds " ++ toString host.maxBytes ++ " bytes"))
  let identifier := sha256 data
  host.write identifier data
  pure [("artifact_id", .text identifier), ("size_bytes", .num (.int data.size)),
    ("sha256", .text identifier)]

def persistArtifact (sha256 : ByteArray → String) (artifact : PyStr × ArtifactPayload) :
    Except PyStr (PyStr × Json) := do
  let entry (value : Json) : Option Json := if value = .null then none else some value
  let reference ← host.put sha256 artifact.2.data
  let reference := reference.set "name" (.str artifact.1)
  let reference := reference.setSome "media_type" (entry artifact.2.mediaType)
  let reference := reference.setSome "kind" (entry artifact.2.kind)
  pure (artifact.1, .obj (reference.set "filename" (.str artifact.2.filename)))

/-- `_persist_result_artifacts` on what `raw.pop("_artifact_payloads", {})` returns. JSON holds
no bytes, so a payload among the fields is refused. -/
def persistResultArtifacts (sha256 : ByteArray → String) (raw : RawResult) : Except PyStr Dict :=
  match raw.payloads with
  | some payloads => payloads.mapM (host.persistArtifact sha256)
  | none =>
    match raw.fields.get "_artifact_payloads" with
    | .obj ((name, _) :: _) =>
      .error (PyStr.ofString "TypeError: invalid result artifact payload: " ++ host.repr name)
    | _ => pure []

/-- `_validated_runner_result`. -/
def validatedRunnerResult (raw : RawResult) : Except PyStr RawResult := do
  let errors ← (validateRunnerResultPayload host.encoder raw.fields).mapError host.describe
  if errors ≠ [] then
    throw (PyStr.ofString "ValueError: invalid sandbox result: " ++ PyStr.join "; " errors)
  pure raw

/-- The result a worker builds from what its sandbox returned. -/
def evaluatedResult (execution : ExecutionResult) (fields artifacts : Dict) : ExecutionResult :=
  { execution with
    status := fields.getD "status" (.text "failed")
    score := fields.get "score"
    metrics := (fields.get "metrics").or (.obj [])
    scores := (fields.get "scores").or (.obj [])
    winner := fields.get "winner"
    artifacts := .obj artifacts
    failureReason := fields.get "failure_reason"
    resultVersion := .num (.int resultSchemaVersion)
    judgeVersion := .text "local" }

/-- The result a worker reports for an exception. -/
def containedFailure (execution : ExecutionResult) (text : PyStr) : ExecutionResult :=
  { execution with
    status := .text "failed"
    score := .null
    metrics := .obj []
    scores := .obj []
    winner := .null
    artifacts := .obj []
    failureReason := .str ((PyStr.ofString "worker failure: " ++ text).take 2000)
    resultVersion := .num (.int resultSchemaVersion)
    judgeVersion := .text "local" }

/-- What the sandbox of an execution returned, unless the execution was found canceled before it
started or after it ended. -/
def sandboxResult (canceledBefore canceledAfter : Bool) (run : Except PyStr RawResult) :
    Except PyStr RawResult :=
  if canceledBefore then
    pure ⟨bareResult "canceled" ("execution canceled before start" : String), none⟩
  else do
    let raw ← run
    if canceledAfter then
      pure ⟨bareResult "canceled" ("execution canceled while running" : String), none⟩
    else host.validatedRunnerResult raw

def artifactReferences (sha256 : ByteArray → String) (raw : RawResult) : Except PyStr Dict :=
  if raw.fields.get "status" = .text "canceled" then pure []
  else host.persistResultArtifacts sha256 raw

/-- The `try` block of `process_one`. -/
def evaluate (sha256 : ByteArray → String) (execution : ExecutionResult)
    (canceledBefore canceledAfter : Bool) (run : Except PyStr RawResult) :
    Except PyStr ExecutionResult := do
  let raw ← host.sandboxResult canceledBefore canceledAfter run
  let artifacts ← host.artifactReferences sha256 raw
  pure (evaluatedResult execution raw.fields artifacts)

/-- The result `process_one` hands to `finish`. -/
def workerResult (sha256 : ByteArray → String) (execution : ExecutionResult)
    (canceledBefore canceledAfter : Bool) (run : Except PyStr RawResult) : ExecutionResult :=
  match host.evaluate sha256 execution canceledBefore canceledAfter run with
  | .ok result => result
  | .error text => containedFailure execution text

end WorkerHost

/-- How a worker prints values that are not texts, and what comes of unpacking an artifact into the
bundle: whether it is a directory. -/
structure ArtifactAccess where
  repr : Json → PyStr
  materialize : PyStr → Except PyStr Bool

/-- An agent in the bundle: the artifact it was made from, and its entry among the seats. -/
structure Participant where
  agentId : PyStr
  artifactPath : PyStr
  seat : Dict

/-- `_needs_plugin_runner`. Nothing but a text prints as one of the two kinds. -/
def needsPluginRunner (taskKind : String) (metadata : Dict) : Bool :=
  taskKind = "agent" || taskKind = "game" || metadata.get "evaluation_kind" = .text "agent" ||
    metadata.get "evaluation_kind" = .text "match"

namespace ArtifactAccess
variable (access : ArtifactAccess)

/-- `str(value)`. -/
def str : Json → PyStr
  | .str s => s
  | value => access.repr value

/-- The entry of an agent among the seats of a bundle. -/
def seatEntry (index : Nat) (agentId : PyStr) (metadata : Json) : Dict :=
  let seat : Dict := [("agent_id", .str agentId), ("seat", .num (.int index)),
    ("path", .text ("participants/agent-" ++ toString index))]
  match metadata with
  | .obj fields =>
    let seat := seat.set "metadata" (.obj fields)
    match Dict.get fields "command" with
    | .str command => seat.set "command" (.str command)
    | .arr command => seat.set "command" (.arr command)
    | _ => seat
  | _ => seat

/-- One round of the loop over `agent_definitions`. -/
def stageParticipant (index : Nat) (definition : Json) : Except PyStr Participant :=
  match definition with
  | .obj fields => do
    let agentId := access.str ((Dict.get fields "agent_id").or (.text ""))
    let artifactPath := Dict.get fields "artifact_path"
    if agentId = [] ∨ !artifactPath.truthy then
      throw (PyStr.ofString "ValueError: agent " ++
        (if agentId = [] then PyStr.ofString "<unknown>" else agentId) ++
          PyStr.ofString " has no immutable artifact")
    let directory ← access.materialize (access.str artifactPath)
    if !directory then
      throw (PyStr.ofString "ValueError: agent artifact is not a directory: " ++ agentId)
    pure ⟨agentId, access.str artifactPath, seatEntry index agentId (Dict.get fields "metadata")⟩
  | _ => throw (PyStr.ofString "TypeError: agent definition must be an object")

def stageParticipants (index : Nat) : List Json → Except PyStr (List Participant)
  | [] => pure []
  | definition :: rest => do
    let participant ← access.stageParticipant index definition
    let participants ← stageParticipants (index + 1) rest
    pure (participant :: participants)

/-- The participants that `_stage_plugin_submission` puts into the bundle, if the execution needs
one. -/
def stagePluginSubmission (taskKind : String) (metadata : Dict) :
    Except PyStr (List Participant) :=
  if needsPluginRunner taskKind metadata then
    match (metadata.get "agent_definitions").or (.arr []) with
    | .arr definitions => access.stageParticipants 0 definitions
    | _ => throw (PyStr.ofString "TypeError: agent_definitions must be a list")
  else pure []

end ArtifactAccess

end BrunostJudge
