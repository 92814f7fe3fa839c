import BrunostJudge.Executions
import BrunostJudge.PyEncoding

namespace BrunostJudge
open Python Relational JudgeStore
set_option autoImplicit true

namespace PostgresJudgeStore

/-- psycopg encodes a `str` as UTF-8, and refuses one that holds a NUL. -/
def sendText (text : PyStr) : Except PyError String :=
  if text.contains 0 then .error .dataError else bindStr text

/-- Two surrogates that are one character in UTF-16. -/
def isPair (c d : CodePoint) : Bool :=
  0xD800 ≤ c.val && c.val < 0xDC00 && (0xDC00 ≤ d.val && d.val ≤ 0xDFFF)

def pairPoint (c d : CodePoint) : CodePoint :=
  Fin.ofNat _ (0x10000 + (c.val - 0xD800) * 0x400 + (d.val - 0xDC00))

/-- The string that `jsonb` reads where `json.dumps` escaped one. It has no place for a lone
surrogate or a NUL. -/
def jsonbText : PyStr → Except PyError PyStr
  | [] => pure []
  | [c] => if c = 0 ∨ c.isSurrogate then throw .dataError else pure [c]
  | c :: d :: text =>
    if isPair c d then return pairPoint c d :: (← jsonbText text)
    else if c = 0 ∨ c.isSurrogate then throw .dataError
    else return c :: (← jsonbText (d :: text))

/-- The parameters of the scan: the filters as they are sent, then the capabilities as the database
reads them. -/
def bindScan (request : ClaimRequest) : Except PyError (List PyStr) := do
  let _ ← request.filters.mapM sendText
  (sortedTexts (request.capabilities.getD [])).mapM jsonbText

namespace Serial

/-- `CASE WHEN jsonb_typeof(value) = 'array' THEN value ELSE '[]'::jsonb END`. -/
def jsonbItems : Json → List Json
  | .arr items => items
  | _ => []

/-- `texts @> items` for arrays of `jsonb`, the left one of strings. -/
def jsonbContains (texts : List PyStr) (items : List Json) : Bool :=
  items.all fun x => texts.any fun t => x = .str t

/-- The `WHERE` clause on a joined row. -/
def capable (available : List PyStr) (c : Execution × TaskRecord) : Bool :=
  jsonbContains available
    (jsonbItems (c.2.manifest.get "required_capabilities") ++
      jsonbItems (c.1.metadataJson.get "required_capabilities"))

/-- The first `UPDATE`: an execution to be canceled whose lease has run out. -/
def abandoned (now : Instant) (r : Execution) : Execution :=
  { r with status := .canceled, workerId := none, leaseExpiresAt := none, updatedAt := now }

theorem abandoned_key (now : Instant) (r : Execution) :
    Keyed.key (abandoned now r) = Keyed.key r := rfl

def leaseAbandoned (now : Instant) (r : Execution) : Bool :=
  r.status = .running && r.cancelRequested && r.leaseExpiresAt.any (· ≤ now)

/-- The two `UPDATE`s and the insertions that follow, for the rows that the first one returned. -/
def expireLeases (s : JudgeStore) (now : Instant) : JudgeStore :=
  let expired := (s.executions.rows.filter (leaseAbandoned now)).map (abandoned now)
  let executions := s.executions.update (leaseAbandoned now) (abandoned now) (abandoned_key now)
  let executions := executions.update (leaseOver now) (giveBack now) (giveBack_key now)
  { s with
    executions := executions
    callbackDeliveries := expired.foldl (fun t r => notifyTerminal t r.toSubmission now)
      s.callbackDeliveries }

/-- `SELECT … JOIN tasks … WHERE … ORDER BY … LIMIT 1`. -/
def nextCandidate (s : JudgeStore) (request : ClaimRequest) (available : List PyStr) :
    Option (Execution × TaskRecord) :=
  let joined := s.executions.rows.filterMap fun r =>
    (s.tasks.find? r.taskRef).map fun task => (r, task)
  let rows := joined.filter fun c =>
    selectable request.queues request.resourceClasses c.1 && capable available c
  (rows.insertionSort claimOrder).head?

def claimNext (s : JudgeStore) (now : Instant) (request : ClaimRequest) :
    Except PyError (Option Claim × JudgeStore) := do
  let s := expireLeases s now
  let available ← bindScan request
  match nextCandidate s request available with
  | none => pure (none, s)
  | some c =>
    let row := c.1
    let lease ← now.addSeconds (max 1 request.leaseSeconds)
    let worker ← sendText request.workerId
    let s := { s with
      executions := s.executions.update (fun r => decide (r.executionId = row.executionId))
        (claimed now lease worker) (claimed_key now lease worker) }
    match s.tasks.find? row.taskRef, s.getExecution row.executionId with
    | some task, some execution =>
      pure (some {
        execution := execution
        task := task
        context := {
          callbackUrl := row.callbackUrl
          callbackToken := row.callbackToken
          submissionPath := row.submissionPath
          queue := row.queue
          resourceClass := row.resourceClass
          leaseSeconds := max 1 request.leaseSeconds } }, s)
    | _, _ => pure (none, s)

end Serial

end PostgresJudgeStore

end BrunostJudge
