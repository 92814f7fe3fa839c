import BrunostJudge.AccessScopes
import BrunostJudge.PyCollections
import BrunostJudge.Server
import BrunostJudge.Transition

namespace BrunostJudge
open Python Relational Transition JudgeStore
set_option autoImplicit true

structure ServiceCredential where
  credentialId : String
  name : String
  tokenHash : String
  scopes : List String
  expiresAt : Option Instant
  revokedAt : Option Instant
deriving DecidableEq

instance ServiceCredential.keyed : Keyed ServiceCredential String :=
  ⟨ServiceCredential.credentialId⟩

@[simp] theorem ServiceCredential.key_eq (c : ServiceCredential) :
    Keyed.key c = c.credentialId := rfl

/-- The row of a new credential. Its token is kept as a digest. -/
def ServiceCredential.fresh (sha256 : ByteArray → String) (credentialId name token : String)
    (scopes : List String) (expiresAt : Option Instant) : ServiceCredential where
  credentialId := credentialId
  name := name
  tokenHash := digestSecret sha256 token
  scopes := sortedSet scopes
  expiresAt := expiresAt
  revokedAt := none

/-- `create_service_credential`. Ids and digests are unique. -/
def createServiceCredential (t : Table ServiceCredential) (row : ServiceCredential) :
    Except PyError (Table ServiceCredential) :=
  if t.rows.any fun c => c.tokenHash = row.tokenHash then .error .integrityError
  else
    match t.insert? row with
    | some t => .ok t
    | none => .error .integrityError

/-- The loop of `verify_service_token`: the row with the digest of the token decides. -/
def grantedBy (now : Instant) (tokenHash : String) (scope : Scope) :
    List ServiceCredential → Option String
  | [] => none
  | row :: rows =>
    if row.tokenHash ≠ tokenHash then grantedBy now tokenHash scope rows
    else if row.expiresAt.any (isExpired now) then none
    else if row.scopes.contains scope.text then some row.credentialId
    else none

/-- `verify_service_token`. -/
def verifyServiceToken (sha256 : ByteArray → String) (t : Table ServiceCredential) (now : Instant)
    (token : String) (scope : Scope) : Option String :=
  grantedBy now (digestSecret sha256 token) scope (t.rows.filter fun c => c.revokedAt = none)

/-- `revoke_service_credential`. -/
def revokeServiceCredential (t : Table ServiceCredential) (now : Instant) (credentialId : String) :
    Bool × Table ServiceCredential :=
  let selected (c : ServiceCredential) :=
    decide (c.credentialId = credentialId) && c.revokedAt = none
  (0 < t.count selected,
    t.update selected (fun c => { c with revokedAt := some now }) (by intro _; rfl))

def maxSecretFileBytes : Nat := 4096

/-- What `configured_secret` makes of the contents of the file it reads. -/
def secretFileValue (path : String) : Except String ByteArray → Except String String
  | .error reason => .error ("could not read secret file " ++ path ++ ": " ++ reason)
  | .ok data =>
    if maxSecretFileBytes < data.size then
      .error ("secret file " ++ path ++ " exceeds " ++ toString maxSecretFileBytes ++ " bytes")
    else
      match String.fromUTF8? data with
      | none => .error ("secret file " ++ path ++ " is not valid UTF-8")
      | some text => .ok (strip text)

/-- `configured_secret`, for a secret that is not required. There is no file when its path is
empty. -/
def configuredSecret (name : String) (environment : Option String) (path : String)
    (file : Except String ByteArray) : Except String (Option String) := do
  let fileValue ← if path = "" then pure none else (secretFileValue path file).map some
  match given (environment.map strip), given fileValue with
  | some value, some fromFile =>
    if value ≠ fromFile then throw (name ++ " and " ++ name ++ "_FILE contain different secrets")
    else pure (some value)
  | some value, none => pure (some value)
  | none, fromFile => pure fromFile

/-- What `write_secret_file` puts into the file. -/
def secretFileText (value : String) : ByteArray :=
  (String.ofList (value.toList.rdropWhile (· = '\n')) ++ "\n").toByteArray

/-- The settings of the control plane that say who may use it. A path is the empty text when it is
not set. -/
structure AccessSettings where
  apiToken : Option String
  apiTokenFile : String
  requireApiToken : Option Bool
  allowAnonymousApi : Bool

/-- What authentication reads: the credentials, and the file of the administrator's token. -/
structure AccessStore where
  credentials : Table ServiceCredential
  tokenFile : Except String ByteArray

/-- Who a request is made by. -/
inductive Subject where
  | anonymous
  | admin
  | service (credentialId : String)
deriving DecidableEq

/-- `bearer_token`. -/
def bearerToken (authorization : Option String) : Option String :=
  match authorization with
  | none => none
  | some header =>
    if "Bearer ".toList.isPrefixOf header.toList then
      given (some (strip (String.ofList (header.toList.drop 7))))
    else none

/-- `_configured_admin_token`. -/
def AccessSettings.adminToken (cfg : AccessSettings) (s : AccessStore) :
    Except Failure (Option String) :=
  (configuredSecret "BRUNOST_JUDGE_API_TOKEN" cfg.apiToken cfg.apiTokenFile s.tokenFile).mapError
    fun message => .http 503 (PyStr.ofString message)

/-- `require_api_token`. -/
def requireApiToken (sha256 : ByteArray → String) (urlPath : ApiRequest → PyStr)
    (cfg : AccessSettings) (s : AccessStore) (now : Instant) (request : ApiRequest)
    (authorization : Option String) : Except Failure Subject := do
  let expected ← cfg.adminToken s
  match bearerToken authorization with
  | some token =>
    if expected = some token then pure .admin
    else
      match given (verifyServiceToken sha256 s.credentials now token
        (requiredScope request.method (urlPath request))) with
      | some credentialId => pure (.service credentialId)
      | none => abort 401 ("invalid judge API credential" : String)
  | none =>
    if expected.isSome then abort 401 ("judge API credential required" : String)
    else if cfg.requireApiToken.getD (!cfg.allowAnonymousApi) || !cfg.allowAnonymousApi then
      abort 503 ("judge API token is not configured" : String)
    else pure .anonymous

/-- A request to the API. Only those to `/v1/auth` change who may use it. -/
inductive AccessCall where
  | createServiceCredential (name : String) (scopes : List String) (ttlSeconds : Option Int)
  | revokeServiceCredential (credentialId : String)
  | rotateAdminToken
  | other (method : Method) (path : PyStr)
deriving DecidableEq

def AccessCall.method : AccessCall → Method
  | .other method _ => method
  | _ => .post

def AccessCall.path : AccessCall → PyStr
  | .createServiceCredential .. => "/v1/auth/service-credentials"
  | .revokeServiceCredential credentialId =>
    PyStr.ofString "/v1/auth/service-credentials/" ++ credentialId ++ PyStr.ofString "/revoke"
  | .rotateAdminToken => "/v1/auth/admin-token/rotate"
  | .other _ path => path

/-- A request is routed by its method and path. A line break at the end of the path is not seen. -/
def ApiRequest.asks (request : ApiRequest) (call : AccessCall) : Prop :=
  request.method = call.method ∧
    (request.path = call.path ∨ request.path = call.path ++ PyStr.ofString "\n")

/-- How `write_secret_file` ends. It may raise after it has replaced the file. -/
inductive SecretWrite where
  | written
  | failed (reason : String) (replaced : Bool)
deriving DecidableEq

/-- What an endpoint draws at random, and what the file system does. -/
structure Draw where
  credentialId : String
  secret : String
  write : SecretWrite

inductive AccessReply where
  | credential (credentialId name : String) (scopes : List String) (expiresAt : Option Instant)
      (token : String)
  | revoked (credentialId : String)
  | rotated (token tokenFile : String)
  | other

def serviceScopes : List Scope := [.read, .write, .admin]

/-- The endpoints, once a request is let in. -/
def AccessStore.perform (sha256 : ByteArray → String) (cfg : AccessSettings) (s : AccessStore)
    (now : Instant) (draw : Draw) : AccessCall → Except Failure AccessReply × AccessStore
  | .createServiceCredential name scopes ttlSeconds =>
    if ¬sortedSet scopes ⊆ serviceScopes.map Scope.text then
      (abort 422 ("scopes must be drawn from " ++
        "['judge:admin', 'judge:read', 'judge:write']" : String), s)
    else
      match ttlSeconds.mapM fun ttl => now.addSeconds (max 60 ttl) with
      | .error err => (.error (.raised err), s)
      | .ok expiresAt =>
        let row := .fresh sha256 draw.credentialId (strip name) draw.secret scopes expiresAt
        match BrunostJudge.createServiceCredential s.credentials row with
        | .error err => (.error (.raised err), s)
        | .ok credentials =>
          (.ok (.credential row.credentialId row.name row.scopes expiresAt draw.secret),
            { s with credentials := credentials })
  | .revokeServiceCredential credentialId =>
    let p := BrunostJudge.revokeServiceCredential s.credentials now credentialId
    if p.1 then (.ok (.revoked credentialId), { s with credentials := p.2 })
    else (abort 404 ("service credential not found" : String), s)
  | .rotateAdminToken =>
    if cfg.apiTokenFile = "" then
      (abort 503 ("admin token rotation requires BRUNOST_JUDGE_API_TOKEN_FILE" : String), s)
    else if (given (cfg.apiToken.map strip)).isSome then
      (abort 409 ("remove BRUNOST_JUDGE_API_TOKEN and use BRUNOST_JUDGE_API_TOKEN_FILE for " ++
        "reloadable rotation" : String), s)
    else
      let replaced := { s with tokenFile := .ok (secretFileText draw.secret) }
      match draw.write with
      | .written => (.ok (.rotated draw.secret cfg.apiTokenFile), replaced)
      | .failed reason done =>
        (abort 503 ("could not rotate admin token: " ++ reason : String),
          if done then replaced else s)
  | .other .. => (.ok .other, s)

/-- The control plane: requests are let in, and served later on. -/
structure AccessState where
  store : AccessStore
  admitted : List (AccessCall × Subject)

inductive AccessEvent where
  | check (now : Instant) (authorization : Option String) (request : ApiRequest)
      (call : AccessCall) (outcome : Except Failure Subject)
  | serve (now : Instant) (draw : Draw) (call : AccessCall) (subject : Subject)
      (outcome : Except Failure AccessReply)

section
variable (sha256 : ByteArray → String) (urlPath : ApiRequest → PyStr) (cfg : AccessSettings)

inductive AccessStep : AccessState → AccessEvent → AccessState → Prop
  | permit {s now authorization request call subject} : request.asks call →
      requireApiToken sha256 urlPath cfg s.store now request authorization = .ok subject →
      AccessStep s (.check now authorization request call (.ok subject))
        { s with admitted := (call, subject) :: s.admitted }
  | refuse {s now authorization request call failure} : request.asks call →
      requireApiToken sha256 urlPath cfg s.store now request authorization = .error failure →
      AccessStep s (.check now authorization request call (.error failure)) s
  | serve {s now draw call subject} : (call, subject) ∈ s.admitted →
      AccessStep s
        (.serve now draw call subject (s.store.perform sha256 cfg now draw call).1)
        ⟨(s.store.perform sha256 cfg now draw call).2, s.admitted.erase (call, subject)⟩

/-- Requests and their endpoints in any order, from a deployment without credentials. -/
abbrev AccessRun (file : Except String ByteArray) : List AccessEvent → AccessState → Prop :=
  Run (· = ⟨⟨.empty, file⟩, []⟩) (AccessStep sha256 urlPath cfg)

/-- The row that an event adds. -/
def AccessEvent.creates : AccessEvent → Option ServiceCredential
  | .serve _ _ (.createServiceCredential _ scopes _) _
      (.ok (.credential credentialId name _ expiresAt token)) =>
    some (.fresh sha256 credentialId name token scopes expiresAt)
  | _ => none

end

/-- The credential that an event revokes. -/
def AccessEvent.revokes : AccessEvent → Option String
  | .serve _ _ _ _ (.ok (.revoked credentialId)) => some credentialId
  | _ => none

/-- The token that an event makes the administrator's, where tokens can be rotated. -/
def AccessEvent.rotates : AccessEvent → Option String
  | .serve _ draw .rotateAdminToken _ _ =>
    match draw.write with
    | .written | .failed _ true => some draw.secret
    | .failed _ false => none
  | _ => none

end BrunostJudge
