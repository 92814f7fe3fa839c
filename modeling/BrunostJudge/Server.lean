import BrunostJudge.Executions
import BrunostJudge.Registry

namespace BrunostJudge
open Python
set_option autoImplicit true

/-- How a request fails: as an HTTP error, or by an exception that nothing handles. -/
inductive Failure where
  | http (status : Nat) (detail : PyStr)
  | raised (err : PyError)
deriving DecidableEq

def abort {α : Type} (status : Nat) (detail : PyStr) : Except Failure α :=
  .error (.http status detail)

def unhandled {α : Type} (x : Except PyError α) : Except Failure α := x.mapError .raised

/-- What the callback policy reads of a parsed URL. The host name is in lower case, and the port
is a property that may raise. -/
structure ParsedUrl where
  scheme : String
  netloc : String
  username : Option String
  password : Option String
  hostname : Option String
  fragment : String
  port : Except PyError (Option Int)

/-- The settings of a deployment, and how its Python parses URLs and prints values. -/
structure Deployment where
  production : Bool
  requireIdempotencyHeader : Bool
  requireHttpsCallbacks : Bool
  callbackHosts : List String
  allowInternalHttpCallbacks : Bool
  requireSignedCallbacks : Bool
  callbackSigningSecret : Except PyStr (Option String)
  urlparse : String → Except PyError ParsedUrl
  repr : Json → PyStr
  describe : PyError → PyStr

/-- A text that is neither `None` nor empty. -/
def given (value : Option String) : Option String := value.filter (· ≠ "")

/-- `str(value)` of a manifest entry. -/
def Deployment.str (d : Deployment) : Json → PyStr
  | .str s => s
  | .num (.int i) => (toString i : String)
  | value => d.repr value

def ParsedUrl.hostAllowed (url : ParsedUrl) (hosts : List String) : Bool :=
  (given url.hostname).any hosts.contains

def ParsedUrl.absolute (url : ParsedUrl) : Bool :=
  (url.scheme = "http" || url.scheme = "https") && url.netloc ≠ "" &&
    (given url.username).isNone && (given url.password).isNone && url.fragment = ""

def ParsedUrl.portValid (url : ParsedUrl) : Bool :=
  match url.port with
  | .ok none => true
  | .ok (some port) => 1 ≤ port && port ≤ 65535
  | .error _ => false

/-- `_validate_callback_url`. -/
def Deployment.validateCallbackUrl (d : Deployment) (callbackUrl : Option String) :
    Except Failure (Option String) := do
  match given callbackUrl with
  | none => pure none
  | some url =>
    let parsed ← unhandled (d.urlparse url)
    if !parsed.absolute then
      abort 422 ("callback_url must be an absolute http(s) URL" : String)
    if !parsed.portValid then
      abort 422 ("callback_url has an invalid port" : String)
    if (d.production || d.requireHttpsCallbacks) && parsed.scheme ≠ "https" &&
        !(d.allowInternalHttpCallbacks && parsed.hostAllowed d.callbackHosts) then
      abort 422 ("callback_url must use https in production" : String)
    if d.production && d.callbackHosts.isEmpty then
      abort 503 ("BRUNOST_JUDGE_CALLBACK_HOSTS is required in production" : String)
    if !d.callbackHosts.isEmpty && !parsed.hostAllowed d.callbackHosts then
      abort 422 ("callback host is not allowed" : String)
    if d.production || d.requireSignedCallbacks then
      match d.callbackSigningSecret with
      | .error message => abort 503 message
      | .ok secret =>
        if (given secret).isNone then
          abort 503 ("signed callbacks are required but no callback signing secret is configured"
            : String)
    pure (some url)

/-- The control plane: its database, and the ids of the artifacts it holds. -/
structure Server where
  store : JudgeStore
  artifacts : List String

namespace Server

def empty : Server := ⟨.empty, []⟩

/-- `_artifact_path`. -/
def artifactPath (server : Server) (identifier : Option String) : Except Failure String :=
  match given identifier with
  | none => abort 422 ("artifact_id is required" : String)
  | some id =>
    if server.artifacts.contains id then pure ("artifact://" ++ id)
    else abort 404 ("artifact not found: " ++ id : String)

end Server

end BrunostJudge
