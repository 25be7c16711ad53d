import OpenReachout.Core.Attribution
import OpenReachout.Core.Worker

/-!
# The operator's interface

`api/app.py`, and the actions of `api/manage.py`: the tokens of the operator, who may ask
for what, and the transaction that a request leads to.
-/

namespace OpenReachout

open Text

set_option autoImplicit false

section Tokens

structure ApiToken where
  name : List Char
  secret : List Char
  scopes : List (List Char)
  deriving DecidableEq

def minSecret : Nat := 16

/-- `name, secret, scopes = entry.split(":", 2)` -/
def splitEntry (entry : List Char) : Except Exc (List Char × List Char × List Char) :=
  match partition ':' entry with
  | none => .error ⟨.valueError, "not enough values to unpack (expected 3, got 1)"⟩
  | some (name, rest) =>
      match partition ':' rest with
      | none => .error ⟨.valueError, "not enough values to unpack (expected 3, got 2)"⟩
      | some (secret, scopes) => .ok (name, secret, scopes)

def parseToken (platform : Platform) (entry : List Char) : Except Exc ApiToken := do
  let (name, secret, scopes) ← splitEntry entry
  if secret.length < minSecret then
    throw ⟨.valueError, "API token " ++ String.ofList (platform.repr name) ++
      " secret is too short (min 16 chars)"⟩
  pure ⟨name, secret, scopes.splitOn '|'⟩

def tokenEntries (raw : List Char) : List (List Char) :=
  ((raw.splitOn ',').map Platform.strip).filter fun entry => !entry.isEmpty

def parseTokens (platform : Platform) (raw : List Char) : Except Exc (List ApiToken) :=
  (tokenEntries raw).mapM (parseToken platform)

end Tokens

section Access

/-- How a request fails: by an `HTTPException`, or by what nothing catches. -/
inductive Failure where
  | http (status : Nat) (detail : String)
  | unhandled (error : Exc)

/-- What the interface is configured with. The token of the management surface is empty
where none is set, and the sending provider reads a webhook unless its signature is wrong. -/
structure ApiServer where
  platform : Platform
  key : List Char
  tokens : List ApiToken
  manageToken : List Char
  parseWebhook : String → String → Option (List ProviderEvent)

/-- `create_app`: a key and tokens that are not given are those of the environment. -/
def createApp (platform : Platform) (attributionKey environmentKey : List Char)
    (tokens : Option (List ApiToken)) (environmentTokens manageToken : List Char)
    (parseWebhook : String → String → Option (List ProviderEvent)) : Except Exc ApiServer := do
  let key := if attributionKey.isEmpty then environmentKey else attributionKey
  if key.isEmpty then throw ⟨.runtimeError, "OR_ATTRIBUTION_KEY is not set"⟩
  let tokens ← match tokens with
    | some tokens => pure tokens
    | none => parseTokens platform environmentTokens
  pure { platform, key, tokens, manageToken, parseWebhook }

/-- `text.removeprefix(front)` -/
def removePrefix (front text : List Char) : List Char :=
  if front.isPrefixOf text then text.drop front.length else text

/-- The first token with the secret is the one that is asked. -/
def authorize (scope : String) (secret : List Char) : List ApiToken → Except Failure ApiToken
  | [] => .error (.http 401 "invalid token")
  | token :: rest =>
      match compareDigest token.secret secret with
      | .error error => .error (.unhandled error)
      | .ok true =>
          if token.scopes.contains scope.toList then .ok token
          else .error (.http 403 ("token lacks scope '" ++ scope ++ "'"))
      | .ok false => authorize scope secret rest

/-- `require(scope)`, with the header of the request -/
def ApiServer.require (server : ApiServer) (scope : String) (authorization : List Char) :
    Except Failure ApiToken :=
  authorize scope (Platform.strip (removePrefix "Bearer ".toList authorization)) server.tokens

/-- `_check_manage`, with the token of the query -/
def ApiServer.checkManage (server : ApiServer) (given : List Char) : Except Failure Unit :=
  if server.manageToken.isEmpty then
    .error (.http 403 "management surface disabled (no manage token configured)")
  else if given ≠ server.manageToken then
    .error (.http 401 "manage token required (?manage_token=...)")
  else .ok ()

end Access

section Requests

/-- The actions of the management surface. -/
inductive ManageAction where
  | approveProposal (proposalId : Uuid)
  | declineProposal (proposalId : Uuid)
  | rampSend (touchId : Uuid)
  | rampReject (touchId : Uuid)
  | taskDone (taskId : Uuid)
  | taskSkip (taskId : Uuid)
  | pauseTenant (tenant : String)
  | resumeTenant (tenant : String)

inductive Request where
  | conversions (authorization token : List Char)
  | forget (authorization : List Char) (ref : ForgetRef)
  | halt (authorization : List Char) (scope : String)
  | resume (authorization : List Char) (scope : String)
  | operatorEvents (authorization : List Char) (eventType : String) (selector : Payload)
      (dedupeKey : Option String)
  | funnel (authorization : List Char)
  | providerHook (payload signature : String)
  | manage (manageToken : List Char) (action : ManageAction)

/-- `ACTOR` of the management surface -/
def dashboardActor : String := "operator:dashboard"

/-- `f"operator:{token.name}"` -/
def ApiToken.actor (token : ApiToken) : String := "operator:" ++ String.ofList token.name

def ManageAction.op : ManageAction → Op
  | .approveProposal proposalId => .approveProposal proposalId dashboardActor
  | .declineProposal proposalId => .declineProposal proposalId dashboardActor ""
  | .rampSend touchId => .approvePending touchId dashboardActor
  | .rampReject touchId => .rejectPending touchId dashboardActor ""
  | .taskDone taskId => .resolveTask taskId dashboardActor true ""
  | .taskSkip taskId => .resolveTask taskId dashboardActor false ""
  | .pauseTenant tenant => .halt tenant dashboardActor "halted"
  | .resumeTenant tenant => .resume tenant dashboardActor

/-- `CAST(:i AS uuid)` of the touch that a link names -/
def castTouch (touchId : List Char) : Except Failure Uuid :=
  match parseUuid touchId with
  | some id => .ok id
  | none => .error (.unhandled ⟨.databaseError, "invalid input syntax for type uuid"⟩)

/-- The transaction that a request leads to, if it leads to one that writes. -/
def ApiServer.respond (server : ApiServer) : Request → Except Failure (Option Op)
  | .conversions authorization token => do
      let _ ← server.require "conversions:write" authorization
      match verify server.platform token server.key with
      | .error error => throw (.unhandled error)
      | .ok none => throw (.http 401 "invalid attribution token")
      | .ok (some touchId) => do
          let id ← castTouch touchId
          pure (some (.recordConversion id))
  | .forget authorization ref => do
      let _ ← server.require "privacy:write" authorization
      pure (some (.forget ref))
  | .halt authorization scope => do
      let token ← server.require "control:write" authorization
      pure (some (.halt scope token.actor "halted"))
  | .resume authorization scope => do
      let token ← server.require "control:write" authorization
      pure (some (.resume scope token.actor))
  | .operatorEvents authorization eventType selector dedupeKey => do
      let _ ← server.require "events:write" authorization
      if eventType = "" then throw (.http 422 "String should have at least 1 character")
      pure (some (.operatorEvent eventType selector dedupeKey))
  | .funnel authorization => do
      let _ ← server.require "read" authorization
      pure none
  | .providerHook payload signature =>
      match server.parseWebhook payload signature with
      | none => throw (.http 401 "invalid signature")
      | some events => pure (some (.ingestEvents events))
  | .manage manageToken action => do
      server.checkManage manageToken
      pure (some action.op)

end Requests

end OpenReachout
