import Absm.Api.Auth
import Absm.Foundation.Middleware

/-! The middleware that writes an audit record for the requests that it sees. -/

namespace Absm

/-- What is logged about a request. -/
structure AuditRecord (T : Type) where
  /-- When the record was made. -/
  timestamp : T
  /-- The subject of the token. -/
  userId : String
  /-- The role of the token. -/
  role : String
  /-- The method of the request. -/
  method : String
  /-- The path of the request. -/
  path : String
  /-- The status code of the response. -/
  statusCode : Nat
  /-- The identifier of the request. -/
  requestId : String
  /-- The hash of the client's address. -/
  ipHash : String
  deriving DecidableEq

/-- What the audit takes from the standard library and from the web framework. -/
structure AuditTools where
  /-- A random identifier, which is another one each time. -/
  uuid4 : Nat → String
  /-- The path of the URL of a request. The URL is put together from the `Host` header and the path and
  taken apart again, which raises a `ValueError` over a header such as `[`. -/
  urlPath : Request → Except PyError String
  /-- The hash of a text, in hexadecimal digits. -/
  sha256 : String → String

/-- Serving by the API: requests, responses, exceptions, what changes and the audit records. -/
abbrev ApiServed (T K S : Type) := Served (Response K) ApiException (Site S) (AuditRecord T)

/-- An application of the API. -/
abbrev ApiApplication (T K S : Type) :=
  Application Request (Response K) ApiException (Site S) (AuditRecord T)

/-- A middleware of the API. -/
abbrev ApiMiddleware (T K S : Type) :=
  Middleware Request (Response K) ApiException (Site S) (AuditRecord T)

variable {T K S : Type} (jose : Jose T K) (settings : ApiSettings) (tools : AuditTools)
  (clock : Nat → T)

/-- The user and the role that a record names, unless an exception comes out. -/
def auditIdentity (now : T) (authorizationHeader : String) : Except ApiException (String × String) :=
  if startsWith authorizationHeader "Bearer " then
    let token := strip (removePrefix authorizationHeader "Bearer ")
    if token = "" then .ok ("anonymous", "anonymous")
    else
      match verifyToken jose settings now token with
      | .ok user => .ok (user.sub, user.role)
      -- Nothing but an `HTTPException` is caught.
      | .error (.http _) => .ok ("unauthenticated", "unauthenticated")
      | .error raised => .error raised
  else .ok ("anonymous", "anonymous")

/-- The record about a request whose response is known, with the user and the role that it names and the
path of its URL. -/
def auditRecord (requestId : String) (request : Request) (identity : String × String) (path : String)
    (response : Response K) (now : T) : AuditRecord T :=
  -- The client's address is hashed, also when there is none.
  ⟨now, identity.1, identity.2, request.method, path, response.statusCode, requestId,
    tools.sha256 (request.client.getD "unknown")⟩

/-- Write a record once the response is there; an exception goes through without one. -/
def auditMiddleware : ApiMiddleware T K S := fun callNext request site =>
  let requestId := (request.header "x-request-id").getD (tools.uuid4 site.readings)
  let served := callNext request site
  match served.outcome with
  | .error _ => served
  | .ok response =>
    match auditIdentity jose settings (clock served.state.readings) request.authorization with
    -- An exception of the audit comes out instead of the response, which is lost.
    | .error raised => { served with outcome := .error raised, state := served.state.tick }
    | .ok identity =>
      match tools.urlPath request with
      | .error error => { served with outcome := .error (.unhandled error), state := served.state.tick.tick }
      | .ok path =>
        { served with
          state := served.state.tick.tick
          records := served.records ++ [auditRecord tools requestId request identity path response
            (clock served.state.tick.readings)] }

/-- What is written of a record. -/
def auditPayload (F : Type) (isoformat : T → String) (record : AuditRecord T) : Json F :=
  -- The keys stand in the order in which the source writes them.
  .object [("timestamp", .str (isoformat record.timestamp)), ("user_id", .str record.userId),
    ("role", .str record.role), ("method", .str record.method), ("path", .str record.path),
    ("status_code", .int record.statusCode), ("request_id", .str record.requestId),
    ("ip_hash", .str record.ipHash)]

/-- The message that is logged for a record. -/
def auditMessage (F : Type) [FloatRepr F] (isoformat : T → String) (record : AuditRecord T) : List Char :=
  -- The serializer escapes whatever is not printable ASCII.
  dump (auditPayload F isoformat record)

end Absm
