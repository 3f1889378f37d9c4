import Absm.Api.Main

/-! A service whose libraries are as simple as they can be: one signed token, no limits and plain
responses. -/

namespace Absm

/-- The settings of the service. -/
def plainSettings : ApiSettings := ⟨"test-secret", "absm-issuer", ["https://example.test"]⟩

/-- The claims about an analyst whose token lasts until a moment. -/
def plainClaims (exp : Int) : Dict String (Json Unit) :=
  .ofList [("sub", .str "user-1"), ("role", .str "analyst"), ("iss", .str "absm-issuer"), ("exp", .int exp)]

/-- A library for which one token is signed. -/
def plainJose (exp : Int) : CheckedJose Int Unit :=
  -- One token is signed, and its `exp` claim is a number of seconds.
  .ofSigned
    (fun token key _ => if token = "token" ∧ key = "test-secret" then some (plainClaims exp) else none)
    fun
    | .int seconds => some seconds
    | _ => none

/-- A limiter that never refuses. -/
def plainLimiter : Limiter Int Unit where
  -- Every hit is within the limit.
  remoteAddress client := client.getD "127.0.0.1"
  hit _ _ _ _ _ _ := (true, ())

/-- A framework that knows paths without parameters, and answers in plain words. -/
def plainFramework : Framework Unit where
  -- Only paths without parameters are matched.
  pathParams template path := if template = path then some fun _ => "" else none
  elsewhere _ := .error (.http ⟨404, "Not Found"⟩)
  httpExceptionResponse exception :=
    .json exception.statusCode (.object [("detail", .str exception.detail)])
  rateLimitResponse _ limit := .json 429 (.object [("error", .str ("Rate limit exceeded: " ++ limit))])
  preflightResponse options request :=
    if (request.header "origin").any (· ∈ options.allowOrigins) then .json 200 (.str "OK")
    else .json 400 (.str "Disallowed CORS origin")
  simpleResponse _ _ response := response

/-- The request of an analyst for the alerts. -/
def plainListing : Request := ⟨"GET", "/alerts", [("authorization", "Bearer token")], some "203.0.113.7"⟩

/-- The route that serves it. -/
def plainRoute : GuardedRoute Unit :=
  ⟨"GET", "/alerts", "analyst", "100/minute", "list_alerts", fun _ user => listAlerts user⟩

/-- Identifiers and hashes that can be read, and URLs whose host has brackets in pairs. -/
def plainTools : AuditTools where
  -- A host with one bracket is taken for a broken IPv6 address.
  uuid4 number := "request-" ++ toString number
  urlPath request :=
    let host := ((request.header "host").getD "").toList
    if '[' ∈ host ↔ ']' ∈ host then .ok request.path else .error (.valueError "Invalid IPv6 URL")
  sha256 text := "hash of " ++ text

end Absm
