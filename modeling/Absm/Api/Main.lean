import Absm.Api.AuditLogger
import Absm.Api.Routes.Alerts

/-! The application: its routes and the middlewares around them. -/

namespace Absm

/-- How browsers of other origins may use the API. -/
structure CorsOptions where
  /-- The origins that they may call from. -/
  allowOrigins : List String
  /-- Whether they may send credentials. -/
  allowCredentials : Bool
  /-- The methods that they may use. -/
  allowMethods : List String
  /-- The headers that they may send. -/
  allowHeaders : List String

/-- What the web framework does on its own. -/
structure Framework (K : Type) where
  /-- The parameters of a path that a template matches. -/
  pathParams : (template path : String) → Option (String → String)
  /-- The outcome for a request that none of the application's routes serves. -/
  elsewhere : Request → Except ApiException (Response K)
  /-- The response that an `HTTPException` becomes. -/
  httpExceptionResponse : HTTPException → Response K
  /-- The response that a `RateLimitExceeded` becomes, given the limit. -/
  rateLimitResponse : Request → String → Response K
  /-- The answer to a browser that asks for permission. -/
  preflightResponse : CorsOptions → Request → Response K
  /-- What a response to a browser looks like. -/
  simpleResponse : CorsOptions → Request → Response K → Response K

/-- The options for browsers that the application is set up with. -/
def corsOptions (settings : ApiSettings) : CorsOptions where
  allowOrigins := settings.allowedOrigins
  allowCredentials := true
  allowMethods := ["GET", "POST", "DELETE"]
  allowHeaders := ["Authorization", "Content-Type", "X-Request-ID"]

/-- A browser asks for permission before it sends the request that it wants to send. -/
def Request.Preflight (request : Request) : Prop :=
  -- Both headers have to be there, whatever they say.
  request.method = "OPTIONS" ∧ request.header "origin" ≠ none ∧
    request.header "access-control-request-method" ≠ none
  deriving Decidable

/-- The part of the application inside all middlewares. -/
abbrev RouteHandler (K S : Type) := Request → Site S → Except ApiException (Response K) × Site S

variable {T K S : Type}

/-- Add the headers that harden browsers. -/
def addSecurityHeaders : ApiMiddleware T K S := fun callNext request site =>
  -- Whatever the layers behind answer, the two headers are set or replaced.
  (callNext request site).mapResponse fun response =>
    { response with
      headers := (response.headers.set "X-Frame-Options" "DENY").set "X-Content-Type-Options" "nosniff" }

/-- Answer a browser that asks for permission, and hand other requests on. -/
def corsMiddleware (framework : Framework K) (options : CorsOptions) : ApiMiddleware T K S :=
  -- Without an `Origin` header the request passes; a preflight request ends here.
  fun callNext request site =>
    if request.header "origin" = none then callNext request site
    else if request.Preflight then ⟨.ok (framework.preflightResponse options request), site, []⟩
    else (callNext request site).mapResponse (framework.simpleResponse options request)

/-- Make responses of the exceptions that there is a handler for. -/
def handleException (framework : Framework K) (request : Request) :
    Except ApiException (Response K) → Except ApiException (Response K)
  -- Two exceptions have handlers, and every other outcome goes on as it is.
  | .error (.http exception) => .ok (framework.httpExceptionResponse exception)
  | .error (.rateLimitExceeded limit) => .ok (framework.rateLimitResponse request limit)
  | outcome => outcome

/-- The application inside all middlewares. -/
def exceptionMiddleware (framework : Framework K) (handle : RouteHandler K S) : ApiApplication T K S :=
  -- This layer writes no record.
  fun request site =>
    let (outcome, after) := handle request site
    ⟨handleException framework request outcome, after, []⟩

section Application

variable (jose : Jose T K) (settings : ApiSettings) (limiter : Limiter T S)
  (framework : Framework K) (tools : AuditTools) (clock : Nat → T)

/-- The middlewares, of which the one that was added last is outermost. -/
def middlewares : List (ApiMiddleware T K S) :=
  -- The layer that is added last becomes the outermost one.
  addMiddleware addSecurityHeaders <|
    addMiddleware (corsMiddleware framework (corsOptions settings)) <|
      addMiddleware (auditMiddleware jose settings tools clock) []

/-- The application around the part that serves the routes. -/
def application (handle : RouteHandler K S) : ApiApplication T K S :=
  -- The handlers of exceptions are inside all added layers.
  wrapped (middlewares jose settings framework tools clock) (exceptionMiddleware framework handle)

/-- The first route of alerts that serves a request, and the parameters of its path. -/
def pickRoute (request : Request) : Option (GuardedRoute K × (String → String)) :=
  -- The first route in the order of registration wins.
  alertsRoutes.findSome? fun route =>
    if route.method = request.method then
      (framework.pathParams route.template request.path).map fun params => (route, params)
    else none

/-- The health of the service, at a moment. -/
def health (isoformat : T → String) (now : T) : Json K :=
  .object [("status", .str "ok"), ("timestamp", .str (isoformat now))]

/-- The routes of the application. -/
def router (isoformat : T → String) : RouteHandler K S := fun request site =>
  -- The routes of the alerts are included first; then there is the health check.
  match pickRoute framework request with
  | some (route, params) => route.serve jose settings limiter clock params request site
  | none =>
    if request.method = "GET" ∧ (framework.pathParams "/health" request.path).isSome then
      (.ok (.json 200 (health isoformat (clock site.readings))), site.tick)
    else (framework.elsewhere request, site)

end Application

end Absm
