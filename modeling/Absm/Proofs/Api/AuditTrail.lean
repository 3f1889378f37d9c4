import Absm.Api.PlainService

/-! Which requests leave an audit record. -/

namespace Absm

variable {T K S : Type}

/-- The headers are added to whatever response comes from inside. -/
theorem addSecurityHeaders_handsOn (request : Request) :
    HandsOn (addSecurityHeaders : ApiMiddleware T K S) request :=
  -- The headers are changed in the response, and nothing else is.
  ⟨_, fun _ _ => rfl⟩

/-- A request is handed on unless a browser asks for permission. -/
theorem corsMiddleware_handsOn {framework : Framework K} {options : CorsOptions} {request : Request}
    (other : ¬ request.Preflight) :
    HandsOn (corsMiddleware framework options : ApiMiddleware T K S) request := by
  -- Without an origin even the response stays as it is.
  unfold HandsOn corsMiddleware
  by_cases origin : request.header "origin" = none
  · exact ⟨id, fun app site => by rw [if_pos origin, Served.mapResponse_id]⟩
  · exact ⟨framework.simpleResponse options request, fun app site => by rw [if_neg origin, if_neg other]⟩

/-- A browser that asks for permission is answered. -/
theorem corsMiddleware_answersItself {framework : Framework K} {options : CorsOptions}
    {request : Request} (preflight : request.Preflight) :
    AnswersItself (corsMiddleware framework options : ApiMiddleware T K S) request :=
  -- A preflight request has an origin, so neither of the other branches is taken.
  ⟨framework.preflightResponse options request, fun _ _ => by
    rw [corsMiddleware, if_neg preflight.2.1, if_pos preflight]⟩

section Application

variable {jose : Jose T K} {settings : ApiSettings} {framework : Framework K}
  {tools : AuditTools} {clock : Nat → T} {handle : RouteHandler K S} {request : Request} {site : Site S}

/-- A browser that asks for permission leaves no record. -/
theorem records_of_preflight (preflight : request.Preflight) :
    (application jose settings framework tools clock handle request site).records = [] := by
  -- The audit is inside the middleware that answers.
  have outside : ∀ middleware ∈ [(addSecurityHeaders : ApiMiddleware T K S)],
      HandsOn middleware request := by
    simpa using addSecurityHeaders_handsOn request
  obtain ⟨answer, answered⟩ : AnswersItself
      (wrapped (middlewares jose settings framework tools clock : List (ApiMiddleware T K S))) request :=
    AnswersItself.wrapped outside (corsMiddleware_answersItself preflight)
  rw [application, answered]

/-- The records of any other request are those of the audit. -/
theorem records_of_other (other : ¬ request.Preflight) :
    (application jose settings framework tools clock handle request site).records =
      (auditMiddleware jose settings tools clock (exceptionMiddleware framework handle) request
        site).records := by
  -- The middlewares around the audit hand the request on.
  obtain ⟨change, handsOn⟩ : HandsOn (wrapped
      [addSecurityHeaders, (corsMiddleware framework (corsOptions settings) : ApiMiddleware T K S)])
      request :=
    HandsOn.wrapped (by simpa using ⟨addSecurityHeaders_handsOn request, corsMiddleware_handsOn other⟩)
  exact (congrArg Served.records (handsOn _ site)).trans (Served.mapResponse_records ..)

/-- The record that the audit makes of a response, if nothing is raised over the user and the URL. -/
def madeRecord (jose : Jose T K) (settings : ApiSettings) (tools : AuditTools) (clock : Nat → T)
    (requestId : String) (request : Request) (response : Response K) (site : Site S) :
    Option (AuditRecord T) := do
  -- Either of the two exceptions leaves the response without a record.
  let identity ← (auditIdentity jose settings (clock site.readings) request.authorization).toOption
  let path ← (tools.urlPath request).toOption
  return auditRecord tools requestId request identity path response (clock site.tick.readings)

/-- The audit adds the record that it makes to those from inside when there is a response. -/
theorem records_of_audit (app : ApiApplication T K S) :
    (auditMiddleware jose settings tools clock app request site).records =
      (app request site).records ++
        match (app request site).outcome with
        | .ok response =>
          (madeRecord jose settings tools clock
            ((request.header "x-request-id").getD (tools.uuid4 site.readings)) request response
            (app request site).state).toList
        | .error _ => [] := by
  -- An exception from inside goes through, and one of the audit itself comes before the record.
  rcases served : app request site with ⟨raised | response, after, records⟩
  · simp [auditMiddleware, served]
  · cases named : auditIdentity jose settings (clock after.readings) request.authorization with
    | error raised => simp [auditMiddleware, served, madeRecord, named, Except.toOption]
    | ok identity =>
      cases located : tools.urlPath request with
      | error raised => simp [auditMiddleware, served, madeRecord, named, located, Except.toOption]
      | ok path => simp [auditMiddleware, served, madeRecord, named, located, Except.toOption]

/-- The user of a record is found unless the library raises something else than a `JWTError` over the
token. -/
theorem auditIdentity_ok_iff {now : T} {authorization : String} :
    (∃ identity, auditIdentity jose settings now authorization = .ok identity) ↔
      ∀ error, ¬ DecodeRaises jose settings now authorization error := by
  unfold DecodeRaises
  by_cases carries : HasToken authorization
  · -- With a token in the header, what comes out of its verification decides.
    obtain ⟨starts, present⟩ := carries
    simp only [HasToken, starts, present, ne_eq, not_false_eq_true, and_self, true_and,
      ← verifyToken_unhandled_iff]
    unfold bearerToken at *
    simp only [auditIdentity, starts, if_true, if_neg present]
    cases verified : verifyToken jose settings now (strip (removePrefix authorization "Bearer ")) with
    | ok user => simp
    | error raised =>
      rcases verifyToken_error verified with rfl | ⟨error, rfl, _⟩ <;> simp
  · -- Without one nothing is verified.
    simp only [carries, false_and, not_false_eq_true, implies_true, iff_true]
    unfold HasToken bearerToken at carries
    refine ⟨("anonymous", "anonymous"), ?_⟩
    unfold auditIdentity
    grind

/-- Every exception but an unhandled one becomes a response. -/
theorem handleException_ok_iff (outcome : Except ApiException (Response K)) :
    (∃ response, handleException framework request outcome = .ok response) ↔
      ∀ error, outcome ≠ .error (.unhandled error) := by
  -- There is a handler for each of the other exceptions.
  rcases outcome with (exception | limit | error) | response <;> simp [handleException]

/-- Serving a request has left exactly one record, with the method and the path of the request. -/
def AuditedOnce (request : Request) (served : ApiServed T K S) : Prop :=
  -- Nothing is said about the other fields of the record.
  ∃ record, served.records = [record] ∧ record.method = request.method ∧ record.path = request.path

/-- A request leaves exactly one record, with its method and its path, exactly when no browser asks for
permission, the route does not end in an exception that is not handled, decoding the token after it raises
nothing else than a `JWTError`, and the path is found in the URL. -/
theorem oneRecord_iff (jose : Jose T K) (settings : ApiSettings) (framework : Framework K)
    (tools : AuditTools) (clock : Nat → T) (handle : RouteHandler K S) (request : Request)
    (site : Site S) :
    AuditedOnce request (application jose settings framework tools clock handle request site) ↔
      ¬ request.Preflight ∧ (∀ error, (handle request site).1 ≠ .error (.unhandled error)) ∧
        (∀ error, ¬ DecodeRaises jose settings (clock (handle request site).2.readings)
          request.authorization error) ∧
        tools.urlPath request = .ok request.path := by
  unfold AuditedOnce
  by_cases preflight : request.Preflight
  · -- The browser is answered outside the audit.
    simp [records_of_preflight preflight, preflight]
  · -- The audit sees the request, and what it makes of the outcome decides.
    rw [records_of_other preflight, records_of_audit, ← handleException_ok_iff, ← auditIdentity_ok_iff]
    simp only [preflight, not_false_eq_true, true_and, exceptionMiddleware, List.nil_append]
    cases handleException framework request (handle request site).1 with
    | error raised => simp
    | ok response =>
      cases named : auditIdentity jose settings (clock (handle request site).2.readings)
          request.authorization with
      | error raised => simp [madeRecord, named, Except.toOption]
      | ok identity =>
        cases located : tools.urlPath request with
        | error raised => simp [madeRecord, named, located, Except.toOption]
        | ok path => simp [madeRecord, named, located, Except.toOption, auditRecord]

end Application

/-- A library that raises over each token what is raised over one whose `exp` claim is null. -/
def nullExpJose : Jose Int Unit where
  decode _ _ _ _ _ := .error (.raised (.typeError
    "int() argument must be a string, a bytes-like object or a real number, not 'NoneType'"))

/-- No record is left by a browser that asks whether it may list the alerts, by a handler that raises, by
a look at the health with a token whose `exp` claim is null, and by one with a host that is no address. -/
theorem oneRecord_missing :
    ¬ AuditedOnce ⟨"OPTIONS", "/alerts",
          [("origin", "https://example.test"), ("access-control-request-method", "GET")], none⟩
        (application (plainJose 10).toJose plainSettings plainFramework plainTools Int.ofNat
          (router (plainJose 10).toJose plainSettings plainLimiter plainFramework Int.ofNat toString)
          ⟨"OPTIONS", "/alerts",
            [("origin", "https://example.test"), ("access-control-request-method", "GET")], none⟩
          ⟨0, ()⟩) ∧
      ¬ AuditedOnce ⟨"GET", "/alerts", [], none⟩
        (application (plainJose 10).toJose plainSettings plainFramework plainTools Int.ofNat
          (fun _ site => (.error (.unhandled (.runtimeError "out of order")), site))
          ⟨"GET", "/alerts", [], none⟩ (⟨0, ()⟩ : Site Unit)) ∧
      ¬ AuditedOnce ⟨"GET", "/health", [("authorization", "Bearer token")], none⟩
        (application nullExpJose plainSettings plainFramework plainTools Int.ofNat
          (router nullExpJose plainSettings plainLimiter plainFramework Int.ofNat toString)
          ⟨"GET", "/health", [("authorization", "Bearer token")], none⟩ ⟨0, ()⟩) ∧
      ¬ AuditedOnce ⟨"GET", "/health", [("host", "[")], none⟩
        (application (plainJose 10).toJose plainSettings plainFramework plainTools Int.ofNat
          (router (plainJose 10).toJose plainSettings plainLimiter plainFramework Int.ofNat toString)
          ⟨"GET", "/health", [("host", "[")], none⟩ ⟨0, ()⟩) := by
  refine ⟨?_, ?_, ?_, ?_⟩
  · rw [AuditedOnce, records_of_preflight (by decide)]
    simp
  · rw [AuditedOnce, records_of_other (by decide), records_of_audit]
    simp [exceptionMiddleware, handleException]
  · -- The service is healthy, and then the token is decoded.
    rintro ⟨record, left, _⟩
    cases left
  · rintro ⟨record, left, _⟩
    cases left

end Absm
