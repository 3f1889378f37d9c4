import Absm.Foundation.Runs
import Absm.Proofs.Api.AuditIdentity
import Absm.Proofs.Api.RateKeys

/-! Each subject is held to its own rate limit, whatever other clients send. -/

namespace Absm

/-! ### Counters -/

/-- A request that counts against the limit of a subject. -/
structure Charge (T : Type) where
  /-- The subject. -/
  subject : String
  /-- The rate limit. -/
  limit : String
  /-- The name of the handler. -/
  endpoint : String
  /-- The path of the request. -/
  path : String
  /-- When it is counted. -/
  now : T
  deriving DecidableEq

/-- What counts the requests of one subject, and says whether each is within the limit. -/
abbrev Counter (T C : Type) := C → Charge T → Bool × C

variable {T K S C : Type}

/-- Count a request. -/
def Limiter.count (limiter : Limiter T S) (limits : S) (charge : Charge T) : Bool × S :=
  -- The fields of the charge are the arguments of the call.
  limiter.hit charge.limit charge.endpoint charge.path charge.subject charge.now limits

/-- The limiter counts for each key on its own: a request is judged by the count of its key, and changes no
other count. -/
structure CountsPerKey (limiter : Limiter T S) (counts : S → String → C) (counter : Counter T C) : Prop where
  /-- The count of the key decides. -/
  within : ∀ limits charge,
    (limiter.count limits charge).1 = (counter (counts limits charge.subject) charge).1
  /-- The count of the key is the one that changes. -/
  counted : ∀ limits charge, counts (limiter.count limits charge).2 =
    Function.update (counts limits) charge.subject (counter (counts limits charge.subject) charge).2

/-! ### Admission -/

section Admission

variable {jose : Jose T K} {settings : ApiSettings} {limiter : Limiter T S} {clock : Nat → T}
  {route : GuardedRoute K} {request : Request} {site : Site S}

/-- What a request to a route counts against: the limit of the subject whose token it carries, if the
token is accepted twice and allows the route. -/
def GuardedRoute.charge (jose : Jose T K) (settings : ApiSettings) (clock : Nat → T)
    (route : GuardedRoute K) (request : Request) (site : Site S) : Option (Charge T) :=
  -- The token is verified for the role and again for the key, at the next reading of the clock.
  match getCurrentUser jose settings (clock site.readings) request.authorization,
    getCurrentUser jose settings (clock (site.readings + 1)) request.authorization with
  | .ok user, .ok again =>
    if user.role = route.requiredRole then
      some ⟨again.sub, route.limit, route.endpoint, request.path, clock (site.readings + 2)⟩
    else none
  | _, _ => none

/-- A request with an accepted token is counted under the subject that its token has at that moment. -/
theorem limiterKeyFunc_of_accepted {now : T} {user : User} (limiter : Limiter T S)
    (accepted : getCurrentUser jose settings now request.authorization = .ok user) (later : T) :
    limiterKeyFunc jose settings limiter later request =
      (getCurrentUser jose settings later request.authorization).map User.sub := by
  -- A user is only named by a header that carries a token.
  obtain ⟨carries, _⟩ := getCurrentUser_eq_ok.mp accepted
  rw [limiterKeyFunc_of_hasToken limiter carries, getCurrentUser_of_hasToken carries]

/-- A request with a key is counted under it. -/
theorem checkRequestLimit_of_key {limit endpoint key : String}
    (keyed : limiterKeyFunc jose settings limiter (clock site.readings) request = .ok key) :
    checkRequestLimit jose settings limiter clock limit endpoint request site =
      let counted := limiter.count site.limits ⟨key, limit, endpoint, request.path, clock (site.readings + 1)⟩
      (if counted.1 then .ok () else .error (.rateLimitExceeded limit), ⟨site.readings + 2, counted.2⟩) := by
  -- The clock is read once for the key and once for the hit.
  rw [checkRequestLimit, keyed]
  rfl

/-- A request that counts is admitted if it is within the limit, and nothing else is counted. -/
theorem GuardedRoute.admission_of_charge (limiter : Limiter T S) {charge : Charge T}
    (charged : route.charge jose settings clock request site = some charge) :
    ∃ user after,
      route.admission jose settings limiter clock request site =
        (if (limiter.count site.limits charge).1 then .ok user else .error (.rateLimitExceeded route.limit),
          after) ∧
      after.limits = (limiter.count site.limits charge).2 := by
  unfold GuardedRoute.charge at charged
  split at charged
  case h_1 user again first second =>
    split at charged
    case isTrue role =>
      cases charged
      -- The limiter finds the key in the token again.
      have keyed := (limiterKeyFunc_of_accepted limiter first (clock (site.readings + 1))).trans
        (congrArg (Except.map User.sub) second)
      have allowed : requireRole route.requiredRole user = .ok user :=
        requireRole_eq_ok.mpr ⟨rfl, role⟩
      generalize same : (⟨again.sub, route.limit, route.endpoint, request.path,
        clock (site.readings + 2)⟩ : Charge T) = charge
      have counted : checkRequestLimit jose settings limiter clock route.limit route.endpoint request
          site.tick = (if (limiter.count site.limits charge).1 then .ok ()
            else .error (.rateLimitExceeded route.limit),
          ⟨site.readings + 3, (limiter.count site.limits charge).2⟩) :=
        same ▸ checkRequestLimit_of_key keyed
      refine ⟨user, ⟨site.readings + 3, (limiter.count site.limits charge).2⟩, ?_, rfl⟩
      simp only [admission, first, ok_bind, allowed, counted]
      -- Within the limit the user goes on, and beyond it the exception does.
      split_ifs <;> rfl
    case isFalse => cases charged
  case h_2 => cases charged

/-- The token of a request that counts has been accepted. -/
theorem GuardedRoute.accepted_of_charge {charge : Charge T}
    (charged : route.charge jose settings clock request site = some charge) :
    ∃ user, getCurrentUser jose settings (clock site.readings) request.authorization = .ok user := by
  -- Otherwise there is nothing to count.
  unfold GuardedRoute.charge at charged
  split at charged
  case h_1 user again first second => exact ⟨user, first⟩
  case h_2 => cases charged

/-- An exception that refuses a request because of its token or its role, or one that is not handled and that
decoding the token raises. -/
def Refusal (jose : Jose T K) (settings : ApiSettings) (authorization : String) : ApiException → Prop
  -- The limiter's answer is no refusal of a user.
  | .http refused => refused.statusCode = 401 ∨ refused.statusCode = 403
  | .unhandled error => ∃ now, DecodeRaises jose settings now authorization error
  | .rateLimitExceeded _ => False

/-- A header that names nobody is refused. -/
theorem refusal_of_getCurrentUser {now : T} {authorization : String} {raised : ApiException}
    (rejected : getCurrentUser jose settings now authorization = .error raised) :
    Refusal jose settings authorization raised := by
  -- What is rejected has a status of its own, and anything else comes from decoding.
  rcases getCurrentUser_error rejected with ⟨refused, rfl, status⟩ | ⟨error, rfl, decoding⟩
  · exact .inl status
  · exact ⟨now, decoding⟩

/-- A request that does not count is refused. -/
theorem GuardedRoute.admission_of_uncharged (limiter : Limiter T S)
    (free : route.charge jose settings clock request site = none) :
    ∃ raised after,
      route.admission jose settings limiter clock request site = (.error raised, after) ∧
      Refusal jose settings request.authorization raised ∧ after.limits = site.limits := by
  unfold admission
  cases first : getCurrentUser jose settings (clock site.readings) request.authorization with
  | error raised => exact ⟨raised, site.tick, by simp only [error_bind], refusal_of_getCurrentUser first, rfl⟩
  | ok user =>
    by_cases role : user.role = route.requiredRole
    · -- The token is not accepted the second time.
      have allowed : requireRole route.requiredRole user = .ok user :=
        requireRole_eq_ok.mpr ⟨rfl, role⟩
      cases second : getCurrentUser jose settings (clock (site.readings + 1)) request.authorization with
      | ok again => simp [charge, first, second, role] at free
      | error raised =>
        have keyed := (limiterKeyFunc_of_accepted limiter first (clock (site.readings + 1))).trans
          (congrArg (Except.map User.sub) second)
        refine ⟨raised, site.tick.tick, ?_, refusal_of_getCurrentUser second, rfl⟩
        simp only [ok_bind, allowed, checkRequestLimit, Site.tick_readings, keyed]
        rfl
    · refine ⟨.http ⟨403, "Insufficient role"⟩, site.tick, ?_, .inr rfl, rfl⟩
      simp only [ok_bind, requireRole, ne_eq, role, not_false_eq_true, if_true]

end Admission

/-! ### The application -/

/-- The framework answers with the status that it is given, and with 429 beyond a rate limit. -/
structure Framework.KeepsStatus (framework : Framework K) : Prop where
  /-- The status of an `HTTPException`. -/
  http : ∀ exception, (framework.httpExceptionResponse exception).statusCode = exception.statusCode
  /-- The status beyond a rate limit. -/
  limited : ∀ request limit, (framework.rateLimitResponse request limit).statusCode = 429
  /-- The status of a response to a browser. -/
  simple : ∀ options request response,
    (framework.simpleResponse options request response).statusCode = response.statusCode

/-- The status of the response, if there is one. -/
def Served.status (served : ApiServed T K S) : Option Nat :=
  -- An exception has no status.
  served.outcome.toOption.map Response.statusCode

/-- A change that keeps the status of every response. -/
theorem Served.status_mapResponse {change : Response K → Response K}
    (keeps : ∀ response, (change response).statusCode = response.statusCode) (served : ApiServed T K S) :
    (served.mapResponse change).status = served.status := by
  -- An exception goes through.
  rcases served with ⟨raised | response, after, records⟩
  · rfl
  · exact congrArg some (keeps response)

section Application

variable {jose : Jose T K} {settings : ApiSettings} {limiter : Limiter T S}
  {framework : Framework K} {tools : AuditTools} {clock : Nat → T} {isoformat : T → String}
  {handle : RouteHandler K S} {request : Request} {site : Site S}

/-- The audit does not change what the limiter has counted, and loses a response only if decoding the token
raises something else than a `JWTError` or there is no path in the URL. -/
theorem audit_keeps (jose : Jose T K) (settings : ApiSettings) (tools : AuditTools) (clock : Nat → T)
    (app : ApiApplication T K S) (request : Request) (site : Site S) :
    let audited := auditMiddleware jose settings tools clock app request site
    ((∃ path, tools.urlPath request = .ok path) →
      audited.status = (app request site).status ∨ audited.status = none ∧ ∃ error,
        DecodeRaises jose settings (clock (app request site).state.readings) request.authorization error) ∧
      audited.state.limits = (app request site).state.limits := by
  -- Writing the record takes two looks at the clock.
  rcases served : app request site with ⟨raised | response, after, records⟩
  · simp [auditMiddleware, served]
  · cases named : auditIdentity jose settings (clock after.readings) request.authorization with
    | error raised =>
      have decoding : ¬ ∀ error, ¬ DecodeRaises jose settings (clock after.readings) request.authorization
          error := by
        rw [← auditIdentity_ok_iff, named]
        simp
      obtain ⟨error, decoding⟩ := not_forall_not.mp decoding
      simp only [auditMiddleware, served, named]
      exact ⟨fun _ => .inr ⟨rfl, error, decoding⟩, rfl⟩
    | ok identity =>
      cases located : tools.urlPath request with
      | error raised => simp [auditMiddleware, served, named, located, Site.tick]
      | ok path => simp [auditMiddleware, served, named, located, Served.status, Site.tick]

/-- Unless a browser asks for permission, the middlewares around the audit change no status and no count. -/
theorem application_eq_audit (jose : Jose T K) (settings : ApiSettings) (tools : AuditTools)
    (clock : Nat → T) (handle : RouteHandler K S) (site : Site S) (keeps : framework.KeepsStatus)
    (other : ¬ request.Preflight) :
    ∃ change : Response K → Response K,
      (∀ response, (change response).statusCode = response.statusCode) ∧
      application jose settings framework tools clock handle request site =
        (auditMiddleware jose settings tools clock (exceptionMiddleware framework handle) request
          site).mapResponse change := by
  -- The headers for browsers of other origins are added to the response of the audit.
  have outer : application jose settings framework tools clock handle request site =
      (corsMiddleware framework (corsOptions settings) (auditMiddleware jose settings tools clock
        (exceptionMiddleware framework handle)) request site).mapResponse fun response =>
          { response with
            headers :=
              (response.headers.set "X-Frame-Options" "DENY").set "X-Content-Type-Options" "nosniff" } :=
    rfl
  rw [outer, corsMiddleware]
  by_cases origin : request.header "origin" = none
  · rw [if_pos origin]
    refine ⟨_, ?_, rfl⟩
    exact fun _ => rfl
  · rw [if_neg origin, if_neg other, Served.mapResponse_mapResponse]
    refine ⟨_, ?_, rfl⟩
    exact fun _ => keeps.simple _ _ _

/-- Unless a browser asks for permission, the counts are those that the route leaves, and the status is that
of its outcome if nothing goes wrong in the audit. -/
theorem application_keeps (jose : Jose T K) (settings : ApiSettings) (tools : AuditTools)
    (clock : Nat → T) (handle : RouteHandler K S) (site : Site S) (keeps : framework.KeepsStatus)
    (other : ¬ request.Preflight) :
    let served := application jose settings framework tools clock handle request site
    ((∃ path, tools.urlPath request = .ok path) →
      served.status = (handleException framework request (handle request site).1).toOption.map
          Response.statusCode ∨
        served.status = none ∧ ∃ error,
          DecodeRaises jose settings (clock (handle request site).2.readings) request.authorization error) ∧
      served.state.limits = (handle request site).2.limits := by
  -- The middlewares around the audit keep status and state.
  obtain ⟨change, same, eq⟩ := application_eq_audit jose settings tools clock handle site keeps other
  simp only [eq, Served.status_mapResponse same]
  exact audit_keeps jose settings tools clock (exceptionMiddleware framework handle) request site

/-- A browser that asks for permission is not counted. -/
theorem limits_of_preflight (preflight : request.Preflight) :
    (application jose settings framework tools clock handle request site).state.limits = site.limits := by
  -- It is answered outside the routes.
  have outer : application jose settings framework tools clock handle request site =
      addSecurityHeaders (corsMiddleware framework (corsOptions settings) (auditMiddleware jose settings
        tools clock (exceptionMiddleware framework handle))) request site := rfl
  rw [outer, addSecurityHeaders, corsMiddleware, if_neg preflight.2.1, if_pos preflight]
  rfl

/-- No browser asks the routes of alerts for permission. -/
theorem not_preflight_of_picked {picked : GuardedRoute K × (String → String)}
    (found : pickRoute framework request = some picked) : ¬ request.Preflight := fun preflight =>
  -- Guarded routes have methods of their own, and `OPTIONS` is none of them.
  (alertsRoutes_guarded (pickRoute_eq_some found).1).1 ((pickRoute_eq_some found).2.trans preflight.1)

/-- What a request counts against: nothing if it is for no route of alerts. -/
def chargeOf (jose : Jose T K) (settings : ApiSettings) (framework : Framework K) (clock : Nat → T)
    (request : Request) (site : Site S) : Option (Charge T) :=
  -- A request that no guarded route serves is charged nothing.
  (pickRoute framework request).bind fun picked => picked.1.charge jose settings clock request site

/-! ### Visits -/

/-- How a request was answered. -/
structure Visit (T : Type) where
  /-- Whether it is for a route of alerts. -/
  guarded : Bool
  /-- What it counts against. -/
  charge : Option (Charge T)
  /-- The `Authorization` header. -/
  authorization : String
  /-- The status of the response; none stands for an exception that came out instead. -/
  status : Option Nat

/-- The charge and the status of a visit that counts against a subject. -/
def Visit.chargedTo (subject : String) (visit : Visit T) : Option (Charge T × Option Nat) :=
  -- The visits of others and those without a charge are left out.
  (visit.charge.filter fun charge => charge.subject = subject).map fun charge => (charge, visit.status)

/-- Serve a request by the application with its routes. -/
def visit (jose : Jose T K) (settings : ApiSettings) (limiter : Limiter T S) (framework : Framework K)
    (tools : AuditTools) (clock : Nat → T) (isoformat : T → String) (site : Site S) (request : Request) :
    Visit T × Site S :=
  -- What is noted of a visit is what the application makes of it.
  let served := application jose settings framework tools clock
    (router jose settings limiter framework clock isoformat) request site
  (⟨(pickRoute framework request).isSome, chargeOf jose settings framework clock request site,
    request.authorization, served.status⟩, served.state)

/-- Over a token that it has decoded once, the library raises nothing but a `JWTError` at other moments. -/
def Jose.Steady (jose : Jose T K) : Prop :=
  -- Whether the token is still accepted later is left open.
  ∀ token key algorithms issuer now claims, jose.decode token key algorithms issuer now = .ok claims →
    ∀ later error, jose.decode token key algorithms issuer later ≠ .error (.raised error)

/-- A request that counts is counted, and answered by whether it is within the limit. -/
theorem visit_of_charge (limiter : Limiter T S) (tools : AuditTools) (isoformat : T → String)
    (keeps : framework.KeepsStatus) (steady : jose.Steady)
    (located : ∃ path, tools.urlPath request = .ok path) {charge : Charge T}
    (charged : chargeOf jose settings framework clock request site = some charge) :
    let visited := visit jose settings limiter framework tools clock isoformat site request
    visited.1.charge = some charge ∧
      visited.1.status = some (if (limiter.count site.limits charge).1 then 200 else 429) ∧
      visited.2.limits = (limiter.count site.limits charge).2 := by
  -- The request passes all middlewares, is admitted, and meets the counter.
  refine ⟨charged, ?_⟩
  obtain ⟨⟨route, params⟩, picked, charged⟩ := Option.bind_eq_some_iff.mp charged
  obtain ⟨user, after, admitted, counted⟩ := GuardedRoute.admission_of_charge limiter charged
  obtain ⟨status, limits⟩ := application_keeps jose settings tools clock
    (router jose settings limiter framework clock isoformat) site keeps (not_preflight_of_picked picked)
  -- The token was decoded, so that the audit does not fail over it.
  obtain ⟨_, named⟩ := GuardedRoute.accepted_of_charge charged
  obtain ⟨claims, decoded⟩ := decode_of_verifyToken (getCurrentUser_eq_ok.mp named).2
  have status := (status located).resolve_right fun fails => by
    obtain ⟨_, error, decoding⟩ := fails
    exact steady _ _ _ _ _ claims decoded _ error decoding.2
  simp only [visit, status, limits, router, picked, GuardedRoute.serve, admitted]
  by_cases within : (limiter.count site.limits charge).1 = true
  · rw [if_pos within, if_pos within]
    exact ⟨rfl, counted⟩
  · rw [if_neg within, if_neg within]
    exact ⟨congrArg some (keeps.limited _ _), counted⟩

/-- A visit was refused with 401 or 403, or decoding its token raised something else than a `JWTError`. -/
def Visit.Refused (jose : Jose T K) (settings : ApiSettings) (visit : Visit T) : Prop :=
  -- The status is missing when the exception goes through all middlewares.
  visit.status = some 401 ∨ visit.status = some 403 ∨
    visit.status = none ∧ ∃ now error, DecodeRaises jose settings now visit.authorization error

/-- A request that does not count leaves the counts alone, and a route of alerts refuses it. -/
theorem visit_of_uncharged (limiter : Limiter T S) (tools : AuditTools) (isoformat : T → String)
    (keeps : framework.KeepsStatus) (located : ∃ path, tools.urlPath request = .ok path)
    (free : chargeOf jose settings framework clock request site = none) :
    let visited := visit jose settings limiter framework tools clock isoformat site request
    visited.1.charge = none ∧ (visited.1.guarded = true → visited.1.Refused jose settings) ∧
      visited.2.limits = site.limits := by
  refine ⟨free, ?_⟩
  by_cases preflight : request.Preflight
  · refine ⟨fun picked => ?_, limits_of_preflight preflight⟩
    obtain ⟨_, found⟩ := Option.isSome_iff_exists.mp picked
    exact absurd preflight (not_preflight_of_picked found)
  · obtain ⟨status, limits⟩ := application_keeps jose settings tools clock
      (router jose settings limiter framework clock isoformat) site keeps preflight
    cases picked : pickRoute framework request with
    | none =>
      -- Health and everything else have no limit.
      simp only [visit, limits, router, picked]
      refine ⟨fun found => absurd found (by simp), ?_⟩
      split <;> rfl
    | some found =>
      obtain ⟨route, params⟩ := found
      rw [chargeOf, picked, Option.bind_some] at free
      obtain ⟨raised, after, rejected, refusal, same⟩ := GuardedRoute.admission_of_uncharged limiter free
      have served : router jose settings limiter framework clock isoformat request site =
          (.error raised, after) := by
        simp only [router, picked, GuardedRoute.serve, rejected]
      rw [served] at status limits
      refine ⟨fun _ => ?_, limits.trans same⟩
      rcases status located with kept | ⟨lost, error, decoding⟩
      · -- What the exception becomes is what the route answers.
        cases raised with
        | http refused =>
          have answered : (visit jose settings limiter framework tools clock isoformat site
              request).1.status = some refused.statusCode :=
            kept.trans (congrArg some (keeps.http refused))
          exact refusal.elim (fun same => .inl (same ▸ answered)) fun same => .inr (.inl (same ▸ answered))
        | rateLimitExceeded limit => exact refusal.elim
        | unhandled error =>
          obtain ⟨now, decoding⟩ := refusal
          exact .inr (.inr ⟨kept, now, error, decoding⟩)
      · exact .inr (.inr ⟨lost, _, error, decoding⟩)

/-- A visit that counts against nobody is none of a subject's. -/
theorem Visit.chargedTo_free {subject : String} {visit : Visit T} (free : visit.charge = none) :
    visit.chargedTo subject = none := by
  -- There is no charge to compare.
  simp [chargedTo, free]

/-- A visit that counts against one subject is none of another one's. -/
theorem Visit.chargedTo_other {subject : String} {visit : Visit T} {charge : Charge T}
    (charged : visit.charge = some charge) (other : charge.subject ≠ subject) :
    visit.chargedTo subject = none := by
  -- The charge is another subject's.
  simp [chargedTo, charged, Option.filter, other]

/-- A visit that counts against a subject is one of this subject's. -/
theorem Visit.chargedTo_self {visit : Visit T} {charge : Charge T} (charged : visit.charge = some charge) :
    visit.chargedTo charge.subject = some (charge, visit.status) := by
  -- The charge is the subject's own.
  simp [chargedTo, charged, Option.filter]

/-! ### Runs -/

/-- Whatever requests come in, each subject's requests are answered as if there were no others: the counter
of the subject alone decides which of them are within the limit, and goes on from where they have left it.
A request for alerts that counts against no subject is refused because of its token or its role, or
decoding its token raises something else than a `JWTError`. -/
theorem subjects_answeredAlone {counts : S → String → C} {counter : Counter T C}
    (keeps : framework.KeepsStatus) (perKey : CountsPerKey limiter counts counter) (steady : jose.Steady)
    (requests : List Request) (located : ∀ request ∈ requests, ∃ path, tools.urlPath request = .ok path)
    (site : Site S) :
    let run := respondAll (visit jose settings limiter framework tools clock isoformat) site requests
    (∀ visit ∈ run.1, visit.guarded = true → visit.charge = none → visit.Refused jose settings) ∧
      ∀ subject,
        let own := run.1.filterMap (Visit.chargedTo subject)
        let alone := respondAll counter (counts site.limits subject) (own.map Prod.fst)
        own.map Prod.snd = alone.1.map (fun within => some (if within then 200 else 429)) ∧
          counts run.2.limits subject = alone.2 := by
  -- The first request counts against one subject at most, and the others find the counts that it leaves.
  induction requests generalizing site with
  | nil => exact ⟨by simp [respondAll], fun subject => ⟨rfl, rfl⟩⟩
  | cons request requests ih =>
    obtain ⟨here, located⟩ := List.forall_mem_cons.mp located
    obtain ⟨refused, alone⟩ := ih located
      (visit jose settings limiter framework tools clock isoformat site request).2
    cases charged : chargeOf jose settings framework clock request site with
    | none =>
      obtain ⟨recorded, refusal, same⟩ := visit_of_uncharged limiter tools isoformat keeps here charged
      refine ⟨List.forall_mem_cons.mpr ⟨fun guarded _ => refusal guarded, refused⟩, fun subject => ?_⟩
      -- The subject's visits are those that follow.
      simp only [respondAll, List.filterMap_cons, Visit.chargedTo_free recorded]
      rw [← same]
      exact alone subject
    | some charge =>
      obtain ⟨recorded, status, counted⟩ := visit_of_charge limiter tools isoformat keeps steady here charged
      have next := perKey.counted site.limits charge
      rw [← counted] at next
      refine ⟨List.forall_mem_cons.mpr ⟨fun _ free => ?_, refused⟩, fun subject => ?_⟩
      · cases recorded.symm.trans free
      by_cases same : charge.subject = subject
      · -- The counter of the subject decides, and goes on with the visits that follow.
        subst same
        obtain ⟨statuses, final⟩ := alone charge.subject
        rw [next, Function.update_self] at statuses final
        simp only [respondAll, List.filterMap_cons, Visit.chargedTo_self recorded, List.map_cons, status,
          perKey.within]
        exact ⟨congrArg _ statuses, final⟩
      · simp only [respondAll, List.filterMap_cons, Visit.chargedTo_other recorded same]
        have kept := alone subject
        rw [next, Function.update_of_ne (Ne.symm same)] at kept
        exact kept

end Application

/-- A library that keeps its promise raises nothing but a `JWTError`. -/
theorem CheckedJose.steady [LT T] (jose : CheckedJose T K) : jose.toJose.Steady := by
  -- A library that checks claims raises nothing but a `JWTError`.
  intro token key algorithms issuer now claims _ later error raised
  cases jose.decode_error raised

/-- A limiter that lets each key have one request. -/
def onceLimiter : Limiter Int (String → Nat) where
  remoteAddress client := client.getD "127.0.0.1"
  hit _ _ _ key _ limits := (limits key = 0, Function.update limits key (limits key + 1))

/-- A listing without a token. -/
def namelessListing : Request := { plainListing with headers := [] }

/-- A request without a token between the two of a subject does not count. -/
theorem subjects_answeredAlone_once :
    let run := respondAll (visit (plainJose 10).toJose plainSettings onceLimiter plainFramework plainTools
      Int.ofNat toString) ⟨0, fun _ => 0⟩ [plainListing, namelessListing, plainListing]
    (run.1.filterMap (Visit.chargedTo "user-1")).map Prod.snd = [some 200, some 429] := by
  -- The counter admits one request of each subject.
  have keeps : plainFramework.KeepsStatus := ⟨fun _ => rfl, fun _ _ => rfl, fun _ _ _ => rfl⟩
  have perKey : CountsPerKey onceLimiter id fun count _ => (count = 0, count + 1) :=
    ⟨fun _ _ => rfl, fun _ _ => rfl⟩
  have located : ∀ request ∈ [plainListing, namelessListing, plainListing],
      ∃ path, plainTools.urlPath request = .ok path := by
    simp only [List.mem_cons, List.not_mem_nil, or_false]
    rintro request (rfl | rfl | rfl) <;> exact ⟨_, rfl⟩
  exact ((subjects_answeredAlone keeps perKey (CheckedJose.steady _)
    [plainListing, namelessListing, plainListing] located ⟨0, fun _ => 0⟩).2 "user-1").1.trans
      (by decide +kernel)

end Absm
