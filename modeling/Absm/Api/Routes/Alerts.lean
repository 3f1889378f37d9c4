import Absm.Api.RateLimit

/-! The routes of alerts, each with a role that it requires and a rate limit. -/

namespace Absm

variable {T K S : Type}

/-- Return the alerts collection. -/
def listAlerts (user : User) : Json K :=
  .object [("items", .array []), ("requested_by", .str user.sub)]

/-- Return a single alert. -/
def getAlert (alertId : String) (user : User) : Json K :=
  .object [("id", .str alertId), ("status", .str "open"), ("requested_by", .str user.sub)]

/-- Accept feedback for an alert. -/
def submitFeedback (alertId : String) (user : User) : Json K :=
  .object [("id", .str alertId), ("feedback", .str "accepted"), ("submitted_by", .str user.sub)]

/-- Delete an alert. -/
def deleteAlert (alertId : String) (user : User) : Json K :=
  .object [("id", .str alertId), ("deleted_by", .str user.sub)]

/-- A route with its guard. -/
structure GuardedRoute (K : Type) where
  /-- The method that it serves. -/
  method : String
  /-- The template of the paths that it serves. -/
  template : String
  /-- The role that a user must have. -/
  requiredRole : String
  /-- The rate limit. -/
  limit : String
  /-- The name of the handler. -/
  endpoint : String
  /-- The handler, given the parameters of the path and the user. -/
  handler : (params : String → String) → User → Json K

/-- The routes of alerts, in order. -/
def alertsRoutes : List (GuardedRoute K) :=
  -- Only deleting needs the administrator's role.
  [⟨"GET", "/alerts", "analyst", "100/minute", "list_alerts", fun _ user => listAlerts user⟩,
    ⟨"GET", "/alerts/{alert_id}", "analyst", "100/minute", "get_alert",
      fun params user => getAlert (params "alert_id") user⟩,
    ⟨"POST", "/alerts/{alert_id}/feedback", "analyst", "100/minute", "submit_feedback",
      fun params user => submitFeedback (params "alert_id") user⟩,
    ⟨"DELETE", "/alerts/{alert_id}", "admin", "100/minute", "delete_alert",
      fun params user => deleteAlert (params "alert_id") user⟩]

section Serving

variable (jose : Jose T K) (settings : ApiSettings) (limiter : Limiter T S) (clock : Nat → T)

/-- Admit a request to a route: first the token and the role are checked, then the rate. -/
def GuardedRoute.admission (route : GuardedRoute K) (request : Request) (site : Site S) :
    Except ApiException User × Site S :=
  -- The dependency that checks the role comes before the decorator that checks the limit.
  match getCurrentUser jose settings (clock site.readings) request.authorization >>=
    requireRole route.requiredRole with
  | .error raised => (.error raised, site.tick)
  | .ok user =>
    match checkRequestLimit jose settings limiter clock route.limit route.endpoint request site.tick with
    | (.error raised, after) => (.error raised, after)
    | (.ok (), after) => (.ok user, after)

/-- Serve a request that a route was picked for: the handler runs once the request is admitted. -/
def GuardedRoute.serve (route : GuardedRoute K) (params : String → String) (request : Request)
    (site : Site S) : Except ApiException (Response K) × Site S :=
  -- The handler runs only when both checks have been passed.
  match route.admission jose settings limiter clock request site with
  | (.error raised, after) => (.error raised, after)
  | (.ok user, after) => (.ok (.json 200 (route.handler params user)), after)

end Serving

/-! ### Admission -/

/-- No route of alerts is for browsers that ask for permission, and none is for users who are not
authenticated. -/
theorem alertsRoutes_guarded {route : GuardedRoute K} (member : route ∈ alertsRoutes) :
    route.method ≠ "OPTIONS" ∧ route.requiredRole ≠ "unauthenticated" := by
  -- There are four of them.
  simp only [alertsRoutes, List.mem_cons, List.not_mem_nil, or_false] at member
  rcases member with rfl | rfl | rfl | rfl <;> simp

variable {jose : Jose T K} {settings : ApiSettings} {limiter : Limiter T S} {clock : Nat → T}

/-- A request within the limit has made the limiter look at the clock for its key and for its count. -/
theorem readings_of_checkRequestLimit {limit endpoint : String} {request : Request} {site after : Site S}
    (within : checkRequestLimit jose settings limiter clock limit endpoint request site = (.ok (), after)) :
    after.readings = site.readings + 2 := by
  -- A key that cannot be found raises.
  unfold checkRequestLimit at within
  cases keyed : limiterKeyFunc jose settings limiter (clock site.readings) request with
  | error raised => simp [keyed] at within
  | ok key =>
    simp only [keyed, Prod.mk.injEq] at within
    rw [← within.2]
    simp

/-- A request that is admitted carries a token which was accepted for the user when the request came,
the user has the required role, and the clock has been looked at three times. -/
theorem GuardedRoute.admission_eq_ok {route : GuardedRoute K} {request : Request} {site after : Site S}
    {user : User} (admitted : route.admission jose settings limiter clock request site = (.ok user, after)) :
    getCurrentUser jose settings (clock site.readings) request.authorization = .ok user ∧
      user.role = route.requiredRole ∧ after.readings = site.readings + 3 := by
  -- The limiter is asked after the role, and its answer does not change the user.
  unfold admission at admitted
  cases checked : getCurrentUser jose settings (clock site.readings) request.authorization >>=
      requireRole route.requiredRole with
  | error raised => simp [checked] at admitted
  | ok allowed =>
    obtain ⟨named, accepted, hasRole⟩ := bind_eq_ok.mp checked
    obtain ⟨rfl, role⟩ := requireRole_eq_ok.mp hasRole
    simp only [checked] at admitted
    rcases limited : checkRequestLimit jose settings limiter clock route.limit route.endpoint request
      site.tick with ⟨raised | _, rest⟩
    · simp [limited] at admitted
    · simp only [limited, Prod.mk.injEq, Except.ok.injEq] at admitted
      obtain ⟨rfl, rfl⟩ := admitted
      have read := readings_of_checkRequestLimit limited
      simp only [Site.tick_readings] at read
      exact ⟨accepted, role, by omega⟩

end Absm
