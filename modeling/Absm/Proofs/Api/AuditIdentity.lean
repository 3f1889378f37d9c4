import Absm.Proofs.Api.AuditTrail

/-! Whom the audit record of an alerts request names. -/

namespace Absm

variable {T K S : Type} [LT T] {jose : CheckedJose T K} {settings : ApiSettings} {limiter : Limiter T S}
  {framework : Framework K} {tools : AuditTools} {clock : Nat → T} {isoformat : T → String}
  {request : Request} {site after : Site S} {route : GuardedRoute K} {params : String → String} {user : User}

/-- A picked route is one of those of alerts, and serves the method of the request. -/
theorem pickRoute_eq_some (picked : pickRoute framework request = some (route, params)) :
    route ∈ alertsRoutes ∧ route.method = request.method := by
  -- Only a route of the same method is compared with the path.
  obtain ⟨found, member, matched⟩ := List.exists_of_findSome?_eq_some picked
  split at matched
  case isTrue same =>
    obtain ⟨_, _, paired⟩ := Option.map_eq_some_iff.mp matched
    cases paired
    exact ⟨member, same⟩
  case isFalse => cases matched

/-- The token in the header of a user who was named once is read again, and names the user again unless
it has expired. -/
theorem auditIdentity_again {now : T} {authorization : String} (later : T)
    (named : getCurrentUser jose.toJose settings now authorization = .ok user) :
    (¬ Expired jose settings (bearerToken authorization) later →
        auditIdentity jose.toJose settings later authorization = .ok (user.sub, user.role)) ∧
      (Expired jose settings (bearerToken authorization) later →
        auditIdentity jose.toJose settings later authorization =
          .ok ("unauthenticated", "unauthenticated")) := by
  -- The header is taken apart in the same way, and only the moment is another one.
  obtain ⟨⟨starts, present⟩, accepted⟩ := getCurrentUser_eq_ok.mp named
  obtain ⟨lasting, late⟩ := verifyToken_again later accepted
  unfold bearerToken at *
  simp only [auditIdentity, if_pos starts, if_neg present]
  exact ⟨fun still => by rw [lasting still], fun expired => by rw [late expired]⟩

omit [LT T] in
/-- A request that a route of alerts admits leaves the record that is made after the handler ran. -/
theorem records_of_admitted {jose : Jose T K} (picked : pickRoute framework request = some (route, params))
    (admitted : route.admission jose settings limiter clock request site = (.ok user, after)) :
    (application jose settings framework tools clock
        (router jose settings limiter framework clock isoformat) request site).records =
      (madeRecord jose settings tools clock
        ((request.header "x-request-id").getD (tools.uuid4 site.readings)) request
        (Response.json 200 (route.handler params user)) after).toList := by
  -- No route of alerts serves a browser that asks for permission.
  obtain ⟨member, method⟩ := pickRoute_eq_some picked
  have other : ¬ request.Preflight := fun preflight =>
    (alertsRoutes_guarded member).1 (method.trans preflight.1)
  have served : router jose settings limiter framework clock isoformat request site =
      (.ok (.json 200 (route.handler params user)), after) := by
    simp only [router, picked, GuardedRoute.serve, admitted]
  rw [records_of_other other, records_of_audit]
  simp [exceptionMiddleware, served, handleException]

/-- The record of a request to a route of alerts whose handler ran names the user that the request was
admitted for, with the role, exactly when the token has not expired at the time of the record and there is
a path in the URL. -/
theorem recordNames_iff (picked : pickRoute framework request = some (route, params))
    (admitted : route.admission jose.toJose settings limiter clock request site = (.ok user, after)) :
    (∃ record, (application jose.toJose settings framework tools clock
          (router jose.toJose settings limiter framework clock isoformat) request site).records = [record] ∧
        record.userId = user.sub ∧ record.role = user.role) ↔
      ¬ Expired jose settings (bearerToken request.authorization) (clock (site.readings + 3)) ∧
        ∃ path, tools.urlPath request = .ok path := by
  -- The clock has been looked at three times when the audit verifies the token again.
  obtain ⟨named, role, readings⟩ := GuardedRoute.admission_eq_ok admitted
  obtain ⟨lasting, late⟩ := auditIdentity_again (clock (site.readings + 3)) named
  rw [records_of_admitted picked admitted, madeRecord, readings]
  cases located : tools.urlPath request with
  | error raised => simp [Except.toOption]
  | ok path =>
    simp only [Except.ok.injEq, exists_eq', and_true]
    constructor
    · -- An expired token gives a role that no route requires.
      rintro ⟨record, left, _, sameRole⟩ expired
      rw [late expired] at left
      cases left
      exact (alertsRoutes_guarded (pickRoute_eq_some picked).1).2 (role.symm.trans sameRole.symm)
    · intro still
      rw [lasting still]
      exact ⟨_, rfl, rfl, rfl⟩

/-- A token that lasts longer than the request is named by the record. -/
theorem recordNames_lasting :
    ∃ record, (application (plainJose 10).toJose plainSettings plainFramework plainTools Int.ofNat
          (router (plainJose 10).toJose plainSettings plainLimiter plainFramework Int.ofNat toString)
          plainListing ⟨0, ()⟩).records = [record] ∧
        record.userId = "user-1" ∧ record.role = "analyst" := by
  have picked : pickRoute plainFramework plainListing = some (plainRoute, fun _ => "") := rfl
  have admitted : plainRoute.admission (plainJose 10).toJose plainSettings plainLimiter Int.ofNat
      plainListing ⟨0, ()⟩ = (.ok ⟨"user-1", "analyst"⟩, ⟨3, ()⟩) := rfl
  refine (recordNames_iff picked admitted).mpr ⟨?_, _, rfl⟩
  -- The claim is compared with the fourth reading of the clock.
  intro expired
  obtain ⟨claims, exp, limit, signed, hasExp, stands, late⟩ := expired
  cases signed
  cases hasExp
  cases stands
  exact late (by decide)

/-- A clock that is two seconds later at each reading. -/
def slowClock (readings : Nat) : Int := 2 * readings

/-- A token that expires while the request is served: the handler answers the user, and the record, a
second after the end of the token, names nobody. -/
theorem recordNames_expired :
    plainRoute.admission (plainJose 5).toJose plainSettings plainLimiter slowClock plainListing ⟨0, ()⟩ =
        (.ok ⟨"user-1", "analyst"⟩, ⟨3, ()⟩) ∧
      (∀ earlier later, earlier ≤ later → slowClock earlier ≤ slowClock later) ∧ 5 < slowClock 3 ∧
      ∃ record, (application (plainJose 5).toJose plainSettings plainFramework plainTools slowClock
          (router (plainJose 5).toJose plainSettings plainLimiter plainFramework slowClock toString)
          plainListing ⟨0, ()⟩).records = [record] ∧
        record.statusCode = 200 ∧ record.userId = "unauthenticated" ∧
        record.role = "unauthenticated" := by
  -- The token is valid at the readings 0, 2 and 4 of the clock, and not at 6.
  refine ⟨rfl, fun earlier later before => ?_, by decide, _, rfl, rfl, by decide, by decide⟩
  unfold slowClock
  omega

end Absm
