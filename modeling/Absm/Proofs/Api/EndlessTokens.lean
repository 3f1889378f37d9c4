import Mathlib.Algebra.Order.Ring.Int
import Mathlib.Order.Max
import Absm.Api.PlainService

/-! Which tokens are refused from some time on. -/

namespace Absm

variable {T K : Type}

/-- A token that nothing ever ends: it has a valid signature, names the issuer, the subject and the role,
and has no `exp` claim. -/
def Endless [LT T] (jose : CheckedJose T K) (settings : ApiSettings) (token : String) : Prop :=
  -- Signature, issuer, subject and role are in order, and there is no limit of time.
  ∃ claims subject role, jose.signed token settings.jwtSecretKey ["HS256"] = some claims ∧
    claims.get? "iss" = some (.str settings.jwtIssuer) ∧ claims.get? "sub" = some (.str subject) ∧
    claims.get? "role" = some (.str role) ∧ claims.get? "exp" = none

/-- After a moment a token is refused, and so is, on every route with a role, every request that
carries it. -/
def RefusedAfter [LT T] (jose : CheckedJose T K) (settings : ApiSettings) (token : String) (last : T) : Prop :=
  -- Both the verification and every guarded route refuse from some moment on.
  (∀ now, last < now →
      ∃ refused, verifyToken jose.toJose settings now token = .error (.http refused) ∧
        refused.statusCode = 401) ∧
    ∀ (S : Type) (limiter : Limiter T S) (clock : Nat → T) (route : GuardedRoute K)
      (params : String → String) (request : Request) (site : Site S),
      bearerToken request.authorization = token → last < clock site.readings →
      ∃ refused, (route.serve jose.toJose settings limiter clock params request site).1 = .error (.http refused) ∧
        refused.statusCode = 401

section Refused

variable [LT T] {jose : CheckedJose T K} {settings : ApiSettings}

/-- A header without a token that is accepted names nobody. -/
theorem getCurrentUser_refused {now : T} {authorization : String} {raised : ApiException}
    (rejected : verifyToken jose.toJose settings now (bearerToken authorization) = .error raised) :
    ∃ refused, getCurrentUser jose.toJose settings now authorization = .error (.http refused) ∧
      refused.statusCode = 401 := by
  -- The exception for a missing token has the same status as the one for an invalid token.
  cases named : getCurrentUser jose.toJose settings now authorization with
  | ok user =>
    obtain ⟨_, accepted⟩ := getCurrentUser_eq_ok.mp named
    rw [rejected] at accepted
    cases accepted
  | error other =>
    rcases getCurrentUser_error named with ⟨refused, rfl, unauthorized⟩ | ⟨error, rfl, _, decoding⟩
    · exact ⟨refused, rfl, unauthorized⟩
    · cases jose.decode_error decoding

/-- A route refuses a request whose header names nobody, before the role and the rate are looked at. -/
theorem serve_refused {S : Type} {limiter : Limiter T S} {clock : Nat → T} {route : GuardedRoute K}
    {params : String → String} {request : Request} {site : Site S} {raised : ApiException}
    (nobody : getCurrentUser jose.toJose settings (clock site.readings) request.authorization =
      .error raised) :
    (route.serve jose.toJose settings limiter clock params request site).1 = .error raised := by
  -- The handler does not run.
  simp only [GuardedRoute.serve, GuardedRoute.admission, nobody, error_bind]

/-- A token that is not accepted after a moment is refused after it, on every route. -/
theorem refusedAfter_of_not_accepted {token : String} {last : T}
    (never : ∀ now, last < now → ∀ user, verifyToken jose.toJose settings now token ≠ .ok user) :
    RefusedAfter jose settings token last := by
  -- What is not accepted is refused with the one exception for tokens.
  have refuses (now : T) (late : last < now) :
      verifyToken jose.toJose settings now token = .error (.http invalidToken) := by
    cases verified : verifyToken jose.toJose settings now token with
    | error raised => rw [verifyToken_eq_error verified]
    | ok user => exact absurd verified (never now late user)
  refine ⟨fun now late => ⟨invalidToken, refuses now late, rfl⟩, ?_⟩
  intro S limiter clock route params request site carries late
  obtain ⟨refused, nobody, unauthorized⟩ := getCurrentUser_refused (carries ▸ refuses _ late)
  exact ⟨refused, serve_refused nobody, unauthorized⟩

/-- An endless token is accepted at every moment. -/
theorem Endless.accepted {token : String} (endless : Endless jose settings token) :
    ∃ user, ∀ now, verifyToken jose.toJose settings now token = .ok user := by
  obtain ⟨claims, subject, role, signed, issuer, hasSub, hasRole, noExp⟩ := endless
  refine ⟨⟨subject, role⟩, fun now => verifyToken_eq_ok.mpr ⟨claims, ?_, hasSub, hasRole⟩⟩
  -- There is no claim that could be too early.
  refine jose.decode_eq_ok.mpr ⟨signed, issuer, fun exp hasExp => ?_⟩
  rw [noExp] at hasExp
  cases hasExp

/-- A token that is accepted once is endless, or there is a moment before which it must be used. -/
theorem endless_or_limited {token : String} {now : T} {user : User}
    (accepted : verifyToken jose.toJose settings now token = .ok user) :
    Endless jose settings token ∨
      ∃ limit, ∀ later other, verifyToken jose.toJose settings later token = .ok other → later < limit := by
  obtain ⟨claims, decoded, hasSub, hasRole⟩ := verifyToken_eq_ok.mp accepted
  obtain ⟨signed, issuer, timely⟩ := jose.decode_eq_ok.mp decoded
  cases hasExp : claims.get? "exp" with
  | none => exact .inl ⟨claims, user.sub, user.role, signed, issuer, hasSub, hasRole, hasExp⟩
  | some exp =>
    -- The signature stands for the same claims at every moment.
    obtain ⟨limit, stands, _⟩ := timely exp hasExp
    refine .inr ⟨limit, fun later other again => ?_⟩
    obtain ⟨others, decodedAgain, _⟩ := verifyToken_eq_ok.mp again
    obtain ⟨same, _, timelyAgain⟩ := jose.decode_eq_ok.mp decodedAgain
    cases signed.symm.trans same
    obtain ⟨limitAgain, standsAgain, early⟩ := timelyAgain exp hasExp
    cases stands.symm.trans standsAgain
    exact early

end Refused

/-- A token is refused from some time on exactly when it is not endless. -/
theorem refusedAfter_iff [LinearOrder T] [NoMaxOrder T] [Nonempty T] (jose : CheckedJose T K)
    (settings : ApiSettings) (token : String) :
    (∃ last, RefusedAfter jose settings token last) ↔ ¬ Endless jose settings token := by
  constructor
  · intro ends endless
    obtain ⟨last, refuses, _⟩ := ends
    obtain ⟨user, accepted⟩ := endless.accepted
    -- There is a moment after any other one.
    obtain ⟨later, late⟩ := exists_gt last
    obtain ⟨refused, rejected, _⟩ := refuses later late
    rw [accepted later] at rejected
    cases rejected
  · intro limited
    by_cases once : ∃ now user, verifyToken jose.toJose settings now token = .ok user
    · obtain ⟨now, user, accepted⟩ := once
      obtain ⟨limit, early⟩ := (endless_or_limited accepted).resolve_left limited
      exact ⟨limit, refusedAfter_of_not_accepted fun later late other again =>
        absurd (early later other again) (not_lt.mpr late.le)⟩
    · obtain ⟨moment⟩ := ‹Nonempty T›
      exact ⟨moment, refusedAfter_of_not_accepted fun now _ user accepted => once ⟨now, user, accepted⟩⟩

/-- The token of the service, whose `exp` claim is ten, is refused from some time on. -/
theorem refusedAfter_ten : ∃ last, RefusedAfter (plainJose 10) plainSettings "token" last := by
  -- The token has an `exp` claim, so it is not endless.
  refine (refusedAfter_iff (plainJose 10) plainSettings "token").mpr ?_
  intro endless
  obtain ⟨claims, _, _, signed, _, _, _, noExp⟩ := endless
  cases signed
  cases noExp

/-- A library for which one token without an `exp` claim is signed. -/
def lenientJose : CheckedJose Int Unit :=
  .ofSigned (fun token key _ =>
    if token = "token" ∧ key = "test-secret" then
      some (.ofList [("sub", .str "user-1"), ("role", .str "analyst"), ("iss", .str "absm-issuer")])
    else none) fun _ => none

/-- The token without an `exp` claim is accepted at every moment, and there is no time after which it
is refused. -/
theorem refusedAfter_never :
    (∀ now, verifyToken lenientJose.toJose plainSettings now "token" = .ok ⟨"user-1", "analyst"⟩) ∧
      ¬ ∃ last, RefusedAfter lenientJose plainSettings "token" last := by
  -- The claims have no limit, so the token is accepted at all times.
  have accepted (now : Int) :
      verifyToken lenientJose.toJose plainSettings now "token" = .ok ⟨"user-1", "analyst"⟩ := rfl
  refine ⟨accepted, fun ends => ?_⟩
  obtain ⟨last, refuses, _⟩ := ends
  obtain ⟨refused, rejected, _⟩ := refuses (last + 1) (by omega)
  rw [accepted] at rejected
  cases rejected

end Absm
