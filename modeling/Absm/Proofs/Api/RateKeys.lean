import Absm.Api.PlainService

/-! Whose rate limit a request with a token counts against. -/

namespace Absm

variable {T K S : Type} {jose : Jose T K} {settings : ApiSettings} {now later : T}

/-- A token that was taken out of a header is the token of the header that it is put into again. -/
theorem bearerToken_again (authorization : String) :
    bearerToken ("Bearer " ++ bearerToken authorization) = bearerToken authorization := by
  -- What was put in front is taken away, and there is no space left at the ends.
  rw [bearerToken, removePrefix_append, bearerToken, strip_strip]

/-- The header that a token is put into again carries it. -/
theorem hasToken_again {authorization : String} (present : bearerToken authorization ≠ "") :
    HasToken ("Bearer " ++ bearerToken authorization) :=
  -- The prefix is followed by what the first strip has left.
  ⟨startsWith_append .., by rwa [bearerToken_again]⟩

/-- With a token in the header, the key of a request is the subject that its verification gives. -/
theorem limiterKeyFunc_of_hasToken (limiter : Limiter T S) {request : Request}
    (carries : HasToken request.authorization) :
    limiterKeyFunc jose settings limiter now request =
      (verifyToken jose settings now (bearerToken request.authorization)).map User.sub := by
  -- The header is taken apart, put together, and taken apart again.
  obtain ⟨starts, present⟩ := carries
  have again : getCurrentUser jose settings now ("Bearer " ++ bearerToken request.authorization) =
      verifyToken jose settings now (bearerToken request.authorization) := by
    rw [getCurrentUser_of_hasToken (hasToken_again present), bearerToken_again]
  unfold bearerToken at *
  rw [limiterKeyFunc, if_neg (not_not.mpr starts)]
  simp only [if_neg present, again]
  rfl

/-- The token of a request is verified with the same outcome at two moments. -/
def SameOutcome (jose : Jose T K) (settings : ApiSettings) (now later : T) (request : Request) : Prop :=
  -- Time has passed between the two, and the token may have expired.
  verifyToken jose settings later (bearerToken request.authorization) =
    verifyToken jose settings now (bearerToken request.authorization)

/-- The limiter makes of a request at a later moment what the authentication made of it: the key is the
subject, wherever the request comes from, and a token that was refused is refused again. -/
def FollowsSubject (jose : Jose T K) (settings : ApiSettings) (limiter : Limiter T S) (now later : T)
    (request : Request) : Prop :=
  -- The address counts neither for a subject nor for a token that is rejected.
  (∀ user, getCurrentUser jose settings now request.authorization = .ok user →
      ∀ client, limiterKeyFunc jose settings limiter later { request with client } = .ok user.sub) ∧
    ∀ raised, HasToken request.authorization →
      getCurrentUser jose settings now request.authorization = .error raised →
      limiterKeyFunc jose settings limiter later request = .error raised

/-- A request whose token is verified with the same outcome is followed. -/
theorem SameOutcome.followsSubject {request : Request} (same : SameOutcome jose settings now later request)
    (limiter : Limiter T S) : FollowsSubject jose settings limiter now later request := by
  constructor
  · -- A user is only named by a header that carries a token.
    intro user named client
    obtain ⟨carries, accepted⟩ := getCurrentUser_eq_ok.mp named
    have same_header : ({ request with client } : Request).authorization = request.authorization := rfl
    rw [limiterKeyFunc_of_hasToken limiter (same_header ▸ carries)]
    exact congrArg (Except.map User.sub) (same.trans accepted)
  · intro raised carries rejected
    rw [getCurrentUser_of_hasToken carries] at rejected
    rw [limiterKeyFunc_of_hasToken limiter carries, same, rejected]
    rfl

/-- Rate limits follow the authenticated subjects: each request is counted under its subject or refused
as before, and two accepted requests are counted together exactly when their subjects are the same. -/
theorem rateLimits_followSubjects (jose : Jose T K) (settings : ApiSettings) (limiter : Limiter T S)
    {first second : Request} {now later otherNow otherLater : T}
    (same : SameOutcome jose settings now later first)
    (otherSame : SameOutcome jose settings otherNow otherLater second) :
    FollowsSubject jose settings limiter now later first ∧
      FollowsSubject jose settings limiter otherNow otherLater second ∧
      ∀ user other, getCurrentUser jose settings now first.authorization = .ok user →
        getCurrentUser jose settings otherNow second.authorization = .ok other →
        (limiterKeyFunc jose settings limiter later first =
          limiterKeyFunc jose settings limiter otherLater second ↔ user.sub = other.sub) := by
  have follows := same.followsSubject limiter
  have otherFollows := otherSame.followsSubject limiter
  refine ⟨follows, otherFollows, fun user other named otherNamed => ?_⟩
  -- Both keys are subjects, so that they agree when these do.
  have key : limiterKeyFunc jose settings limiter later first = .ok user.sub :=
    follows.1 user named first.client
  have otherKey : limiterKeyFunc jose settings limiter otherLater second = .ok other.sub :=
    otherFollows.1 other otherNamed second.client
  rw [key, otherKey, Except.ok.injEq]

/-- The listing of alerts with space around the token, from a client that is not known. -/
def spacedListing : Request :=
  { plainListing with headers := [("authorization", "Bearer  token ")], client := none }

/-- Space around a token does not keep its requests from being counted together. -/
theorem rateLimits_followSubjects_spaced :
    limiterKeyFunc (plainJose 10).toJose plainSettings plainLimiter 1 plainListing =
      limiterKeyFunc (plainJose 10).toJose plainSettings plainLimiter 2 spacedListing := by
  -- Addresses and spaces differ, and the subject is the same.
  have same : SameOutcome (plainJose 10).toJose plainSettings 0 1 plainListing := rfl
  have otherSame : SameOutcome (plainJose 10).toJose plainSettings 0 2 spacedListing := rfl
  have followed := rateLimits_followSubjects (plainJose 10).toJose plainSettings plainLimiter same
    otherSame
  exact (followed.2.2 ⟨"user-1", "analyst"⟩ ⟨"user-1", "analyst"⟩ rfl rfl).mpr rfl

end Absm
