import Absm.Api.Auth

/-! The rate limit of a route, counted for each authenticated subject. -/

namespace Absm

/-- The library that counts requests. -/
structure Limiter (T S : Type) where
  /-- The address that stands for a client without a token. -/
  remoteAddress : Option String → String
  /-- Count a request of a key for a handler and a path, and say whether it is within the limit. -/
  hit : (limit endpoint path key : String) → (now : T) → S → Bool × S

variable {T K S : Type} (jose : Jose T K) (settings : ApiSettings) (limiter : Limiter T S)

/-- The key that the requests of a client are counted under: the subject of the token, or the address
of a client without one. -/
def limiterKeyFunc (now : T) (request : Request) : Except ApiException String :=
  -- Requests without a token count against the address, and others against the subject of a valid token.
  let authHeader := request.authorization
  if ¬ startsWith authHeader "Bearer " then .ok (limiter.remoteAddress request.client)
  else
    let token := strip (removePrefix authHeader "Bearer ")
    if token = "" then .ok (limiter.remoteAddress request.client)
    else do
      let user ← getCurrentUser jose settings now ("Bearer " ++ token)
      return user.sub

/-- What the decorator of a route does before its handler runs. -/
def checkRequestLimit (clock : Nat → T) (limit endpoint : String) (request : Request) (site : Site S) :
    Except ApiException Unit × Site S :=
  -- The clock is read for the key and then for the hit; a rejected token hits no counter.
  match limiterKeyFunc jose settings limiter (clock site.readings) request with
  | .error raised => (.error raised, site.tick)
  | .ok key =>
    let now := clock site.tick.readings
    let (within, limits) := limiter.hit limit endpoint request.path key now site.limits
    (if within then .ok () else .error (.rateLimitExceeded limit), { site.tick.tick with limits })

end Absm
