import Mathlib.Order.Defs.LinearOrder
import Absm.Api.Http

/-! Who a request comes from: the token in its header, and what the token allows. -/

namespace Absm

/-- The settings that the API reads. -/
structure ApiSettings where
  /-- The key that signatures of tokens are checked with. -/
  jwtSecretKey : String
  /-- The issuer that tokens must name. -/
  jwtIssuer : String
  /-- The origins that browsers may call from. -/
  allowedOrigins : List String

/-- What the library for tokens raises over a token. -/
inductive DecodeError where
  /-- A `JWTError`. -/
  | jwtError
  /-- Any other exception, such as the `TypeError` for an `exp` claim that is null. -/
  | raised (error : PyError)
  deriving DecidableEq

/-- The library for tokens. -/
structure Jose (T K : Type) where
  /-- The claims of a token at a moment, under a key and one of some algorithms. -/
  decode : (token key : String) → (algorithms : List String) → (issuer : String) → (now : T) →
    Except DecodeError (Dict String (Json K))

/-- A library for tokens that keeps what it promises: a token is decoded when its signature is valid, it
names the issuer and its `exp` claim, if any, is later than now, and anything else is a `JWTError`. -/
structure CheckedJose (T K : Type) [LT T] extends Jose T K where
  /-- The claims of a token whose signature is valid under a key and one of some algorithms. -/
  signed : (token key : String) → (algorithms : List String) → Option (Dict String (Json K))
  /-- The moment that an `exp` claim stands for, if it is a number. -/
  moment : Json K → Option T
  /-- What a token is decoded to. -/
  decode_eq_ok {token key : String} {algorithms : List String} {issuer : String} {now : T}
    {claims : Dict String (Json K)} :
    decode token key algorithms issuer now = .ok claims ↔
      signed token key algorithms = some claims ∧ claims.get? "iss" = some (.str issuer) ∧
        ∀ exp, claims.get? "exp" = some exp → ∃ limit, moment exp = some limit ∧ now < limit
  /-- What is raised over a token. -/
  decode_error {token key : String} {algorithms : List String} {issuer : String} {now : T}
    {error : DecodeError} : decode token key algorithms issuer now = .error error → error = .jwtError

/-- Claims name the issuer, and their `exp` claim, if any, is a moment later than now. -/
def claimsHold {T K : Type} [LT T] [DecidableLT T] (moment : Json K → Option T) (issuer : String) (now : T)
    (claims : Dict String (Json K)) : Bool :=
  -- The issuer must be the expected text; an `exp` claim is checked only if there is one.
  (match claims.get? "iss" with
    | some (.str named) => named = issuer
    | _ => false) &&
  match claims.get? "exp" with
    | none => true
    | some exp => (moment exp).any fun limit => now < limit

/-- Claims hold under the two conditions that are promised. -/
theorem claimsHold_iff {T K : Type} [LT T] [DecidableLT T] {moment : Json K → Option T} {issuer : String}
    {now : T} {claims : Dict String (Json K)} :
    claimsHold moment issuer now claims = true ↔ claims.get? "iss" = some (.str issuer) ∧
      ∀ exp, claims.get? "exp" = some exp → ∃ limit, moment exp = some limit ∧ now < limit := by
  rw [claimsHold, Bool.and_eq_true]
  refine and_congr ?_ ?_
  · -- Only a string can be the issuer.
    split <;> simp_all
  · -- Without an `exp` claim there is nothing to compare.
    cases claims.get? "exp" with
    | none => simp
    | some exp => simp [Option.any_eq_true]

/-- A library that keeps the promise, given which tokens are signed and how moments are written. -/
def CheckedJose.ofSigned {T K : Type} [LT T] [DecidableLT T]
    (signed : (token key : String) → (algorithms : List String) → Option (Dict String (Json K)))
    (moment : Json K → Option T) : CheckedJose T K where
  signed := signed
  moment := moment
  decode token key algorithms issuer now :=
    match (signed token key algorithms).filter (claimsHold moment issuer now) with
    | some claims => .ok claims
    | none => .error .jwtError
  decode_eq_ok {token key algorithms issuer now claims} := by
    -- What the filter keeps is returned.
    rw [← claimsHold_iff, ← Option.filter_eq_some_iff]
    split
    case h_1 kept found => simp [found]
    case h_2 nothing => simp [nothing]
  decode_error {token key algorithms issuer now error} raised := by
    split at raised <;> cases raised
    rfl

/-- The claims about a user. -/
structure User where
  /-- The claim `sub`. -/
  sub : String
  /-- The claim `role`. -/
  role : String
  deriving DecidableEq

section Tokens

variable {T K : Type} (jose : Jose T K) (settings : ApiSettings) (now : T)

/-- The exception for a token that is not accepted. -/
def invalidToken : HTTPException := ⟨401, "Invalid authentication token"⟩

/-- The exception for a request without a token. -/
def missingToken : HTTPException := ⟨401, "Missing bearer token"⟩

/-- Validate a token and return the claims about the user. -/
def verifyToken (token : String) : Except ApiException User :=
  match jose.decode token settings.jwtSecretKey ["HS256"] settings.jwtIssuer now with
  | .error .jwtError => .error (.http invalidToken)
  -- Nothing but a `JWTError` is caught.
  | .error (.raised error) => .error (.unhandled error)
  | .ok payload =>
    match payload.get? "sub", payload.get? "role" with
    | some (.str subject), some (.str role) =>
      match payload.get? "iss" with
      | some (.str issuer) =>
        if issuer ≠ settings.jwtIssuer then .error (.http invalidToken) else .ok ⟨subject, role⟩
      | _ => .error (.http invalidToken)
    -- A claim that is missing is as bad as one that is no string.
    | _, _ => .error (.http invalidToken)

/-- The user that an `Authorization` header names. -/
def getCurrentUser (authorization : String) : Except ApiException User :=
  -- A header without a token is rejected before anything is decoded.
  if ¬ startsWith authorization "Bearer " then .error (.http missingToken)
  else
    let token := strip (removePrefix authorization "Bearer ")
    if token = "" then .error (.http missingToken) else verifyToken jose settings now token

end Tokens

/-- Refuse a user who does not have the required role. -/
def requireRole (requiredRole : String) (user : User) : Except ApiException User :=
  -- Roles are compared as they are; no role includes another one.
  if user.role ≠ requiredRole then .error (.http ⟨403, "Insufficient role"⟩) else .ok user

/-- The token in an `Authorization` header. -/
def bearerToken (authorization : String) : String := strip (removePrefix authorization "Bearer ")

/-- A header with a token in it. -/
def HasToken (authorization : String) : Prop :=
  -- Both checks of `get_current_user` are passed.
  startsWith authorization "Bearer " = true ∧ bearerToken authorization ≠ ""

/-- Decoding the token in a header raises something else than a `JWTError`. -/
def DecodeRaises {T K : Type} (jose : Jose T K) (settings : ApiSettings) (now : T)
    (authorization : String) (error : PyError) : Prop :=
  -- The token is decoded with the arguments that `verify_token` passes.
  HasToken authorization ∧ jose.decode (bearerToken authorization) settings.jwtSecretKey ["HS256"]
    settings.jwtIssuer now = .error (.raised error)

/-! ### What is accepted -/

section Accepted

variable {T K : Type} {jose : Jose T K} {settings : ApiSettings} {now : T}

/-- Whatever is wrong with a token, the answer is the same, unless the library raises something else. -/
theorem verifyToken_error {token : String} {raised : ApiException}
    (rejected : verifyToken jose settings now token = .error raised) :
    raised = .http invalidToken ∨ ∃ error, raised = .unhandled error ∧
      jose.decode token settings.jwtSecretKey ["HS256"] settings.jwtIssuer now =
        .error (.raised error) := by
  -- Every other branch that raises raises the same exception.
  unfold verifyToken at rejected
  grind

/-- Something else is raised over a token exactly when the library raises it. -/
theorem verifyToken_unhandled_iff {token : String} {error : PyError} :
    verifyToken jose settings now token = .error (.unhandled error) ↔
      jose.decode token settings.jwtSecretKey ["HS256"] settings.jwtIssuer now =
        .error (.raised error) := by
  -- Of what is raised, only a `JWTError` becomes a rejection.
  constructor
  · intro rejected
    rcases verifyToken_error rejected with same | ⟨other, same, raised⟩
    · cases same
    · cases same
      exact raised
  · intro raised
    rw [verifyToken, raised]

/-- A token is decoded before it is accepted. -/
theorem decode_of_verifyToken {token : String} {user : User}
    (accepted : verifyToken jose settings now token = .ok user) :
    ∃ claims, jose.decode token settings.jwtSecretKey ["HS256"] settings.jwtIssuer now = .ok claims := by
  -- Without claims there is an exception.
  unfold verifyToken at accepted
  grind

/-- A user is named by a header with a token in it that is accepted. -/
theorem getCurrentUser_eq_ok {authorization : String} {user : User} :
    getCurrentUser jose settings now authorization = .ok user ↔
      HasToken authorization ∧ verifyToken jose settings now (bearerToken authorization) = .ok user := by
  -- Without a token the exception is raised before anything is verified.
  unfold getCurrentUser HasToken bearerToken
  grind

/-- With a token in the header it is the token that is verified. -/
theorem getCurrentUser_of_hasToken {authorization : String} (carries : HasToken authorization) :
    getCurrentUser jose settings now authorization =
      verifyToken jose settings now (bearerToken authorization) := by
  -- Neither of the two exceptions for a missing token is raised.
  obtain ⟨starts, present⟩ := carries
  unfold bearerToken at *
  rw [getCurrentUser, if_neg (not_not.mpr starts)]
  simp only [if_neg present]

/-- A header that names nobody is answered with 401, unless the library raises something else over its
token. -/
theorem getCurrentUser_error {authorization : String} {raised : ApiException}
    (rejected : getCurrentUser jose settings now authorization = .error raised) :
    (∃ refused, raised = .http refused ∧ refused.statusCode = 401) ∨
      ∃ error, raised = .unhandled error ∧ DecodeRaises jose settings now authorization error := by
  by_cases carries : HasToken authorization
  · rw [getCurrentUser_of_hasToken carries] at rejected
    rcases verifyToken_error rejected with rfl | ⟨error, rfl, decoding⟩
    · exact .inl ⟨_, rfl, rfl⟩
    · exact .inr ⟨error, rfl, carries, decoding⟩
  · -- Without a token it is the exception for a missing one.
    left
    unfold HasToken bearerToken at carries
    unfold getCurrentUser at rejected
    split at rejected
    case isTrue =>
      cases rejected
      exact ⟨_, rfl, rfl⟩
    case isFalse starts =>
      have absent := not_not.mp fun present => carries ⟨not_not.mp starts, present⟩
      simp only [absent, if_true] at rejected
      cases rejected
      exact ⟨_, rfl, rfl⟩

end Accepted

section Checked

variable {T K : Type} [LT T] {jose : CheckedJose T K} {settings : ApiSettings} {now : T}

/-- A token is accepted when it is decoded and its claims say who the user is. -/
theorem verifyToken_eq_ok {token : String} {user : User} :
    verifyToken jose.toJose settings now token = .ok user ↔
      ∃ claims, jose.decode token settings.jwtSecretKey ["HS256"] settings.jwtIssuer now = .ok claims ∧
        claims.get? "sub" = some (.str user.sub) ∧ claims.get? "role" = some (.str user.role) := by
  -- A decoded token names the issuer, so that the issuer is compared in vain.
  unfold verifyToken
  cases decoded : jose.decode token settings.jwtSecretKey ["HS256"] settings.jwtIssuer now with
  | error raised => cases raised <;> simp
  | ok payload =>
    have issuer := (jose.decode_eq_ok.mp decoded).2.1
    simp only [issuer, ne_eq, not_true_eq_false, if_false, Except.ok.injEq, exists_eq_left']
    rcases user with ⟨sub, role⟩
    split
    case h_1 hasSub hasRole => simp [hasSub, hasRole]
    case h_2 noClaims =>
      simp only [reduceCtorEq, false_iff, not_and]
      exact fun hasSub hasRole => noClaims sub role hasSub hasRole

/-- A library that keeps its promise raises nothing else over a token. -/
theorem verifyToken_eq_error {token : String} {raised : ApiException}
    (rejected : verifyToken jose.toJose settings now token = .error raised) :
    raised = .http invalidToken := by
  -- What it raises is a `JWTError`.
  rcases verifyToken_error rejected with same | ⟨error, _, decoding⟩
  · exact same
  · cases jose.decode_error decoding

/-- A token that was issued with a valid signature and whose `exp` claim is not after a moment. -/
def Expired (jose : CheckedJose T K) (settings : ApiSettings) (token : String) (now : T) : Prop :=
  -- At the limit itself the token has expired.
  ∃ claims exp limit, jose.signed token settings.jwtSecretKey ["HS256"] = some claims ∧
    claims.get? "exp" = some exp ∧ jose.moment exp = some limit ∧ ¬ now < limit

/-- A token that was decoded once is decoded at another moment unless it has expired then. -/
theorem decode_again_iff {token : String} {claims : Dict String (Json K)} {later : T}
    (decoded : jose.decode token settings.jwtSecretKey ["HS256"] settings.jwtIssuer now = .ok claims) :
    jose.decode token settings.jwtSecretKey ["HS256"] settings.jwtIssuer later = .ok claims ↔
      ¬ Expired jose settings token later := by
  -- Signature and issuer do not depend on the moment, and an `exp` claim that was compared is a number.
  obtain ⟨signed, issuer, timely⟩ := jose.decode_eq_ok.mp decoded
  rw [jose.decode_eq_ok]
  constructor
  · intro again expired
    obtain ⟨_, _, still⟩ := again
    obtain ⟨others, exp, limit, same, hasExp, stands, late⟩ := expired
    cases signed.symm.trans same
    obtain ⟨_, again, early⟩ := still exp hasExp
    cases again.symm.trans stands
    exact late early
  · intro lasting
    refine ⟨signed, issuer, fun exp hasExp => ?_⟩
    obtain ⟨limit, stands, _⟩ := timely exp hasExp
    exact ⟨limit, stands, by_contra fun late => lasting ⟨claims, exp, limit, signed, hasExp, stands, late⟩⟩

/-- A token that was accepted once is accepted for the same user at another moment unless it has
expired then, and then it is refused. -/
theorem verifyToken_again {token : String} {user : User} (later : T)
    (accepted : verifyToken jose.toJose settings now token = .ok user) :
    (¬ Expired jose settings token later → verifyToken jose.toJose settings later token = .ok user) ∧
      (Expired jose settings token later →
        verifyToken jose.toJose settings later token = .error (.http invalidToken)) := by
  -- The claims are the signed ones at any moment.
  obtain ⟨claims, decoded, hasSub, hasRole⟩ := verifyToken_eq_ok.mp accepted
  constructor
  · exact fun lasting => verifyToken_eq_ok.mpr ⟨claims, (decode_again_iff decoded).mpr lasting, hasSub, hasRole⟩
  · intro expired
    cases again : verifyToken jose.toJose settings later token with
    | error refused => rw [verifyToken_eq_error again]
    | ok other =>
      obtain ⟨others, decodedAgain, _⟩ := verifyToken_eq_ok.mp again
      have same := (jose.decode_eq_ok.mp decoded).1.symm.trans (jose.decode_eq_ok.mp decodedAgain).1
      cases same
      exact absurd expired ((decode_again_iff decoded).mp decodedAgain)

end Checked

/-- A user who gets past the role check has the role. -/
theorem requireRole_eq_ok {requiredRole : String} {user admitted : User} :
    requireRole requiredRole user = .ok admitted ↔ admitted = user ∧ user.role = requiredRole := by
  -- The function has two branches, and only the second one returns.
  unfold requireRole
  grind

end Absm
