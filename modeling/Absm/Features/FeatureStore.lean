import Absm.Foundation.IsoFormat
import Absm.Models.OnlineUpdater

/-! Caching profiles in Redis, where the baseline updates find them. -/

namespace Absm

/-! ### Payloads -/

/-- The library for binary payloads, with what it promises: what it has packed it unpacks again. -/
structure Msgpack (F D : Type) where
  /-- The bytes of an object. -/
  packb : Json F → Except PyError D
  /-- The object that some bytes stand for. -/
  unpackb : D → Except PyError (Json F)
  /-- What has been packed is unpacked. -/
  unpackb_packb {payload : Json F} {data : D} (packed : packb payload = .ok data) :
    unpackb data = .ok payload

/-- A library whose bytes are left abstract, so that they are the objects themselves. -/
def Msgpack.plain (F : Type) : Msgpack F (Json F) where
  -- Packing never fails, and unpacking undoes it.
  packb := .ok
  unpackb := .ok
  unpackb_packb packed := packed.symm

section Payloads

variable {F D : Type} (msgpack : Msgpack F D)

/-- The fields of a profile, ready to be packed. -/
def profilePayload (profile : UserProfile F) : Json F :=
  -- The moment is the only field that is spelled as text.
  .object [("user_id", .str profile.userId), ("window_days", .int profile.windowDays),
    ("features", .object (profile.features.entries.map fun entry => (entry.1, .float entry.2))),
    ("generated_at", .str profile.generatedAt.isoformat)]

/-- The bytes of a profile. -/
def serializeProfile (profile : UserProfile F) : Except PyError D :=
  -- Whatever the library raises is raised.
  msgpack.packb (profilePayload profile)

/-- A field of a payload. -/
def payloadField (payload : Json F) (key : String) : Except PyError (Json F) :=
  -- A payload is subscripted with the names of fields.
  match payload with
  | .object members =>
    match lookupEntry key members with
    | some value => .ok value
    | none => .error (.keyError key)
  | _ => .error (.typeError "indices must be integers or slices, not 'str'")

/-- A text in a payload. -/
def payloadText (value : Json F) : Except PyError String :=
  match value with
  | .str text => .ok text
  | _ => .error (.typeError "argument must be str")

/-- The number in a payload that is made an integer. -/
def payloadInt (value : Json F) : Except PyError Int :=
  match value with
  | .int number => .ok number
  | _ => .error (.typeError "int() argument must be a real number")

/-- A feature in a payload. -/
def payloadFeature : String × Json F → Except PyError (String × F)
  | (name, .float feature) => .ok (name, feature)
  | _ => .error (.typeError "must be real number")

/-- The features in a payload. -/
def payloadFeatures (value : Json F) : Except PyError (Dict String F) :=
  match value with
  | .object members => (members.mapM payloadFeature).map Dict.ofList
  | _ => .error (.typeError "features must be a mapping")

/-- The profile in some bytes. -/
def deserializeProfile (data : D) : Except PyError (UserProfile F) := do
  -- The moment is parsed first, and then the fields are read in the order of the dataclass.
  let payload ← msgpack.unpackb data
  let generatedAt ← DateTime.fromisoformat (← payloadText (← payloadField payload "generated_at"))
  return ⟨← payloadText (← payloadField payload "user_id"),
    ← payloadInt (← payloadField payload "window_days"),
    ← payloadFeatures (← payloadField payload "features"), generatedAt⟩

end Payloads

/-! ### Redis -/

/-- What Redis holds under a key. -/
structure RedisEntry (D : Type) where
  /-- The data. -/
  data : D
  /-- The last moment at which the entry is there, in milliseconds. -/
  expires : Int
  deriving DecidableEq

/-- What Redis holds under its keys; an entry whose time is over is still listed, but not found. -/
abbrev Redis (D : Type) := String → Option (RedisEntry D)

/-- The last moment that Redis can count to. -/
def lastMoment : Int := 9223372036854775807

/-- The moment at which a time to live in seconds ends. -/
def expiry (now ttl : Int) : Int := now + ttl * 1000

/-- Whether Redis accepts a time to live. -/
def AcceptedTtl (now ttl : Int) : Prop :=
  -- A time to live that is not positive, or that ends behind the last moment, is refused by Redis.
  0 < ttl ∧ expiry now ttl ≤ lastMoment

instance (now ttl : Int) : Decidable (AcceptedTtl now ttl) := inferInstanceAs (Decidable (_ ∧ _))

namespace Redis

variable {D : Type}

/-- The command `GET`. -/
def get (redis : Redis D) (now : Int) (key : String) : Option D :=
  -- An entry is still there at the very moment it expires, and gone afterwards.
  ((redis key).filter fun entry => now ≤ entry.expires).map RedisEntry.data

/-- The command `SETEX`. -/
def setex (redis : Redis D) (now : Int) (key : String) (ttl : Int) (data : D) :
    Except PyError (Redis D) :=
  -- What was stored under the key is replaced, with its expiry.
  if AcceptedTtl now ttl then .ok (Function.update redis key (some ⟨data, expiry now ttl⟩))
  else .error .osError

end Redis

/-! ### Clients -/

/-- A client of Redis. -/
structure RedisClient where
  /-- What each command raises before it is sent, if the client's settings make no connection. -/
  refuses : Option PyError

/-- What the store is configured with, and what the library for Redis makes of it. -/
structure RedisLibrary where
  /-- Loading the settings raises, or gives the URL of Redis. -/
  redisUrl : Except PyError String
  /-- The method `from_url`, for a URL and `ssl=True`. -/
  fromUrl : String → Except PyError RedisClient

/-- A client from the configured settings. -/
def getClient (library : RedisLibrary) : Except PyError RedisClient := do
  library.fromUrl (← library.redisUrl)

namespace RedisLibrary

/-- What stands in the way of every command, if anything does. -/
def refusal (library : RedisLibrary) : Option PyError :=
  -- A client that cannot be made and one that cannot connect end every command alike.
  match getClient library with
  | .error error => some error
  | .ok client => client.refuses

/-- A result that needs a command. -/
def guarded {α : Type} (library : RedisLibrary) (result : Except PyError α) : Except PyError α :=
  -- An obstacle is raised whatever the result would have been.
  match library.refusal with
  | some error => .error error
  | none => result

/-- A library whose connections know the option `ssl`. -/
def accepting : RedisLibrary :=
  -- The client that is made makes its connections without an error.
  ⟨.ok "rediss://localhost:6379/0", fun _ => .ok ⟨none⟩⟩

/-- A library whose connections do not know the option `ssl`. -/
def rejecting : RedisLibrary :=
  -- The client is made, but each of its connections is refused the option.
  ⟨.ok "rediss://localhost:6379/0",
    fun _ => .ok ⟨some (.typeError "__init__() got an unexpected keyword argument 'ssl'")⟩⟩

end RedisLibrary

/-! ### The store -/

section Store

variable {F D : Type} (msgpack : Msgpack F D) (library : RedisLibrary)

/-- The key of a user's profile. -/
def profileKey (userId : String) : String := "profile:" ++ userId

/-- How long a profile is kept if nothing else is said, in seconds. -/
def defaultTtl : Int := 86400

/-- Cache a profile, given whether the connection fails and, if so, whether the command was executed:
what the call raises, and what Redis holds afterwards. -/
def setProfile (now : Int) (userId : String) (profile : UserProfile F) (ttl : Int)
    (fault : Option Bool) (redis : Redis D) : Except PyError Unit × Redis D :=
  match getClient library with
  | .error error => (.error error, redis)
  | .ok client =>
    -- The profile is packed before the client looks for a connection.
    match serializeProfile msgpack profile, client.refuses with
    | .error error, _ => (.error error, redis)
    | .ok _, some error => (.error error, redis)
    | .ok data, none =>
      match redis.setex now (profileKey userId) ttl data, fault with
      | .error error, _ => (.error error, redis)
      | .ok stored, none => (.ok (), stored)
      | .ok stored, some true => (.error .osError, stored)
      | .ok _, some false => (.error .osError, redis)

/-- The cached profile of a user; none stands for a miss. -/
def getProfile (now : Int) (userId : String) (raises : Bool) (redis : Redis D) :
    Except PyError (Option (UserProfile F)) := do
  -- The client is made first; then the command may fail, and then there may be nothing under the key.
  let client ← getClient library
  match client.refuses with
  | some error => .error error
  | none =>
    if raises then .error .osError
    else
      match redis.get now (profileKey userId) with
      | none => .ok none
      | some data => (deserializeProfile msgpack data).map some

variable [Add F] [Sub F] [Mul F] [Neg F] [OfScientific F] [LT F] [LE F] [DecidableLT F]
  [DecidableLE F]

/-- `update_baseline` on this store, which reads the profile at one moment and caches the refreshed one
at a later one. -/
def updateCachedBaseline (now later : Int) (call : UpdateCall F) (faults : StoreFaults)
    (redis : Redis D) : Except PyError Unit × Redis D :=
  -- The checks come in the order of the source, and what is stored lives for a day.
  if ¬ call.admitted then (.error (.valueError "alpha must be in (0, 1]"), redis)
  else
    match getProfile msgpack library now call.userId faults.getRaises redis with
    | .error error => (.error error, redis)
    | .ok none => (.error (.valueError "profile not found for baseline update"), redis)
    | .ok (some profile) =>
      setProfile msgpack library later call.userId (call.refresh profile) defaultTtl faults.setRaises redis

end Store
end Absm
