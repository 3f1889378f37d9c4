import Absm.Features.FeatureStore
import Absm.Foundation.Runs
import Absm.Proofs.Models.BaselineUpdates

/-! Profiles come back from Redis as they were cached, until their time is over. -/

namespace Absm

variable {F D : Type} (msgpack : Msgpack F D) (library : RedisLibrary)

/-! ### Payloads -/

/-- Features are read back in their order. -/
theorem payloadFeatures_entries (features : Dict String F) :
    payloadFeatures (.object (features.entries.map fun entry => (entry.1, Json.float entry.2))) =
      .ok features := by
  -- Each float is taken out again, and the names were distinct.
  have read (entries : List (String × F)) :
      (entries.map fun entry => (entry.1, Json.float entry.2)).mapM payloadFeature = .ok entries := by
    induction entries with
    | nil => rfl
    | cons entry entries ih => exact mapM_cons_eq_ok.mpr ⟨entry, entries, rfl, ih, rfl⟩
  rw [payloadFeatures, read, Except.map, Dict.ofList_self]

/-- The profile that is read back from the bytes of a profile: the moment may lose its time zone. -/
def UserProfile.restored (profile : UserProfile F) : UserProfile F :=
  -- Only the time is spelled as text.
  { profile with generatedAt := profile.generatedAt.restored }

/-- The profile comes back as it was exactly when its moment does. -/
theorem UserProfile.restored_eq_iff (profile : UserProfile F) :
    profile.restored = profile ↔ profile.generatedAt.Restorable := by
  -- Nothing else can be lost.
  rw [← DateTime.restored_eq_iff]
  cases profile
  simp [restored]

/-- Bytes with the payload of a profile are read as what can be restored of the profile. -/
theorem deserializeProfile_of_payload {profile : UserProfile F} {data : D}
    (unpacked : msgpack.unpackb data = .ok (profilePayload profile)) :
    deserializeProfile msgpack data = .ok profile.restored := by
  -- The fields have distinct names, so each is found with what was put under it.
  simp only [deserializeProfile, unpacked, profilePayload, payloadField, lookupEntry,
    ok_bind, payloadText, payloadInt, DateTime.fromisoformat_isoformat, payloadFeatures_entries,
    pure_eq_ok, if_true, if_false, String.reduceEq, UserProfile.restored]

/-- Every profile that is packed is unpacked with its user, its window and each feature in its place, and with
a moment that shows the same, to the microsecond. The moment is the same exactly when it had no offset, or a
fixed one that is none or at least a second; otherwise it has the offset that was written, or UTC for one of
less than a second. -/
theorem deserialize_serialize (profile : UserProfile F) {data : D}
    (packed : serializeProfile msgpack profile = .ok data) :
    deserializeProfile msgpack data = .ok profile.restored ∧
      (deserializeProfile msgpack data = .ok profile ↔ profile.generatedAt.Restorable) := by
  -- Reading gives the restored profile, which is the profile exactly when its time is restorable.
  have read := deserializeProfile_of_payload msgpack (msgpack.unpackb_packb packed)
  refine ⟨read, ?_⟩
  rw [read, Except.ok.injEq, UserProfile.restored_eq_iff]

/-- A profile of one feature. -/
def aProfile : UserProfile ℚ :=
  -- Its time has the offset zero.
  ⟨"u", 30, .ofList [("a_mean", 1)], .epoch⟩

/-- A profile goes through bytes that are left abstract. -/
theorem deserialize_serialize_plain :
    deserializeProfile (Msgpack.plain ℚ) (profilePayload aProfile) = .ok aProfile :=
  -- The offset zero survives the text.
  (deserialize_serialize (Msgpack.plain ℚ) aProfile rfl).2.mpr (DateTime.restorable_of_utc rfl)

/-! ### Leases -/

/-- A profile, and the last moment at which it counts. -/
structure Lease (F : Type) where
  /-- The profile. -/
  profile : UserProfile F
  /-- The last moment. -/
  expires : Int
  deriving DecidableEq

/-- What the cache is for: a profile for each user, until its time is over. -/
abbrev Leases (F : Type) :=
  -- At most one lease for each user.
  String → Option (Lease F)

namespace Leases

/-- The profiles that count at a moment. -/
def current (leases : Leases F) (now : Int) : FeatureStore F := fun userId =>
  -- A lease counts up to and including the moment it expires.
  ((leases userId).filter fun lease => now ≤ lease.expires).map Lease.profile

/-- The profiles, whether their time is over or not. -/
def everlasting (leases : Leases F) : FeatureStore F := fun userId =>
  -- What the leases would give if nothing ever expired.
  (leases userId).map Lease.profile

/-- Store what can be restored of a profile, given what is raised before the command is sent and what goes
wrong with the connection. -/
def store (packing : UserProfile F → Except PyError Unit) (now : Int) (userId : String)
    (profile : UserProfile F) (ttl : Int) (fault : Option Bool) (leases : Leases F) :
    Except PyError Unit × Leases F :=
  -- A failed write may have stored the profile or not.
  match packing profile with
  | .error error => (.error error, leases)
  | .ok () =>
    if AcceptedTtl now ttl then
      let stored := Function.update leases userId (some ⟨profile.restored, expiry now ttl⟩)
      match fault with
      | none => (.ok (), stored)
      | some true => (.error .osError, stored)
      | some false => (.error .osError, leases)
    else (.error .osError, leases)

variable {leases : Leases F} {userId : String} {now : Int}

/-- A profile counts while its time is not over. -/
theorem current_of_live (live : ∀ lease ∈ leases userId, now ≤ lease.expires) :
    leases.current now userId = leases.everlasting userId := by
  -- The filter keeps a live lease.
  cases found : leases userId with
  | none => simp [current, everlasting, found]
  | some lease => simp [current, everlasting, found, Option.filter, live lease found]

/-- A profile whose time is over does not count. -/
theorem current_of_lapsed (lapsed : ∀ lease ∈ leases userId, lease.expires < now) :
    leases.current now userId = none := by
  -- The filter drops a lapsed lease.
  cases found : leases userId with
  | none => simp [current, found]
  | some lease => simp [current, found, Option.filter, lapsed lease found]

/-- Storing a profile leaves the other users' profiles alone. -/
theorem store_other (packing : UserProfile F → Except PyError Unit) (now : Int) {userId other : String}
    (profile : UserProfile F) (ttl : Int) (fault : Option Bool) (leases : Leases F)
    (apart : other ≠ userId) :
    (leases.store packing now userId profile ttl fault).2 other = leases other := by
  -- Whatever is stored, it is stored under the name of the user.
  unfold store
  cases packing profile with
  | error error => rfl
  | ok _ =>
    by_cases accepted : AcceptedTtl now ttl
    · rw [if_pos accepted]
      rcases fault with _ | _ | _ <;> simp [Function.update_of_ne apart]
    · rw [if_neg accepted]

end Leases

/-- What is raised before a profile is sent to Redis. -/
def packing (profile : UserProfile F) : Except PyError Unit := do
  -- The client comes first, then the payload, then what the client refuses.
  let client ← getClient library
  let _ ← serializeProfile msgpack profile
  match client.refuses with
  | some error => .error error
  | none => .ok ()

/-- A profile that can be packed before the end of Redis's time is stored unless the connection fails. -/
theorem store_of_packs (works : library.refusal = none) {profile : UserProfile F} {data : D} {now ttl : Int}
    (packs : serializeProfile msgpack profile = .ok data) (accepted : AcceptedTtl now ttl)
    (userId : String) (fault : Option Bool) (leases : Leases F) :
    leases.store (packing msgpack library) now userId profile ttl fault =
      let stored := Function.update leases userId (some ⟨profile.restored, expiry now ttl⟩)
      match fault with
      | none => (.ok (), stored)
      | some true => (.error .osError, stored)
      | some false => (.error .osError, leases) := by
  -- The library gives a client that refuses nothing, so the fault alone decides.
  unfold RedisLibrary.refusal at works
  cases made : getClient library with
  | error error => simp [made] at works
  | ok client =>
    rw [made] at works
    simp only [Leases.store, packing, made, packs, show client.refuses = none from works, ok_bind,
      if_pos accepted]

/-- Redis holds the leases: each profile in bytes that it is read back from, under the user's key, until
the same moment. -/
def HoldsLeases (redis : Redis D) (leases : Leases F) : Prop :=
  -- Every key of a user is missing or holds what the lease says.
  ∀ userId,
    match leases userId with
    | none => redis (profileKey userId) = none
    | some lease => ∃ data, redis (profileKey userId) = some ⟨data, lease.expires⟩ ∧
        deserializeProfile msgpack data = .ok lease.profile

/-- Users have different keys. -/
theorem profileKey_injective : Function.Injective profileKey := fun first second same => by
  -- All keys share one start.
  have chars := congrArg String.toList same
  simp only [profileKey, String.toList_append, List.append_cancel_left_eq] at chars
  exact String.toList_inj.mp chars

variable {msgpack} {library} {redis : Redis D} {leases : Leases F}

/-- Reading needs a client that can be used, and then the entry. -/
theorem getProfile_guarded (msgpack : Msgpack F D) (library : RedisLibrary) (now : Int) (userId : String)
    (raises : Bool) (redis : Redis D) :
    getProfile msgpack library now userId raises redis = library.guarded
      (if raises then .error .osError
      else
        match redis.get now (profileKey userId) with
        | none => .ok none
        | some data => (deserializeProfile msgpack data).map some) := by
  -- The client is made, and looks for a connection.
  rw [getProfile, RedisLibrary.guarded, RedisLibrary.refusal]
  cases getClient library with
  | error error => rfl
  | ok client => rfl

/-- A profile that is cached is found while its time lasts. -/
theorem getProfile_setProfile (works : library.refusal = none) {profile : UserProfile F} {data : D}
    {now ttl later : Int} (packs : serializeProfile msgpack profile = .ok data) (accepted : AcceptedTtl now ttl)
    (live : later ≤ expiry now ttl) (userId : String) (redis : Redis D) :
    getProfile msgpack library later userId false
        (setProfile msgpack library now userId profile ttl none redis).2 = .ok (some profile.restored) := by
  have stored : (setProfile msgpack library now userId profile ttl none redis).2 =
      Function.update redis (profileKey userId) (some ⟨data, expiry now ttl⟩) := by
    -- Nothing stands in the way of the command.
    unfold RedisLibrary.refusal at works
    unfold setProfile
    cases made : getClient library with
    | error error => simp [made] at works
    | ok client =>
      rw [made] at works
      simp only [packs, show client.refuses = none from works, Redis.setex, if_pos accepted]
  rw [getProfile_guarded, RedisLibrary.guarded, works, stored]
  simp [Redis.get, live, Option.filter, Except.map,
    deserializeProfile_of_payload msgpack (msgpack.unpackb_packb packs)]

/-- The cached profile of a user is the one that counts, unless no client can be used. -/
theorem getProfile_eq (library : RedisLibrary) (holds : HoldsLeases msgpack redis leases) (now : Int)
    (userId : String) :
    getProfile msgpack library now userId false redis = library.guarded (.ok (leases.current now userId)) := by
  have here := holds userId
  rw [getProfile_guarded, if_neg (by decide), Redis.get, Leases.current]
  refine congrArg library.guarded ?_
  cases found : leases userId with
  | none =>
    rw [found] at here
    rw [show redis (profileKey userId) = none from here]
    rfl
  | some lease =>
    rw [found] at here
    obtain ⟨data, entry, read⟩ := here
    rw [entry]
    -- The entry and the lease end at the same moment.
    by_cases live : now ≤ lease.expires
    · simp [Option.filter, live, read, Except.map]
    · simp [Option.filter, live]

/-- Redis holds the leases after one user's profile was replaced. -/
theorem HoldsLeases.update (holds : HoldsLeases msgpack redis leases) (userId : String)
    {profile : UserProfile F} {data : D} (packed : serializeProfile msgpack profile = .ok data)
    (expires : Int) :
    HoldsLeases msgpack (Function.update redis (profileKey userId) (some ⟨data, expires⟩))
      (Function.update leases userId (some ⟨profile.restored, expires⟩)) := by
  intro other
  by_cases same : other = userId
  · subst same
    simp only [Function.update_self]
    exact ⟨data, rfl, deserializeProfile_of_payload msgpack (msgpack.unpackb_packb packed)⟩
  · -- Another user has another key.
    have apart : profileKey other ≠ profileKey userId := fun equal => same (profileKey_injective equal)
    simp only [Function.update_of_ne same, Function.update_of_ne apart]
    exact holds other

/-- Caching a profile is storing it among the leases. -/
theorem setProfile_refines (library : RedisLibrary) (holds : HoldsLeases msgpack redis leases) (now : Int)
    (userId : String) (profile : UserProfile F) (ttl : Int) (fault : Option Bool) :
    (setProfile msgpack library now userId profile ttl fault redis).1 =
        (leases.store (packing msgpack library) now userId profile ttl fault).1 ∧
      HoldsLeases msgpack (setProfile msgpack library now userId profile ttl fault redis).2
        (leases.store (packing msgpack library) now userId profile ttl fault).2 := by
  -- Both sides fail on the same conditions, in the same order.
  unfold setProfile Leases.store packing
  cases getClient library with
  | error error => exact ⟨rfl, holds⟩
  | ok client =>
    simp only [ok_bind]
    cases packed : serializeProfile msgpack profile with
    | error error => exact ⟨rfl, holds⟩
    | ok data =>
      cases client.refuses with
      | some error => exact ⟨rfl, holds⟩
      | none =>
        simp only [ok_bind, Redis.setex]
        by_cases accepted : AcceptedTtl now ttl
        · have stored := holds.update userId packed (expiry now ttl)
          rw [if_pos accepted, if_pos accepted]
          rcases fault with _ | _ | _
          · exact ⟨rfl, stored⟩
          · exact ⟨rfl, holds⟩
          · exact ⟨rfl, stored⟩
        · rw [if_neg accepted, if_neg accepted]
          exact ⟨rfl, holds⟩

/-! ### Runs -/

section Runs

variable [Add F] [Sub F] [Mul F] [Neg F] [OfScientific F] [LT F] [LE F] [DecidableLT F]
  [DecidableLE F]

/-- What changes Redis. -/
inductive CacheStep (F D : Type) where
  /-- A profile is cached. -/
  | set (now : Int) (userId : String) (profile : UserProfile F) (ttl : Int) (fault : Option Bool)
  /-- A baseline is updated. -/
  | update (now later : Int) (call : UpdateCall F) (faults : StoreFaults)
  /-- Another client changes a key that is not of this store. -/
  | foreign (key : String) (entry : Option (RedisEntry D)) (apart : ∀ userId, profileKey userId ≠ key)

/-- What a step raises, and what Redis holds afterwards. -/
def CacheStep.inRedis (msgpack : Msgpack F D) (library : RedisLibrary) (redis : Redis D) :
    CacheStep F D → Except PyError Unit × Redis D
  -- Steps of others write one key to anything.
  | .set now userId profile ttl fault => setProfile msgpack library now userId profile ttl fault redis
  | .update now later call faults => updateCachedBaseline msgpack library now later call faults redis
  | .foreign key entry _ => (.ok (), Function.update redis key entry)

/-- What a step raises, and the leases afterwards, given what is raised before a profile is stored and what
stands in the way of every command. -/
def CacheStep.inLeases (packing : UserProfile F → Except PyError Unit) (refusal : Option PyError)
    (leases : Leases F) : CacheStep F D → Except PyError Unit × Leases F
  -- The alpha is checked before the client is asked for.
  | .set now userId profile ttl fault => leases.store packing now userId profile ttl fault
  | .update now later call faults =>
    if ¬ call.admitted then (.error (.valueError "alpha must be in (0, 1]"), leases)
    else
      match refusal with
      | some error => (.error error, leases)
      | none =>
        if faults.getRaises then (.error .osError, leases)
        else
          match leases.current now call.userId with
          | none => (.error (.valueError "profile not found for baseline update"), leases)
          | some profile =>
            leases.store packing later call.userId (call.refresh profile) defaultTtl faults.setRaises
  | .foreign _ _ _ => (.ok (), leases)

/-- A step in Redis does what it does to the leases. -/
theorem inRedis_refines (library : RedisLibrary) (holds : HoldsLeases msgpack redis leases)
    (step : CacheStep F D) :
    (step.inRedis msgpack library redis).1 =
        (step.inLeases (packing msgpack library) library.refusal leases).1 ∧
      HoldsLeases msgpack (step.inRedis msgpack library redis).2
        (step.inLeases (packing msgpack library) library.refusal leases).2 := by
  cases step with
  | set now userId profile ttl fault =>
    exact setProfile_refines library holds now userId profile ttl fault
  | update now later call faults =>
    simp only [CacheStep.inRedis, CacheStep.inLeases, updateCachedBaseline]
    by_cases admitted : call.admitted
    · rw [if_neg (not_not.mpr admitted), if_neg (not_not.mpr admitted)]
      cases faults.getRaises with
      | true =>
        rw [getProfile_guarded, RedisLibrary.guarded]
        cases library.refusal <;> exact ⟨rfl, holds⟩
      | false =>
        rw [getProfile_eq library holds, RedisLibrary.guarded]
        cases library.refusal with
        | some error => exact ⟨rfl, holds⟩
        | none =>
          simp only [if_neg (show ¬ false = true by decide)]
          -- The profile that counts is the one that was read.
          cases leases.current now call.userId with
          | none => exact ⟨rfl, holds⟩
          | some profile =>
            exact setProfile_refines library holds later call.userId _ defaultTtl faults.setRaises
    · rw [if_pos admitted, if_pos admitted]
      exact ⟨rfl, holds⟩
  | foreign key entry apart =>
    refine ⟨rfl, fun userId => ?_⟩
    simp only [CacheStep.inRedis, Function.update_of_ne (apart userId)]
    exact holds userId

end Runs

/-- Nothing is held in an empty Redis. -/
theorem holdsLeases_empty (msgpack : Msgpack F D) : HoldsLeases msgpack (fun _ => none) fun _ => none :=
  -- Nothing is leased and nothing is stored.
  fun _ => rfl

end Absm
