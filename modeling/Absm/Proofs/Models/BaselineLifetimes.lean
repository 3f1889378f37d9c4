import Absm.Proofs.Features.CachedProfiles

/-! How long baselines live in the cache: each update must come before the time of the last one is over. -/

namespace Absm

variable {F D : Type} [Add F] [Sub F] [Mul F] [Neg F] [OfScientific F] [LT F] [LE F] [DecidableLT F]
  [DecidableLE F] {msgpack : Msgpack F D} {library : RedisLibrary} {redis : Redis D} {leases : Leases F}

/-- A call of `update_baseline` on the cache. -/
structure TimedCall (F : Type) where
  /-- The call. -/
  call : UpdateCall F
  /-- What goes wrong in it. -/
  faults : StoreFaults
  /-- When the profile is read. -/
  now : Int
  /-- When the refreshed profile is cached. -/
  later : Int

namespace TimedCall

/-- The call as a step of the cache. -/
def step (timed : TimedCall F) : CacheStep F D :=
  -- The call as a step on the cache.
  .update timed.now timed.later timed.call timed.faults

/-- The call on a store that keeps profiles for ever. -/
def onStore (store : FeatureStore F) (timed : TimedCall F) : Except PyError Unit × FeatureStore F :=
  -- On a store without lifetimes the clock plays no part.
  updateBaseline timed.call timed.faults store

/-- Whether the call gets as far as reading a profile. -/
def Reads (timed : TimedCall F) : Prop :=
  -- A call with a bad alpha never reads.
  timed.call.admitted ∧ timed.faults.getRaises = false

/-- The leases after the call if their time is never over. -/
def extend (leases : Leases F) (timed : TimedCall F) : Leases F :=
  -- A refreshed profile is stored for another hour.
  if timed.call.takesEffect timed.faults leases.everlasting then
    Function.update leases timed.call.userId ((leases timed.call.userId).map fun lease =>
      ⟨timed.call.refresh lease.profile, expiry timed.later defaultTtl⟩)
  else leases

end TimedCall

/-- Whether each call that reads a profile does so before its time is over. -/
def Timely : Leases F → List (TimedCall F) → Prop
  -- Every read comes before the lease it would find has lapsed.
  | _, [] => True
  | leases, timed :: calls =>
    (timed.Reads → ∀ lease ∈ leases timed.call.userId, timed.now ≤ lease.expires) ∧
      Timely (timed.extend leases) calls

/-- Whether each refreshed profile can be packed, before the end of Redis's time. -/
def Cacheable (msgpack : Msgpack F D) : Leases F → List (TimedCall F) → Prop
  -- What is stored later is packed and given a time to live that the server takes.
  | _, [] => True
  | leases, timed :: calls =>
    (∀ lease ∈ leases timed.call.userId,
      ∃ data, serializeProfile msgpack (timed.call.refresh lease.profile) = .ok data) ∧
      AcceptedTtl timed.later defaultTtl ∧ Cacheable msgpack (timed.extend leases) calls

/-- After a call that takes effect the profiles are those of a store that keeps them for ever. -/
theorem everlasting_extend (leases : Leases F) (timed : TimedCall F) :
    (timed.extend leases).everlasting = (timed.onStore leases.everlasting).2 := by
  -- Both sides refresh the profile under the same conditions, and only that of the user.
  rw [TimedCall.onStore, updateBaseline_store, TimedCall.extend]
  split
  case isTrue =>
    funext userId
    by_cases same : userId = timed.call.userId
    · subst same
      simp [Leases.everlasting, Function.comp_def]
    · simp [Leases.everlasting, same]
  case isFalse => rfl

/-- A call in time does what it does on a store that keeps profiles for ever, and starts the time of the
profile anew. -/
theorem inLeases_of_timely (works : library.refusal = none) {timed : TimedCall F}
    (utc : timed.call.now.tzinfo = .utc)
    (timely : timed.Reads → ∀ lease ∈ leases timed.call.userId, timed.now ≤ lease.expires)
    (packs : ∀ lease ∈ leases timed.call.userId,
      ∃ data, serializeProfile msgpack (timed.call.refresh lease.profile) = .ok data)
    (accepted : AcceptedTtl timed.later defaultTtl) :
    (timed.step : CacheStep F D).inLeases (packing msgpack library) library.refusal leases =
      ((timed.onStore leases.everlasting).1, timed.extend leases) := by
  obtain ⟨call, faults, now, later⟩ := timed
  simp only [TimedCall.step, CacheStep.inLeases, TimedCall.onStore, updateBaseline, TimedCall.extend, works]
  by_cases admitted : call.admitted
  · rw [if_neg (not_not.mpr admitted), if_neg (not_not.mpr admitted)]
    by_cases getRaises : faults.getRaises = true
    · rw [if_pos getRaises, if_pos getRaises, if_neg]
      exact fun effect => by simp [effect.2.1] at getRaises
    have returns : faults.getRaises = false := by simpa using getRaises
    rw [if_neg getRaises, if_neg getRaises]
    cases found : leases call.userId with
    | none =>
      have absent : leases.everlasting call.userId = none := by simp [Leases.everlasting, found]
      have idle : ¬ call.takesEffect faults leases.everlasting := fun effect => by
        simpa [absent] using effect.2.2.1
      rw [if_neg idle, absent]
      simp [Leases.current, found]
    | some lease =>
      -- The lease counts, so that the profile is read, refreshed and cached.
      obtain ⟨data, packed⟩ := packs lease found
      have kept : leases.everlasting call.userId = some lease.profile := by
        simp [Leases.everlasting, found]
      have read := (Leases.current_of_live (timely ⟨admitted, returns⟩)).trans kept
      have effect : call.takesEffect faults leases.everlasting ↔ faults.setRaises ≠ some false := by
        simp [UpdateCall.takesEffect, admitted, returns, kept]
      -- A refreshed profile has a moment in UTC, of which nothing is lost.
      have whole : (call.refresh lease.profile).restored = call.refresh lease.profile :=
        (UserProfile.restored_eq_iff _).mpr (DateTime.restorable_of_utc utc)
      simp only [read, kept, effect, store_of_packs msgpack library works packed accepted, whole]
      rcases faults.setRaises with _ | _ | _ <;> simp
  · rw [if_pos admitted, if_pos admitted, if_neg (fun effect => admitted effect.1)]

/-- A call that comes too late raises an error that it does not raise on a store that keeps profiles for
ever. -/
theorem inLeases_of_late (packing : UserProfile F → Except PyError Unit) {timed : TimedCall F}
    (reads : timed.Reads) {lease : Lease F}
    (found : leases timed.call.userId = some lease) (late : lease.expires < timed.now) :
    ((timed.step : CacheStep F D).inLeases packing none leases).1 ≠
      (timed.onStore leases.everlasting).1 := by
  obtain ⟨call, faults, now, later⟩ := timed
  obtain ⟨admitted, getRaises⟩ := reads
  have missed : leases.current now call.userId = none := Leases.current_of_lapsed fun other held => by
    cases found.symm.trans held
    exact late
  have kept : leases.everlasting call.userId = some lease.profile := by
    simp [Leases.everlasting, show leases call.userId = some lease from found]
  -- The one finds no profile, and the other one returns or meets a fault of the connection.
  simp only [TimedCall.step, CacheStep.inLeases, TimedCall.onStore, updateBaseline,
    not_not.mpr admitted, if_false, show faults.getRaises = false from getRaises, missed, kept]
  rcases faults.setRaises with _ | _ | _ <;> simp

/-- Where clients can be used, a run of baseline updates on the cache goes as on a store that keeps profiles for
ever exactly when each call comes within a day of the one that cached the profile before; the profiles are then
the same until their time is over. -/
theorem updates_outlive_iff (works : library.refusal = none) (holds : HoldsLeases msgpack redis leases)
    (calls : List (TimedCall F)) (utc : ∀ timed ∈ calls, timed.call.now.tzinfo = .utc)
    (cacheable : Cacheable msgpack leases calls) :
    let cached := respondAll (CacheStep.inRedis msgpack library) redis (calls.map TimedCall.step)
    let ideal := respondAll TimedCall.onStore leases.everlasting calls
    (cached.1 = ideal.1 ↔ Timely leases calls) ∧
      (Timely leases calls → ∀ now userId,
        (∀ lease ∈ calls.foldl TimedCall.extend leases userId, now ≤ lease.expires) →
          getProfile msgpack library now userId false cached.2 = .ok (ideal.2 userId)) := by
  -- Going on after a call in time, the leases are those that it has extended.
  induction calls generalizing redis leases with
  | nil =>
    refine ⟨iff_of_true rfl trivial, fun _ now userId live => ?_⟩
    have current : leases.current now userId = leases.everlasting userId := Leases.current_of_live live
    have read := getProfile_eq library holds now userId
    rw [RedisLibrary.guarded, works, current] at read
    exact read
  | cons timed calls ih =>
    obtain ⟨packs, accepted, cacheable⟩ := cacheable
    obtain ⟨firstUtc, utc⟩ := List.forall_mem_cons.mp utc
    obtain ⟨same, held⟩ := inRedis_refines library holds (timed.step : CacheStep F D)
    by_cases timely : timed.Reads → ∀ lease ∈ leases timed.call.userId, timed.now ≤ lease.expires
    · have taken := inLeases_of_timely works firstUtc timely packs accepted
      rw [taken] at same held
      obtain ⟨others, final⟩ := ih held utc cacheable
      simp only [List.map_cons, respondAll, List.cons.injEq, ← everlasting_extend, List.foldl_cons]
      refine ⟨⟨fun equal => ⟨timely, others.mp equal.2⟩, fun all => ⟨same, others.mpr all.2⟩⟩,
        fun all => final all.2⟩
    · refine ⟨⟨fun equal => absurd ?_ timely, fun all => absurd all.1 timely⟩,
        fun all => absurd all.1 timely⟩
      intro reads lease found
      by_contra late
      rw [works] at same
      have differs : ((timed.step : CacheStep F D).inLeases (packing msgpack library) none leases).1 ≠
          (timed.onStore leases.everlasting).1 := inLeases_of_late _ reads found (not_le.mp late)
      exact differs (same.symm.trans (List.cons.inj equal).1)

/-- One profile, which counts until a moment. -/
def oneLease (expires : Int) : Leases ℚ :=
  -- Only this user has a lease.
  fun userId => if userId = "u" then some ⟨aProfile, expires⟩ else none

/-- One profile in Redis. -/
def oneEntry (expires : Int) : Redis (Json ℚ) := fun key =>
  -- The same as Redis holds it.
  if key = profileKey "u" then some ⟨profilePayload aProfile, expires⟩ else none

/-- The entry is the lease. -/
theorem oneEntry_holds (expires : Int) :
    HoldsLeases (Msgpack.plain ℚ) (oneEntry expires) (oneLease expires) := by
  -- Keys of other users are other keys.
  intro userId
  by_cases same : userId = "u"
  · subst same
    exact ⟨profilePayload aProfile, rfl, deserializeProfile_of_payload (Msgpack.plain ℚ) rfl⟩
  · have apart : profileKey userId ≠ profileKey "u" := fun equal => same (profileKey_injective equal)
    simp [oneLease, oneEntry, same, apart]

/-- An update of the one profile. -/
def anUpdate (now : Int) : TimedCall ℚ :=
  -- Reading and writing fall on one moment.
  ⟨⟨"u", .ofList [("a_mean", 1)], 1 / 2, .epoch⟩, .none, now, now⟩

/-- Two updates within a day each go as on a store that keeps profiles for ever. -/
theorem two_timely_updates :
    (respondAll (CacheStep.inRedis (Msgpack.plain ℚ) .accepting) (oneEntry 0)
        ([anUpdate 0, anUpdate 86400000].map TimedCall.step)).1 =
      (respondAll TimedCall.onStore (oneLease 0).everlasting [anUpdate 0, anUpdate 86400000]).1 :=
  -- The second call is made the day after, while the renewed lease lasts.
  (updates_outlive_iff rfl (oneEntry_holds 0) [anUpdate 0, anUpdate 86400000] (by decide)
    ⟨fun _ _ => ⟨_, rfl⟩, by decide, fun _ _ => ⟨_, rfl⟩, by decide, trivial⟩).1.mpr
    ⟨fun _ => by decide +kernel, fun _ => by decide +kernel, trivial⟩

/-- A step that neither caches a profile for a user anew nor updates the user's baseline before a moment. -/
def CacheStep.Neglects (userId : String) (moment : Int) : CacheStep F D → Prop
  -- Updates of this user come too late and nobody sets the profile.
  | .set _ other _ _ _ => other ≠ userId
  | .update now _ call _ => call.userId = userId → moment ≤ now
  | .foreign _ _ _ => True

/-- A step that updates a user's baseline. -/
def CacheStep.Updates (userId : String) : CacheStep F D → Prop
  -- Only updates, for setting the profile is no update.
  | .update _ _ call _ => call.userId = userId
  | _ => False

/-- A step that neglects a user whose profile is out of time leaves it so, and raises if it updates the
user's baseline. -/
theorem inLeases_of_lapsed {userId : String} {moment : Int} {step : CacheStep F D}
    (packing : UserProfile F → Except PyError Unit) (refusal : Option PyError)
    (lapsed : ∀ lease ∈ leases userId, lease.expires < moment) (neglects : step.Neglects userId moment) :
    (step.inLeases packing refusal leases).2 userId = leases userId ∧
      (step.Updates userId → (step.inLeases packing refusal leases).1 ≠ .ok ()) := by
  cases step with
  | set now other profile ttl fault =>
    exact ⟨Leases.store_other packing now profile ttl fault leases (Ne.symm neglects), False.elim⟩
  | foreign key entry apart => exact ⟨rfl, False.elim⟩
  | update now later call faults =>
    simp only [CacheStep.inLeases, CacheStep.Updates]
    by_cases admitted : call.admitted
    · rw [if_neg (not_not.mpr admitted)]
      cases refusal with
      | some error => exact ⟨rfl, fun _ => by simp⟩
      | none =>
        by_cases getRaises : faults.getRaises = true
        · rw [if_pos getRaises]
          exact ⟨rfl, fun _ => by simp⟩
        rw [if_neg getRaises]
        by_cases same : call.userId = userId
        · -- The profile of the user is not found.
          have late (lease : Lease F) (found : lease ∈ leases call.userId) : lease.expires < now :=
            (lapsed lease (same ▸ found)).trans_le (neglects same)
          rw [Leases.current_of_lapsed late]
          exact ⟨rfl, fun _ => by simp⟩
        · refine ⟨?_, fun other => absurd other same⟩
          cases leases.current now call.userId with
          | none => rfl
          | some profile => exact Leases.store_other packing later _ defaultTtl _ leases (Ne.symm same)
    · rw [if_pos admitted]
      exact ⟨rfl, fun _ => by simp⟩

/-- A baseline whose time is over is lost until a profile is cached anew: in every run of updates, foreign
writes and other users' profiles, whatever goes wrong, each update of the user's baseline raises and the
user has no profile; where no client can be used, looking for it raises, too. A profile that is cached after
the run is found while its time lasts. -/
theorem lapsed_baseline_stays_lost (library : RedisLibrary) (holds : HoldsLeases msgpack redis leases)
    {userId : String} {moment : Int} (lapsed : ∀ lease ∈ leases userId, lease.expires < moment)
    (steps : List (CacheStep F D)) (neglects : ∀ step ∈ steps, step.Neglects userId moment) :
    let run := respondAll (CacheStep.inRedis msgpack library) redis steps
    (∀ now, moment ≤ now →
      getProfile msgpack library now userId false run.2 = library.guarded (.ok none)) ∧
      (∀ taken ∈ steps.zip run.1, taken.1.Updates userId → taken.2 ≠ .ok ()) ∧
      ∀ (profile : UserProfile F) (data : D) (now ttl later : Int), library.refusal = none →
        serializeProfile msgpack profile = .ok data → AcceptedTtl now ttl → later ≤ expiry now ttl →
          getProfile msgpack library later userId false
            (setProfile msgpack library now userId profile ttl none run.2).2 = .ok (some profile.restored) := by
  -- Each step leaves the lease as it was.
  induction steps generalizing redis leases with
  | nil =>
    refine ⟨fun now later => ?_, by simp, fun profile data now ttl later works packs accepted live =>
      getProfile_setProfile works packs accepted live userId redis⟩
    have missing : leases.current now userId = none := Leases.current_of_lapsed fun lease found =>
      (lapsed lease found).trans_le later
    exact missing ▸ getProfile_eq library holds now userId
  | cons step steps ih =>
    obtain ⟨first, others⟩ := List.forall_mem_cons.mp neglects
    obtain ⟨same, held⟩ := inRedis_refines library holds step
    obtain ⟨kept, raises⟩ := inLeases_of_lapsed (packing msgpack library) library.refusal lapsed first
    obtain ⟨missing, raised, cached⟩ := ih held (by rwa [kept]) others
    refine ⟨missing, ?_, cached⟩
    simp only [respondAll, List.zip_cons_cons, List.mem_cons, forall_eq_or_imp]
    exact ⟨fun updates => same ▸ raises updates, raised⟩

/-- After an update that comes a millisecond too late the profile is lost. -/
theorem an_update_too_late :
    getProfile (Msgpack.plain ℚ) .accepting 1 "u" false
      (respondAll (CacheStep.inRedis (Msgpack.plain ℚ) .accepting) (oneEntry 0) [(anUpdate 1).step]).2 =
        .ok none := by
  -- The lease ends a millisecond before the call.
  have lapsed : ∀ lease ∈ oneLease 0 "u", lease.expires < 1 := by decide
  exact (lapsed_baseline_stays_lost .accepting (oneEntry_holds 0) lapsed [(anUpdate 1).step]
    (by simp [CacheStep.Neglects, TimedCall.step, anUpdate])).1 1 le_rfl

end Absm
