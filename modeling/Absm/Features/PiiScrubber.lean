import Absm.Ingest.Schema

/-! Removing direct identifiers from events before features are computed. -/

namespace Absm

variable {F : Type}

/-- An event without direct identifiers. -/
structure ScrubbedEvent (F : Type) where
  /-- The user who acted. -/
  userId : Uuid
  /-- When it happened. -/
  timestamp : DateTime
  /-- The category of the event. -/
  eventType : String
  /-- The hour of the day at which it happened. -/
  loginHour : Int
  /-- How long the session lasted. -/
  sessionDurationS : Option F
  /-- How much data left the network. -/
  bytesOut : Option Int
  /-- The keyed digest of the address. -/
  ipHmac : Option String
  /-- The digest of the mail address. -/
  emailSha256 : Option String
  deriving DecidableEq

/-- The digests of the module `hashlib`, and the configured key. -/
structure Digests where
  /-- The hexadecimal digest of a value under a key. -/
  hmacSha256 (value key : String) : String
  /-- The hexadecimal digest of a value. -/
  sha256 (value : String) : String
  /-- The setting `SCRUBBER_HMAC_KEY`. -/
  hmacKey : String
  /-- A digest has sixty-four digits, so it is not empty. -/
  hmacSha256_ne_empty (value key : String) : hmacSha256 value key ≠ ""

/-- Digests that do not tell values apart. -/
def constantDigests : Digests :=
  -- All texts have the same digest, so nothing can be told from it.
  ⟨fun _ _ => "0", fun _ => "0", "", fun _ _ => by decide⟩

/-- A text that is neither missing nor empty. -/
def truthyText (text : Option String) : Option String :=
  -- The empty string counts as no text.
  text.filter (· ≠ "")

/-- Replace the address and the mail address of an event by digests. -/
def scrub (digests : Digests) (event : Event F) : ScrubbedEvent F where
  -- An address or mail address that is empty has no digest, and the hour is that of the wall clock.
  userId := event.userId
  timestamp := event.timestamp
  eventType := event.eventType.text
  loginHour := event.timestamp.hour
  sessionDurationS := event.sessionDurationS
  bytesOut := event.bytesOut
  ipHmac := (truthyText event.ip).map (digests.hmacSha256 · digests.hmacKey)
  emailSha256 := (truthyText event.email).map digests.sha256

end Absm
