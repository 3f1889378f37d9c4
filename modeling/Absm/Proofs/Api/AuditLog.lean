import Absm.Foundation.Runs
import Absm.Proofs.Api.AuditTrail
import Absm.Proofs.Foundation.JsonInts
import Absm.Proofs.Rl.FeedbackLog

/-! What the messages of the audit say: the records that were made, and no others. -/

namespace Absm

variable {T K S F : Type}

/-! ### One message -/

/-- A record whose time is spelled. -/
def AuditRecord.spelled (isoformat : T → String) (record : AuditRecord T) : AuditRecord String :=
  ⟨isoformat record.timestamp, record.userId, record.role, record.method, record.path, record.statusCode,
    record.requestId, record.ipHash⟩

/-- The value of an integer that is not negative. -/
def Json.natural? : Json F → Option Nat
  -- A negative status is none.
  | .int value => value.toNat?
  | _ => none

/-- Read a record out of a document. -/
def AuditRecord.ofDocument (document : Json F) : Option (AuditRecord String) := do
  -- Each of the eight members has to be there, with a value of its kind.
  let timestamp ← (← document.member? "timestamp").text?
  let userId ← (← document.member? "user_id").text?
  let role ← (← document.member? "role").text?
  let method ← (← document.member? "method").text?
  let path ← (← document.member? "path").text?
  let statusCode ← (← document.member? "status_code").natural?
  let requestId ← (← document.member? "request_id").text?
  let ipHash ← (← document.member? "ip_hash").text?
  return ⟨timestamp, userId, role, method, path, statusCode, requestId, ipHash⟩

/-- Read a record out of a line. -/
def readAuditRecord (F : Type) [FloatRepr F] (room : Nat) (line : List Char) : Option (AuditRecord String) :=
  -- A line that is no JSON is no record.
  match (loads room line : Except LoadsError (Json F)) with
  | .ok document => AuditRecord.ofDocument document
  | .error _ => none

/-- A record is found in what is written of it. -/
theorem ofDocument_auditPayload (isoformat : T → String) (record : AuditRecord T) :
    AuditRecord.ofDocument (auditPayload F isoformat record) = some (record.spelled isoformat) := by
  -- The keys are distinct.
  have status : (record.statusCode : Int).toNat? = some record.statusCode := rfl
  simp [AuditRecord.ofDocument, auditPayload, Json.member?, lookupEntry, Json.text?, Json.natural?,
    AuditRecord.spelled, status]

/-- A message is read as its record, and it is written in printable ASCII. -/
theorem readAuditRecord_message (F : Type) [FloatRepr F] (room : Nat) (isoformat : T → String)
    {record : AuditRecord T} (status : record.statusCode < 1000) :
    readAuditRecord F (room + 1) (auditMessage F isoformat record) = some (record.spelled isoformat) ∧
      ∀ c ∈ auditMessage F isoformat record, Visible c := by
  -- All fields are strings but the status, which has three digits at most.
  have short : (Nat.toDigits 10 (record.statusCode : Int).natAbs).length ≤ maxIntDigits := by
    have few : (Nat.toDigits 10 record.statusCode).length ≤ 3 :=
      (Nat.length_toDigits_le_iff (by decide) (by decide)).mpr status
    rw [Int.natAbs_natCast]
    exact few.trans (by decide)
  have inside : ∀ entry ∈ [("timestamp", .str (isoformat record.timestamp)), ("user_id", .str record.userId),
      ("role", .str record.role), ("method", .str record.method), ("path", .str record.path),
      ("status_code", .int record.statusCode), ("request_id", .str record.requestId),
      ("ip_hash", .str record.ipHash)], Writable (F := F) room entry.2 := by
    intro entry member
    simp only [List.mem_cons, List.not_mem_nil, or_false] at member
    rcases member with rfl | rfl | rfl | rfl | rfl | rfl | rfl | rfl
    case inr.inr.inr.inr.inr.inl => exact .int short
    all_goals exact .printable (.str _)
  obtain ⟨loaded, visible⟩ := loads_object (by simp) inside
  refine ⟨?_, visible⟩
  rw [readAuditRecord, auditMessage, auditPayload, loaded]
  exact ofDocument_auditPayload isoformat record

/-! ### Runs -/

section Runs

variable (jose : Jose T K) (settings : ApiSettings) (framework : Framework K) (tools : AuditTools)
  (clock : Nat → T) (handle : RouteHandler K S)

/-- Serve a request, and keep the records about it. -/
def serveAudited (site : Site S) (request : Request) : List (AuditRecord T) × Site S :=
  -- Only the records and the state are kept of what the application does.
  let served := application jose settings framework tools clock handle request site
  (served.records, served.state)

/-- The records that serving some requests makes. -/
def recordsOf (requests : List Request) (site : Site S) : List (AuditRecord T) :=
  -- The requests are served one after another.
  (respondAll (serveAudited jose settings framework tools clock handle) site requests).1.flatten

/-- The messages that are given to the logger while some requests are served, one for each record. -/
def infoMessages (F : Type) [FloatRepr F] (isoformat : T → String) (requests : List Request) (site : Site S) :
    List (List Char) :=
  -- One message is given to the logger for each record.
  (recordsOf jose settings framework tools clock handle requests site).map (auditMessage F isoformat)

/-- Serving a request makes one record about it at most. -/
theorem serveAudited_records (site : Site S) (request : Request) :
    ((serveAudited jose settings framework tools clock handle site request).1.map
      fun record => (record.method, (.ok record.path : Except PyError String))).Sublist
        [(request.method, tools.urlPath request)] := by
  -- A preflight request is answered outside the audit, and any other one is recorded once if it is answered.
  rw [serveAudited]
  by_cases preflight : request.Preflight
  · rw [records_of_preflight preflight]
    exact List.nil_sublist _
  · rw [records_of_other preflight, records_of_audit, exceptionMiddleware, List.nil_append]
    dsimp only
    cases handleException framework request (handle request site).1 with
    | error raised => exact List.nil_sublist _
    | ok response =>
      dsimp only
      rw [madeRecord]
      cases auditIdentity jose settings (clock (handle request site).2.readings) request.authorization with
      | error raised => exact List.nil_sublist _
      | ok identity =>
        cases located : tools.urlPath request with
        | error raised => exact List.nil_sublist _
        | ok path => exact List.Sublist.refl _

/-- The records are about requests that were served, in their order, and at most one about each. -/
theorem recordsOf_sublist (requests : List Request) (site : Site S) :
    ((recordsOf jose settings framework tools clock handle requests site).map
      fun record => (record.method, (.ok record.path : Except PyError String))).Sublist
        (requests.map fun request => (request.method, tools.urlPath request)) := by
  -- The records of the first request come before those of the others.
  induction requests generalizing site with
  | nil => exact .slnil
  | cons request requests ih =>
    have first := serveAudited_records jose settings framework tools clock handle site request
    have others := ih (serveAudited jose settings framework tools clock handle site request).2
    rw [recordsOf, respondAll, List.flatten_cons, List.map_append]
    exact first.append others

/-- Whatever the requests hold, each message that is given to the logger is a single line of printable ASCII
which is read as a record that was made, and the records are about requests that were served, in their
order, and at most one about each. -/
theorem infoMessages_faithful (F : Type) [FloatRepr F] (room : Nat) (isoformat : T → String)
    (requests : List Request) (site : Site S)
    (statuses : ∀ record ∈ recordsOf jose settings framework tools clock handle requests site,
      record.statusCode < 1000) :
    let records := recordsOf jose settings framework tools clock handle requests site
    let messages := infoMessages jose settings framework tools clock handle F isoformat requests site
    messages.map (readAuditRecord F (room + 1)) = records.map (fun record => some (record.spelled isoformat)) ∧
      (∀ message ∈ messages, ∀ c ∈ message, Visible c) ∧
      (records.map fun record => (record.method, (.ok record.path : Except PyError String))).Sublist
        (requests.map fun request => (request.method, tools.urlPath request)) := by
  refine ⟨?_, ?_, recordsOf_sublist jose settings framework tools clock handle requests site⟩
  · -- Each message is read on its own.
    rw [infoMessages, List.map_map]
    refine List.map_congr_left fun record member => ?_
    rw [Function.comp_apply]
    exact (readAuditRecord_message F room isoformat (statuses record member)).1
  · intro message member
    obtain ⟨record, made, rfl⟩ := List.mem_map.mp member
    exact (readAuditRecord_message F room isoformat (statuses record made)).2

end Runs

/-- A request whose path looks like the end of a line and another record. -/
def forgingRequest : Request :=
  ⟨"GET", "/alerts\n\x7b\"user_id\":\"root\"\x7d", [], some "203.0.113.7"⟩

/-- The requests of an analyst and of a forger make one message each. -/
theorem infoMessages_faithful_forging :
    let records := recordsOf (plainJose 10).toJose plainSettings plainFramework plainTools Int.ofNat
      (router (plainJose 10).toJose plainSettings plainLimiter plainFramework Int.ofNat toString)
      [plainListing, forgingRequest] ⟨0, ()⟩
    let messages := infoMessages (plainJose 10).toJose plainSettings plainFramework plainTools Int.ofNat
      (router (plainJose 10).toJose plainSettings plainLimiter plainFramework Int.ofNat toString) Int toString
      [plainListing, forgingRequest] ⟨0, ()⟩
    messages.length = 2 ∧
      messages.map (readAuditRecord Int 1) = records.map (fun record => some (record.spelled toString)) ∧
      (∀ message ∈ messages, ∀ c ∈ message, Visible c) ∧
      (records.map fun record => (record.method, (.ok record.path : Except PyError String))).Sublist
        ([plainListing, forgingRequest].map fun request => (request.method, plainTools.urlPath request)) :=
  -- The newline and the quotes of the path are escaped.
  ⟨(List.length_map _).trans (by decide +kernel), infoMessages_faithful (plainJose 10).toJose plainSettings
    plainFramework plainTools Int.ofNat
    (router (plainJose 10).toJose plainSettings plainLimiter plainFramework Int.ofNat toString) Int 0
    toString [plainListing, forgingRequest] ⟨0, ()⟩ (by decide +kernel)⟩

end Absm
