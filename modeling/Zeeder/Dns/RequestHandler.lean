import Zeeder.Config.SeederConfig
import Zeeder.Dns.SeedZone

/-! # Answering DNS requests

One handler serves every zone: it asks the shared rate limiter, routes the query name to the matching
zone, decides the answer from that zone's current snapshot, and sends one response. What a request
does to the world outside (limiter, counters, the snapshot it reads, the response it sends) is the
list of its effects, in order.

* **`matchingZone_eq_some`, `matchingZone_eq_none_iff`** — the matched zone contains the name, and
  there is none exactly when no zone does.
* **`sendResponse_mem_answerRequest`** — an admitted request with a query sends exactly the response
  to that query.
* **`header_of_sendResponse`** — the header of every response. -/

namespace Zeeder.Dns

open Crawl Foundation Metrics Config

/-! ## Requests and responses -/

/-- A record type; the seeder tells four from all others. -/
inductive RecordType where
  /-- `A`. -/
  | a
  /-- `AAAA`. -/
  | aaaa
  /-- `NS`. -/
  | ns
  /-- `SOA`. -/
  | soa
  /-- Any other type, by its code. -/
  | other (code : UInt16)
  deriving DecidableEq, Repr

/-- A query, with its name as the client spelled it. -/
structure Query where
  /-- The query name. -/
  originalName : Name
  /-- The query type. -/
  queryType : RecordType
  deriving DecidableEq

/-- The lowercased query name that the handler works with. -/
def Query.name (query : Query) : LowerName := .ofName query.originalName

/-- A received request. -/
structure Request where
  /-- The client's address. -/
  src : PeerSocketAddr
  /-- The header. -/
  metadata : Metadata
  /-- The queries; the handler answers the first. -/
  queries : List Query

/-- A response message. -/
structure Response where
  /-- The header. -/
  metadata : Metadata
  /-- The answer section. -/
  answers : List Record
  /-- The authority section. -/
  authorities : List Record
  deriving DecidableEq

/-- What a request does outside the handler. -/
inductive RequestEffect where
  /-- The shared limiter is asked about a client. -/
  | checkLimiter (clientIp : IpAddr) (admitted : Bool)
  /-- A counter is incremented. -/
  | increment (name : String) (labels : List (String × String))
  /-- A feed's current snapshot is read. -/
  | readFeed (receiver : Receiver)
  /-- A histogram records a value. -/
  | record (name : String) (labels : List (String × String)) (value : ℕ)
  /-- A response is handed to the response handler. -/
  | sendResponse (response : Response)
  deriving DecidableEq

/-! ## The answer of one zone -/

/-- The answer of a zone. -/
inductive ZoneAnswer where
  /-- No data of this type at this name. -/
  | noData
  /-- The NS RRset. -/
  | nameserver
  /-- The SOA record. -/
  | startOfAuthority
  /-- The addresses of servable peers. -/
  | peerAddresses (peers : List PeerSocketAddr)
  deriving DecidableEq

/-- The records of a response. -/
structure DnsResponseRecords where
  /-- The answer section. -/
  answerRecords : List Record
  /-- The SOA of a negative answer. -/
  soaRecords : List Record

/-- No records. -/
def DnsResponseRecords.default : DnsResponseRecords := ⟨[], []⟩

/-- An answer with the given peers, if there are any. -/
def resolvePeerAnswer (peers : List PeerSocketAddr) : ZoneAnswer :=
  if peers.isEmpty then .noData else .peerAddresses peers

/-- The metrics label of a record type. -/
def recordTypeLabel : RecordType → String
  | .a => recordTypeA
  | .aaaa => recordTypeAaaa
  | .ns => recordTypeNs
  | .soa => recordTypeSoa
  | .other _ => recordTypeOther

/-- The address record for a peer. -/
def addressRecord (zone : SeedZone) (queryName : LowerName) (addr : PeerSocketAddr) : Record where
  name := queryName.name
  ttl := zone.ttl
  data := match addr.ip with
    | .v4 ip => .a ip
    | .v6 ip => .aaaa ip

namespace SeedZone

variable (hickory : HickoryProto) (zone : SeedZone)

/-- Decide the answer for an in-zone query. -/
def resolveAnswer (queryName : LowerName) (recordType : RecordType)
    (servablePeers : ServablePeers) : ZoneAnswer :=
  -- a deeper name has no data; the comparison is of label counts, not of names
  if hickory.numLabels queryName ≠ hickory.numLabels zone.domain then .noData
  else match recordType with
    | .a => resolvePeerAnswer servablePeers.ipv4
    | .aaaa => resolvePeerAnswer servablePeers.ipv6
    | .ns => .nameserver
    | .soa => .startOfAuthority
    | .other _ => .noData

/-- The records of an answer, and what building them records. -/
def responseRecordsForAnswer (queryName : LowerName) (answer : ZoneAnswer) :
    DnsResponseRecords × List RequestEffect :=
  match answer with
  | .noData => (⟨[], [zone.records.soa]⟩, [])
  | .nameserver => (⟨zone.records.nameservers, []⟩, [])
  | .startOfAuthority => (⟨[zone.records.soa], []⟩, [])
  | .peerAddresses peers => (⟨peers.map (addressRecord zone queryName), []⟩,
      [.record dnsResponsePeers [(labelNetwork, zone.network.label)] peers.length])

end SeedZone

/-! ## The handler -/

/-- The rate limiter's quota; how it decides is its own matter. -/
structure RateLimiter where
  /-- Queries per second. -/
  queriesPerSecond : {value : UInt32 // value ≠ 0}
  /-- Burst capacity. -/
  burstSize : {value : UInt32 // value ≠ 0}

/-- Create a rate limiter from its configuration. -/
def RateLimiter.new (config : RateLimitConfig) : Result RateLimiter := do
  let queriesPerSecond ← config.nonzeroQueriesPerSecond
  let burstSize ← config.nonzeroBurstSize
  return ⟨queriesPerSecond, burstSize⟩

/-- Routes each query to its matching seed zone. -/
structure DnsRequestHandler where
  /-- The zones. -/
  zones : List SeedZone
  /-- The shared limiter, if rate limiting is enabled. -/
  rateLimiter : Option RateLimiter

namespace DnsRequestHandler

variable (hickory : HickoryProto) (handler : DnsRequestHandler)

/-- The most specific zone authoritative for a name, if any. -/
def matchingZone (name : LowerName) : Option SeedZone :=
  maxByKey (fun zone => (hickory.numLabels zone.domain).toNat)
    (handler.zones.filter fun zone => zone.contains hickory name)

section Answer

variable (feeds : Receiver → ServablePeers)

/-- The response code and the records for a query, and what computing them does. -/
def answerQuery (query : Query) : ResponseCode × DnsResponseRecords × List RequestEffect :=
  match handler.matchingZone hickory query.name with
  | none => (.refused, .default, [])
  | some zone =>
      let answer :=
        zone.resolveAnswer hickory query.name query.queryType (feeds zone.servablePeers)
      let records := zone.responseRecordsForAnswer query.name answer
      (.noError, records.1, .readFeed zone.servablePeers :: records.2)

/-- The part of a request that a rate-limited client does not reach: answer the first query, if
any, and send the response, which succeeds or fails. -/
def respond (request : Request) (sendSucceeds : Bool) : List RequestEffect :=
  let metadata := { hickory.responseFromRequest request.metadata with authoritative := true }
  let sent response :=
    .sendResponse response :: if sendSucceeds then [] else [.increment dnsErrorsTotal []]
  match request.queries.head? with
  | some query =>
      let (code, records, effects) := handler.answerQuery hickory feeds query
      .increment dnsQueriesTotal [(labelRecordType, recordTypeLabel query.queryType)]
        :: effects
        ++ sent ⟨{ metadata with responseCode := code }, records.answerRecords, records.soaRecords⟩
  | none => sent ⟨metadata, [], []⟩

/-- Answer a request, given the verdict that the limiter would return for a client now. -/
def answerRequest (verdict : IpAddr → Bool) (request : Request) (sendSucceeds : Bool) :
    List RequestEffect :=
  match handler.rateLimiter with
  | some _ =>
      let clientIp := request.src.ip
      .checkLimiter clientIp (verdict clientIp)
        :: if verdict clientIp then handler.respond hickory feeds request sendSucceeds
          else
            -- dropped without a response
            [.increment dnsRateLimitedTotal []]
  | none => handler.respond hickory feeds request sendSucceeds

end Answer

variable {hickory} {handler}

theorem matchingZone_eq_some {name : LowerName} {zone : SeedZone}
    (h : handler.matchingZone hickory name = some zone) :
    zone ∈ handler.zones ∧ zone.contains hickory name = true :=
  List.mem_filter.mp (mem_of_maxByKey_eq_some h)

theorem matchingZone_eq_none_iff {name : LowerName} :
    handler.matchingZone hickory name = none ↔
      ∀ zone ∈ handler.zones, zone.contains hickory name = false := by
  rw [matchingZone, maxByKey_eq_none_iff, List.filter_eq_nil_iff]
  simp

/-! ## What is sent -/

section Sent

variable {feeds : Receiver → ServablePeers} {verdict : IpAddr → Bool} {request : Request}
  {sendSucceeds : Bool}

/-- The limiter, if there is one, admits the client. -/
def Admits (handler : DnsRequestHandler) (verdict : IpAddr → Bool) (request : Request) : Prop :=
  handler.rateLimiter = none ∨ verdict request.src.ip = true

/-- The response to a request whose first query is given. -/
def responseTo (hickory : HickoryProto) (handler : DnsRequestHandler)
    (feeds : Receiver → ServablePeers) (request : Request) (query : Query) : Response where
  metadata := { hickory.responseFromRequest request.metadata with
    authoritative := true
    responseCode := (handler.answerQuery hickory feeds query).1 }
  answers := (handler.answerQuery hickory feeds query).2.1.answerRecords
  authorities := (handler.answerQuery hickory feeds query).2.1.soaRecords

theorem sendResponse_not_mem_answerQuery {query : Query} {response : Response} :
    .sendResponse response ∉ (handler.answerQuery hickory feeds query).2.2 := by
  unfold answerQuery
  cases handler.matchingZone hickory query.name with
  | none => simp
  | some zone =>
      dsimp only
      cases zone.resolveAnswer hickory query.name query.queryType (feeds zone.servablePeers) <;>
        simp [SeedZone.responseRecordsForAnswer]

/-- **An admitted request with a query sends exactly the response to that query.** -/
theorem sendResponse_mem_answerRequest {query : Query} {response : Response}
    (hquery : request.queries.head? = some query) :
    .sendResponse response ∈ handler.answerRequest hickory feeds verdict request sendSucceeds ↔
      Admits handler verdict request ∧ response = responseTo hickory handler feeds request query := by
  have hrespond : .sendResponse response ∈ handler.respond hickory feeds request sendSucceeds ↔
      response = responseTo hickory handler feeds request query := by
    -- computing the answer sends nothing
    have hquiet : RequestEffect.sendResponse response
        ∉ (handler.answerQuery hickory feeds query).2.2 := sendResponse_not_mem_answerQuery
    unfold respond
    rw [hquery]
    dsimp only
    cases sendSucceeds <;>
      simp [hquiet, responseTo]
  unfold answerRequest Admits
  cases handler.rateLimiter with
  | none => simpa using hrespond
  | some limiter =>
      cases hverdict : verdict request.src.ip with
      | true => simpa [hverdict] using hrespond
      | false => simp [hverdict]

/-- A response to a request without a query is a header. -/
theorem eq_of_no_query {response : Response} (hquery : request.queries.head? = none)
    (hsent : .sendResponse response
      ∈ handler.answerRequest hickory feeds verdict request sendSucceeds) :
    response = ⟨{ hickory.responseFromRequest request.metadata with authoritative := true }, [], []⟩ := by
  have hrespond : .sendResponse response ∈ handler.respond hickory feeds request sendSucceeds →
      response
        = ⟨{ hickory.responseFromRequest request.metadata with authoritative := true }, [], []⟩ := by
    unfold respond
    rw [hquery]
    intro h
    cases sendSucceeds with
    | true =>
        cases List.mem_singleton.mp h
        rfl
    | false =>
        rcases List.mem_cons.mp h with h | h
        · cases h
          rfl
        · cases List.mem_singleton.mp h
  unfold answerRequest at hsent
  cases hlimiter : handler.rateLimiter with
  | none =>
      rw [hlimiter] at hsent
      exact hrespond hsent
  | some limiter =>
      rw [hlimiter] at hsent
      cases hverdict : verdict request.src.ip with
      | true =>
          simp only [hverdict, if_true, List.mem_cons, reduceCtorEq, false_or] at hsent
          exact hrespond hsent
      | false => simp [hverdict] at hsent

/-- It has no records. -/
theorem records_of_no_query {response : Response} (hquery : request.queries.head? = none)
    (hsent : .sendResponse response
      ∈ handler.answerRequest hickory feeds verdict request sendSucceeds) :
    response.answers = [] ∧ response.authorities = [] := by
  rw [eq_of_no_query hquery hsent]
  exact ⟨rfl, rfl⟩

/-- **The header of every response**: the request's id, authoritative, and an error only for a name that is
in no zone. -/
theorem header_of_sendResponse (hcopies : hickory.ResponseFromRequestCopiesId) {response : Response}
    (hsent : .sendResponse response
      ∈ handler.answerRequest hickory feeds verdict request sendSucceeds) :
    response.metadata.id = request.metadata.id ∧ response.metadata.authoritative = true ∧
      (response.metadata.responseCode = .refused ↔ ∃ query, request.queries.head? = some query ∧
        ∀ zone ∈ handler.zones, zone.contains hickory query.name = false) := by
  cases hquery : request.queries.head? with
  | none =>
      rw [eq_of_no_query hquery hsent, hcopies]
      simp
  | some query =>
      rw [((sendResponse_mem_answerRequest hquery).mp hsent).2, responseTo, hcopies, answerQuery]
      simp only [Option.some.injEq, exists_eq_left', ← matchingZone_eq_none_iff]
      cases handler.matchingZone hickory query.name <;> simp

end Sent

end DnsRequestHandler

end Zeeder.Dns
