import Zeeder.Serving.ApexAnswers

/-! # The address records of a response

Only a peer answer carries address records, and it is made from one family of the matched zone's
feed. Whatever the feed holds, a response lists a part of it and nothing else.

* **`mem_responseTo_of_ip`** — an address record is built for one of the addresses asked for.
* **`ips_responseTo_sublist`** — the addresses of a response are a sublist of those asked for.
* **`authorities_responseTo`** — the SOA stands in the authority section of a matched zone's response
  exactly when the answer section is empty. -/

namespace Zeeder.Serving

open Crawl Dns Config

/-! ## The answer at the apex -/

section Records

variable {hickory : HickoryProto} {zone : SeedZone} {peers : ServablePeers} {queryName : LowerName}
  {recordType : RecordType}

/-- The address family that a record type asks for. -/
def addressFamily? : RecordType → Option Bool
  | .a => some true
  | .aaaa => some false
  | _ => none

/-- The addresses that a record type asks for. -/
def requestedPeers (peers : ServablePeers) (recordType : RecordType) : List PeerSocketAddr :=
  (addressFamily? recordType).elim [] peers.family

theorem addressRecord_ip (addr : PeerSocketAddr) :
    (addressRecord zone queryName addr).data.ip = some addr.ip := by
  unfold addressRecord
  cases addr.ip <;> rfl

theorem filterMap_addressRecord_ip (addrs : List PeerSocketAddr) :
    (addrs.map (addressRecord zone queryName)).filterMap (·.data.ip) = addrs.map (·.ip) := by
  rw [List.filterMap_map, ← List.filterMap_eq_map]
  exact List.filterMap_congr fun addr _ => addressRecord_ip addr

/-- The matched zone answers as at its apex, or with its SOA alone. -/
theorem zoneSections_cases (hickory : HickoryProto) (zone : SeedZone) (peers : ServablePeers)
    (queryName : LowerName) (recordType : RecordType) :
    zoneSections hickory zone peers queryName recordType = ([], [zone.records.soa]) ∨
      zoneSections hickory zone peers queryName recordType
        = apexAnswer zone peers queryName recordType := by
  by_cases h : hickory.numLabels queryName = hickory.numLabels zone.domain
  · exact .inr (zoneSections_of_numLabels_eq h)
  · exact .inl (zoneSections_of_numLabels_ne h)

/-- **An address record at the apex** is built for one of the addresses asked for. -/
theorem mem_apexAnswer_of_ip (hbuilt : zone.Built hickory) {record : Record} {ip : IpAddr}
    (hrecord : record ∈ (apexAnswer zone peers queryName recordType).1)
    (hip : record.data.ip = some ip) :
    ∃ addr ∈ requestedPeers peers recordType, record = addressRecord zone queryName addr := by
  have hpeers : ∀ addrs : List PeerSocketAddr, record ∈ addrs.map (addressRecord zone queryName) →
      ∃ addr ∈ addrs, record = addressRecord zone queryName addr := by
    intro addrs hmem
    obtain ⟨addr, haddr, rfl⟩ := List.mem_map.mp hmem
    exact ⟨addr, haddr, rfl⟩
  obtain ⟨-, hsoa, hnameservers⟩ := hbuilt.records
  cases recordType with
  | a => exact hpeers peers.ipv4 hrecord
  | aaaa => exact hpeers peers.ipv6 hrecord
  | ns =>
      rw [hnameservers record hrecord] at hip
      cases hip
  | soa =>
      rw [List.mem_singleton.mp hrecord, hsoa] at hip
      cases hip
  | other code => exact absurd hrecord List.not_mem_nil

/-- The addresses in the answer section at the apex. -/
theorem filterMap_ip_apexAnswer (hbuilt : zone.Built hickory) :
    (apexAnswer zone peers queryName recordType).1.filterMap (·.data.ip)
      = (requestedPeers peers recordType).map (·.ip) := by
  obtain ⟨-, hsoa, hnameservers⟩ := hbuilt.records
  cases recordType with
  | a => exact filterMap_addressRecord_ip peers.ipv4
  | aaaa => exact filterMap_addressRecord_ip peers.ipv6
  | ns => exact List.filterMap_eq_nil_iff.mpr hnameservers
  | soa => exact List.filterMap_cons_none hsoa
  | other code => rfl

/-- The SOA stands in the authority section exactly when the answer section is empty. -/
theorem apexAnswer_snd (hbuilt : zone.Built hickory) :
    (apexAnswer zone peers queryName recordType).2
      = if (apexAnswer zone peers queryName recordType).1 = [] then [zone.records.soa] else [] := by
  cases recordType with
  | a => simp only [apexAnswer, List.map_eq_nil_iff]
  | aaaa => simp only [apexAnswer, List.map_eq_nil_iff]
  | ns => exact (if_neg hbuilt.records.1).symm
  | soa => exact (if_neg (List.cons_ne_nil _ _)).symm
  | other code => exact (if_pos rfl).symm

end Records

/-! ## What a response lists of a feed -/

section Responses

variable {hickory : HickoryProto} {config : SeederConfig} {handler : DnsRequestHandler}
  {feeds : Receiver → ServablePeers} {request : Request} {query : Query} {zone : SeedZone}

/-- A zone that start-up built reads its own network's channel. -/
theorem built_of_matchingZone (hstart : startZones hickory config = .ok handler.zones)
    (h : handler.matchingZone hickory query.name = some zone) :
    zone.Built hickory ∧ zone.servablePeers = ⟨zone.network⟩ := by
  obtain ⟨hmem, -⟩ := DnsRequestHandler.matchingZone_eq_some h
  obtain ⟨conf, -, hspawn⟩ := mem_zones_of_startZones hstart hmem
  exact ⟨⟨_, _, _, _, _, _, hspawn⟩, (spawnNetworkCrawler_ok hspawn).2⟩

/-- **The matched zone's sections**: its SOA alone, or its apex answer. -/
theorem sections_of_matchingZone (feeds : Receiver → ServablePeers) (request : Request)
    (h : handler.matchingZone hickory query.name = some zone) :
    let response := handler.responseTo hickory feeds request query
    (response.answers = [] ∧ response.authorities = [zone.records.soa]) ∨
      (response.answers, response.authorities)
        = apexAnswer zone (feeds zone.servablePeers) query.name query.queryType := by
  obtain ⟨-, hsections⟩ := responseTo_of_matchingZone_eq_some feeds request h
  rcases zoneSections_cases hickory zone (feeds zone.servablePeers) query.name query.queryType
    with hnodata | hapex
  · rw [hnodata, Prod.mk.injEq] at hsections
    exact .inl hsections
  · rw [hapex] at hsections
    exact .inr hsections

/-- An address record in a response is built for one of the addresses asked for. -/
theorem mem_responseTo_of_ip (hbuilt : zone.Built hickory)
    (h : handler.matchingZone hickory query.name = some zone) {record : Record} {ip : IpAddr}
    (hrecord : record ∈ (handler.responseTo hickory feeds request query).answers)
    (hip : record.data.ip = some ip) :
    ∃ addr ∈ requestedPeers (feeds zone.servablePeers) query.queryType,
      record = addressRecord zone query.name addr := by
  rcases sections_of_matchingZone feeds request h with ⟨hempty, -⟩ | hapex
  · rw [hempty] at hrecord
    exact absurd hrecord List.not_mem_nil
  · have hanswers := congrArg Prod.fst hapex
    dsimp only at hanswers
    rw [hanswers] at hrecord
    exact mem_apexAnswer_of_ip hbuilt hrecord hip

/-- The addresses in a response are a sublist of those asked for. -/
theorem ips_responseTo_sublist (feeds : Receiver → ServablePeers) (request : Request)
    (hbuilt : zone.Built hickory)
    (h : handler.matchingZone hickory query.name = some zone) :
    ((handler.responseTo hickory feeds request query).answers.filterMap (·.data.ip)).Sublist
      ((requestedPeers (feeds zone.servablePeers) query.queryType).map (·.ip)) := by
  rcases sections_of_matchingZone feeds request h with ⟨hempty, -⟩ | hapex
  · rw [hempty]
    exact List.nil_sublist _
  · have hanswers := congrArg Prod.fst hapex
    dsimp only at hanswers
    rw [hanswers, filterMap_ip_apexAnswer hbuilt]

/-- The authority section of a matched zone's response. -/
theorem authorities_responseTo (hbuilt : zone.Built hickory)
    (h : handler.matchingZone hickory query.name = some zone) :
    let response := handler.responseTo hickory feeds request query
    response.authorities = if response.answers = [] then [zone.records.soa] else [] := by
  intro response
  rcases sections_of_matchingZone feeds request h with ⟨hempty, hsoa⟩ | hapex
  · rw [if_pos hempty]
    exact hsoa
  · obtain ⟨hanswers, hauthorities⟩ := Prod.mk.inj hapex
    change response.answers = _ at hanswers
    change response.authorities = _ at hauthorities
    rw [hanswers, hauthorities]
    exact apexAnswer_snd hbuilt

theorem mem_requestedPeers {peers : ServablePeers} {recordType : RecordType}
    {addr : PeerSocketAddr} :
    addr ∈ requestedPeers peers recordType ↔
      ∃ ipv4, addressFamily? recordType = some ipv4 ∧ addr ∈ peers.family ipv4 := by
  unfold requestedPeers
  cases addressFamily? recordType with
  | none => simp
  | some ipv4 => simp

/-- An address record for an entry of a family is of the type that asks for the family. -/
theorem addressRecord_ofType {zone : SeedZone} {queryName : LowerName} {recordType : RecordType}
    {ipv4 : Bool} {addr : PeerSocketAddr} (hfamily : addressFamily? recordType = some ipv4)
    (haddr : addr.ip.isIpv4 = ipv4) :
    (recordType = .a ∧ ∃ ip, (addressRecord zone queryName addr).data = .a ip) ∨
      (recordType = .aaaa ∧ ∃ ip, (addressRecord zone queryName addr).data = .aaaa ip) := by
  unfold addressRecord
  cases hip : addr.ip with
  | v4 ip =>
      rw [hip] at haddr
      rw [← haddr] at hfamily
      refine .inl ⟨?_, ip, rfl⟩
      cases recordType with
      | a => rfl
      | _ => cases hfamily
  | v6 ip =>
      rw [hip] at haddr
      rw [← haddr] at hfamily
      refine .inr ⟨?_, ip, rfl⟩
      cases recordType with
      | aaaa => rfl
      | _ => cases hfamily

end Responses

end Zeeder.Serving
