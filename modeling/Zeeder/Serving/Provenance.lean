import Zeeder.Serving.System

/-! # Provenance of address answers

Classification, the family split, the cap, the hand-over through the channel, routing and record
construction, put together: where every address record of every response comes from.

* **`address_provenance`** — every address record sent comes from the last snapshot published for the
  matched zone's own network, in the family the query asked for, and none is sent twice. -/

namespace Zeeder.Serving

open Crawl Dns Config Reference Foundation Foundation.StepSystem

/-- **Provenance**: what a response to a query owes to the snapshots published before it. -/
structure AddressProvenance (hickory : HickoryProto) (networks : ZcashNetwork → Network)
    (handler : DnsRequestHandler) (ls : List SeederLabel) (query : Query) (response : Response) :
    Prop where
  /-- An address record comes from the last snapshot published for the matched zone's network, and
  there from an entry that `classifyPeer` accepted; its owner is the query name and its TTL the
  zone's. -/
  accepted : ∀ record ∈ response.answers, ∀ ip, record.data.ip = some ip →
    ∃ zone refresh ipv4, handler.matchingZone hickory query.name = some zone ∧
      (refreshesPublished (labelsAt zone.network ls)).getLast? = some refresh ∧
      (∃ peer ∈ refresh.book.peers, peer.addr.ip = ip ∧
        peer.addr ∈ ((spawnedUpdater networks zone.network).snapshot refresh).family ipv4 ∧
        classifyPeer refresh.book peer refresh.now (networks zone.network) refresh.minimumVersion
          = .ok ()) ∧
      record.name = query.name.name ∧ record.ttl = zone.ttl
  /-- It is an `A` record for a query of type `A`, or an `AAAA` record for one of type `AAAA`. -/
  ofType : ∀ record ∈ response.answers, ∀ ip, record.data.ip = some ip →
    (query.queryType = .a ∧ ∃ ipv4, record.data = .a ipv4) ∨
      (query.queryType = .aaaa ∧ ∃ ipv6, record.data = .aaaa ipv6)
  /-- There are at most 25. -/
  atMost : (response.answers.filterMap (·.data.ip)).length ≤ 25
  /-- No address stands twice. -/
  distinct : (response.answers.filterMap (·.data.ip)).Nodup
  /-- The authority section holds the matched zone's SOA exactly when the answer section is empty. -/
  authority : ∀ zone, handler.matchingZone hickory query.name = some zone →
    response.authorities = if response.answers = [] then [zone.records.soa] else []
  /-- Outside every zone there are no records. -/
  unmatched : handler.matchingZone hickory query.name = none →
    response.answers = [] ∧ response.authorities = []

section Matching

variable {hickory : HickoryProto} {networks : ZcashNetwork → Network} {config : SeederConfig}
  {handler : DnsRequestHandler} {s₀ s : ZcashNetwork → CacheState} {ls : List SeederLabel}
  {query : Query}

/-- Outside every zone a response has no records, and owes nothing. -/
theorem addressProvenance_of_unmatched (feeds : Receiver → ServablePeers) (request : Request)
    (hmatch : handler.matchingZone hickory query.name = none) :
    AddressProvenance hickory networks handler ls query
      (handler.responseTo hickory feeds request query) := by
  obtain ⟨-, hanswers, hauthorities⟩ := responseTo_of_matchingZone_eq_none hmatch
  have hnil : ∀ record, record ∉ (handler.responseTo hickory feeds request query).answers := by
    rw [hanswers]
    exact fun _ => List.not_mem_nil
  refine ⟨?_, ?_, ?_, ?_, ?_, fun _ => ⟨hanswers, hauthorities⟩⟩
  · exact fun record hrecord => absurd hrecord (hnil record)
  · exact fun record hrecord => absurd hrecord (hnil record)
  · rw [hanswers]
    exact Nat.zero_le _
  · rw [hanswers]
    exact List.nodup_nil
  · intro zone hzone
    rw [hmatch] at hzone
    cases hzone

/-- In a zone, the response is made from the channel of that zone's network. -/
theorem addressProvenance_of_matched (hstart : startZones hickory config = .ok handler.zones)
    (hinit : (seederSystem hickory networks handler).Init s₀)
    (hrun : (seederSystem hickory networks handler).Run s₀ ls s) (request : Request)
    {zone : SeedZone} (hmatch : handler.matchingZone hickory query.name = some zone)
    (hbooks : BooksSatisfy DistinctAddrs (s zone.network)) :
    AddressProvenance hickory networks handler ls query
      (handler.responseTo hickory (currentFeeds networks s) request query) := by
  obtain ⟨hlength, hnodup⟩ := ips_of_response hstart hmatch request hbooks
  refine ⟨?_, ?_, hlength, hnodup, ?_, ?_⟩
  · intro record hrecord ip hip
    obtain ⟨refresh, ipv4, hpublished, -, peer, hpeer, hpeerIp, -, hsnapshot, hok, rfl⟩ :=
      accepted_of_record hstart hmatch hip hrecord
    -- the channel holds what the zone's own updater published last
    rw [published_of_run hinit hrun] at hpublished
    exact ⟨zone, refresh, ipv4, hmatch, hpublished, ⟨peer, hpeer, hpeerIp, hsnapshot, hok⟩, rfl, rfl⟩
  · intro record hrecord ip hip
    obtain ⟨refresh, ipv4, -, hfamily, peer, -, -, haddr, -, -, rfl⟩ :=
      accepted_of_record hstart hmatch hip hrecord
    exact addressRecord_ofType hfamily haddr
  · intro other hother
    rw [hmatch] at hother
    cases hother
    exact authorities_responseTo (built_of_matchingZone hstart hmatch).1 hmatch
  · intro hnone
    rw [hmatch] at hnone
    cases hnone

end Matching

/-- **Provenance of address answers.** For the zones that start-up built and every order of refreshes
and queries, with distinct socket addresses in every address book: the response to a query has its
address records from the last snapshot published for the matched zone's own network, and without a
query it has no records. -/
theorem address_provenance (hickory : HickoryProto) (networks : ZcashNetwork → Network)
    (config : SeederConfig) (handler : DnsRequestHandler)
    (hstart : startZones hickory config = .ok handler.zones) (s₀ s t : ZcashNetwork → CacheState)
    (ls : List SeederLabel) (hinit : (seederSystem hickory networks handler).Init s₀)
    (hbook : ∀ network, DistinctAddrs (s₀ network).book)
    (hbooks : ∀ network book, .component network (.updateBook book) ∈ ls → DistinctAddrs book)
    (hrun : (seederSystem hickory networks handler).Run s₀ ls s) (exchange : Exchange)
    (hstep : (seederSystem hickory networks handler).Step s (.observe exchange) t)
    (response : Response) (hsent : .sendResponse response ∈ exchange.effects) :
    (exchange.request.queries.head? = none → response.answers = [] ∧ response.authorities = []) ∧
      ∀ query, exchange.request.queries.head? = some query →
        AddressProvenance hickory networks handler ls query response := by
  constructor
  · intro hnone
    obtain ⟨verdict, sendSucceeds, hmem⟩ := answers_of_step hstep hsent
    exact DnsRequestHandler.records_of_no_query hnone hmem
  · intro query hquery
    obtain rfl := response_of_step hstep hquery hsent
    cases hmatch : handler.matchingZone hickory query.name with
    | none => exact addressProvenance_of_unmatched _ _ hmatch
    | some zone =>
        have hdistinct : BooksSatisfy DistinctAddrs (s zone.network) :=
          booksSatisfy_of_run (hinit zone.network) (hbook zone.network)
            (fun book hupdate => hbooks zone.network book (mem_labelsAt.mp hupdate))
            (hrun.component zone.network)
        exact addressProvenance_of_matched hstart hinit hrun exchange.request hmatch hdistinct

/-- The provenance of the example run's response. The last snapshot is of a book with peers below the
floor, unnegotiated and not recently live; an earlier one listed peers that the response does not. -/
theorem address_provenance_example : ∃ zone, startZones reference exampleConfig = .ok [zone] ∧
    (((spawnedUpdater exampleNetworks .mainnet).snapshot earlyRefresh).family true).map (·.ip)
      = [.v4 ⟨1, 2, 3, 4⟩, .v4 ⟨1, 2, 3, 8⟩, .v4 ⟨1, 2, 3, 2⟩, .v4 ⟨1, 2, 3, 6⟩] ∧
    (exampleResponse zone).answers.filterMap (·.data.ip)
      = [.v4 ⟨1, 2, 3, 9⟩, .v4 ⟨1, 2, 3, 4⟩, .v4 ⟨1, 2, 3, 8⟩] ∧
    AddressProvenance reference exampleNetworks ⟨[zone], none⟩ exampleSeederLabels addressQuery
      (exampleResponse zone) := by
  obtain ⟨zone, hstart, haccepted, hlabels⟩ := exampleConfig_started
  refine ⟨zone, hstart, earlyRefresh_family, exampleResponse_ips hstart haccepted hlabels, ?_⟩
  exact (address_provenance reference exampleNetworks exampleConfig ⟨[zone], none⟩ hstart
    (fun _ => exampleCache) exampleSeederState exampleSeederState exampleSeederLabels
    (example_init _) (fun _ => mixedBook_distinct) exampleLabels_distinct (example_run _)
    (exampleExchange zone) (example_step zone) (exampleResponse zone)
    (exampleResponse_sent zone)).2 addressQuery rfl

end Zeeder.Serving
