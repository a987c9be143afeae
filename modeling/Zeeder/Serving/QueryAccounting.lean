import Zeeder.Dns.RateLimiting
import Zeeder.Serving.System

/-! # The DNS counters add up

What the request counters and the peer histogram say after any sequence of requests and refreshes,
against what was received and sent. The counters only grow by one at a time, so a sequence's values
are the sums of its requests' values and one request decides everything.

* **`queryAccounts_serve`** — every arrival is counted as dropped or answered; the answered ones are
  counted by record type, the failed ones as errors; the histogram's samples sum up to the addresses
  sent. -/

namespace Zeeder.Serving

open Crawl Dns Config Metrics Foundation Reference

/-! ## Reading the metrics -/

/-- What a counter has counted. -/
def counterValue (name : String) (labels : List (String × String)) (effects : List RequestEffect) :
    ℕ := effects.count (.increment name labels)

/-- The values that a histogram has recorded. -/
def samples (name : String) (labels : List (String × String)) (effects : List RequestEffect) :
    List ℕ :=
  effects.filterMap fun
    | .record metric tags value => if metric = name ∧ tags = labels then some value else none
    | _ => none

/-- The addresses in the responses sent. -/
def addressesSent (effects : List RequestEffect) : List IpAddr :=
  effects.flatMap fun
    | .sendResponse response => response.answers.filterMap (·.data.ip)
    | _ => []

section Additive

variable (name : String) (labels : List (String × String)) (before after : List RequestEffect)

@[simp] theorem counterValue_append : counterValue name labels (before ++ after)
    = counterValue name labels before + counterValue name labels after :=
  List.count_append

@[simp] theorem samples_append : samples name labels (before ++ after)
    = samples name labels before ++ samples name labels after :=
  List.filterMap_append

@[simp] theorem addressesSent_append : addressesSent (before ++ after)
    = addressesSent before ++ addressesSent after :=
  List.flatMap_append

end Additive

/-! ## The accounts of a sequence -/

/-- A request with what it did. -/
abbrev Served (Instant : Type*) : Type _ := Arrival Instant × List RequestEffect

section Accounts

variable {Instant : Type*}

/-- Whether a request got a response, delivered or not. -/
def Served.answered (served : Served Instant) : Bool := served.2.any RequestEffect.isResponse

/-- The record type label of a request's first query. -/
def askedLabel (request : Request) : Option String :=
  request.queries.head?.map fun query => recordTypeLabel query.queryType

/-- The network of the zone that a request's first query is routed to. -/
def routedNetwork (hickory : HickoryProto) (handler : DnsRequestHandler) (request : Request) :
    Option ZcashNetwork :=
  request.queries.head?.bind fun query =>
    (handler.matchingZone hickory query.name).map SeedZone.network

/-- All effects of a sequence. -/
def effectsOf (entries : List (Served Instant)) : List RequestEffect := entries.flatMap (·.2)

/-- The record type labels that queries are counted under. -/
def recordTypeLabels : List String :=
  [recordTypeA, recordTypeAaaa, recordTypeNs, recordTypeSoa, recordTypeOther]

/-- The peer histogram of one network. -/
def responsePeers (network : ZcashNetwork) (effects : List RequestEffect) : List ℕ :=
  samples dnsResponsePeers [(labelNetwork, network.label)] effects

/-- **The accounts of a sequence**: the metrics against what was received and sent. -/
structure QueryAccounts (hickory : HickoryProto) (handler : DnsRequestHandler)
    (entries : List (Served Instant)) : Prop where
  /-- Every arrival is dropped by the limiter or gets one response. -/
  arrivals : entries.length
    = counterValue dnsRateLimitedTotal [] (effectsOf entries) + responsesSent (effectsOf entries)
  /-- A label's counter counts the answered requests that ask under it. -/
  byType : ∀ label, counterValue dnsQueriesTotal [(labelRecordType, label)] (effectsOf entries)
    = entries.countP fun served => served.answered && askedLabel served.1.request == some label
  /-- The labels together count every answered request that has a query. -/
  allTypes : (recordTypeLabels.map fun label =>
      counterValue dnsQueriesTotal [(labelRecordType, label)] (effectsOf entries)).sum
    = entries.countP fun served => served.answered && !served.1.request.queries.isEmpty
  /-- The errors are the responses that could not be sent. -/
  errors : counterValue dnsErrorsTotal [] (effectsOf entries)
    = entries.countP fun served => served.answered && !served.1.sendSucceeds
  /-- A network's samples sum up to the addresses sent for the zones of that network. -/
  addresses : ∀ network, (responsePeers network (effectsOf entries)).sum
    = (addressesSent (effectsOf (entries.filter fun served =>
        routedNetwork hickory handler served.1.request == some network))).length
  /-- The networks' samples together sum up to all addresses sent. -/
  allAddresses : (responsePeers .mainnet (effectsOf entries)).sum
      + (responsePeers .testnet (effectsOf entries)).sum
    = (addressesSent (effectsOf entries)).length
  /-- An answer without addresses leaves no sample. -/
  positive : ∀ network, ∀ sample ∈ responsePeers network (effectsOf entries), 0 < sample

variable {hickory : HickoryProto} {handler : DnsRequestHandler}

@[simp] theorem effectsOf_append (before after : List (Served Instant)) :
    effectsOf (before ++ after) = effectsOf before ++ effectsOf after :=
  List.flatMap_append

theorem QueryAccounts.nil : QueryAccounts hickory handler ([] : List (Served Instant)) where
  arrivals := rfl
  byType _ := rfl
  allTypes := rfl
  errors := rfl
  addresses _ := rfl
  allAddresses := rfl
  positive _ _ h := absurd h List.not_mem_nil

/-- Accounts add up. -/
theorem QueryAccounts.append {before after : List (Served Instant)}
    (hbefore : QueryAccounts hickory handler before)
    (hafter : QueryAccounts hickory handler after) :
    QueryAccounts hickory handler (before ++ after) where
  arrivals := by
    have h₁ := hbefore.arrivals
    have h₂ := hafter.arrivals
    simp only [effectsOf_append, counterValue_append, responsesSent_append, List.length_append]
    omega
  byType label := by
    rw [effectsOf_append, counterValue_append, hbefore.byType, hafter.byType, List.countP_append]
  allTypes := by
    simp only [effectsOf_append, counterValue_append, List.countP_append]
    rw [List.sum_map_add, hbefore.allTypes, hafter.allTypes]
  errors := by
    rw [effectsOf_append, counterValue_append, hbefore.errors, hafter.errors, List.countP_append]
  addresses network := by
    have h₁ := hbefore.addresses network
    have h₂ := hafter.addresses network
    rw [responsePeers] at h₁ h₂
    rw [responsePeers, effectsOf_append, samples_append, List.sum_append, h₁, h₂,
      List.filter_append, effectsOf_append, addressesSent_append, List.length_append]
  allAddresses := by
    have h₁ := hbefore.allAddresses
    have h₂ := hafter.allAddresses
    simp only [responsePeers] at h₁ h₂
    simp only [responsePeers, effectsOf_append, samples_append, List.sum_append,
      addressesSent_append, List.length_append]
    omega
  positive network sample h := by
    rw [responsePeers, effectsOf_append, samples_append, List.mem_append] at h
    rcases h with h | h
    · exact hbefore.positive network sample h
    · exact hafter.positive network sample h

end Accounts

/-! ## One request -/

section Request

variable {hickory : HickoryProto} {handler : DnsRequestHandler} {config : SeederConfig}
  {feeds : Receiver → ServablePeers}

variable (handler feeds) in
/-- Computing an answer increments no counter and sends nothing. -/
theorem answerQuery_counts (query : Query) (name : String) (labels : List (String × String)) :
    counterValue name labels (handler.answerQuery hickory feeds query).2.2 = 0 ∧
      addressesSent (handler.answerQuery hickory feeds query).2.2 = [] := by
  unfold DnsRequestHandler.answerQuery
  cases handler.matchingZone hickory query.name with
  | none => exact ⟨rfl, rfl⟩
  | some zone =>
      dsimp only
      cases zone.resolveAnswer hickory query.name query.queryType (feeds zone.servablePeers) <;>
        simp [SeedZone.responseRecordsForAnswer, counterValue, addressesSent]

/-- A peer answer has a peer. -/
theorem ne_nil_of_resolveAnswer {zone : SeedZone} {queryName : LowerName} {recordType : RecordType}
    {peers : ServablePeers} {answer : List PeerSocketAddr}
    (h : zone.resolveAnswer hickory queryName recordType peers = .peerAddresses answer) :
    answer ≠ [] := by
  have hpeers : ∀ family : List PeerSocketAddr, resolvePeerAnswer family = .peerAddresses answer →
      answer ≠ [] := by
    intro family hfamily
    cases family with
    | nil => cases hfamily
    | cons addr family =>
        cases hfamily
        exact List.cons_ne_nil _ _
  unfold SeedZone.resolveAnswer at h
  by_cases hlabels : hickory.numLabels queryName = hickory.numLabels zone.domain
  · rw [if_neg (not_not.mpr hlabels)] at h
    cases recordType with
    | a => exact hpeers _ h
    | aaaa => exact hpeers _ h
    | _ => cases h
  · rw [if_pos hlabels] at h
    cases h

/-- **The sample of an answer**: the number of its addresses, if it has any, under the network of the
matched zone. -/
theorem responsePeers_answerQuery (hstart : startZones hickory config = .ok handler.zones)
    (query : Query) (network : ZcashNetwork) :
    let addresses :=
      (handler.answerQuery hickory feeds query).2.1.answerRecords.filterMap (·.data.ip)
    responsePeers network (handler.answerQuery hickory feeds query).2.2
      = if (handler.matchingZone hickory query.name).map SeedZone.network = some network ∧
          addresses ≠ [] then [addresses.length] else [] := by
  unfold DnsRequestHandler.answerQuery
  cases hmatch : handler.matchingZone hickory query.name with
  | none => rfl
  | some zone =>
      obtain ⟨-, hsoa, hnameservers⟩ := (built_of_matchingZone hstart hmatch).1.records
      dsimp only
      cases hanswer :
          zone.resolveAnswer hickory query.name query.queryType (feeds zone.servablePeers) with
      | noData => simp [SeedZone.responseRecordsForAnswer, responsePeers, samples]
      | nameserver =>
          -- the records of the NS RRset have no address
          have hnone := List.filterMap_eq_nil_iff.mpr hnameservers
          simp [SeedZone.responseRecordsForAnswer, responsePeers, samples, hnone]
      | startOfAuthority =>
          simp [SeedZone.responseRecordsForAnswer, responsePeers, samples, hsoa]
      | peerAddresses peers =>
          have hpeers := ne_nil_of_resolveAnswer hanswer
          have hips : (peers.map (addressRecord zone query.name)).filterMap (·.data.ip)
              = peers.map (·.ip) := filterMap_addressRecord_ip peers
          simp only [SeedZone.responseRecordsForAnswer, hips, List.length_map, Option.map_some,
            Option.some.injEq, ne_eq, List.map_eq_nil_iff, hpeers, not_false_eq_true, and_true]
          by_cases hnetwork : zone.network = network
          · rw [if_pos hnetwork, hnetwork]
            simp [responsePeers, samples]
          · have hlabel : zone.network.label ≠ network.label :=
              fun h => hnetwork (ZcashNetwork.label_injective h)
            rw [if_neg hnetwork]
            simp [responsePeers, samples, hlabel]

/-- An answer outside every zone has no address. -/
theorem addresses_of_unmatched {query : Query} (h : handler.matchingZone hickory query.name = none) :
    (handler.answerQuery hickory feeds query).2.1.answerRecords.filterMap (·.data.ip) = [] := by
  unfold DnsRequestHandler.answerQuery
  rw [h]
  rfl

/-- **What an admitted request adds to the metrics.** -/
structure Responded (hickory : HickoryProto) (handler : DnsRequestHandler) (request : Request)
    (sendSucceeds : Bool) (effects : List RequestEffect) : Prop where
  /-- One response. -/
  responses : responsesSent effects = 1
  /-- No drop. -/
  dropped : counterValue dnsRateLimitedTotal [] effects = 0
  /-- One query under the label asked for. -/
  queries : ∀ label, counterValue dnsQueriesTotal [(labelRecordType, label)] effects
    = if askedLabel request = some label then 1 else 0
  /-- One error if the response could not be sent. -/
  errors : counterValue dnsErrorsTotal [] effects = if sendSucceeds then 0 else 1
  /-- One sample if addresses were sent, under the network of the matched zone. -/
  sampled : ∀ network, responsePeers network effects
    = if routedNetwork hickory handler request = some network ∧ addressesSent effects ≠ [] then
        [(addressesSent effects).length] else []
  /-- Addresses are sent for a matched zone only. -/
  unrouted : routedNetwork hickory handler request = none → addressesSent effects = []

/-- The parts of an admitted request with a query, in order. -/
theorem respond_of_query {request : Request} {query : Query}
    (hquery : request.queries.head? = some query) (sendSucceeds : Bool) :
    handler.respond hickory feeds request sendSucceeds
      = [.increment dnsQueriesTotal [(labelRecordType, recordTypeLabel query.queryType)]]
        ++ (handler.answerQuery hickory feeds query).2.2
        ++ [.sendResponse (handler.responseTo hickory feeds request query)]
        ++ if sendSucceeds then [] else [.increment dnsErrorsTotal []] := by
  unfold DnsRequestHandler.respond
  rw [hquery]
  cases sendSucceeds <;>
    simp [DnsRequestHandler.responseTo]

theorem responded_of_query (hstart : startZones hickory config = .ok handler.zones)
    {request : Request} {query : Query} (hquery : request.queries.head? = some query)
    (sendSucceeds : Bool) :
    Responded hickory handler request sendSucceeds
      (handler.respond hickory feeds request sendSucceeds) := by
  have hresponses := (handler.respond_sendsOnce hickory feeds request sendSucceeds).2
  have hcounts : ∀ name labels,
      counterValue name labels (handler.answerQuery hickory feeds query).2.2 = 0 :=
    fun name labels => (answerQuery_counts handler feeds query name labels).1
  have hquiet : addressesSent (handler.answerQuery hickory feeds query).2.2 = [] :=
    (answerQuery_counts handler feeds query "" []).2
  have hasked : askedLabel request = some (recordTypeLabel query.queryType) := by
    rw [askedLabel, hquery]
    rfl
  have hrouted : routedNetwork hickory handler request
      = (handler.matchingZone hickory query.name).map SeedZone.network := by
    rw [routedNetwork, hquery]
    rfl
  -- the addresses sent are those of the one response
  have hsent : addressesSent (handler.respond hickory feeds request sendSucceeds)
      = (handler.answerQuery hickory feeds query).2.1.answerRecords.filterMap (·.data.ip) := by
    rw [respond_of_query hquery]
    simp only [addressesSent_append, hquiet]
    cases sendSucceeds <;> simp [addressesSent, DnsRequestHandler.responseTo]
  refine ⟨hresponses, ?_, ?_, ?_, ?_, ?_⟩
  · rw [respond_of_query hquery]
    simp only [counterValue_append, hcounts]
    cases sendSucceeds <;> simp [counterValue, dnsRateLimitedTotal, dnsQueriesTotal, dnsErrorsTotal]
  · intro label
    rw [respond_of_query hquery, hasked]
    simp only [counterValue_append, hcounts]
    by_cases hlabel : recordTypeLabel query.queryType = label
    · cases sendSucceeds <;> simp [counterValue, hlabel, dnsQueriesTotal, dnsErrorsTotal]
    · cases sendSucceeds <;> simp [counterValue, hlabel, dnsQueriesTotal, dnsErrorsTotal]
  · rw [respond_of_query hquery]
    simp only [counterValue_append, hcounts]
    cases sendSucceeds <;> simp [counterValue, dnsQueriesTotal, dnsErrorsTotal]
  · intro network
    rw [hsent, hrouted, ← responsePeers_answerQuery hstart query network, respond_of_query hquery]
    simp only [responsePeers, samples_append]
    cases sendSucceeds <;> simp [samples]
  · intro hnone
    rw [hrouted, Option.map_eq_none_iff] at hnone
    rw [hsent]
    exact addresses_of_unmatched hnone

theorem responded_of_no_query {request : Request} (hquery : request.queries.head? = none)
    (sendSucceeds : Bool) :
    Responded hickory handler request sendSucceeds
      (handler.respond hickory feeds request sendSucceeds) := by
  have hasked : askedLabel request = none := by
    rw [askedLabel, hquery]
    rfl
  have hrouted : routedNetwork hickory handler request = none := by
    rw [routedNetwork, hquery]
    rfl
  refine ⟨(handler.respond_sendsOnce hickory feeds request sendSucceeds).2, ?_, ?_, ?_, ?_, ?_⟩ <;>
    unfold DnsRequestHandler.respond <;> rw [hquery] <;> cases sendSucceeds <;>
    simp [counterValue, responsePeers, samples, addressesSent, hasked, hrouted,
      dnsRateLimitedTotal, dnsErrorsTotal]

variable (feeds) in
/-- A request that the limiter does not drop. -/
theorem responded_respond (hstart : startZones hickory config = .ok handler.zones)
    (request : Request) (sendSucceeds : Bool) :
    Responded hickory handler request sendSucceeds
      (handler.respond hickory feeds request sendSucceeds) := by
  cases hquery : request.queries.head? with
  | none => exact responded_of_no_query hquery sendSucceeds
  | some query => exact responded_of_query hstart hquery sendSucceeds

/-- Asking the limiter first adds nothing to the metrics. -/
theorem Responded.checkLimiter {request : Request} {sendSucceeds : Bool}
    {effects : List RequestEffect} (h : Responded hickory handler request sendSucceeds effects)
    (clientIp : IpAddr) (admitted : Bool) :
    Responded hickory handler request sendSucceeds (.checkLimiter clientIp admitted :: effects) where
  responses := h.responses
  dropped := h.dropped
  queries := h.queries
  errors := h.errors
  sampled := h.sampled
  unrouted := h.unrouted

/-- A record type is counted under exactly one of the labels. -/
theorem sum_recordTypeLabels (recordType : RecordType) :
    (recordTypeLabels.map fun label => if recordTypeLabel recordType = label then 1 else 0).sum
      = 1 := by
  cases recordType <;> rfl

end Request

section Single

variable {Instant : Type*} {hickory : HickoryProto} {handler : DnsRequestHandler}
  {config : SeederConfig} {feeds : Receiver → ServablePeers} {arrival : Arrival Instant}
  {effects : List RequestEffect}

/-- The accounts of one answered request. -/
theorem accounts_of_responded
    (h : Responded hickory handler arrival.request arrival.sendSucceeds effects) :
    QueryAccounts hickory handler [((arrival, effects) : Served Instant)] := by
  have heffects : effectsOf [((arrival, effects) : Served Instant)] = effects := List.append_nil _
  have hanswered : Served.answered ((arrival, effects) : Served Instant) = true := by
    rw [Served.answered, List.any_eq_true]
    have hpos : 0 < responsesSent effects := h.responses.symm ▸ Nat.one_pos
    exact List.countP_pos_iff.mp hpos
  have hsum : ∀ network, (responsePeers network effects).sum
      = if routedNetwork hickory handler arrival.request = some network then
          (addressesSent effects).length else 0 := by
    intro network
    rw [h.sampled]
    by_cases hnil : addressesSent effects = [] <;>
      by_cases hrouted : routedNetwork hickory handler arrival.request = some network <;>
      simp [hnil, hrouted]
  refine ⟨?_, ?_, ?_, ?_, ?_, ?_, ?_⟩
  · rw [heffects, h.dropped, h.responses]
    rfl
  · intro label
    rw [heffects, h.queries, List.countP_singleton, hanswered, Bool.true_and]
    simp only [beq_iff_eq]
  · simp only [heffects, h.queries, List.countP_singleton, hanswered, Bool.true_and]
    cases hqueries : arrival.request.queries with
    | nil => simp [askedLabel, hqueries, recordTypeLabels]
    | cons query queries =>
        simp only [askedLabel, hqueries, List.head?_cons, Option.map_some, Option.some.injEq]
        exact sum_recordTypeLabels query.queryType
  · rw [heffects, h.errors, List.countP_singleton, hanswered, Bool.true_and]
    cases arrival.sendSucceeds <;> rfl
  · intro network
    rw [heffects, hsum, List.filter_singleton]
    by_cases hrouted : routedNetwork hickory handler arrival.request = some network
    · simp [hrouted, heffects]
    · have hother : (routedNetwork hickory handler arrival.request == some network) = false :=
        beq_eq_false_iff_ne.mpr hrouted
      rw [if_neg hrouted, hother]
      rfl
  · rw [heffects, hsum, hsum]
    cases hrouted : routedNetwork hickory handler arrival.request with
    | none => simp [h.unrouted hrouted]
    | some network => cases network <;> simp
  · intro network sample hsample
    rw [heffects, h.sampled] at hsample
    by_cases hnil : addressesSent effects = []
    · simp [hnil] at hsample
    · by_cases hrouted : routedNetwork hickory handler arrival.request = some network
      · rw [if_pos ⟨hrouted, hnil⟩, List.mem_singleton] at hsample
        rw [hsample]
        exact List.length_pos_iff.mpr hnil
      · simp [hrouted] at hsample

/-- The accounts of one dropped request. -/
theorem accounts_of_dropped (clientIp : IpAddr) :
    QueryAccounts hickory handler [((arrival,
      [.checkLimiter clientIp false, .increment dnsRateLimitedTotal []]) : Served Instant)] := by
  refine ⟨rfl, fun _ => ?_, ?_, ?_, fun network => ?_, rfl, fun _ _ h => absurd h List.not_mem_nil⟩
  · simp [effectsOf, counterValue, Served.answered, RequestEffect.isResponse, dnsRateLimitedTotal,
      dnsQueriesTotal]
  · simp [effectsOf, counterValue, Served.answered, RequestEffect.isResponse, dnsRateLimitedTotal,
      dnsQueriesTotal, recordTypeLabels]
  · simp [effectsOf, counterValue, Served.answered, RequestEffect.isResponse, dnsRateLimitedTotal,
      dnsErrorsTotal]
  · rw [List.filter_singleton]
    cases routedNetwork hickory handler arrival.request == some network <;> rfl

variable (feeds) in
/-- **One request**, dropped or answered. -/
theorem accounts_answerRequest (hstart : startZones hickory config = .ok handler.zones)
    (verdict : IpAddr → Bool) (arrival : Arrival Instant) :
    QueryAccounts hickory handler [((arrival, handler.answerRequest hickory feeds verdict
      arrival.request arrival.sendSucceeds) : Served Instant)] := by
  have hresponded := responded_respond feeds hstart arrival.request arrival.sendSucceeds
  unfold DnsRequestHandler.answerRequest
  cases handler.rateLimiter with
  | none => exact accounts_of_responded hresponded
  | some limiter =>
      dsimp only
      cases verdict arrival.request.src.ip with
      | true => exact accounts_of_responded (hresponded.checkLimiter _ _)
      | false => exact accounts_of_dropped _

end Single

/-! ## Every sequence -/

/-- **The DNS counters add up.** For the zones that start-up built, any limiter of the dependency and
any sequence of requests and refreshes: every arrival is counted as dropped or gets one response; the
record type counters, the error counter and the peer histogram count what was answered, failed and
sent. Induction on the sequence; a refresh does not touch the metrics. -/
theorem queryAccounts_serve {Instant : Type*} (hickory : HickoryProto) (config : SeederConfig)
    (handler : DnsRequestHandler) (hstart : startZones hickory config = .ok handler.zones)
    (governor : Governor Instant) (feeds : Receiver → ServablePeers)
    (events : List (HandlerEvent Instant)) :
    QueryAccounts hickory handler
      (handler.serve hickory governor (HandlerState.start feeds) events) := by
  have hserve : ∀ (state : HandlerState Instant),
      QueryAccounts hickory handler (handler.serve hickory governor state events) := by
    induction events with
    | nil => exact fun _ => QueryAccounts.nil
    | cons event events ih =>
        intro state
        cases event with
        | refresh receiver snapshot => exact ih _
        | arrive arrival =>
            have hrequest := accounts_answerRequest state.feeds hstart
              (handler.check governor state.checks arrival.arrivedAt) arrival
            exact hrequest.append (ih _)
  exact hserve _

/-- A snapshot is published, client 1 asks nothing, and another client asks for addresses three times
of which the second time is too soon and the third response cannot be sent. -/
def exampleEvents : List (HandlerEvent ℕ) :=
  [.refresh ⟨.mainnet⟩ ⟨[⟨.v4 ⟨1, 2, 3, 4⟩, 8233⟩], []⟩, DnsRequestHandler.arrivalFrom 1 0 [],
    .arrive ⟨requestFor addressQuery, 1, true⟩, .arrive ⟨requestFor addressQuery, 3, true⟩,
    .arrive ⟨requestFor addressQuery, 12, false⟩]

/-- The accounts of these requests at the example configuration's zone, under a limiter that admits a
client once in ten units of time. -/
theorem queryAccounts_serve_exampleEvents : ∃ zone,
    startZones reference exampleConfig = .ok [zone] ∧
    let handler : DnsRequestHandler := ⟨[zone], some ⟨⟨1, by decide⟩, ⟨1, by decide⟩⟩⟩
    QueryAccounts reference handler (handler.serve reference DnsRequestHandler.everyTen
      (HandlerState.start fun _ => .default) exampleEvents) := by
  obtain ⟨zone, hstart, -, -⟩ := exampleConfig_started
  exact ⟨zone, hstart, queryAccounts_serve reference exampleConfig _ hstart
    DnsRequestHandler.everyTen _ _⟩

end Zeeder.Serving
