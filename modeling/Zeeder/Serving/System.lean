import Zeeder.Crawl.CacheRefresh
import Zeeder.Foundation.Interleaving
import Zeeder.Serving.AddressRecords

/-! # The running seeder

The networks' crawlers, observers and refresh loops run side by side, and the DNS handler reads their
channels in between. Answering a request is one step, taken when the matched zone's channel is read:
nothing the handler does before or after looks at what the networks share. The limiter's verdict and
the fate of the sent response are arbitrary.

* **`published_of_run`** — a network's channel holds the last refresh that its own updater published.
* **`accepted_of_record`** — an address record sent is built for an entry that `classifyPeer`
  accepted in the published refresh of the matched zone's network.
* **`ips_of_response`** — the addresses in a response are few and distinct. -/

namespace Zeeder.Serving

open Crawl Dns Config Foundation Foundation.StepSystem

/-- One request and what it does. -/
structure Exchange where
  /-- The request. -/
  request : Request
  /-- Its effects, in order. -/
  effects : List RequestEffect

/-- The steps of the running seeder. -/
abbrev SeederLabel : Type := InterleavedLabel ZcashNetwork CacheLabel Exchange

section System

variable (hickory : HickoryProto) (networks : ZcashNetwork → Network) (handler : DnsRequestHandler)

/-- The cache updater that starting one network spawns. -/
def spawnedUpdater (network : ZcashNetwork) : CacheUpdater where
  network := network
  zcashNetwork := networks network
  targetVersion := (ActivationTarget.latest (networks network)).requiredVersion

/-- What the receivers of the networks' channels read. -/
def currentFeeds (s : ZcashNetwork → CacheState) (receiver : Receiver) : ServablePeers :=
  match (s receiver.updater).published with
  | none => .default
  | some refresh => (spawnedUpdater networks receiver.updater).snapshot refresh

/-- The handler answers a request from the channels as they are. -/
def Answers (s : ZcashNetwork → CacheState) (exchange : Exchange) : Prop :=
  ∃ verdict sendSucceeds, exchange.effects =
    handler.answerRequest hickory (currentFeeds networks s) verdict exchange.request sendSucceeds

/-- The running seeder; a network without a zone runs unobserved. -/
def seederSystem : StepSystem (ZcashNetwork → CacheState) SeederLabel :=
  interleaved (fun network => cacheSystem (networks network)) (Answers hickory networks handler)

end System

/-! ## What the channels hold -/

section Feeds

variable {networks : ZcashNetwork → Network} {s : ZcashNetwork → CacheState}
  {network : ZcashNetwork}

/-- After a publication the channel holds its snapshot. -/
theorem currentFeeds_of_published {refresh : Refresh} (h : (s network).published = some refresh) :
    currentFeeds networks s ⟨network⟩ = (spawnedUpdater networks network).snapshot refresh := by
  simp only [currentFeeds, h]

/-- Before the first one it holds the empty snapshot. -/
theorem currentFeeds_of_unpublished (h : (s network).published = none) :
    currentFeeds networks s ⟨network⟩ = .default := by
  simp only [currentFeeds, h]

/-- Which lists no address. -/
theorem default_family (ipv4 : Bool) : ServablePeers.default.family ipv4 = [] := by
  cases ipv4 <;> rfl

/-- An address in a channel is in the snapshot last published there. -/
theorem published_of_mem_currentFeeds {ipv4 : Bool} {addr : PeerSocketAddr}
    (h : addr ∈ (currentFeeds networks s ⟨network⟩).family ipv4) :
    ∃ refresh, (s network).published = some refresh ∧
      addr ∈ ((spawnedUpdater networks network).snapshot refresh).family ipv4 := by
  cases hpublished : (s network).published with
  | none =>
      rw [currentFeeds_of_unpublished hpublished, default_family] at h
      exact absurd h List.not_mem_nil
  | some refresh =>
      rw [currentFeeds_of_published hpublished] at h
      exact ⟨refresh, rfl, h⟩

/-- A channel never lists more than a response may hold. -/
theorem length_currentFeeds_le (ipv4 : Bool) :
    ((currentFeeds networks s ⟨network⟩).family ipv4).length ≤ maxDnsResponsePeers := by
  cases hpublished : (s network).published with
  | none =>
      rw [currentFeeds_of_unpublished hpublished, default_family]
      exact Nat.zero_le _
  | some refresh =>
      rw [currentFeeds_of_published hpublished]
      exact (length_servablePeers ipv4).trans_le (min_le_left _ _)

/-- The entries of the book have distinct socket addresses. -/
def DistinctAddrs (book : AddressBook) : Prop := (book.peers.map (·.addr)).Nodup

/-- Nor does it list an address twice, when the books do not. -/
theorem nodup_ip_currentFeeds (h : BooksSatisfy DistinctAddrs (s network)) (ipv4 : Bool) :
    (((currentFeeds networks s ⟨network⟩).family ipv4).map (·.ip)).Nodup := by
  cases hpublished : (s network).published with
  | none =>
      rw [currentFeeds_of_unpublished hpublished, default_family]
      exact List.nodup_nil
  | some refresh =>
      rw [currentFeeds_of_published hpublished]
      exact nodup_ip_servablePeers (h.published refresh hpublished) ipv4

end Feeds

/-! ## What a run answers -/

section Answers

variable {hickory : HickoryProto} {networks : ZcashNetwork → Network} {config : SeederConfig}
  {handler : DnsRequestHandler} {s₀ s t : ZcashNetwork → CacheState} {ls : List SeederLabel}
  {exchange : Exchange} {query : Query} {response : Response}

/-- An observation is an answer from the channels as they are. -/
theorem answers_of_step (hstep : (seederSystem hickory networks handler).Step s (.observe exchange) t)
    (hsent : .sendResponse response ∈ exchange.effects) :
    ∃ verdict sendSucceeds, .sendResponse response ∈ handler.answerRequest hickory
      (currentFeeds networks s) verdict exchange.request sendSucceeds := by
  cases hstep with
  | observe exchange hanswers =>
      obtain ⟨verdict, sendSucceeds, heffects⟩ := hanswers
      exact ⟨verdict, sendSucceeds, heffects ▸ hsent⟩

/-- The response to a query is built from the channels as they are. -/
theorem response_of_step (hstep : (seederSystem hickory networks handler).Step s (.observe exchange) t)
    (hquery : exchange.request.queries.head? = some query)
    (hsent : .sendResponse response ∈ exchange.effects) :
    response = handler.responseTo hickory (currentFeeds networks s) exchange.request query := by
  obtain ⟨verdict, sendSucceeds, hmem⟩ := answers_of_step hstep hsent
  exact ((DnsRequestHandler.sendResponse_mem_answerRequest hquery).mp hmem).2

/-- Along a run, a network's channel holds the last refresh that its own updater published. -/
theorem published_of_run (hinit : (seederSystem hickory networks handler).Init s₀)
    (hrun : (seederSystem hickory networks handler).Run s₀ ls s) (network : ZcashNetwork) :
    (s network).published = (refreshesPublished (labelsAt network ls)).getLast? :=
  published_eq_getLast? (hinit network) (hrun.component network)

/-- An address record sent is built for an entry accepted in the published snapshot. -/
theorem accepted_of_record (hstart : startZones hickory config = .ok handler.zones) {zone : SeedZone}
    (hmatch : handler.matchingZone hickory query.name = some zone) {request : Request}
    {record : Record} {ip : IpAddr} (hip : record.data.ip = some ip)
    (hrecord : record ∈ (handler.responseTo hickory (currentFeeds networks s) request query).answers) :
    ∃ refresh ipv4, (s zone.network).published = some refresh ∧
      addressFamily? query.queryType = some ipv4 ∧
      ∃ peer ∈ refresh.book.peers, peer.addr.ip = ip ∧ peer.addr.ip.isIpv4 = ipv4 ∧
        peer.addr ∈ ((spawnedUpdater networks zone.network).snapshot refresh).family ipv4 ∧
        classifyPeer refresh.book peer refresh.now (networks zone.network) refresh.minimumVersion
          = .ok () ∧
        record = addressRecord zone query.name peer.addr := by
  obtain ⟨hbuilt, hfeed⟩ := built_of_matchingZone hstart hmatch
  obtain ⟨addr, haddr, rfl⟩ := mem_responseTo_of_ip hbuilt hmatch hrecord hip
  rw [hfeed] at haddr
  obtain ⟨ipv4, hfamily, hmem⟩ := mem_requestedPeers.mp haddr
  obtain ⟨refresh, hpublished, hsnapshot⟩ := published_of_mem_currentFeeds hmem
  obtain ⟨peer, hpeer, rfl, hisIpv4, hok⟩ := mem_servablePeers hsnapshot
  rw [addressRecord_ip] at hip
  exact ⟨refresh, ipv4, hpublished, hfamily, peer, hpeer, Option.some_inj.mp hip, hisIpv4,
    hsnapshot, hok, rfl⟩

/-- The addresses in a response are few and distinct when the books' addresses are distinct. -/
theorem ips_of_response (hstart : startZones hickory config = .ok handler.zones) {zone : SeedZone}
    (hmatch : handler.matchingZone hickory query.name = some zone) (request : Request)
    (hbooks : BooksSatisfy DistinctAddrs (s zone.network)) :
    let ips := (handler.responseTo hickory (currentFeeds networks s) request query).answers.filterMap
      (·.data.ip)
    ips.length ≤ 25 ∧ ips.Nodup := by
  obtain ⟨hbuilt, hfeed⟩ := built_of_matchingZone hstart hmatch
  have hsublist := ips_responseTo_sublist (currentFeeds networks s) request hbuilt hmatch
  rw [hfeed] at hsublist
  unfold requestedPeers at hsublist
  cases hfamily : addressFamily? query.queryType with
  | none =>
      -- no family is asked for, and no address is sent
      rw [hfamily] at hsublist
      have hnil := List.sublist_nil.mp hsublist
      dsimp only
      rw [hnil]
      exact ⟨Nat.zero_le _, List.nodup_nil⟩
  | some ipv4 =>
      rw [hfamily] at hsublist
      refine ⟨hsublist.length_le.trans ?_, (nodup_ip_currentFeeds hbooks ipv4).sublist hsublist⟩
      rw [List.length_map]
      exact length_currentFeeds_le ipv4

end Answers

/-! ## A run that raises the floor and answers -/

section Examples

open Reference

/-- A servable peer of the example network, at `1.2.3.4`. -/
def servablePeer : MetaAddr where
  addr := ⟨.v4 ⟨1, 2, 3, 4⟩, 8233⟩
  wasRecentlyLive _ := true
  negotiatedVersion := some ⟨20⟩
  lastKnownInfoIsValidForOutbound _ := true
  isInbound := false

/-- A book with that peer only. -/
def onePeer : AddressBook := ⟨[servablePeer], 1, fun _ => 0⟩

/-- A peer at `1.2.3.<host>` that differs from it in the version it negotiated, if any. -/
def peerAtVersion (host : UInt8) (version : Option Version) : MetaAddr :=
  { servablePeer with addr := ⟨.v4 ⟨1, 2, 3, host⟩, 8233⟩, negotiatedVersion := version }

/-- A book of two peers below the required version, one that negotiated nothing, and three at or above
it, one of them not recently live. -/
def mixedBook : AddressBook where
  peers := [peerAtVersion 2 (some ⟨10⟩), servablePeer, peerAtVersion 5 none,
    peerAtVersion 6 (some ⟨19⟩), { peerAtVersion 7 (some ⟨20⟩) with wasRecentlyLive := fun _ => false },
    peerAtVersion 8 (some ⟨21⟩)]
  len := 6
  misbehaviorScore _ := 0

/-- The book later on, with one more peer on each side of the required version. -/
def laterBook : AddressBook :=
  { mixedBook with
    peers := peerAtVersion 9 (some ⟨20⟩) :: peerAtVersion 10 (some ⟨11⟩) :: mixedBook.peers
    len := 8 }

/-- The example network's book, below the activation, with nothing published. -/
def exampleCache : CacheState where
  book := mixedBook
  tip := .new (.latest exampleNetwork) false
  phase := .idle
  published := none

/-- The refresh that the run publishes before the confirmation. -/
def earlyRefresh : Refresh := ⟨⟨10⟩, mixedBook, 0, .unshuffled⟩

/-- The refresh that it publishes last. -/
def exampleRefresh : Refresh := ⟨⟨20⟩, laterBook, 1, .unshuffled⟩

/-- A whole refresh. -/
def refreshLabels (refresh : Refresh) : List CacheLabel :=
  [.readTip refresh.minimumVersion, .classify refresh.now refresh.order, .publish refresh]

/-- A refresh, a confirmation, a change of the book, and another refresh. -/
def exampleLabels : List CacheLabel :=
  refreshLabels earlyRefresh ++ [.confirmActivation, .updateBook laterBook] ++
    refreshLabels exampleRefresh

/-- The example network's state after these steps. -/
def exampleServing : CacheState where
  book := laterBook
  tip := exampleCache.tip.confirmActivation
  phase := .idle
  published := some exampleRefresh

/-- A refresh can run whole between two other steps of its network. -/
theorem run_refreshLabels (network : Network) (s : CacheState) (hphase : s.phase = .idle) (now : DateTime)
    (order : RefreshOrder) :
    let refresh : Refresh := ⟨floorOf network s.tip, s.book, now, order⟩
    (cacheSystem network).Run s (refreshLabels refresh)
      { s with phase := .idle, published := some refresh } := by
  intro refresh
  have hread := Run.single (M := cacheSystem network) (CacheStep.readTip s hphase)
  have hclassified := hread.snoc (CacheStep.classify _ _ now order rfl)
  exact hclassified.snoc (CacheStep.publish _ refresh rfl)

/-- The steps lead there. -/
theorem exampleCache_run : (cacheSystem exampleNetwork).Run exampleCache exampleLabels
    exampleServing := by
  have hearly := run_refreshLabels exampleNetwork exampleCache rfl 0 .unshuffled
  have hraised := (hearly.snoc (CacheStep.confirmActivation _)).snoc
    (CacheStep.updateBook _ laterBook)
  have hlater := run_refreshLabels exampleNetwork
    { exampleServing with published := some earlyRefresh } rfl 1 .unshuffled
  exact hraised.append hlater

/-- The seeder with that network on both sides. -/
def exampleNetworks : ZcashNetwork → Network := fun _ => exampleNetwork

/-- The `mainnet` component of the run. -/
def exampleSeederLabels : List SeederLabel := exampleLabels.map (.component .mainnet)

/-- The seeder's state after the run. -/
def exampleSeederState : ZcashNetwork → CacheState :=
  Function.update (fun _ => exampleCache) .mainnet exampleServing

/-- `Main.zec`, type `A`. -/
def addressQuery : Query := { apexQuery with queryType := .a }

/-- The request for it, and its effects after the run. -/
def exampleExchange (zone : SeedZone) : Exchange where
  request := requestFor addressQuery
  effects := DnsRequestHandler.answerRequest reference ⟨[zone], none⟩
    (currentFeeds exampleNetworks exampleSeederState) (fun _ => true) (requestFor addressQuery) true

/-- The run starts in an initial state. -/
theorem example_init (handler : DnsRequestHandler) :
    (seederSystem reference exampleNetworks handler).Init fun _ => exampleCache :=
  fun _ => ⟨⟨false, rfl⟩, rfl, rfl⟩

/-- The network's steps are steps of the seeder. -/
theorem example_run (handler : DnsRequestHandler) :
    (seederSystem reference exampleNetworks handler).Run (fun _ => exampleCache) exampleSeederLabels
      exampleSeederState :=
  Run.interleave exampleCache_run

/-- At the end the request may be answered so. -/
theorem example_step (zone : SeedZone) :
    (seederSystem reference exampleNetworks ⟨[zone], none⟩).Step exampleSeederState
      (.observe (exampleExchange zone)) exampleSeederState :=
  InterleavedStep.observe _ _ ⟨fun _ => true, true, rfl⟩

/-- The example network's version table is monotone. -/
theorem exampleNetwork_mono :
    Monotone fun height => exampleNetwork.minRemoteForHeight (some height) := by
  intro a b hab
  change (if a < ⟨100⟩ then (⟨10⟩ : Version) else ⟨20⟩) ≤ if b < ⟨100⟩ then ⟨10⟩ else ⟨20⟩
  by_cases hb : b < ⟨100⟩
  · rw [if_pos (hab.trans_lt hb), if_pos hb]
  · rw [if_neg hb]
    split
    · decide
    · exact le_refl _

/-- No address is in the later book twice. -/
theorem laterBook_distinct : DistinctAddrs laterBook := by
  unfold DistinctAddrs
  decide

/-- Nor in the book before it. -/
theorem mixedBook_distinct : DistinctAddrs mixedBook :=
  (List.nodup_cons.mp (List.nodup_cons.mp laterBook_distinct).2).2

/-- Nor in any book that the run brings. -/
theorem exampleLabels_distinct (network : ZcashNetwork) (book : AddressBook)
    (h : .component network (.updateBook book) ∈ exampleSeederLabels) : DistinctAddrs book := by
  obtain ⟨label, hlabel, heq⟩ := List.mem_map.mp h
  cases heq
  obtain rfl : book = laterBook := by simpa [exampleLabels, refreshLabels] using hlabel
  exact laterBook_distinct

/-- Before the confirmation the peers below the required version are listed behind the others. -/
theorem earlyRefresh_family :
    (((spawnedUpdater exampleNetworks .mainnet).snapshot earlyRefresh).family true).map (·.ip)
      = [.v4 ⟨1, 2, 3, 4⟩, .v4 ⟨1, 2, 3, 8⟩, .v4 ⟨1, 2, 3, 2⟩, .v4 ⟨1, 2, 3, 6⟩] := by
  decide

/-- The response that the example exchange sends. -/
def exampleResponse (zone : SeedZone) : Response :=
  DnsRequestHandler.responseTo reference ⟨[zone], none⟩
    (currentFeeds exampleNetworks exampleSeederState) (requestFor addressQuery) addressQuery

/-- The example exchange sends its response. -/
theorem exampleResponse_sent (zone : SeedZone) :
    .sendResponse (exampleResponse zone) ∈ (exampleExchange zone).effects := by
  have hsent : .sendResponse (exampleResponse zone) ∈ DnsRequestHandler.answerRequest reference
      ⟨[zone], none⟩ (currentFeeds exampleNetworks exampleSeederState) (fun _ => true)
      (requestFor addressQuery) true :=
    (DnsRequestHandler.sendResponse_mem_answerRequest rfl).mpr ⟨.inl rfl, rfl⟩
  exact hsent

section Zone

variable {zone : SeedZone}

/-- The query is for the zone's domain. -/
theorem addressQuery_labels (hlabels : zone.domain.labels = mainZec) :
    addressQuery.name.labels = zone.domain.labels := by
  rw [hlabels]
  decide +kernel

/-- The zone matches it. -/
theorem exampleZone_matches (haccepted : AcceptedZones reference [zone])
    (hlabels : zone.domain.labels = mainZec) :
    DnsRequestHandler.matchingZone reference ⟨[zone], none⟩ addressQuery.name = some zone := by
  have hcontains : zone.contains reference addressQuery.name = true :=
    contains_of_labels_eq reference_zoneOfIsSuffix (addressQuery_labels hlabels)
  exact (AcceptedZones.matchingZone_eq_some_iff haccepted reference_zoneOfIsSuffix).mpr
    ⟨List.mem_singleton_self _, hcontains⟩

/-- The one zone of the example configuration is mainnet's. -/
theorem exampleZone_network (hstart : startZones reference exampleConfig = .ok [zone]) :
    zone.network = .mainnet := by
  obtain ⟨conf, hconf, -⟩ := mem_zones_of_startZones hstart (List.mem_singleton_self zone)
  cases hnetwork : zone.network with
  | mainnet => rfl
  | testnet =>
      -- testnet has no zone in the example configuration
      rw [hnetwork] at hconf
      cases hconf

/-- The example response lists the servable peers at or above the required version. -/
theorem exampleResponse_ips (hstart : startZones reference exampleConfig = .ok [zone])
    (haccepted : AcceptedZones reference [zone]) (hlabels : zone.domain.labels = mainZec) :
    (exampleResponse zone).answers.filterMap (·.data.ip)
      = [.v4 ⟨1, 2, 3, 9⟩, .v4 ⟨1, 2, 3, 4⟩, .v4 ⟨1, 2, 3, 8⟩] := by
  have hmatch := exampleZone_matches haccepted hlabels
  obtain ⟨hbuilt, hfeed⟩ := @built_of_matchingZone _ exampleConfig _ _ _ hstart hmatch
  have hcontains := (DnsRequestHandler.matchingZone_eq_some hmatch).2
  have hcount := (numLabels_eq_iff reference_zoneOfIsSuffix reference_numLabelsSkipsWildcard
    hcontains).mpr (.inl (addressQuery_labels hlabels))
  have hsections := (responseTo_of_matchingZone_eq_some
    (currentFeeds exampleNetworks exampleSeederState) (requestFor addressQuery) hmatch).2
  rw [zoneSections_of_numLabels_eq hcount] at hsections
  have hanswers : (exampleResponse zone).answers = _ := congrArg Prod.fst hsections
  rw [hanswers, filterMap_ip_apexAnswer hbuilt, hfeed, exampleZone_network hstart]
  decide

end Zone

end Examples

end Zeeder.Serving
