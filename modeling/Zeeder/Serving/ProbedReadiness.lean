import Zeeder.Health.Probe
import Zeeder.Serving.RestartedFloor

/-! # Readiness and answers

The health endpoint and the DNS handler read the same channels. A probe of `/ready` looks at each
zone's channel once, one after another, while the refresh loops go on; so each zone is reported as of a
moment of its own.

* **`readiness_reports_answers`** — what a probe reads of a zone is how many addresses the DNS handler
  would have answered with at that moment, both families together. -/

namespace Zeeder.Serving

open Crawl Dns Config Foundation Health

section Probe

variable (hickory : HickoryProto) (compiled : ZcashNetwork → Network) (handler : DnsRequestHandler)

/-- What the channels hold when each network's is looked at in a moment of its own. -/
def feedsAt (moment : ZcashNetwork → SeederState) (receiver : Receiver) : ServablePeers :=
  publishedPeers compiled receiver.updater ((moment receiver.updater).networks receiver.updater)

/-- The response to a request for a zone's domain, in any spelling, by the process in some state. -/
def RespondsAtApex (s : SeederState) (zone : SeedZone) (queryType : RecordType)
    (response : Response) : Prop :=
  ∃ verdict request sendSucceeds query, request.queries.head? = some query ∧
    query.name.labels = zone.domain.labels ∧ query.queryType = queryType ∧
    .sendResponse response ∈ s.effects hickory compiled handler (.query verdict request sendSucceeds)

/-- The addresses of a response. -/
def answeredAddresses (response : Response) : List IpAddr := response.answers.filterMap (·.data.ip)

/-- **What a probe is told of a zone.** -/
structure ReportsZone (moment : ZcashNetwork → SeederState) (readyThreshold : ℕ) (zone : SeedZone)
    (report : ZoneReport) : Prop where
  /-- Its network. -/
  network : report.network = zone.network
  /-- The addresses that both address queries were answered with at its moment. -/
  served : ∀ a aaaa, RespondsAtApex hickory compiled handler (moment zone.network) zone .a a →
    RespondsAtApex hickory compiled handler (moment zone.network) zone .aaaa aaaa →
      report.servable = (answeredAddresses a).length + (answeredAddresses aaaa).length
  /-- The verdict compares them with the threshold. -/
  ready : report.ready = decide (readyThreshold ≤ report.servable)

end Probe

section Answers

variable {hickory : HickoryProto} {compiled : ZcashNetwork → Network} {config : SeederConfig}
  {handler : DnsRequestHandler} {s : SeederState} {zone : SeedZone} {queryType : RecordType}
  {response : Response}

/-- **The response at the apex** holds the addresses that are asked for. -/
theorem RespondsAtApex.addresses_eq (hzone : hickory.ZoneOfIsSuffix)
    (hcount : hickory.NumLabelsSkipsWildcard) (hvalid : config.validate hickory = .ok ())
    (hstart : startZones hickory config = .ok handler.zones) (hmem : zone ∈ handler.zones)
    (h : RespondsAtApex hickory compiled handler s zone queryType response) :
    answeredAddresses response
      = (requestedPeers (publishedPeers compiled zone.network (s.networks zone.network))
          queryType).map (·.ip) := by
  obtain ⟨verdict, request, sendSucceeds, query, hquery, hlabels, rfl, hsent⟩ := h
  have hcontains := contains_of_labels_eq hzone hlabels
  have hmatch : handler.matchingZone hickory query.name = some zone :=
    (AcceptedZones.matchingZone_eq_some_iff (acceptedZones_of_startZones hvalid hstart) hzone).mpr
      ⟨hmem, hcontains⟩
  have hapex := (numLabels_eq_iff hzone hcount hcontains).mpr (.inl hlabels)
  obtain ⟨hbuilt, hreceiver⟩ := built_of_matchingZone hstart hmatch
  obtain rfl := ((DnsRequestHandler.sendResponse_mem_answerRequest hquery).mp hsent).2
  have hsections := (responseTo_of_matchingZone_eq_some (fun receiver =>
    publishedPeers compiled receiver.updater (s.networks receiver.updater)) request hmatch).2
  rw [zoneSections_of_numLabels_eq hapex] at hsections
  have hanswers := congrArg Prod.fst hsections
  dsimp only at hanswers
  rw [answeredAddresses, hanswers, filterMap_ip_apexAnswer hbuilt, hreceiver]

/-- The total of a channel counts what both address queries ask for. -/
theorem total_eq_requestedPeers (peers : ServablePeers) :
    peers.total = (requestedPeers peers .a).length + (requestedPeers peers .aaaa).length := rfl

end Answers

/-- **A probe of `/ready` reads what DNS serves.** For the zones that start-up built from an accepted
configuration, whatever the moments at which the probe looks at the networks, whatever the threshold
and for every request whose first read holds its path: the response reads back as a report with one
entry for every zone, in order, whose number is that of the addresses that the process would have
answered with for that zone at that zone's moment; the status is 200 exactly when all zones are
ready, and 503 otherwise. -/
theorem readiness_reports_answers (hickory : HickoryProto) (hzone : hickory.ZoneOfIsSuffix)
    (hcount : hickory.NumLabelsSkipsWildcard) (compiled : ZcashNetwork → Network)
    (config : SeederConfig) (handler : DnsRequestHandler) (hvalid : config.validate hickory = .ok ())
    (hstart : startZones hickory config = .ok handler.zones) (moment : ZcashNetwork → SeederState)
    (readyThreshold : ℕ) (request : HttpRequest)
    (hroute : request.path = "/ready".toList ∨ request.path = "/".toList) {size : ℕ}
    (hread : request.path.length ≤ request.targetReceived size) :
    ∃ report, readinessReport? (connectionResponse (feedsAt compiled moment)
        (handler.zones.map SeedZone.readiness) readyThreshold (request.bytes.take size)).toList
          = some report ∧
      List.Forall₂ (ReportsZone hickory compiled handler moment readyThreshold) handler.zones
        report.zones ∧
      report.status = if ∀ zone ∈ report.zones, zone.ready = true then 200 else 503 := by
  have hresponse : connectionResponse (feedsAt compiled moment)
      (handler.zones.map SeedZone.readiness) readyThreshold (request.bytes.take size)
        = readinessResponse (feedsAt compiled moment) readyThreshold
            (handler.zones.map SeedZone.readiness) := by
    rw [connectionResponse_take, List.take_of_length_le hread, pathResponse, if_neg, if_pos hroute]
    rcases hroute with hpath | hpath <;> rw [hpath] <;> decide
  refine ⟨_, (congrArg (fun text : String => readinessReport? text.toList) hresponse).trans
    (readinessReport_readinessResponse _), ?_, ?_⟩
  · rw [List.map_map, List.forall₂_map_right_iff, List.forall₂_same]
    intro zone hmem
    obtain ⟨conf, -, hspawn⟩ := mem_zones_of_startZones hstart hmem
    have hreceiver : zone.servablePeers = ⟨zone.network⟩ := (spawnNetworkCrawler_ok hspawn).2
    refine ⟨rfl, fun a aaaa ha haaaa => ?_, rfl⟩
    rw [ha.addresses_eq hzone hcount hvalid hstart hmem,
      haaaa.addresses_eq hzone hcount hvalid hstart hmem, List.length_map, List.length_map,
      ← total_eq_requestedPeers]
    show (feedsAt compiled moment zone.servablePeers).total = _
    rw [hreceiver]
    rfl
  · simp only [List.forall_mem_map, zoneReport, decide_eq_true_eq]

/-! ## A probe of both networks -/

section Example

open Reference

/-- `GET /ready HTTP/1.1`, without headers. -/
def readyRequest : HttpRequest :=
  { healthRequest with
    target := "/ready".toUTF8.data.toList
    target_ne := by decide
    target_visible := by decide +kernel }

/-- Mainnet is looked at after its refresh, testnet before the start. -/
theorem readiness_reports_answers_example : ∃ t report,
    stateAfter coldStart startAgain = some t ∧
    readinessReport? (connectionResponse
      (feedsAt (buildActivatingAt ⟨100⟩) fun | .mainnet => t | .testnet => coldStart)
      (crossZones.map SeedZone.readiness) 1 readyRequest.bytes).toList = some report ∧
    List.Forall₂ (ReportsZone reference (buildActivatingAt ⟨100⟩) ⟨crossZones, none⟩
      (fun | .mainnet => t | .testnet => coldStart) 1) crossZones report.zones := by
  have hafter : (stateAfter coldStart startAgain).isSome = true := by decide +kernel
  obtain ⟨t, ht⟩ := Option.isSome_iff_exists.mp hafter
  obtain ⟨report, hreport, hzones, -⟩ := readiness_reports_answers reference
    reference_zoneOfIsSuffix reference_numLabelsSkipsWildcard (buildActivatingAt ⟨100⟩) crossConfig
    ⟨crossZones, none⟩ (by decide +kernel) crossZones_started
    (fun | .mainnet => t | .testnet => coldStart) 1 readyRequest (.inl (by decide +kernel))
    readyRequest.length_path_le
  rw [List.take_length] at hreport
  exact ⟨t, report, ht, hreport, hzones⟩

end Example

end Zeeder.Serving
