import Zeeder.Serving.System

/-! # No peer below a raised floor

The refresh loop reads the tip before it locks the book and publishes later, so a confirmation can
fall between any two of its steps. A snapshot may therefore be older than the floor; it never lists a
peer below the floor that its own refresh read.

* **`snapshotsKeepFloor`** — what every run keeps of one network's snapshots.
* **`served_above_raised_floor`** — once a refresh that read the tip after a confirmation has
  published, no answer lists a peer below the required version. -/

namespace Zeeder.Serving

open Crawl Dns Config Reference Foundation Foundation.StepSystem

/-- What every run keeps of one network's snapshots. -/
structure SnapshotsKeepFloor (networks : ZcashNetwork → Network) (network : ZcashNetwork)
    (ls : List SeederLabel) : Prop where
  /-- A published snapshot lists entries that negotiated at least its refresh's floor. -/
  members : ∀ refresh ∈ refreshesPublished (labelsAt network ls), ∀ ipv4,
    ∀ addr ∈ ((spawnedUpdater networks network).snapshot refresh).family ipv4,
      ∃ peer ∈ refresh.book.peers, peer.addr = addr ∧
        ∃ version, peer.negotiatedVersion = some version ∧ refresh.minimumVersion ≤ version
  /-- The `k`-th snapshot published uses the `k`-th floor read. -/
  ownFloor : (refreshesPublished (labelsAt network ls)).map (·.minimumVersion)
    <+: versionsRead (labelsAt network ls)
  /-- The floors read never decrease. -/
  nondecreasing : (versionsRead (labelsAt network ls)).Pairwise (· ≤ ·)

/-- A refresh of the network that read the tip after a confirmation has published. -/
def RaisedFloorPublished (network : ZcashNetwork) (ls : List SeederLabel) : Prop :=
  ∃ ls₁ ls₂ ls₃ ls₄ minimumVersion refresh, ls = ls₁ ++ .component network .confirmActivation ::
    (ls₂ ++ .component network (.readTip minimumVersion) ::
      (ls₃ ++ .component network (.publish refresh) :: ls₄))

/-- **The response serves from the required version on**: it is made from the snapshot of a refresh
without fallback tiers, and its addresses are of entries that negotiated at least that version. -/
def ServedAboveFloor (networks : ZcashNetwork → Network) (network : ZcashNetwork)
    (ls : List SeederLabel) (response : Response) : Prop :=
  let target := (ActivationTarget.latest (networks network)).requiredVersion
  ∃ refresh, (refreshesPublished (labelsAt network ls)).getLast? = some refresh ∧
    (let tiers := classifyPeers refresh.book refresh.now (networks network) refresh.minimumVersion
      target
    tiers.fallbackIpv4 = [] ∧ tiers.fallbackIpv6 = []) ∧
    ∀ record ∈ response.answers, ∀ ip, record.data.ip = some ip →
      ∃ peer ∈ refresh.book.peers, peer.addr.ip = ip ∧
        ∃ version, peer.negotiatedVersion = some version ∧ target ≤ version

section Floor

variable {hickory : HickoryProto} {networks : ZcashNetwork → Network} {handler : DnsRequestHandler}
  {s₀ s : ZcashNetwork → CacheState} {ls : List SeederLabel} {network : ZcashNetwork}

theorem snapshotsKeepFloor
    (hmono : Monotone fun height => (networks network).minRemoteForHeight (some height))
    (hinit : (seederSystem hickory networks handler).Init s₀)
    (hrun : (seederSystem hickory networks handler).Run s₀ ls s) :
    SnapshotsKeepFloor networks network ls where
  members := by
    intro refresh _ ipv4 addr haddr
    obtain ⟨peer, hpeer, rfl, -, hok⟩ := mem_servablePeers haddr
    exact ⟨peer, hpeer, rfl, classifyPeer_ok_version hok⟩
  ownFloor := published_versions_prefix (hinit network) (hrun.component network)
  nondecreasing := (versionsRead_pairwise hmono (hrun.component network)).1

/-- After such a publication the channel holds a snapshot whose floor is at or above the required
version. -/
theorem servesAbove_of_raisedFloorPublished
    (hmono : Monotone fun height => (networks network).minRemoteForHeight (some height))
    (hinit : (seederSystem hickory networks handler).Init s₀)
    (hrun : (seederSystem hickory networks handler).Run s₀ ls s)
    (hraised : RaisedFloorPublished network ls) : ServesAbove (networks network) (s network) := by
  obtain ⟨ls₁, ls₂, ls₃, ls₄, minimumVersion, refresh, rfl⟩ := hraised
  have hcomponent := hrun.component network
  rw [labelsAt_append, labelsAt_component_cons, labelsAt_append, labelsAt_component_cons,
    labelsAt_append, labelsAt_component_cons] at hcomponent
  exact servesAbove_of_run hmono (hinit network) hcomponent

end Floor

/-- **No peer below the floor is served once the floor has risen.** For every interleaving of book
updates, confirmations, refresh steps and queries, with a monotone version table: snapshots keep
their refresh's floor, floors never decrease, and after a refresh that read the tip after a
confirmation has published, every answer of that network's zone is served from the required version
on. -/
theorem served_above_raised_floor (hickory : HickoryProto) (networks : ZcashNetwork → Network)
    (config : SeederConfig) (handler : DnsRequestHandler)
    (hstart : startZones hickory config = .ok handler.zones)
    (hmono : ∀ network, Monotone fun height => (networks network).minRemoteForHeight (some height))
    (s₀ s : ZcashNetwork → CacheState) (ls : List SeederLabel)
    (hinit : (seederSystem hickory networks handler).Init s₀)
    (hrun : (seederSystem hickory networks handler).Run s₀ ls s) :
    (∀ network, SnapshotsKeepFloor networks network ls) ∧
      ∀ network, RaisedFloorPublished network ls → ∀ exchange t response query zone,
        (seederSystem hickory networks handler).Step s (.observe exchange) t →
        .sendResponse response ∈ exchange.effects →
        exchange.request.queries.head? = some query →
        handler.matchingZone hickory query.name = some zone → zone.network = network →
        ServedAboveFloor networks network ls response := by
  refine ⟨fun network => snapshotsKeepFloor (hmono network) hinit hrun, ?_⟩
  rintro network hraised exchange t response query zone hstep hsent hquery hmatch rfl
  obtain rfl := response_of_step hstep hquery hsent
  obtain ⟨-, refresh, hpublished, habove⟩ :=
    servesAbove_of_raisedFloorPublished (hmono zone.network) hinit hrun hraised
  have hfallback : ∀ ipv4, (tierPeers refresh.book refresh.now (networks zone.network)
      refresh.minimumVersion (ActivationTarget.latest (networks zone.network)).requiredVersion ipv4
      false refresh.book.peers).map (·.addr) = [] := by
    intro ipv4
    rw [tierPeers_fallback_eq_nil habove, List.map_nil]
  refine ⟨refresh, published_of_run hinit hrun zone.network ▸ hpublished, ?_, ?_⟩
  · rw [classifyPeers_eq]
    exact ⟨hfallback true, hfallback false⟩
  · intro record hrecord ip hip
    obtain ⟨current, ipv4, hcurrent, -, peer, hpeer, hpeerIp, -, -, hok, -⟩ :=
      accepted_of_record hstart hmatch hip hrecord
    -- the snapshot read is the one that the invariant is about
    rw [hpublished] at hcurrent
    cases hcurrent
    obtain ⟨version, hversion, hle⟩ := classifyPeer_ok_version hok
    exact ⟨peer, hpeer, hpeerIp, version, hversion, habove.trans hle⟩

/-- The example run's response is served from the required version on: of the book's peers it lists the
three that are servable at or above it, though one peer below it was listed before the confirmation. -/
theorem served_above_raised_floor_example : ∃ zone, startZones reference exampleConfig = .ok [zone] ∧
    SnapshotsKeepFloor exampleNetworks .mainnet exampleSeederLabels ∧
    ServedAboveFloor exampleNetworks .mainnet exampleSeederLabels (exampleResponse zone) ∧
    (peerAtVersion 2 (some ⟨10⟩)).addr
      ∈ ((spawnedUpdater exampleNetworks .mainnet).snapshot earlyRefresh).family true ∧
    (exampleResponse zone).answers.filterMap (·.data.ip)
      = [.v4 ⟨1, 2, 3, 9⟩, .v4 ⟨1, 2, 3, 4⟩, .v4 ⟨1, 2, 3, 8⟩] := by
  obtain ⟨zone, hstart, haccepted, hlabels⟩ := exampleConfig_started
  have h := served_above_raised_floor reference exampleNetworks exampleConfig ⟨[zone], none⟩ hstart
    (fun _ => exampleNetwork_mono) (fun _ => exampleCache) exampleSeederState exampleSeederLabels
    (example_init _) (example_run _)
  have hraised : RaisedFloorPublished .mainnet exampleSeederLabels :=
    ⟨(refreshLabels earlyRefresh).map (.component .mainnet),
      [.component .mainnet (.updateBook laterBook)],
      [.component .mainnet (.classify 1 .unshuffled)], [], ⟨20⟩, exampleRefresh, rfl⟩
  refine ⟨zone, hstart, h.1 .mainnet, ?_, by decide, exampleResponse_ips hstart haccepted hlabels⟩
  exact h.2 .mainnet hraised (exampleExchange zone) exampleSeederState (exampleResponse zone)
    addressQuery zone (example_step zone) (exampleResponse_sent zone) rfl
    (exampleZone_matches haccepted hlabels) (exampleZone_network hstart)

end Zeeder.Serving
