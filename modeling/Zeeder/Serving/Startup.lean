import Zeeder.Config.SeederConfig
import Zeeder.Dns.Reference
import Zeeder.Dns.SeedZone

/-! # Start-up of the configured zones

After validation the seeder starts every configured network and builds its zone from the same texts
that validation has checked. The two agree but for one name: the SOA's mailbox
`hostmaster.<domain>`, which only construction looks at.

* **`validation_agrees_iff`** — validation and construction agree on a zone exactly when an otherwise
  acceptable domain leaves room for the mailbox label, and an accepted configuration starts exactly
  when all its domains do. -/

namespace Zeeder.Serving

open Crawl Dns Config

section Startup

variable (hickory : HickoryProto)

/-- The zone that starting one network's crawler builds, fed by that network's cache updater. -/
def spawnNetworkCrawler (network : ZcashNetwork) (zone : ZoneConfig) : Result SeedZone :=
  SeedZone.new hickory network zone.domain zone.nameserver zone.additionalNameservers zone.ttl
    ⟨network⟩

/-- The seed zones of a configuration, in the order of its networks. -/
def startZones (config : SeederConfig) : Result (List SeedZone) :=
  config.entries.mapM fun (network, zone) => spawnNetworkCrawler hickory network zone

/-- **Validation and construction agree** on a zone: both succeed or both fail, and then they hold
the same domain. -/
structure ValidationAgrees (network : ZcashNetwork) (zone : ZoneConfig) (feed : Receiver) : Prop where
  /-- Both succeed or both fail. -/
  succeeds_iff : (∃ domain, zone.validatedDomain hickory network = .ok domain) ↔
    ∃ seedZone, SeedZone.new hickory network zone.domain zone.nameserver zone.additionalNameservers
      zone.ttl feed = .ok seedZone
  /-- The domains are the same. -/
  domain_eq : ∀ domain seedZone, zone.validatedDomain hickory network = .ok domain →
    SeedZone.new hickory network zone.domain zone.nameserver zone.additionalNameservers zone.ttl feed
      = .ok seedZone → seedZone.domain = domain

/-- The zone's domain leaves room for the mailbox label, if its nameservers are admitted at all. -/
def LeavesRoomForMailbox (zone : ZoneConfig) : Prop :=
  ∀ parsed names, hickory.fromAscii zone.domain = .ok parsed →
    hickory.AdmittedNameservers (.ofName (parsed.setFqdn true)) ∅
      (zone.nameserver :: zone.additionalNameservers) names →
    wireLength parsed.labels ≤ maxDomainWireLength

end Startup

section Agreement

variable {hickory : HickoryProto}

/-- Where construction succeeds, validation does, with the same domain. -/
theorem validatedDomain_of_seedZoneNew {network : ZcashNetwork} {zone : ZoneConfig}
    {feed : Receiver} {seedZone : SeedZone}
    (h : SeedZone.new hickory network zone.domain zone.nameserver zone.additionalNameservers zone.ttl
      feed = .ok seedZone) : zone.validatedDomain hickory network = .ok seedZone.domain := by
  obtain ⟨parsed, names, records, hparsed, hadmitted, -, rfl⟩ := seedZoneNew_ok_iff_records.mp h
  exact validatedDomain_ok_iff.mpr ⟨parsed, hparsed, ⟨names, hadmitted⟩, rfl⟩

/-- Where validation succeeds, construction does exactly when there is room for the mailbox. -/
theorem seedZoneNew_iff_of_validatedDomain (hzone : hickory.ZoneOfIsSuffix)
    (hascii : hickory.AsciiRoundTrip) {network : ZcashNetwork} {zone : ZoneConfig}
    {feed : Receiver} {domain : LowerName} (h : zone.validatedDomain hickory network = .ok domain) :
    (∃ seedZone, SeedZone.new hickory network zone.domain zone.nameserver zone.additionalNameservers
      zone.ttl feed = .ok seedZone) ↔ LeavesRoomForMailbox hickory zone := by
  obtain ⟨parsed, hparsed, hnames, rfl⟩ := validatedDomain_ok_iff.mp h
  constructor
  · rintro ⟨seedZone, hnew⟩ parsed' names' hparsed' -
    obtain ⟨other, hother, -, hfits, -⟩ :=
      (seedZoneNew_ok_iff hzone hascii).mp ⟨seedZone, hnew, rfl⟩
    rw [hother] at hparsed'
    cases hparsed'
    exact hfits
  · intro hroom
    obtain ⟨names, hadmitted⟩ := hnames
    obtain ⟨seedZone, hnew, -⟩ := (seedZoneNew_ok_iff hzone hascii).mpr
      ⟨parsed, hparsed, ⟨names, hadmitted⟩, hroom parsed names hparsed hadmitted, rfl⟩
    exact ⟨seedZone, hnew⟩

theorem validationAgrees_iff (hzone : hickory.ZoneOfIsSuffix) (hascii : hickory.AsciiRoundTrip)
    (network : ZcashNetwork) (zone : ZoneConfig) (feed : Receiver) :
    ValidationAgrees hickory network zone feed ↔ LeavesRoomForMailbox hickory zone := by
  constructor
  · intro h parsed names hparsed hadmitted
    -- the zone is accepted, so construction succeeds and shows that the mailbox fits
    have hvalid : zone.validatedDomain hickory network = .ok (.ofName (parsed.setFqdn true)) :=
      validatedDomain_ok_iff.mpr ⟨parsed, hparsed, ⟨names, hadmitted⟩, rfl⟩
    have hnew := h.succeeds_iff.mp ⟨_, hvalid⟩
    exact (seedZoneNew_iff_of_validatedDomain hzone hascii hvalid).mp hnew parsed names hparsed
      hadmitted
  · intro hroom
    refine ⟨⟨?_, ?_⟩, ?_⟩
    · rintro ⟨domain, hvalid⟩
      exact (seedZoneNew_iff_of_validatedDomain hzone hascii hvalid).mpr hroom
    · rintro ⟨seedZone, hnew⟩
      exact ⟨_, validatedDomain_of_seedZoneNew hnew⟩
    · intro domain seedZone hvalid hnew
      rw [validatedDomain_of_seedZoneNew hnew] at hvalid
      exact Except.ok.inj hvalid

/-- An accepted configuration starts exactly when all its domains leave room for the mailbox. -/
theorem exists_startZones_iff (hzone : hickory.ZoneOfIsSuffix) (hascii : hickory.AsciiRoundTrip)
    {config : SeederConfig} (hvalid : config.validate hickory = .ok ()) :
    (∃ zones, startZones hickory config = .ok zones) ↔
      ∀ entry ∈ config.entries, LeavesRoomForMailbox hickory entry.2 := by
  obtain ⟨-, ⟨zoneDomains, hdomains, -⟩, -⟩ := validate_ok_iff.mp hvalid
  have haccepted : ∀ entry ∈ config.entries, ∃ domain,
      ZoneConfig.validatedDomain hickory entry.2 entry.1 = .ok domain := by
    intro entry hentry
    obtain ⟨i, hi, rfl⟩ := List.mem_iff_getElem.mp hentry
    have hi' : i < zoneDomains.length := hdomains.length_eq ▸ hi
    exact ⟨_, (hdomains.get hi hi').2⟩
  unfold startZones
  rw [Result.exists_mapM_ok_iff]
  refine forall₂_congr fun entry hentry => ?_
  obtain ⟨domain, hdomain⟩ := haccepted entry hentry
  exact seedZoneNew_iff_of_validatedDomain hzone hascii hdomain

/-- **Validation and construction agree exactly where the mailbox name fits.** On one zone they
agree when an otherwise acceptable domain is at most 244 octets long on the wire; an accepted
configuration starts all its zones when all its domains are. -/
theorem validation_agrees_iff (hickory : HickoryProto) (hzone : hickory.ZoneOfIsSuffix)
    (hascii : hickory.AsciiRoundTrip) :
    (∀ network zone feed,
      ValidationAgrees hickory network zone feed ↔ LeavesRoomForMailbox hickory zone) ∧
    ∀ config : SeederConfig, config.validate hickory = .ok () →
      ((∃ zones, startZones hickory config = .ok zones) ↔
        ∀ entry ∈ config.entries, LeavesRoomForMailbox hickory entry.2) :=
  ⟨validationAgrees_iff hzone hascii, fun _ hvalid => exists_startZones_iff hzone hascii hvalid⟩

end Agreement

/-! ## The zones of a started configuration -/

section Started

variable {hickory : HickoryProto} {config : SeederConfig} {zones : List SeedZone}

theorem startZones_ok_iff :
    startZones hickory config = .ok zones ↔
      List.Forall₂ (fun entry zone => spawnNetworkCrawler hickory entry.1 entry.2 = .ok zone)
        config.entries zones :=
  Result.mapM_ok_iff

/-- What a started zone has from its network: its configuration, and its own feed. -/
theorem spawnNetworkCrawler_ok {network : ZcashNetwork} {conf : ZoneConfig} {zone : SeedZone}
    (h : spawnNetworkCrawler hickory network conf = .ok zone) :
    zone.network = network ∧ zone.servablePeers = ⟨network⟩ := by
  obtain ⟨parsed, names, records, -, -, -, rfl⟩ := seedZoneNew_ok_iff_records.mp h
  exact ⟨rfl, rfl⟩

theorem mem_zones_of_startZones (hstart : startZones hickory config = .ok zones) {zone : SeedZone}
    (hzone : zone ∈ zones) : ∃ conf, config.zones zone.network = some conf ∧
      spawnNetworkCrawler hickory zone.network conf = .ok zone := by
  have hall := startZones_ok_iff.mp hstart
  obtain ⟨i, hi, rfl⟩ := List.mem_iff_getElem.mp hzone
  have hi' : i < config.entries.length := hall.length_eq ▸ hi
  have hspawn := hall.get hi' hi
  have hnetwork := (spawnNetworkCrawler_ok hspawn).1
  refine ⟨_, SeederConfig.mem_entries.mp ?_, hnetwork.symm ▸ hspawn⟩
  have hentry := List.getElem_mem hi'
  rwa [show config.entries[i] = (zones[i].network, config.entries[i].2) from
    Prod.ext hnetwork.symm rfl] at hentry

/-- **Accepted zones**: constructed one by one, and with disjoint domains. -/
structure AcceptedZones (hickory : HickoryProto) (zones : List SeedZone) : Prop where
  /-- Every zone was constructed. -/
  built : ∀ zone ∈ zones, zone.Built hickory
  /-- Their domains passed the disjointness check. -/
  disjoint : ensureZonesAreDisjoint hickory (zones.map fun zone => (zone.network, zone.domain))
    = .ok ()

/-- **The zones of an accepted configuration are accepted zones.** -/
theorem acceptedZones_of_startZones (hvalid : config.validate hickory = .ok ())
    (hstart : startZones hickory config = .ok zones) : AcceptedZones hickory zones where
  built := by
    intro zone hzone
    obtain ⟨conf, -, hspawn⟩ := mem_zones_of_startZones hstart hzone
    exact ⟨_, _, _, _, _, _, hspawn⟩
  disjoint := by
    obtain ⟨-, ⟨zoneDomains, hdomains, hdisjoint⟩, -⟩ := validate_ok_iff.mp hvalid
    have hspawned := startZones_ok_iff.mp hstart
    -- construction keeps the validated domains, entry by entry
    have hsame : zones.map (fun zone => (zone.network, zone.domain)) = zoneDomains := by
      refine List.ext_getElem ?_ fun i hi hi' => ?_
      · rw [List.length_map, ← hspawned.length_eq, hdomains.length_eq]
      · rw [List.length_map] at hi
        have hentry : i < config.entries.length := hspawned.length_eq ▸ hi
        have hspawn := hspawned.get hentry hi
        obtain ⟨hnetwork, hdomain⟩ := hdomains.get hentry hi'
        rw [validatedDomain_of_seedZoneNew hspawn] at hdomain
        rw [List.getElem_map]
        exact Prod.ext ((spawnNetworkCrawler_ok hspawn).1.trans hnetwork.symm)
          (Except.ok.inj hdomain)
    rwa [hsame]

end Started

/-! ## A domain that fits and one that does not -/

section Examples

open Reference

/-- A zone with a short domain. -/
def exampleZone : ZoneConfig where
  domain := "main.zec"
  nameserver := "ns.zec"
  additionalNameservers := []
  ttl := 600

/-- A configuration with that zone only. -/
def exampleConfig : SeederConfig where
  zones
    | .mainnet => some exampleZone
    | .testnet => none
  rateLimit := some .default

/-- Labels that take 249 octets on the wire. -/
def longLabels : List Label :=
  [List.replicate 63 97, List.replicate 63 98, List.replicate 63 99, List.replicate 55 100]

/-- A zone with a domain of these labels. -/
def longZone : ZoneConfig where
  domain := asciiText longLabels false
  nameserver := "ns.zec"
  additionalNameservers := []
  ttl := 600

/-- A configuration with that zone only. -/
def longConfig : SeederConfig where
  zones
    | .mainnet => some longZone
    | .testnet => none
  rateLimit := some .default

/-- The example zone agrees, and its configuration starts. -/
theorem validation_agrees_exampleConfig :
    ValidationAgrees reference .mainnet exampleZone ⟨.mainnet⟩ ∧
      ∃ zones, startZones reference exampleConfig = .ok zones := by
  have hroom : LeavesRoomForMailbox reference exampleZone := by
    intro parsed names hparsed _
    have hlength : ((reference.fromAscii exampleZone.domain).map
        fun name => decide (wireLength name.labels ≤ maxDomainWireLength)) = .ok true := by
      decide +kernel
    rw [hparsed] at hlength
    exact of_decide_eq_true (Except.ok.inj hlength)
  have h := validation_agrees_iff reference reference_zoneOfIsSuffix reference_asciiRoundTrip
  refine ⟨(h.1 .mainnet exampleZone ⟨.mainnet⟩).mpr hroom,
    (h.2 exampleConfig (by decide +kernel)).mpr ?_⟩
  intro entry hentry
  rw [show exampleConfig.entries = [(.mainnet, exampleZone)] from rfl, List.mem_singleton] at hentry
  rw [hentry]
  exact hroom

/-- The name that the long zone's domain parses to. -/
def longName : Name := ⟨longLabels, false, by decide +kernel, by decide +kernel⟩

theorem fromAscii_longZone : reference.fromAscii longZone.domain = .ok longName := by
  have hlabels : ∀ label ∈ longLabels, IsLabel label := by
    simp only [longLabels, List.forall_mem_cons]
    exact ⟨⟨List.replicate 63 'a', by decide +kernel⟩, ⟨List.replicate 63 'b', by decide +kernel⟩,
      ⟨List.replicate 63 'c', by decide +kernel⟩, ⟨List.replicate 55 'd', by decide +kernel⟩,
      fun _ h => absurd h List.not_mem_nil⟩
  have hne : longLabels ≠ [] := by
    unfold longLabels
    exact List.cons_ne_nil _ _
  have hdomain : longZone.domain = asciiText longLabels false := rfl
  have hparse : reference.fromAscii = fromAscii := rfl
  rw [hdomain, hparse, fromAscii_asciiText hne hlabels]
  exact ofLabels_of_fits false longName.labels_valid longName.wireLength_le

/-- The long zone's nameserver is admitted. -/
theorem admitted_longZone : ∃ names, reference.AdmittedNameservers
    (.ofName (longName.setFqdn true)) ∅ (longZone.nameserver :: longZone.additionalNameservers)
    names := by
  have hparse : reference.fromAscii "ns.zec"
      = .ok ⟨["ns".toList.map charByte, "zec".toList.map charByte], false, by decide +kernel,
        by decide +kernel⟩ := by
    decide +kernel
  exact ⟨_, HickoryProto.admittedNameservers_cons_iff.mpr ⟨⟨_, hparse, rfl⟩, by decide +kernel,
    Finset.notMem_empty _, HickoryProto.admittedNameservers_nil⟩⟩

/-- **A domain of 249 octets passes validation and fails to start.** -/
theorem longConfig_accepted_and_not_started :
    longConfig.validate reference = .ok () ∧
      (¬ ∃ zones, startZones reference longConfig = .ok zones) ∧
      ¬ ValidationAgrees reference .mainnet longZone ⟨.mainnet⟩ := by
  have hentries : longConfig.entries = [(.mainnet, longZone)] := rfl
  have hdomain : longZone.validatedDomain reference .mainnet
      = .ok (.ofName (longName.setFqdn true)) :=
    validatedDomain_ok_iff.mpr ⟨longName, fromAscii_longZone, admitted_longZone, rfl⟩
  have hvalid : longConfig.validate reference = .ok () := by
    refine validate_ok_iff.mpr ⟨by rw [hentries]; simp,
      ⟨[(.mainnet, .ofName (longName.setFqdn true))], ?_, rfl⟩, ?_⟩
    · rw [hentries]
      exact .cons ⟨rfl, hdomain⟩ .nil
    · rintro rateLimit h
      cases h
      decide
  have hroom : ¬ LeavesRoomForMailbox reference longZone := by
    intro h
    obtain ⟨names, hnames⟩ := admitted_longZone
    exact absurd (h longName names fromAscii_longZone hnames) (by decide +kernel)
  refine ⟨hvalid, ?_, ?_⟩
  · rw [exists_startZones_iff reference_zoneOfIsSuffix reference_asciiRoundTrip hvalid]
    exact fun h => hroom (h (.mainnet, longZone) (by rw [hentries]; exact List.mem_cons_self))
  · rw [validationAgrees_iff reference_zoneOfIsSuffix reference_asciiRoundTrip]
    exact hroom

end Examples

end Zeeder.Serving
