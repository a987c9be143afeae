import Zeeder.Dns.RequestHandler
import Zeeder.Serving.Startup

/-! # Routing over accepted zones

Name containment is suffix containment, so domains form a forest, and the pairwise check on the
configured domains decides whether any name at all is ambiguous.

* **`routing_unambiguous_iff`** — the disjointness check succeeds exactly when no name lies in two
  domains; then every handler over these domains, in whatever order, matches the one zone that
  contains the name.
* **`nameserver_outside_own_zone`** — no configured nameserver is matched to its own zone. The check
  is made zone by zone, and a nameserver of one zone may lie in another. -/

namespace Zeeder.Serving

open Foundation Crawl Dns Config

section Routing

variable {hickory : HickoryProto}

/-- The disjointness check decides ambiguity over all names. -/
theorem ensureZonesAreDisjoint_iff_unambiguous (hzone : hickory.ZoneOfIsSuffix)
    {zoneDomains : List (ZcashNetwork × LowerName)} :
    ensureZonesAreDisjoint hickory zoneDomains = .ok () ↔
      ∀ name, (zoneDomains.map (·.2)).countP (hickory.zoneOf · name) ≤ 1 := by
  rw [ensureZonesAreDisjoint_ok_iff]
  exact pairwise_incomparable_iff (HickoryProto.zoneOf_self hzone)
    (HickoryProto.zoneOf_forest hzone) _

/-- Where no name lies in two domains, the matching zone is the one that contains the name. -/
theorem matchingZone_eq_some_iff {handler : DnsRequestHandler} {name : LowerName}
    (h : (handler.zones.map (·.domain)).countP (hickory.zoneOf · name) ≤ 1) {zone : SeedZone} :
    handler.matchingZone hickory name = some zone ↔
      zone ∈ handler.zones ∧ zone.contains hickory name = true := by
  rw [List.countP_map] at h
  exact maxByKey_filter_eq_some_iff h

/-- **Routing is unambiguous exactly for accepted zone sets.** The disjointness check succeeds when
every name lies in at most one of the domains, and only then. Over accepted domains, in any order of
the zones, at most one zone contains a name; it is the matching zone, and there is none exactly when
no zone contains the name. -/
theorem routing_unambiguous_iff (hickory : HickoryProto) (hzone : hickory.ZoneOfIsSuffix)
    (zoneDomains : List (ZcashNetwork × LowerName)) :
    (ensureZonesAreDisjoint hickory zoneDomains = .ok () ↔
      ∀ name, (zoneDomains.map (·.2)).countP (hickory.zoneOf · name) ≤ 1) ∧
    (ensureZonesAreDisjoint hickory zoneDomains = .ok () →
      ∀ handler : DnsRequestHandler,
        (handler.zones.map (·.domain)).Perm (zoneDomains.map (·.2)) → ∀ name,
        (handler.zones.filter fun zone => zone.contains hickory name).length ≤ 1 ∧
        (∀ zone, handler.matchingZone hickory name = some zone ↔
          zone ∈ handler.zones ∧ zone.contains hickory name = true) ∧
        (handler.matchingZone hickory name = none ↔
          ∀ zone ∈ handler.zones, zone.contains hickory name = false)) := by
  refine ⟨ensureZonesAreDisjoint_iff_unambiguous hzone, fun hdisjoint handler hperm name => ?_⟩
  have hcount := (ensureZonesAreDisjoint_iff_unambiguous hzone).mp hdisjoint name
  -- the count does not depend on the order of the zones
  rw [← hperm.countP_eq] at hcount
  refine ⟨?_, fun zone => matchingZone_eq_some_iff hcount,
    DnsRequestHandler.matchingZone_eq_none_iff⟩
  rw [List.countP_map, List.countP_eq_length_filter] at hcount
  exact hcount

/-- Over accepted zones, the matching zone is the one that contains the name. -/
theorem AcceptedZones.matchingZone_eq_some_iff {handler : DnsRequestHandler}
    (h : AcceptedZones hickory handler.zones) (hzone : hickory.ZoneOfIsSuffix) {name : LowerName}
    {zone : SeedZone} : handler.matchingZone hickory name = some zone ↔
      zone ∈ handler.zones ∧ zone.contains hickory name = true := by
  have hcount := (ensureZonesAreDisjoint_iff_unambiguous hzone).mp h.disjoint name
  rw [List.map_map] at hcount
  exact Serving.matchingZone_eq_some_iff hcount

/-- A started zone contains none of its own nameservers. -/
theorem not_contains_own_nameserver {config : SeederConfig} {zones : List SeedZone}
    (hstart : startZones hickory config = .ok zones) {network : ZcashNetwork} {conf : ZoneConfig}
    (hconf : config.zones network = some conf) {zone : SeedZone} (hzone : zone ∈ zones)
    (hnetwork : zone.network = network) {text : String}
    (htext : text ∈ conf.nameserver :: conf.additionalNameservers) {parsed : Name}
    (hparsed : hickory.fromAscii text = .ok parsed) :
    zone.contains hickory (.ofName (parsed.setFqdn true)) = false := by
  obtain ⟨conf', hconf', hspawn⟩ := mem_zones_of_startZones hstart hzone
  rw [hnetwork] at hconf' hspawn
  rw [hconf] at hconf'
  cases hconf'
  obtain ⟨domain, names, records, -, hadmitted, -, rfl⟩ := seedZoneNew_ok_iff_records.mp hspawn
  obtain ⟨other, hother, hout⟩ := hadmitted.outside htext
  rw [hparsed] at hother
  cases hother
  exact hout

/-- **No nameserver is matched to its own zone.** For an accepted and started configuration, every
configured nameserver parses to a name that its own zone does not contain, so the matching zone is
never its own, and is none when no other zone contains it either. -/
theorem nameserver_outside_own_zone (hickory : HickoryProto) (config : SeederConfig)
    (hvalid : config.validate hickory = .ok ()) (zones : List SeedZone)
    (hstart : startZones hickory config = .ok zones) (rateLimiter : Option RateLimiter)
    (network : ZcashNetwork) (conf : ZoneConfig) (hconf : config.zones network = some conf)
    (text : String) (htext : text ∈ conf.nameserver :: conf.additionalNameservers) :
    ∃ parsed, hickory.fromAscii text = .ok parsed ∧
      (∀ zone ∈ zones, zone.network = network →
        zone.contains hickory (.ofName (parsed.setFqdn true)) = false) ∧
      (∀ zone, DnsRequestHandler.matchingZone hickory ⟨zones, rateLimiter⟩
        (.ofName (parsed.setFqdn true)) = some zone → zone.network ≠ network) ∧
      ((∀ zone ∈ zones, zone.network ≠ network →
          zone.contains hickory (.ofName (parsed.setFqdn true)) = false) →
        DnsRequestHandler.matchingZone hickory ⟨zones, rateLimiter⟩
          (.ofName (parsed.setFqdn true)) = none) := by
  obtain ⟨-, ⟨zoneDomains, hdomains, -⟩, -⟩ := validate_ok_iff.mp hvalid
  -- the nameserver passed its own zone's validation, so it parses
  obtain ⟨parsed, hparsed⟩ : ∃ parsed, hickory.fromAscii text = .ok parsed := by
    obtain ⟨i, hi, hentry⟩ := List.mem_iff_getElem.mp (SeederConfig.mem_entries.mpr hconf)
    have hdomain := (hdomains.get hi (hdomains.length_eq ▸ hi)).2
    rw [List.get_eq_getElem, hentry] at hdomain
    obtain ⟨domain, -, ⟨names, hadmitted⟩, -⟩ := validatedDomain_ok_iff.mp hdomain
    obtain ⟨parsed, hparsed, -⟩ := hadmitted.outside htext
    exact ⟨parsed, hparsed⟩
  -- its own zone was built with this nameserver, outside its domain
  have hown : ∀ zone ∈ zones, zone.network = network →
      zone.contains hickory (.ofName (parsed.setFqdn true)) = false := fun zone hzone hnetwork =>
    not_contains_own_nameserver hstart hconf hzone hnetwork htext hparsed
  refine ⟨parsed, hparsed, hown, ?_, ?_⟩
  · intro zone hmatch hnetwork
    obtain ⟨hzone, hcontains⟩ := DnsRequestHandler.matchingZone_eq_some hmatch
    rw [hown zone hzone hnetwork] at hcontains
    cases hcontains
  · intro hothers
    refine DnsRequestHandler.matchingZone_eq_none_iff.mpr fun zone hzone => ?_
    by_cases hnetwork : zone.network = network
    · exact hown zone hzone hnetwork
    · exact hothers zone hzone hnetwork

end Routing

/-! ## Example zones -/

section Examples

open Reference

/-- A zone with the given domain, and the domain as its only nameserver. -/
def bareZone (network : ZcashNetwork) (domain : Name) : SeedZone where
  network := network
  domain := .ofName domain
  records := zoneRecordsOf domain domain domain [domain] 600
  ttl := 600
  servablePeers := ⟨network⟩

/-- `m.z`. -/
def mainnetDomain : Name := ⟨[[109], [122]], true, by decide, by decide⟩

/-- `t.z`. -/
def testnetDomain : Name := ⟨[[116], [122]], true, by decide, by decide⟩

/-- `x.t.z`. -/
def belowTestnet : Name := ⟨[[120], [116], [122]], true, by decide, by decide⟩

/-- Two disjoint domains, and a handler that lists their zones the other way round. -/
theorem routing_unambiguous_example :
    (∀ name, [LowerName.ofName mainnetDomain, .ofName testnetDomain].countP
      (reference.zoneOf · name) ≤ 1) ∧
    DnsRequestHandler.matchingZone reference
      ⟨[bareZone .testnet testnetDomain, bareZone .mainnet mainnetDomain], none⟩
      (.ofName belowTestnet) = some (bareZone .testnet testnetDomain) := by
  have h := routing_unambiguous_iff reference reference_zoneOfIsSuffix
    [(.mainnet, .ofName mainnetDomain), (.testnet, .ofName testnetDomain)]
  have hdisjoint : ensureZonesAreDisjoint reference
      [(.mainnet, .ofName mainnetDomain), (.testnet, .ofName testnetDomain)] = .ok () := by
    decide +kernel
  refine ⟨h.1.mp hdisjoint, ?_⟩
  have hroute := h.2 hdisjoint
    ⟨[bareZone .testnet testnetDomain, bareZone .mainnet mainnetDomain], none⟩
    (List.Perm.swap _ _ _) (.ofName belowTestnet)
  exact (hroute.2.1 _).mpr ⟨List.mem_cons_self, by decide +kernel⟩

/-- The example configuration's nameserver lies in no zone. -/
theorem nameserver_outside_own_zone_example :
    ∃ zones parsed, startZones reference exampleConfig = .ok zones ∧
      reference.fromAscii "ns.zec" = .ok parsed ∧
      DnsRequestHandler.matchingZone reference ⟨zones, none⟩ (.ofName (parsed.setFqdn true))
        = none := by
  have hok : (startZones reference exampleConfig).isOk = true := by decide +kernel
  obtain ⟨zones, hstart⟩ := Result.exists_ok_of_isOk hok
  obtain ⟨parsed, hparsed, -, -, hnone⟩ := nameserver_outside_own_zone reference exampleConfig
    (by decide +kernel) zones hstart none .mainnet exampleZone rfl "ns.zec" List.mem_cons_self
  refine ⟨zones, parsed, hstart, hparsed, hnone fun zone hzone hnetwork => ?_⟩
  -- only the mainnet zone is configured
  obtain ⟨conf, hconf, -⟩ := mem_zones_of_startZones hstart hzone
  cases hz : zone.network with
  | mainnet => exact absurd hz hnetwork
  | testnet =>
      rw [hz] at hconf
      cases hconf

/-- A configuration whose mainnet nameserver lies in the testnet zone. -/
def crossConfig : SeederConfig where
  zones
    | .mainnet => some ⟨"main.zec", "ns.test.zec", [], 600⟩
    | .testnet => some ⟨"test.zec", "ns.zec", [], 600⟩
  rateLimit := some .default

/-- **A nameserver of one zone may lie in another zone**, which is then its matching zone. -/
theorem nameserver_in_another_zone :
    ¬ ∀ config zones, config.validate reference = .ok () →
      startZones reference config = .ok zones → ∀ network conf, config.zones network = some conf →
      ∀ text ∈ conf.nameserver :: conf.additionalNameservers, ∀ parsed,
      reference.fromAscii text = .ok parsed →
      DnsRequestHandler.matchingZone reference ⟨zones, none⟩ (.ofName (parsed.setFqdn true))
        = none := by
  intro h
  have hok : (startZones reference crossConfig).isOk = true := by decide +kernel
  obtain ⟨zones, hstart⟩ := Result.exists_ok_of_isOk hok
  have hparsed : (reference.fromAscii "ns.test.zec").isOk = true := by decide +kernel
  have hmatched : (match startZones reference crossConfig, reference.fromAscii "ns.test.zec" with
      | .ok zones, .ok parsed => (DnsRequestHandler.matchingZone reference ⟨zones, none⟩
          (.ofName (parsed.setFqdn true))).isSome
      | _, _ => false) = true := by decide +kernel
  cases hname : reference.fromAscii "ns.test.zec" with
  | error text =>
      rw [hname] at hparsed
      cases hparsed
  | ok parsed =>
      have hnone := h crossConfig zones (by decide +kernel) hstart .mainnet _ rfl "ns.test.zec"
        List.mem_cons_self parsed hname
      rw [hstart, hname] at hmatched
      simp only at hmatched
      rw [hnone] at hmatched
      cases hmatched

end Examples

end Zeeder.Serving
