import Zeeder.Crawl.AddressCache
import Zeeder.Dns.Nameservers

/-! # Seed zones

A seed zone is one network's domain with its static SOA and NS records and the feed of that network's
servable peers. `SeedZone.new` parses the configured texts, checks the nameservers and synthesises
the SOA's mailbox name `hostmaster.<domain>`.

* **`seedZoneNew_ok_iff`** — construction succeeds exactly when the domain and the nameservers are
  admitted and the domain's wire encoding leaves room for the mailbox label.
* **`SeedZone.Built`** — what every constructed zone satisfies: an NS record for each nameserver, at
  least one. -/

namespace Zeeder.Dns

open Crawl

/-! ## Records -/

/-- The data of an SOA record. -/
structure Soa where
  /-- The primary nameserver. -/
  mname : Name
  /-- The responsible mailbox. -/
  rname : Name
  /-- The zone's serial number. -/
  serial : UInt32
  /-- Seconds between a secondary's refreshes. -/
  refresh : Int32
  /-- Seconds between a secondary's retries. -/
  retry : Int32
  /-- Seconds after which a secondary's copy expires. -/
  expire : Int32
  /-- The negative-caching TTL. -/
  minimum : UInt32
  deriving DecidableEq

/-- The data of a record, by type. -/
inductive RData where
  /-- An IPv4 address. -/
  | a (ip : Ipv4Addr)
  /-- An IPv6 address. -/
  | aaaa (ip : Ipv6Addr)
  /-- A nameserver. -/
  | ns (name : Name)
  /-- The start of authority. -/
  | soa (data : Soa)
  deriving DecidableEq

/-- The IP address in an address record's data. -/
def RData.ip : RData → Option IpAddr
  | a ip => some (.v4 ip)
  | aaaa ip => some (.v6 ip)
  | ns _ => none
  | soa _ => none

/-- A resource record of class `IN`. -/
structure Record where
  /-- The owner name. -/
  name : Name
  /-- The time to live, in seconds. -/
  ttl : UInt32
  /-- The data. -/
  data : RData
  deriving DecidableEq

/-- The static records of a zone. -/
structure ZoneRecords where
  /-- The SOA record. -/
  soa : Record
  /-- The NS RRset. -/
  nameservers : List Record

/-- One network's served DNS zone. -/
structure SeedZone where
  /-- The network. -/
  network : ZcashNetwork
  /-- The domain the zone is authoritative for. -/
  domain : LowerName
  /-- Its static records. -/
  records : ZoneRecords
  /-- The TTL of every record. -/
  ttl : UInt32
  /-- The live feed of servable peers. -/
  servablePeers : Receiver

/-! ## Construction -/

def soaSerial : UInt32 := 1
def soaRefreshSeconds : Int32 := 3600
def soaRetrySeconds : Int32 := 600
def soaExpireSeconds : Int32 := 86400

section New

variable (hickory : HickoryProto)

/-- The error context of a name that does not parse. -/
def absoluteNameContext (field text : String) : String :=
  "invalid " ++ field ++ " `" ++ text ++ "`"

/-- Parse a name and make it fully qualified. -/
def parseAbsoluteName (field nameText : String) : Result Name :=
  hickory.parseFqdn (absoluteNameContext field nameText) nameText

/-- Build the static records; the SOA's mailbox is synthesised from the domain. -/
def ZoneRecords.new (seedDomain : Name) (nameserverNames : List Name) (dnsTtl : UInt32) :
    Result ZoneRecords := do
  let primaryNameserver ← match nameserverNames with
    | [] => Result.fail "zone must have a primary nameserver"
    | name :: _ => Except.ok name
  let seedDomainAscii := hickory.toAscii seedDomain
  let responsibleMailbox ← Result.wrapErr (hickory.fromAscii ("hostmaster." ++ seedDomainAscii))
    ("invalid synthesized SOA mailbox for `" ++ seedDomainAscii ++ "`")
  return {
    soa := ⟨seedDomain, dnsTtl, .soa ⟨primaryNameserver, responsibleMailbox, soaSerial,
      soaRefreshSeconds, soaRetrySeconds, soaExpireSeconds, dnsTtl⟩⟩
    nameservers := nameserverNames.map fun nameserver => ⟨seedDomain, dnsTtl, .ns nameserver⟩ }

/-- The field a nameserver is reported under, by its position. -/
def nameserverField (index : ℕ) : String :=
  if index = 0 then "nameserver" else "additional nameserver " ++ toString (index - 1)

/-- Parse a zone's domain and static metadata, binding it to the network's feed. -/
def SeedZone.new (network : ZcashNetwork) (seedDomain nameserver : String)
    (additionalNameservers : List String) (dnsTtl : UInt32) (servablePeers : Receiver) :
    Result SeedZone := do
  let seedDomain ← parseAbsoluteName hickory "seed domain" seedDomain
  let seedDomainLower := LowerName.ofName seedDomain
  let nameserverNames ← hickory.admitNameservers absoluteNameContext seedDomainLower
    ("nameserver must be outside the seed domain because Zeeder does not serve address records "
      ++ "for nameserver hostnames")
    ((nameserver :: additionalNameservers).zipIdx.map fun (text, index) =>
      (nameserverField index, text))
    [] ∅
  let records ← ZoneRecords.new hickory seedDomain nameserverNames dnsTtl
  return ⟨network, seedDomainLower, records, dnsTtl, servablePeers⟩

/-- This zone's network paired with its feed, for the health endpoint. -/
def SeedZone.readiness (zone : SeedZone) : ZcashNetwork × Receiver :=
  (zone.network, zone.servablePeers)

/-- Whether this zone is authoritative for a name. -/
def SeedZone.contains (zone : SeedZone) (queryName : LowerName) : Bool :=
  hickory.zoneOf zone.domain queryName

end New

/-! ## When construction succeeds -/

section Construction

variable {hickory : HickoryProto}

/-- The records of a zone, once its mailbox name is known. -/
def zoneRecordsOf (seedDomain primary mailbox : Name) (nameserverNames : List Name)
    (dnsTtl : UInt32) : ZoneRecords where
  soa := ⟨seedDomain, dnsTtl, .soa ⟨primary, mailbox, soaSerial, soaRefreshSeconds,
    soaRetrySeconds, soaExpireSeconds, dnsTtl⟩⟩
  nameservers := nameserverNames.map fun nameserver => ⟨seedDomain, dnsTtl, .ns nameserver⟩

theorem zoneRecordsNew_ok_iff {seedDomain : Name} {nameserverNames : List Name} {dnsTtl : UInt32}
    {records : ZoneRecords} :
    ZoneRecords.new hickory seedDomain nameserverNames dnsTtl = .ok records ↔
      ∃ primary mailbox, nameserverNames.head? = some primary ∧
        hickory.fromAscii ("hostmaster." ++ hickory.toAscii seedDomain) = .ok mailbox ∧
        zoneRecordsOf seedDomain primary mailbox nameserverNames dnsTtl = records := by
  unfold ZoneRecords.new
  cases nameserverNames with
  | nil => simp [Result.bind_ok_iff, Result.fail]
  | cons primary rest =>
      simp [Result.bind_ok_iff, pure, Except.pure, zoneRecordsOf]

/-- The texts of a zone's nameservers, the primary first, under their fields. -/
theorem map_snd_zipIdx_fields (field : ℕ → String) (texts : List String) :
    (texts.zipIdx.map fun (text, index) => (field index, text)).map (·.2) = texts := by
  rw [List.map_map]
  exact List.zipIdx_map_fst 0 texts

theorem seedZoneNew_ok_iff_records {network : ZcashNetwork} {domainText nameserver : String}
    {additional : List String} {dnsTtl : UInt32} {feed : Receiver} {zone : SeedZone} :
    SeedZone.new hickory network domainText nameserver additional dnsTtl feed = .ok zone ↔
      ∃ parsed names records, hickory.fromAscii domainText = .ok parsed ∧
        hickory.AdmittedNameservers (.ofName (parsed.setFqdn true)) ∅ (nameserver :: additional)
          names ∧
        ZoneRecords.new hickory (parsed.setFqdn true) names dnsTtl = .ok records ∧
        ⟨network, .ofName (parsed.setFqdn true), records, dnsTtl, feed⟩ = zone := by
  unfold SeedZone.new parseAbsoluteName
  constructor
  · intro h
    obtain ⟨domain, hdomain, h⟩ := Result.bind_ok_iff.mp h
    obtain ⟨parsed, hparsed, rfl⟩ := HickoryProto.parseFqdn_ok_iff.mp hdomain
    obtain ⟨names, hnames, h⟩ := Result.bind_ok_iff.mp h
    obtain ⟨records, hrecords, h⟩ := Result.bind_ok_iff.mp h
    obtain ⟨added, hadded, hadmitted⟩ := HickoryProto.admitNameservers_ok_iff.mp hnames
    rw [map_snd_zipIdx_fields] at hadmitted
    rw [List.nil_append] at hadded
    exact ⟨parsed, added, records, hparsed, hadmitted, hadded ▸ hrecords, Except.ok.inj h⟩
  · rintro ⟨parsed, names, records, hparsed, hadmitted, hrecords, rfl⟩
    refine Result.bind_ok_iff.mpr ⟨_, HickoryProto.parseFqdn_ok_iff.mpr ⟨parsed, hparsed, rfl⟩, ?_⟩
    refine Result.bind_ok_iff.mpr ⟨names, HickoryProto.admitNameservers_ok_iff.mpr
      ⟨names, rfl, ?_⟩, Result.bind_ok_iff.mpr ⟨records, hrecords, rfl⟩⟩
    rwa [map_snd_zipIdx_fields]

/-- The root is no zone's domain: it contains every nameserver. -/
theorem labels_ne_nil_of_admitted (hzone : hickory.ZoneOfIsSuffix) {domain : Name}
    {seen : Finset LowerName} {text : String} {texts : List String} {names : List Name}
    (h : hickory.AdmittedNameservers (.ofName domain) seen (text :: texts) names) :
    domain.labels ≠ [] := by
  intro hroot
  cases names with
  | nil => cases h.parsed
  | cons name names =>
      have hout := h.outOfZone name List.mem_cons_self
      have hin : hickory.zoneOf (.ofName domain) (.ofName name) = true := by
        rw [hzone, LowerName.ofName_labels, hroot]
        exact List.nil_suffix
      rw [hin] at hout
      cases hout

/-- The longest wire encoding of a domain that leaves room for the mailbox label. -/
def maxDomainWireLength : ℕ := 244

/-- **The mailbox name exists exactly when the domain leaves room for it.** -/
theorem mailbox_ok_iff (hascii : hickory.AsciiRoundTrip) {text : String} {parsed : Name}
    (hparsed : hickory.fromAscii text = .ok parsed) (hne : parsed.labels ≠ []) :
    (∃ mailbox, hickory.fromAscii ("hostmaster." ++ hickory.toAscii (parsed.setFqdn true))
      = .ok mailbox) ↔ wireLength parsed.labels ≤ maxDomainWireLength := by
  rw [HickoryProto.toAscii, Name.setFqdn_labels, Name.setFqdn_isFqdn, ← hascii.prints _ hne]
  have hlabels : ∀ label ∈ hostmasterLabel :: parsed.labels, hickory.ParsesLabel label :=
    List.forall_mem_cons.mpr ⟨hascii.hostmaster, fun label hlabel => ⟨text, parsed, hparsed, hlabel⟩⟩
  -- ten octets and their length octet
  have hlength : wireLength (hostmasterLabel :: parsed.labels) = 11 + wireLength parsed.labels := by
    rw [wireLength_cons]
    rfl
  by_cases hfits : wireLength parsed.labels ≤ maxDomainWireLength
  · refine iff_of_true ?_ hfits
    obtain ⟨name, hname, -⟩ := hascii.parses _ (List.cons_ne_nil _ _) hlabels (by
      rw [hlength]
      unfold maxDomainWireLength at hfits
      unfold maxWireLength
      omega)
    exact ⟨name, hname⟩
  · refine iff_of_false ?_ hfits
    obtain ⟨error, herror⟩ := hascii.rejects _ (List.cons_ne_nil _ _) hlabels (by
      rw [hlength]
      unfold maxDomainWireLength at hfits
      unfold maxWireLength
      omega)
    rintro ⟨mailbox, hmailbox⟩
    rw [herror] at hmailbox
    cases hmailbox

/-- **A zone is constructed exactly from an admitted domain and admitted nameservers**, when the
domain leaves room for the mailbox label. -/
theorem seedZoneNew_ok_iff (hzone : hickory.ZoneOfIsSuffix) (hascii : hickory.AsciiRoundTrip)
    {network : ZcashNetwork} {domainText nameserver : String} {additional : List String}
    {dnsTtl : UInt32} {feed : Receiver} {domain : LowerName} :
    (∃ zone, SeedZone.new hickory network domainText nameserver additional dnsTtl feed = .ok zone ∧
        zone.domain = domain) ↔
      ∃ parsed, hickory.fromAscii domainText = .ok parsed ∧
        (∃ names, hickory.AdmittedNameservers (.ofName (parsed.setFqdn true)) ∅
          (nameserver :: additional) names) ∧
        wireLength parsed.labels ≤ maxDomainWireLength ∧ .ofName (parsed.setFqdn true) = domain := by
  constructor
  · rintro ⟨zone, hnew, rfl⟩
    obtain ⟨parsed, names, records, hparsed, hadmitted, hrecords, rfl⟩ :=
      seedZoneNew_ok_iff_records.mp hnew
    obtain ⟨primary, mailbox, -, hmailbox, -⟩ := zoneRecordsNew_ok_iff.mp hrecords
    have hne := labels_ne_nil_of_admitted hzone hadmitted
    exact ⟨parsed, hparsed, ⟨names, hadmitted⟩,
      (mailbox_ok_iff hascii hparsed hne).mp ⟨mailbox, hmailbox⟩, rfl⟩
  · rintro ⟨parsed, hparsed, ⟨names, hadmitted⟩, hfits, rfl⟩
    have hne := labels_ne_nil_of_admitted hzone hadmitted
    obtain ⟨mailbox, hmailbox⟩ := (mailbox_ok_iff hascii hparsed hne).mpr hfits
    cases names with
    | nil => cases hadmitted.parsed
    | cons primary rest =>
        have hrecords : ZoneRecords.new hickory (parsed.setFqdn true) (primary :: rest) dnsTtl
            = .ok _ := zoneRecordsNew_ok_iff.mpr ⟨primary, mailbox, rfl, hmailbox, rfl⟩
        exact ⟨_, seedZoneNew_ok_iff_records.mpr
          ⟨parsed, primary :: rest, _, hparsed, hadmitted, hrecords, rfl⟩, rfl⟩

/-- A zone that `SeedZone.new` constructed. -/
def SeedZone.Built (hickory : HickoryProto) (zone : SeedZone) : Prop :=
  ∃ network domainText nameserver additional dnsTtl feed,
    SeedZone.new hickory network domainText nameserver additional dnsTtl feed = .ok zone

/-- A constructed zone has an SOA record and NS records, at least one, and no address records. -/
theorem SeedZone.Built.records {zone : SeedZone} (h : zone.Built hickory) :
    zone.records.nameservers ≠ [] ∧ zone.records.soa.data.ip = none ∧
      ∀ record ∈ zone.records.nameservers, record.data.ip = none := by
  obtain ⟨network, domainText, nameserver, additional, dnsTtl, feed, hnew⟩ := h
  obtain ⟨parsed, names, records, -, hadmitted, hrecords, rfl⟩ :=
    seedZoneNew_ok_iff_records.mp hnew
  obtain ⟨primary, mailbox, hprimary, -, rfl⟩ := zoneRecordsNew_ok_iff.mp hrecords
  refine ⟨?_, rfl, ?_⟩
  · intro hnil
    rw [zoneRecordsOf, List.map_eq_nil_iff] at hnil
    rw [hnil] at hprimary
    cases hprimary
  · intro record hrecord
    obtain ⟨nameserver, -, rfl⟩ := List.mem_map.mp hrecord
    rfl

end Construction

end Zeeder.Dns
