import Zeeder.Dns.SeedZone

/-! # The names a zone publishes

A constructed zone publishes the names it was given: its domain owns every static record, the SOA's
MNAME is the primary nameserver, and the NS RRset has one record for each nameserver.

* **`seedZoneNew_publishes`** — construction publishes exactly the parsed domain and the admitted
  nameservers, in their order.
* **`PublishesNames.mem_publishedNames`** — the names in the SOA's MNAME and the NS RRset are the
  nameservers. -/

namespace Zeeder.Dns

open Crawl

/-- The nameserver that a record's data names: an NS target, or an SOA's MNAME. -/
def RData.nameserver : RData → Option Name
  | a _ => none
  | aaaa _ => none
  | ns name => some name
  | soa data => some data.mname

namespace SeedZone

/-- The nameservers that a zone's static records name, the SOA's MNAME first. -/
def publishedNames (zone : SeedZone) : List Name :=
  (zone.records.soa :: zone.records.nameservers).filterMap fun record => record.data.nameserver

/-- A zone's records publish a domain and a list of nameservers. -/
structure PublishesNames (zone : SeedZone) (domain : Name) (names : List Name) : Prop where
  /-- The zone is authoritative for the domain. -/
  domain_eq : zone.domain = .ofName domain
  /-- The NS RRset has a record for each nameserver, in their order. -/
  nameservers_eq :
    zone.records.nameservers = names.map fun name => ⟨domain, zone.ttl, .ns name⟩
  /-- The SOA's MNAME is the first nameserver. -/
  soa_eq : ∃ data, zone.records.soa = ⟨domain, zone.ttl, .soa data⟩ ∧ names.head? = some data.mname

variable {zone : SeedZone} {domain : Name} {names : List Name}

/-- The published nameservers are the SOA's MNAME, again, and the nameservers. -/
theorem PublishesNames.mem_publishedNames (h : zone.PublishesNames domain names) {name : Name} :
    name ∈ zone.publishedNames ↔ name ∈ names := by
  obtain ⟨data, hsoa, hhead⟩ := h.soa_eq
  have htargets : (names.map fun name => (⟨domain, zone.ttl, .ns name⟩ : Record)).filterMap
      (fun record => record.data.nameserver) = names := by
    rw [List.filterMap_map]
    exact List.filterMap_some
  have hpublished : zone.publishedNames = data.mname :: names := by
    rw [publishedNames, hsoa, h.nameservers_eq, List.filterMap_cons, htargets]
    rfl
  rw [hpublished, List.mem_cons]
  -- the MNAME is one of the nameservers
  exact or_iff_right_of_imp fun heq => heq ▸ List.mem_of_head? hhead

end SeedZone

/-- **Construction publishes the parsed domain and the admitted nameservers.** -/
theorem seedZoneNew_publishes {hickory : HickoryProto} {network : ZcashNetwork}
    {domainText nameserver : String} {additional : List String} {dnsTtl : UInt32} {feed : Receiver}
    {zone : SeedZone}
    (h : SeedZone.new hickory network domainText nameserver additional dnsTtl feed = .ok zone) :
    ∃ parsed names, hickory.fromAscii domainText = .ok parsed ∧
      hickory.AdmittedNameservers (.ofName (parsed.setFqdn true)) ∅ (nameserver :: additional)
        names ∧ zone.ttl = dnsTtl ∧ zone.PublishesNames (parsed.setFqdn true) names := by
  obtain ⟨parsed, names, records, hparsed, hadmitted, hrecords, rfl⟩ :=
    seedZoneNew_ok_iff_records.mp h
  obtain ⟨primary, mailbox, hprimary, -, rfl⟩ := zoneRecordsNew_ok_iff.mp hrecords
  exact ⟨parsed, names, hparsed, hadmitted, rfl, rfl, rfl, _, rfl, hprimary⟩

end Zeeder.Dns
