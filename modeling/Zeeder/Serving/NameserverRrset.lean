import Zeeder.Dns.NameserverSet
import Zeeder.Dns.Spelling
import Zeeder.Serving.ApexAnswers
import Mathlib.Logic.Relation

/-! # The NS RRset and the spelling of its names

The NS RRset of a constructed zone: one record for each configured nameserver, in their order, with
distinct targets outside the domain. Construction keeps the spelling of the names, but what it accepts
depends on their lowercased labels only.

* **`accepted_iff_lowerLabels`** — acceptance, read off the lowercased labels.
* **`nsRrset_integrity`** — the NS RRset of every accepted zone, and that respelling a name or
  permuting the additional nameservers changes nothing about acceptance. -/

namespace Zeeder.Serving

open Crawl Dns Config

/-! ## The specification -/

section Specification

variable (hickory : HickoryProto)

/-- **NS RRset integrity** of a zone with this configuration, for the domain and the nameservers that
its texts parse to. -/
structure NsRrsetIntegrity (conf : ZoneConfig) (zone : SeedZone) (domain : Name)
    (targets : List Name) : Prop where
  /-- The zone's domain is the configured one. -/
  domain_eq : zone.domain = .ofName domain ∧
    ∃ parsed, hickory.fromAscii conf.domain = .ok parsed ∧ parsed.setFqdn true = domain
  /-- One target for each configured nameserver, in their order, the primary first. -/
  targets_parsed : List.Forall₂ (fun text target => ∃ parsed : Name,
      hickory.fromAscii text = .ok parsed ∧ parsed.setFqdn true = target)
    (conf.nameserver :: conf.additionalNameservers) targets
  /-- At the apex, whatever the snapshot, the answer is one record for each target. -/
  answered : ∀ (peers : ServablePeers) (query : Query), query.name = zone.domain →
    query.queryType = .ns → zoneSections hickory zone peers query.name query.queryType
      = (targets.map fun target => ⟨domain, conf.ttl, .ns target⟩, [])
  /-- The targets are distinct, ignoring case and trailing dots. -/
  distinct : (targets.map fun target => target.labels.map lowercaseLabel).Nodup
  /-- No target is the domain or lies below it. -/
  outside : ∀ target ∈ targets,
    ¬ domain.labels.map lowercaseLabel <:+ target.labels.map lowercaseLabel
  /-- The SOA answered at the apex has the first target for its MNAME. -/
  mname : ∀ (peers : ServablePeers) (query : Query), query.name = zone.domain →
    query.queryType = .soa → ∃ soa, zoneSections hickory zone peers query.name query.queryType
      = ([⟨domain, conf.ttl, .soa soa⟩], []) ∧ targets.head? = some soa.mname

/-- `SeedZone.new` accepts the zone. -/
def Accepted (network : ZcashNetwork) (feed : Receiver) (conf : ZoneConfig) : Prop :=
  ∃ zone, SeedZone.new hickory network conf.domain conf.nameserver conf.additionalNameservers
    conf.ttl feed = .ok zone

/-- One change to how a zone's names are written down. -/
inductive ZoneRespelling : ZoneConfig → ZoneConfig → Prop where
  /-- The domain is respelled. -/
  | domain {conf : ZoneConfig} {text : String} (respelled : Respelling conf.domain text) :
      ZoneRespelling conf { conf with domain := text }
  /-- The primary nameserver is respelled. -/
  | nameserver {conf : ZoneConfig} {text : String} (respelled : Respelling conf.nameserver text) :
      ZoneRespelling conf { conf with nameserver := text }
  /-- An additional nameserver is respelled. -/
  | additional {conf : ZoneConfig} {front back : List String} {text text' : String}
      (listed : conf.additionalNameservers = front ++ text :: back)
      (respelled : Respelling text text') :
      ZoneRespelling conf { conf with additionalNameservers := front ++ text' :: back }
  /-- The additional nameservers are permuted. -/
  | permute {conf : ZoneConfig} {texts : List String}
      (permuted : conf.additionalNameservers.Perm texts) :
      ZoneRespelling conf { conf with additionalNameservers := texts }

end Specification

/-! ## Acceptance depends on the lowercased labels -/

section Acceptance

variable {hickory : HickoryProto}

/-- Lowercased names are equal when their labels are, among fully qualified ones. -/
theorem ofName_inj_of_isFqdn {name name' : Name} (h : name.isFqdn = true)
    (h' : name'.isFqdn = true) : LowerName.ofName name = .ofName name' ↔
      name.labels.map lowercaseLabel = name'.labels.map lowercaseLabel := by
  rw [LowerName.ofName, LowerName.ofName, LowerName.mk.injEq, Name.toLowercase, Name.toLowercase,
    Name.mk.injEq, h, h']
  exact and_iff_left rfl

/-- So a list of them has no duplicates when their labels have none. -/
theorem nodup_ofName_iff {names : List Name} (h : ∀ name ∈ names, name.isFqdn = true) :
    (names.map LowerName.ofName).Nodup ↔
      (names.map fun name => name.labels.map lowercaseLabel).Nodup := by
  rw [List.Nodup, List.Nodup, List.pairwise_map, List.pairwise_map]
  constructor
  · intro hnodup
    exact hnodup.imp_of_mem fun ha hb hne heq =>
      hne ((ofName_inj_of_isFqdn (h _ ha) (h _ hb)).mpr heq)
  · intro hnodup
    exact hnodup.imp_of_mem fun ha hb hne heq =>
      hne ((ofName_inj_of_isFqdn (h _ ha) (h _ hb)).mp heq)

/-- The texts of parsed names have the names' lowercased labels. -/
theorem map_lowerLabels_of_parsed {texts : List String} {names : List Name}
    (h : List.Forall₂ (fun text name => ∃ parsed : Name,
      hickory.fromAscii text = .ok parsed ∧ parsed.setFqdn true = name) texts names) :
    texts.map hickory.lowerLabels
        = names.map (fun name => some (name.labels.map lowercaseLabel)) ∧
      ∀ name ∈ names, name.isFqdn = true := by
  induction h with
  | nil => exact ⟨rfl, fun _ hname => absurd hname List.not_mem_nil⟩
  | cons hparsed _ ih =>
      obtain ⟨parsed, hparsed, rfl⟩ := hparsed
      have hlower : hickory.lowerLabels _ = some _ :=
        HickoryProto.lowerLabels_eq_some_iff.mpr ⟨parsed, hparsed, rfl⟩
      refine ⟨?_, List.forall_mem_cons.mpr ⟨rfl, ih.2⟩⟩
      rw [List.map_cons, List.map_cons, ih.1, hlower]
      rfl

/-- What admitting nameservers asks of their lowercased labels: all parse, lie outside the domain and
are distinct. -/
def AdmissibleLabels (domain : List Label) (servers : List (Option (List Label))) : Prop :=
  (∀ server ∈ servers, ∃ target, server = some target ∧ ¬ domain <:+ target) ∧ servers.Nodup

/-- **Nameservers are admitted by their lowercased labels.** -/
theorem exists_admitted_iff (hzone : hickory.ZoneOfIsSuffix) {domain : Name} {texts : List String} :
    (∃ names, hickory.AdmittedNameservers (.ofName domain) ∅ texts names) ↔
      AdmissibleLabels (domain.labels.map lowercaseLabel) (texts.map hickory.lowerLabels) := by
  have houtside : ∀ name : Name, hickory.zoneOf (.ofName domain) (.ofName name) = false ↔
      ¬ domain.labels.map lowercaseLabel <:+ name.labels.map lowercaseLabel := by
    intro name
    rw [← Bool.not_eq_true, hzone, LowerName.ofName_labels, LowerName.ofName_labels]
  constructor
  · rintro ⟨names, h⟩
    obtain ⟨hmap, hfqdn⟩ := map_lowerLabels_of_parsed h.parsed
    rw [hmap]
    refine ⟨?_, ?_⟩
    · intro server hserver
      obtain ⟨name, hname, rfl⟩ := List.mem_map.mp hserver
      exact ⟨_, rfl, (houtside name).mp (h.outOfZone name hname)⟩
    · have hnodup := ((nodup_ofName_iff hfqdn).mp h.distinct).map (Option.some_injective _)
      rwa [List.map_map] at hnodup
  · rintro ⟨hservers, hnodup⟩
    -- every text parses
    have hparse : ∀ text ∈ texts, ∃ name, hickory.parseFqdn "" text = .ok name := by
      intro text htext
      obtain ⟨target, htarget, -⟩ := hservers _ (List.mem_map_of_mem htext)
      obtain ⟨parsed, hparsed, -⟩ := HickoryProto.lowerLabels_eq_some_iff.mp htarget
      exact ⟨_, HickoryProto.parseFqdn_ok_iff.mpr ⟨parsed, hparsed, rfl⟩⟩
    obtain ⟨names, hnames⟩ := Result.exists_mapM_ok_iff.mpr hparse
    have hparsed := (Result.mapM_ok_iff.mp hnames).imp fun _ _ h =>
      HickoryProto.parseFqdn_ok_iff.mp h
    obtain ⟨hmap, hfqdn⟩ := map_lowerLabels_of_parsed hparsed
    rw [hmap] at hservers hnodup
    refine ⟨names, hparsed, ?_, fun _ _ => Finset.notMem_empty _, ?_⟩
    · intro name hname
      obtain ⟨target, htarget, hout⟩ := hservers _ (List.mem_map_of_mem hname)
      cases htarget
      exact (houtside name).mpr hout
    · refine (nodup_ofName_iff hfqdn).mpr (List.Nodup.of_map some ?_)
      rwa [List.map_map]

variable {network : ZcashNetwork} {feed : Receiver} {conf conf' : ZoneConfig}

/-- **A zone is accepted by the lowercased labels of its names**: the domain's leave room for the
mailbox label, the nameservers' are admissible for it. -/
theorem accepted_iff_lowerLabels (hzone : hickory.ZoneOfIsSuffix) (hascii : hickory.AsciiRoundTrip) :
    Accepted hickory network feed conf ↔ ∃ domain, hickory.lowerLabels conf.domain = some domain ∧
      wireLength domain ≤ maxDomainWireLength ∧ AdmissibleLabels domain
        ((conf.nameserver :: conf.additionalNameservers).map hickory.lowerLabels) := by
  have hbuilt : Accepted hickory network feed conf ↔ ∃ parsed,
      hickory.fromAscii conf.domain = .ok parsed ∧
      (∃ names, hickory.AdmittedNameservers (.ofName (parsed.setFqdn true)) ∅
        (conf.nameserver :: conf.additionalNameservers) names) ∧
      wireLength parsed.labels ≤ maxDomainWireLength := by
    constructor
    · rintro ⟨zone, hnew⟩
      obtain ⟨parsed, hparsed, hnames, hfits, -⟩ :=
        (seedZoneNew_ok_iff hzone hascii).mp ⟨zone, hnew, rfl⟩
      exact ⟨parsed, hparsed, hnames, hfits⟩
    · rintro ⟨parsed, hparsed, hnames, hfits⟩
      obtain ⟨zone, hnew, -⟩ :=
        (seedZoneNew_ok_iff hzone hascii).mpr ⟨parsed, hparsed, hnames, hfits, rfl⟩
      exact ⟨zone, hnew⟩
  rw [hbuilt]
  constructor
  · rintro ⟨parsed, hparsed, hnames, hfits⟩
    have hadmissible := (exists_admitted_iff hzone).mp hnames
    rw [Name.setFqdn_labels] at hadmissible
    refine ⟨_, HickoryProto.lowerLabels_eq_some_iff.mpr ⟨parsed, hparsed, rfl⟩, ?_, hadmissible⟩
    rwa [wireLength_map_lowercaseLabel]
  · rintro ⟨domain, hdomain, hfits, hservers⟩
    obtain ⟨parsed, hparsed, rfl⟩ := HickoryProto.lowerLabels_eq_some_iff.mp hdomain
    rw [wireLength_map_lowercaseLabel] at hfits
    exact ⟨parsed, hparsed, (exists_admitted_iff hzone).mpr hservers, hfits⟩

/-- The order of nameservers does not matter for admitting them. -/
theorem AdmissibleLabels.perm {domain : List Label} {servers servers' : List (Option (List Label))}
    (hperm : servers.Perm servers') (h : AdmissibleLabels domain servers) :
    AdmissibleLabels domain servers' :=
  ⟨fun server hserver => h.1 server (hperm.mem_iff.mpr hserver), hperm.nodup_iff.mp h.2⟩

/-- A respelling keeps the domain's lowercased labels and permutes those of the nameservers. -/
theorem ZoneRespelling.lowerLabels (hdot : hickory.TrailingDotAlike) (hcase : hickory.CaseAlike)
    (h : ZoneRespelling conf conf') :
    hickory.lowerLabels conf.domain = hickory.lowerLabels conf'.domain ∧
      ((conf.nameserver :: conf.additionalNameservers).map hickory.lowerLabels).Perm
        ((conf'.nameserver :: conf'.additionalNameservers).map hickory.lowerLabels) := by
  cases h with
  | domain respelled => exact ⟨respelled.lowerLabels_eq hdot hcase, .refl _⟩
  | nameserver respelled =>
      refine ⟨rfl, ?_⟩
      rw [List.map_cons, List.map_cons, respelled.lowerLabels_eq hdot hcase]
  | additional listed respelled =>
      refine ⟨rfl, ?_⟩
      rw [listed, List.map_cons, List.map_cons, List.map_append, List.map_append, List.map_cons,
        List.map_cons, respelled.lowerLabels_eq hdot hcase]
  | permute permuted => exact ⟨rfl, (permuted.cons conf.nameserver).map _⟩

/-- **Respelling a zone does not change whether it is accepted.** -/
theorem ZoneRespelling.accepted_iff (hzone : hickory.ZoneOfIsSuffix)
    (hascii : hickory.AsciiRoundTrip) (hdot : hickory.TrailingDotAlike)
    (hcase : hickory.CaseAlike) (h : ZoneRespelling conf conf') :
    Accepted hickory network feed conf ↔ Accepted hickory network feed conf' := by
  obtain ⟨hdomain, hperm⟩ := h.lowerLabels hdot hcase
  rw [accepted_iff_lowerLabels hzone hascii, accepted_iff_lowerLabels hzone hascii, hdomain]
  refine exists_congr fun domain => and_congr_right fun _ => and_congr_right fun _ => ?_
  exact ⟨fun h => h.perm hperm, fun h => h.perm hperm.symm⟩

/-! ## The NS RRset of an accepted zone -/

/-- **An accepted zone's NS RRset is as specified.** -/
theorem nsRrsetIntegrity_of_new (hzone : hickory.ZoneOfIsSuffix) {zone : SeedZone}
    (h : SeedZone.new hickory network conf.domain conf.nameserver conf.additionalNameservers conf.ttl
      feed = .ok zone) : ∃ domain targets, NsRrsetIntegrity hickory conf zone domain targets := by
  obtain ⟨parsed, names, hparsed, hadmitted, httl, hpublishes⟩ := seedZoneNew_publishes h
  obtain ⟨-, hfqdn⟩ := map_lowerLabels_of_parsed hadmitted.parsed
  have hapex : ∀ (peers : ServablePeers) (query : Query), query.name = zone.domain →
      zoneSections hickory zone peers query.name query.queryType
        = apexAnswer zone peers query.name query.queryType := fun peers query hname =>
    zoneSections_of_numLabels_eq (by rw [hname])
  refine ⟨parsed.setFqdn true, names, ⟨hpublishes.domain_eq, parsed, hparsed, rfl⟩,
    hadmitted.parsed, ?_, (nodup_ofName_iff hfqdn).mp hadmitted.distinct, ?_, ?_⟩
  · intro peers query hname htype
    rw [hapex peers query hname, htype, ← httl, ← hpublishes.nameservers_eq]
    rfl
  · intro target htarget hbelow
    have hout := hadmitted.outOfZone target htarget
    have hin : hickory.zoneOf (.ofName (parsed.setFqdn true)) (.ofName target) = true :=
      (hzone _ _).mpr hbelow
    rw [hin] at hout
    cases hout
  · intro peers query hname htype
    obtain ⟨soa, hsoa, hhead⟩ := hpublishes.soa_eq
    refine ⟨soa, ?_, hhead⟩
    rw [hapex peers query hname, htype, ← httl, ← hsoa]
    rfl

/-- **NS RRset integrity.** Every zone that is accepted answers at its apex, whatever the snapshot,
with one NS record for each configured nameserver, in their order, distinct and outside the domain,
and its SOA names the first. Whether a zone is accepted depends neither on the case nor on the trailing
dots of its names, nor on the order of its additional nameservers. -/
theorem nsRrset_integrity (hickory : HickoryProto) (hzone : hickory.ZoneOfIsSuffix)
    (hascii : hickory.AsciiRoundTrip) (hdot : hickory.TrailingDotAlike) (hcase : hickory.CaseAlike)
    (network : ZcashNetwork) (feed : Receiver) :
    (∀ conf zone, SeedZone.new hickory network conf.domain conf.nameserver
        conf.additionalNameservers conf.ttl feed = .ok zone →
      ∃ domain targets, NsRrsetIntegrity hickory conf zone domain targets) ∧
    ∀ conf conf', Relation.ReflTransGen ZoneRespelling conf conf' →
      (Accepted hickory network feed conf ↔ Accepted hickory network feed conf') := by
  refine ⟨fun conf zone hnew => nsRrsetIntegrity_of_new hzone hnew, ?_⟩
  intro conf conf' hrespelled
  induction hrespelled with
  | refl => exact Iff.rfl
  | tail _ hstep ih => exact ih.trans (hstep.accepted_iff hzone hascii hdot hcase)

end Acceptance

/-! ## An example zone, respelled -/

section Examples

open Reference

/-- The example zone with two more nameservers. -/
def threeServerZone : ZoneConfig :=
  { exampleZone with additionalNameservers := ["Ns2.zec", "ns.test.zec"] }

/-- The same names: the domain and a nameserver in other case, another with its trailing dot, and the
additional nameservers the other way round. -/
def respelledZone : ZoneConfig where
  domain := "MAIN.zec"
  nameserver := "ns.zec" ++ "."
  additionalNameservers := ["NS.test.zec", "Ns2.zec"]
  ttl := 600

/-- The zone with three nameservers is accepted as it is written and respelled; respelled, its NS RRset
has one target for each of them, in the order in which they are listed then. -/
theorem nsRrset_integrity_exampleZone :
    Accepted reference .mainnet ⟨.mainnet⟩ threeServerZone ∧
    ∃ zone domain targets, SeedZone.new reference .mainnet respelledZone.domain
        respelledZone.nameserver respelledZone.additionalNameservers respelledZone.ttl ⟨.mainnet⟩
        = .ok zone ∧
      NsRrsetIntegrity reference respelledZone zone domain targets ∧
      targets.map (fun target => some (target.labels.map lowercaseLabel))
        = ["ns.zec", "ns.test.zec", "ns2.zec"].map reference.lowerLabels := by
  have h := nsRrset_integrity reference reference_zoneOfIsSuffix reference_asciiRoundTrip
    reference_trailingDotAlike reference_caseAlike .mainnet ⟨.mainnet⟩
  have haccepted : Accepted reference .mainnet ⟨.mainnet⟩ threeServerZone := by
    have hok : (spawnNetworkCrawler reference .mainnet threeServerZone).isOk = true := by
      decide +kernel
    exact Result.exists_ok_of_isOk hok
  -- the domain, the primary nameserver, the order of the others, and one of these
  have hrespelled : Relation.ReflTransGen ZoneRespelling threeServerZone respelledZone := by
    refine .tail (.tail (.tail (.single (.domain (@Respelling.recase _ "MAIN.zec" ?_)))
      (.nameserver (.gainDot ?_))) (.permute (.swap "ns.test.zec" "Ns2.zec" [])))
      (@ZoneRespelling.additional _ [] ["Ns2.zec"] _ "NS.test.zec" rfl (.recase ?_))
    · decide +kernel
    · exact lacksTrailingDot_of_getLast? (by decide +kernel) (by decide +kernel)
    · decide +kernel
  obtain ⟨zone, hnew⟩ := (h.2 _ _ hrespelled).mp haccepted
  obtain ⟨domain, targets, hrrset⟩ := h.1 _ zone hnew
  refine ⟨haccepted, zone, domain, targets, hnew, hrrset, ?_⟩
  obtain ⟨hlabels, -⟩ := map_lowerLabels_of_parsed hrrset.targets_parsed
  rw [← hlabels]
  decide +kernel

end Examples

end Zeeder.Serving
