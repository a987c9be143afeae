import Zeeder.Dns.NameserverSet
import Zeeder.Serving.Startup

/-! # The root as a published name

The texts of a zone default to the empty text, which hickory-proto parses as the root. Validation
never asks whether a text is empty. An empty domain is refused all the same, because the root contains
every nameserver; an empty nameserver lies outside every other domain, is admitted, and is published.

* **`noRootNames_iff`** — an accepted configuration publishes no root name exactly when no nameserver
  text is empty and none of a zone that can be built parses to the root. -/

namespace Zeeder.Serving

open Crawl Dns Config

section Root

variable (hickory : HickoryProto)

/-- **`from_ascii` parses the empty text** as the name without labels. -/
def EmptyTextIsRoot : Prop := ∃ root, hickory.fromAscii "" = .ok root ∧ root.labels = []

/-- **No root names**: no zone has an empty text for a name, and no zone's domain, SOA MNAME or NS
target is the root. -/
structure NoRootNames (config : SeederConfig) : Prop where
  /-- No configured text is empty. -/
  texts : ∀ network conf, config.zones network = some conf →
    conf.domain ≠ "" ∧ ∀ text ∈ conf.nameserver :: conf.additionalNameservers, text ≠ ""
  /-- No validated domain is the root. -/
  domains : ∀ network conf domain, config.zones network = some conf →
    conf.validatedDomain hickory network = .ok domain → domain.labels ≠ []
  /-- No started zone publishes the root. -/
  published : ∀ network conf zone, config.zones network = some conf →
    spawnNetworkCrawler hickory network conf = .ok zone →
      zone.domain.labels ≠ [] ∧ ∀ name ∈ zone.publishedNames, name.labels ≠ []

/-- No nameserver text is empty and, where the domain leaves room for the mailbox label, none parses
to the root. -/
def NoServerIsRoot (conf : ZoneConfig) : Prop :=
  ∀ text ∈ conf.nameserver :: conf.additionalNameservers, text ≠ "" ∧
    ∀ domain, hickory.fromAscii conf.domain = .ok domain →
      wireLength domain.labels ≤ maxDomainWireLength →
      ∀ parsed, hickory.fromAscii text = .ok parsed → parsed.labels ≠ []

end Root

section Accepted

variable {hickory : HickoryProto} {config : SeederConfig}

/-- Every zone of an accepted configuration was validated. -/
theorem exists_validatedDomain (hvalid : config.validate hickory = .ok ()) {network : ZcashNetwork}
    {conf : ZoneConfig} (hconf : config.zones network = some conf) :
    ∃ domain, conf.validatedDomain hickory network = .ok domain := by
  obtain ⟨-, ⟨zoneDomains, hdomains, -⟩, -⟩ := validate_ok_iff.mp hvalid
  obtain ⟨i, hi, hentry⟩ := List.mem_iff_getElem.mp (SeederConfig.mem_entries.mpr hconf)
  have hdomain := (hdomains.get hi (hdomains.length_eq ▸ hi)).2
  rw [List.get_eq_getElem, hentry] at hdomain
  exact ⟨_, hdomain⟩

/-- A validated domain is not the root. -/
theorem labels_ne_nil_of_validatedDomain (hzone : hickory.ZoneOfIsSuffix) {network : ZcashNetwork}
    {conf : ZoneConfig} {domain : LowerName}
    (h : conf.validatedDomain hickory network = .ok domain) : domain.labels ≠ [] := by
  obtain ⟨parsed, -, ⟨names, hadmitted⟩, rfl⟩ := validatedDomain_ok_iff.mp h
  have hne := labels_ne_nil_of_admitted hzone hadmitted
  rwa [LowerName.ofName_labels, Ne, List.map_eq_nil_iff]

/-- Every nameserver of a zone that was built is published under the name it parses to. -/
theorem mem_publishedNames_of_text {network : ZcashNetwork} {conf : ZoneConfig} {zone : SeedZone}
    (h : spawnNetworkCrawler hickory network conf = .ok zone) {text : String}
    (htext : text ∈ conf.nameserver :: conf.additionalNameservers) {parsed : Name}
    (hparsed : hickory.fromAscii text = .ok parsed) : parsed.setFqdn true ∈ zone.publishedNames := by
  obtain ⟨domain, names, -, hadmitted, -, hpublishes⟩ := seedZoneNew_publishes h
  rw [hpublishes.mem_publishedNames]
  obtain ⟨i, hi, rfl⟩ := List.mem_iff_getElem.mp htext
  have hi' : i < names.length := hadmitted.parsed.length_eq ▸ hi
  obtain ⟨other, hother, hname⟩ := hadmitted.parsed.get hi hi'
  rw [List.get_eq_getElem, hparsed] at hother
  cases hother
  rw [hname]
  exact List.getElem_mem hi'

/-- Every name that a built zone publishes is what one of its nameserver texts parses to. -/
theorem exists_text_of_mem_publishedNames {network : ZcashNetwork} {conf : ZoneConfig}
    {zone : SeedZone} (h : spawnNetworkCrawler hickory network conf = .ok zone) {name : Name}
    (hname : name ∈ zone.publishedNames) :
    ∃ text ∈ conf.nameserver :: conf.additionalNameservers, ∃ parsed,
      hickory.fromAscii text = .ok parsed ∧ parsed.setFqdn true = name := by
  obtain ⟨domain, names, -, hadmitted, -, hpublishes⟩ := seedZoneNew_publishes h
  obtain ⟨i, hi, rfl⟩ := List.mem_iff_getElem.mp (hpublishes.mem_publishedNames.mp hname)
  have hi' : i < (conf.nameserver :: conf.additionalNameservers).length :=
    hadmitted.parsed.length_eq ▸ hi
  exact ⟨_, List.getElem_mem hi', hadmitted.parsed.get hi' hi⟩

/-- The text of a validated domain is not empty: the empty one would be the root. -/
theorem domain_ne_empty_of_validatedDomain (hzone : hickory.ZoneOfIsSuffix)
    (hempty : EmptyTextIsRoot hickory) {network : ZcashNetwork} {conf : ZoneConfig}
    {domain : LowerName} (h : conf.validatedDomain hickory network = .ok domain) :
    conf.domain ≠ "" := by
  intro hdomain
  obtain ⟨root, hroot, hlabels⟩ := hempty
  obtain ⟨parsed, hparsed, -, rfl⟩ := validatedDomain_ok_iff.mp h
  rw [hdomain, hroot] at hparsed
  cases hparsed
  refine labels_ne_nil_of_validatedDomain hzone h ?_
  rw [LowerName.ofName_labels, Name.setFqdn_labels, hlabels, List.map_nil]

/-- Where no root name is published, no nameserver text of a zone that can be built is one. -/
theorem NoRootNames.labels_ne_nil (hzone : hickory.ZoneOfIsSuffix) (hascii : hickory.AsciiRoundTrip)
    (h : NoRootNames hickory config) (hvalid : config.validate hickory = .ok ())
    {network : ZcashNetwork} {conf : ZoneConfig} (hconf : config.zones network = some conf)
    {domain : Name} (hdomain : hickory.fromAscii conf.domain = .ok domain)
    (hfits : wireLength domain.labels ≤ maxDomainWireLength) {text : String}
    (htext : text ∈ conf.nameserver :: conf.additionalNameservers) {parsed : Name}
    (hparsed : hickory.fromAscii text = .ok parsed) : parsed.labels ≠ [] := by
  obtain ⟨_, hvalidated⟩ := exists_validatedDomain hvalid hconf
  obtain ⟨other, hother, hnames, -⟩ := validatedDomain_ok_iff.mp hvalidated
  rw [hdomain] at hother
  cases hother
  -- the zone can be built, and publishes this nameserver
  obtain ⟨zone, hspawn, -⟩ : ∃ zone, spawnNetworkCrawler hickory network conf = .ok zone ∧
      zone.domain = .ofName (domain.setFqdn true) :=
    (seedZoneNew_ok_iff hzone hascii).mpr ⟨domain, hdomain, hnames, hfits, rfl⟩
  have hne := (h.published network conf zone hconf hspawn).2 _
    (mem_publishedNames_of_text hspawn htext hparsed)
  rwa [Name.setFqdn_labels] at hne

/-- **No root name is published exactly when no nameserver text is one.** For an accepted
configuration the domains are never the root; the nameservers are not exactly when none of their
texts is empty and none of a zone that can be built parses to the root. -/
theorem noRootNames_iff (hickory : HickoryProto) (hzone : hickory.ZoneOfIsSuffix)
    (hascii : hickory.AsciiRoundTrip) (hempty : EmptyTextIsRoot hickory) (config : SeederConfig)
    (hvalid : config.validate hickory = .ok ()) :
    NoRootNames hickory config ↔
      ∀ network conf, config.zones network = some conf → NoServerIsRoot hickory conf := by
  constructor
  · intro h network conf hconf text htext
    refine ⟨(h.texts network conf hconf).2 text htext, ?_⟩
    intro domain hdomain hfits parsed hparsed
    exact h.labels_ne_nil hzone hascii hvalid hconf hdomain hfits htext hparsed
  · intro h
    refine ⟨?_, ?_, ?_⟩
    · intro network conf hconf
      obtain ⟨domain, hvalidated⟩ := exists_validatedDomain hvalid hconf
      exact ⟨domain_ne_empty_of_validatedDomain hzone hempty hvalidated,
        fun text htext => (h network conf hconf text htext).1⟩
    · intro network conf domain _ hvalidated
      exact labels_ne_nil_of_validatedDomain hzone hvalidated
    · intro network conf zone hconf hspawn
      refine ⟨labels_ne_nil_of_validatedDomain hzone (validatedDomain_of_seedZoneNew hspawn), ?_⟩
      intro name hname
      obtain ⟨text, htext, parsed, hparsed, rfl⟩ := exists_text_of_mem_publishedNames hspawn hname
      obtain ⟨domain, hdomain, -, hfits, -⟩ :=
        (seedZoneNew_ok_iff hzone hascii).mp ⟨zone, hspawn, rfl⟩
      exact (h network conf hconf text htext).2 domain hdomain hfits parsed hparsed

end Accepted

/-! ## A zone without a nameserver -/

section Examples

open Reference

theorem reference_emptyTextIsRoot : EmptyTextIsRoot reference :=
  ⟨⟨[], false, by decide, by decide⟩, by decide +kernel, rfl⟩

/-- The example configuration publishes no root name. -/
theorem noRootNames_exampleConfig : NoRootNames reference exampleConfig := by
  refine (noRootNames_iff reference reference_zoneOfIsSuffix reference_asciiRoundTrip
    reference_emptyTextIsRoot exampleConfig (by decide +kernel)).mpr ?_
  intro network conf hconf text htext
  have hone : conf = exampleZone := by
    cases network with
    | mainnet => exact (Option.some.inj hconf).symm
    | testnet => cases hconf
  subst hone
  obtain rfl : text = "ns.zec" := List.mem_singleton.mp htext
  refine ⟨by decide, fun _ _ _ parsed hparsed hroot => ?_⟩
  have hlabels : ((reference.fromAscii "ns.zec").map fun name => name.labels.length) = .ok 2 := by
    decide +kernel
  rw [hparsed] at hlabels
  have hlength : parsed.labels.length = 2 := Except.ok.inj hlabels
  rw [hroot] at hlength
  cases hlength

/-- A configuration of one zone that sets nothing but its domain. -/
def unnamedConfig : SeederConfig where
  zones
    | .mainnet => some { ZoneConfig.default with domain := "main.zec" }
    | .testnet => none
  rateLimit := some .default

/-- **A zone without a nameserver passes validation and publishes the root** as its MNAME and NS
target. -/
theorem unnamedConfig_publishes_root :
    unnamedConfig.validate reference = .ok () ∧
      ((startZones reference unnamedConfig).map fun zones =>
        zones.map fun zone => zone.publishedNames.map (·.labels)) = .ok [[[], []]] ∧
      ¬ NoRootNames reference unnamedConfig := by
  refine ⟨by decide +kernel, by decide +kernel, fun h => ?_⟩
  exact (h.texts .mainnet _ rfl).2 "" List.mem_cons_self rfl

end Examples

end Zeeder.Serving
