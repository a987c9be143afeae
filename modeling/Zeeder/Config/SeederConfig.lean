import Zeeder.Dns.Nameservers
import Zeeder.Network.Types
import Zeeder.Foundation.Regions

/-! # Configuration and its validation

The configured zones, one per network, with the checks every configuration passes before anything is
started: at least one zone, every zone's names valid, zone domains disjoint, nonzero rate limits.

* **`validatedDomain_ok_iff`** — a zone is accepted exactly when its domain parses and its
  nameservers are admitted.
* **`ensureZonesAreDisjoint_ok_iff`** — the nested index loop accepts exactly the pairwise disjoint
  domain lists. -/

namespace Zeeder.Config

open Dns

/-! ## The configured data -/

/-- Authoritative DNS identity for a single network's seed zone. -/
structure ZoneConfig where
  /-- The domain name this zone is authoritative for. -/
  domain : String
  /-- The primary authoritative nameserver. -/
  nameserver : String
  /-- Additional authoritative nameservers. -/
  additionalNameservers : List String
  /-- DNS response TTL in seconds. -/
  ttl : UInt32
  deriving DecidableEq, Repr

/-- The zone that every missing field defaults to. -/
def ZoneConfig.default : ZoneConfig := ⟨"", "", [], 600⟩

/-- Configuration for DNS query rate limiting. -/
structure RateLimitConfig where
  /-- Maximum queries per second per IP address. -/
  queriesPerSecond : UInt32
  /-- Burst capacity. -/
  burstSize : UInt32
  deriving DecidableEq, Repr

/-- The default rate limit. -/
def RateLimitConfig.default : RateLimitConfig := ⟨10, 20⟩

/-- The part of the process configuration that validation and start-up read. The zones are a map keyed
by network. -/
structure SeederConfig where
  /-- Per-network served zones. -/
  zones : ZcashNetwork → Option ZoneConfig
  /-- Rate limiting; `none` disables it. -/
  rateLimit : Option RateLimitConfig

/-- The default configuration has no zone. -/
def SeederConfig.default : SeederConfig := ⟨fun _ => none, some .default⟩

/-- The configured zones, in the order of their keys. -/
def SeederConfig.entries (config : SeederConfig) : List (ZcashNetwork × ZoneConfig) :=
  [ZcashNetwork.mainnet, .testnet].filterMap fun network =>
    (config.zones network).map fun zone => (network, zone)

theorem SeederConfig.mem_entries {config : SeederConfig} {network : ZcashNetwork}
    {zone : ZoneConfig} : (network, zone) ∈ config.entries ↔ config.zones network = some zone := by
  cases network <;> simp [entries]

/-! ## Names -/

section Names

variable (hickory : HickoryProto)

/-- One character of a string literal, as `Debug` prints it (the ASCII part of the table). -/
def debugChar (c : Char) : List Char :=
  if c.toNat = 34 then ['\\', c]
  else if c = '\\' then ['\\', c]
  else if c = '\n' then ['\\', 'n']
  else if c = '\r' then ['\\', 'r']
  else if c = '\t' then ['\\', 't']
  else if c.toNat = 0 then ['\\', '0']
  else if c.toNat < 32 ∨ c.toNat = 127 then
    "\\u\x7b".toList ++ Nat.toDigits 16 c.toNat ++ "\x7d".toList
  else [c]

/-- The quoted and escaped text that `Debug` prints for a string. -/
def debugText (text : String) : String :=
  String.ofList ("\"".toList ++ text.toList.flatMap debugChar ++ "\"".toList)

/-- The error context of a configured name that does not parse. -/
def dnsNameContext (field text : String) : String :=
  field ++ " must be a valid DNS name: " ++ debugText text

/-- Parse a configured name and make it fully qualified. -/
def parseDnsName (field nameText : String) : Result Name :=
  hickory.parseFqdn (dnsNameContext field nameText) nameText

/-- The text of the out-of-zone check. -/
def outOfZoneText : String :=
  "nameserver must be outside its zone domain because Zeeder does not serve address records "
    ++ "for nameserver hostnames"

/-- Refuse a nameserver inside its zone's domain. -/
def ensureNameserverIsOutOfZone (domain nameserver : Name) : Result Unit :=
  Result.ensure (!hickory.zoneOf (.ofName domain) (.ofName nameserver)) outOfZoneText

/-- Refuse a nameserver inside its zone's domain or already listed. -/
def validateNameserver (domain : Name) (nameservers : Finset LowerName) (field : String)
    (nameserver : Name) : Result (Finset LowerName) := do
  ensureNameserverIsOutOfZone hickory domain nameserver
  Result.ensure (decide (LowerName.ofName nameserver ∉ nameservers))
    (field ++ " duplicates another nameserver in the zone")
  return insert (LowerName.ofName nameserver) nameservers

/-- The check is the one that zone construction makes, with its own text. -/
theorem validateNameserver_eq (domain : Name) (nameservers : Finset LowerName) (field : String)
    (nameserver : Name) :
    validateNameserver hickory domain nameservers field nameserver
      = hickory.admitNameserver (.ofName domain) outOfZoneText field nameservers nameserver := rfl

/-- The path of a zone's field. -/
def zoneField (network : ZcashNetwork) (field : String) : String :=
  "zones." ++ network.label ++ "." ++ field

/-- The path of an additional nameserver. -/
def additionalField (network : ZcashNetwork) (index : ℕ) : String :=
  zoneField network ("additional_nameservers[" ++ toString index ++ "]")

/-- Parse and validate a zone, returning its domain for cross-zone checks. The walk over the
additional nameservers also carries their names, which are not used. -/
def ZoneConfig.validatedDomain (zone : ZoneConfig) (network : ZcashNetwork) : Result LowerName := do
  let domain ← parseDnsName hickory (zoneField network "domain") zone.domain
  let primaryNameserver ← parseDnsName hickory (zoneField network "nameserver") zone.nameserver
  let nameservers ←
    validateNameserver hickory domain ∅ (zoneField network "nameserver") primaryNameserver
  let _ ← hickory.admitNameservers dnsNameContext (.ofName domain) outOfZoneText
    (zone.additionalNameservers.zipIdx.map fun (text, index) =>
      (additionalField network index, text))
    [] nameservers
  return LowerName.ofName domain

end Names

/-! ## Zones -/

section Zones

variable (hickory : HickoryProto)

/-- The text of the overlap check. -/
def overlapText (left right : ZcashNetwork × LowerName) : String :=
  "zones " ++ left.1.label ++ " (" ++ hickory.displayText left.2.name ++ ") and " ++ right.1.label
    ++ " (" ++ hickory.displayText right.2.name
    ++ ") overlap; each zone domain must be disjoint so queries route unambiguously"

/-- The inner loop: compare one zone with the zones after it. -/
def ensureDisjointFrom (left : ZcashNetwork × LowerName) :
    List (ZcashNetwork × LowerName) → Result Unit
  | [] => .ok ()
  | right :: rest => do
      Result.ensure (!hickory.zoneOf left.2 right.2 && !hickory.zoneOf right.2 left.2)
        (overlapText hickory left right)
      ensureDisjointFrom left rest

/-- The outer loop, over the zones with their indices. -/
def ensureDisjointLoop (zoneDomains : List (ZcashNetwork × LowerName)) :
    List ((ZcashNetwork × LowerName) × ℕ) → Result Unit
  | [] => .ok ()
  | (left, outerIndex) :: rest => do
      ensureDisjointFrom hickory left (zoneDomains.drop (outerIndex + 1))
      ensureDisjointLoop zoneDomains rest

/-- Reject zones whose domains are equal or nested. -/
def ensureZonesAreDisjoint (zoneDomains : List (ZcashNetwork × LowerName)) : Result Unit :=
  ensureDisjointLoop hickory zoneDomains zoneDomains.zipIdx

/-- Refuse a zero in the rate limit. -/
def nonzeroConfigValue (field : String) (configuredValue : UInt32) :
    Result {value : UInt32 // value ≠ 0} :=
  if h : configuredValue ≠ 0 then .ok ⟨configuredValue, h⟩
  else Result.fail (field ++ " must be greater than 0")

def RateLimitConfig.nonzeroQueriesPerSecond (config : RateLimitConfig) :
    Result {value : UInt32 // value ≠ 0} :=
  nonzeroConfigValue "rate_limit.queries_per_second" config.queriesPerSecond

def RateLimitConfig.nonzeroBurstSize (config : RateLimitConfig) :
    Result {value : UInt32 // value ≠ 0} :=
  nonzeroConfigValue "rate_limit.burst_size" config.burstSize

def RateLimitConfig.validate (config : RateLimitConfig) : Result Unit := do
  let _ ← config.nonzeroQueriesPerSecond
  let _ ← config.nonzeroBurstSize
  return ()

/-- The checks every loaded configuration passes. -/
def SeederConfig.validate (config : SeederConfig) : Result Unit := do
  Result.ensure (!config.entries.isEmpty)
    "at least one zone must be configured, e.g. [zones.mainnet] or [zones.testnet]"
  let zoneDomains ← config.entries.mapM fun (network, zone) => do
    let domain ← zone.validatedDomain hickory network
    return (network, domain)
  ensureZonesAreDisjoint hickory zoneDomains
  match config.rateLimit with
  | some rateLimit => rateLimit.validate
  | none => .ok ()

end Zones

/-! ## What the checks accept -/

section Accepted

variable {hickory : HickoryProto}

/-- The texts of the additional nameservers under their fields. -/
theorem map_snd_additionalFields (network : ZcashNetwork) (texts : List String) :
    (texts.zipIdx.map fun (text, index) => (additionalField network index, text)).map (·.2)
      = texts := by
  rw [List.map_map]
  exact List.zipIdx_map_fst 0 texts

/-- **A zone is accepted exactly when its domain parses and its nameservers are admitted.** -/
theorem validatedDomain_ok_iff {zone : ZoneConfig} {network : ZcashNetwork} {domain : LowerName} :
    zone.validatedDomain hickory network = .ok domain ↔
      ∃ parsed, hickory.fromAscii zone.domain = .ok parsed ∧
        (∃ names, hickory.AdmittedNameservers (.ofName (parsed.setFqdn true)) ∅
          (zone.nameserver :: zone.additionalNameservers) names) ∧
        .ofName (parsed.setFqdn true) = domain := by
  unfold ZoneConfig.validatedDomain parseDnsName
  constructor
  · intro h
    obtain ⟨domain', hdomain, hzone⟩ := Result.bind_ok_iff.mp h
    obtain ⟨parsed, hparsed, rfl⟩ := HickoryProto.parseFqdn_ok_iff.mp hdomain
    obtain ⟨primary, hprimary, hservers⟩ := Result.bind_ok_iff.mp hzone
    obtain ⟨seen, hseen, hwalk⟩ := Result.bind_ok_iff.mp hservers
    obtain ⟨names, hnames, hreturn⟩ := Result.bind_ok_iff.mp hwalk
    rw [validateNameserver_eq, HickoryProto.admitNameserver_ok_iff] at hseen
    obtain ⟨hout, hfresh, hinsert⟩ := hseen
    rw [← hinsert] at hnames
    -- the primary nameserver and the walk over the others are one walk over all of them
    obtain ⟨added, -, hadded⟩ := HickoryProto.admitNameservers_ok_iff.mp hnames
    rw [map_snd_additionalFields] at hadded
    exact ⟨parsed, hparsed, ⟨primary :: added, HickoryProto.admittedNameservers_cons_iff.mpr
      ⟨HickoryProto.parseFqdn_ok_iff.mp hprimary, hout, hfresh, hadded⟩⟩, Except.ok.inj hreturn⟩
  · rintro ⟨parsed, hparsed, ⟨names, hnames⟩, rfl⟩
    cases names with
    | nil => cases hnames.parsed
    | cons primary added =>
        obtain ⟨hprimary, hout, hfresh, hadded⟩ :=
          HickoryProto.admittedNameservers_cons_iff.mp hnames
        refine Result.bind_ok_iff.mpr
          ⟨_, HickoryProto.parseFqdn_ok_iff.mpr ⟨parsed, hparsed, rfl⟩, ?_⟩
        refine Result.bind_ok_iff.mpr ⟨_, HickoryProto.parseFqdn_ok_iff.mpr hprimary, ?_⟩
        refine Result.bind_ok_iff.mpr ⟨insert (.ofName primary) ∅, ?_, ?_⟩
        · rw [validateNameserver_eq, HickoryProto.admitNameserver_ok_iff]
          exact ⟨hout, hfresh, rfl⟩
        · refine Result.bind_ok_iff.mpr ⟨added, HickoryProto.admitNameservers_ok_iff.mpr
            ⟨added, rfl, ?_⟩, rfl⟩
          rwa [map_snd_additionalFields]

theorem ensureDisjointFrom_ok_iff {left : ZcashNetwork × LowerName}
    {zoneDomains : List (ZcashNetwork × LowerName)} :
    ensureDisjointFrom hickory left zoneDomains = .ok () ↔
      ∀ right ∈ zoneDomains, hickory.zoneOf left.2 right.2 = false ∧
        hickory.zoneOf right.2 left.2 = false := by
  induction zoneDomains with
  | nil => simp [ensureDisjointFrom]
  | cons right rest ih => simp [ensureDisjointFrom, Result.bind_unit_ok_iff, ih]

theorem ensureDisjointLoop_ok_iff {all rest : List (ZcashNetwork × LowerName)} {k : ℕ}
    (hrest : all.drop k = rest) :
    ensureDisjointLoop hickory all (rest.zipIdx k) = .ok () ↔
      rest.Pairwise fun left right => hickory.zoneOf left.2 right.2 = false ∧
        hickory.zoneOf right.2 left.2 = false := by
  induction rest generalizing k with
  | nil => simp [ensureDisjointLoop]
  | cons left rest ih =>
      -- the loop at index `k` looks at what lies after `k`
      have hdrop : all.drop (k + 1) = rest := by
        rw [← List.drop_drop, hrest]
        rfl
      rw [List.zipIdx_cons, ensureDisjointLoop, Result.bind_unit_ok_iff, List.pairwise_cons, hdrop,
        ensureDisjointFrom_ok_iff, ih hdrop]

/-- **The nested loop accepts exactly the pairwise disjoint domains.** -/
theorem ensureZonesAreDisjoint_ok_iff {zoneDomains : List (ZcashNetwork × LowerName)} :
    ensureZonesAreDisjoint hickory zoneDomains = .ok () ↔
      (zoneDomains.map (·.2)).Pairwise fun left right => hickory.zoneOf left right = false ∧
        hickory.zoneOf right left = false := by
  rw [ensureZonesAreDisjoint, ensureDisjointLoop_ok_iff (List.drop_zero), List.pairwise_map]

/-- **What validation accepts**: at least one zone, every zone's domain, disjoint domains, and a
valid rate limit if there is one. -/
theorem validate_ok_iff {config : SeederConfig} :
    config.validate hickory = .ok () ↔ config.entries ≠ [] ∧
      (∃ zoneDomains, List.Forall₂ (fun entry zoneDomain => zoneDomain.1 = entry.1 ∧
          ZoneConfig.validatedDomain hickory entry.2 entry.1 = .ok zoneDomain.2)
          config.entries zoneDomains ∧
        ensureZonesAreDisjoint hickory zoneDomains = .ok ()) ∧
      ∀ rateLimit, config.rateLimit = some rateLimit → rateLimit.validate = .ok () := by
  have hstep : ∀ (entry : ZcashNetwork × ZoneConfig) (zoneDomain : ZcashNetwork × LowerName),
      ((do
        let domain ← ZoneConfig.validatedDomain hickory entry.2 entry.1
        return (entry.1, domain) : Result (ZcashNetwork × LowerName)) = .ok zoneDomain) ↔
      zoneDomain.1 = entry.1 ∧
        ZoneConfig.validatedDomain hickory entry.2 entry.1 = .ok zoneDomain.2 := by
    intro entry zoneDomain
    rw [Result.bind_ok_iff]
    constructor
    · rintro ⟨domain, hdomain, heq⟩
      cases heq
      exact ⟨rfl, hdomain⟩
    · rintro ⟨hnetwork, hdomain⟩
      exact ⟨_, hdomain, congrArg Except.ok (Prod.ext hnetwork.symm rfl)⟩
  have hrate : (match config.rateLimit with
      | some rateLimit => rateLimit.validate
      | none => .ok ()) = .ok () ↔
      ∀ rateLimit, config.rateLimit = some rateLimit → rateLimit.validate = .ok () := by
    cases config.rateLimit with
    | none => simp
    | some rateLimit => simp
  unfold SeederConfig.validate
  simp only [Result.bind_unit_ok_iff, Result.ensure_ok_iff, Result.bind_ok_iff (α := List _),
    Result.mapM_ok_iff, hstep, hrate]
  simp only [Bool.not_eq_true', List.isEmpty_eq_false_iff]
  refine and_congr_right fun _ => ?_
  constructor
  · rintro ⟨zones, hzones, hdisjoint, hlimit⟩
    exact ⟨⟨zones, hzones, hdisjoint⟩, hlimit⟩
  · rintro ⟨⟨zones, hzones, hdisjoint⟩, hlimit⟩
    exact ⟨zones, hzones, hdisjoint, hlimit⟩

end Accepted

end Zeeder.Config
