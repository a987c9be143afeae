import Zeeder.Serving.Routing

/-! # Only the apex answers

The specification of a response: outside every zone REFUSED, strictly below a zone's domain NODATA
with that zone's SOA, and at the domain itself what `apexAnswer` lists. The handler finds the apex by
comparing label counts inside the matched zone, and hickory-proto does not count a leading `*`, so
`*.<domain>` passes for the apex.

* **`onlyApexAnswers_iff`** — the response to a query meets the specification exactly when the query
  name is not `*` before a zone's domain, or that domain starts with `*` itself, or the type has no
  data at the apex. -/

namespace Zeeder.Serving

open Crawl Dns Config

/-! ## The specification -/

/-- The answer and authority sections that a zone owes to a query for its own domain. -/
def apexAnswer (zone : SeedZone) (peers : ServablePeers) (queryName : LowerName) :
    RecordType → List Record × List Record
  | .a => (peers.ipv4.map (addressRecord zone queryName),
      if peers.ipv4 = [] then [zone.records.soa] else [])
  | .aaaa => (peers.ipv6.map (addressRecord zone queryName),
      if peers.ipv6 = [] then [zone.records.soa] else [])
  | .ns => (zone.records.nameservers, [])
  | .soa => ([zone.records.soa], [])
  | .other _ => ([], [zone.records.soa])

/-- Whether a record type has data at the apex. -/
def HasApexData (peers : ServablePeers) : RecordType → Prop
  | .a => peers.ipv4 ≠ []
  | .aaaa => peers.ipv6 ≠ []
  | .ns => True
  | .soa => True
  | .other _ => False

/-- **Only the apex answers**: the specification of the response to a query. -/
structure OnlyApexAnswers (hickory : HickoryProto) (handler : DnsRequestHandler)
    (feeds : Receiver → ServablePeers) (query : Query) (response : Response) : Prop where
  /-- A nonempty answer section is a matched zone's, for its own domain. -/
  answers_apex : response.answers ≠ [] → ∃ zone,
    handler.matchingZone hickory query.name = some zone ∧ query.name.labels = zone.domain.labels
  /-- Outside every zone: REFUSED, no records. -/
  outside : (∀ zone ∈ handler.zones, zone.contains hickory query.name = false) →
    response.metadata.responseCode = .refused ∧ response.answers = [] ∧ response.authorities = []
  /-- Strictly below a domain: NODATA with the zone's SOA. -/
  below : ∀ zone ∈ handler.zones, zone.contains hickory query.name = true →
    query.name.labels ≠ zone.domain.labels →
    response.metadata.responseCode = .noError ∧ response.answers = [] ∧
      response.authorities = [zone.records.soa]
  /-- At a domain: what the zone owes to the type. -/
  apex : ∀ zone ∈ handler.zones, query.name.labels = zone.domain.labels →
    response.metadata.responseCode = .noError ∧ (response.answers, response.authorities)
      = apexAnswer zone (feeds zone.servablePeers) query.name query.queryType

/-! ## The handler's answer -/

section Answer

variable {hickory : HickoryProto} {zone : SeedZone} {peers : ServablePeers} {queryName : LowerName}
  {recordType : RecordType}

/-- The sections that the handler builds from a zone's answer. -/
def zoneSections (hickory : HickoryProto) (zone : SeedZone) (peers : ServablePeers)
    (queryName : LowerName) (recordType : RecordType) : List Record × List Record :=
  let records := (zone.responseRecordsForAnswer queryName
    (zone.resolveAnswer hickory queryName recordType peers)).1
  (records.answerRecords, records.soaRecords)

theorem zoneSections_of_numLabels_ne
    (h : hickory.numLabels queryName ≠ hickory.numLabels zone.domain) :
    zoneSections hickory zone peers queryName recordType = ([], [zone.records.soa]) := by
  unfold zoneSections SeedZone.resolveAnswer
  rw [if_pos h]
  rfl

/-- With the domain's label count, a query gets the apex answer. -/
theorem zoneSections_of_numLabels_eq
    (h : hickory.numLabels queryName = hickory.numLabels zone.domain) :
    zoneSections hickory zone peers queryName recordType
      = apexAnswer zone peers queryName recordType := by
  have hpeers : ∀ family : List PeerSocketAddr,
      let records := (zone.responseRecordsForAnswer queryName (resolvePeerAnswer family)).1
      (records.answerRecords, records.soaRecords) = (family.map (addressRecord zone queryName),
        if family = [] then [zone.records.soa] else []) := by
    intro family
    cases family <;> rfl
  unfold zoneSections SeedZone.resolveAnswer
  rw [if_neg (not_not.mpr h)]
  cases recordType with
  | a => exact hpeers peers.ipv4
  | aaaa => exact hpeers peers.ipv6
  | ns => rfl
  | soa => rfl
  | other code => rfl

theorem apexAnswer_of_not_hasApexData (h : ¬ HasApexData peers recordType) :
    apexAnswer zone peers queryName recordType = ([], [zone.records.soa]) := by
  cases recordType with
  | a =>
      have hnil : peers.ipv4 = [] := not_not.mp h
      simp only [apexAnswer, hnil, List.map_nil, if_true]
  | aaaa =>
      have hnil : peers.ipv6 = [] := not_not.mp h
      simp only [apexAnswer, hnil, List.map_nil, if_true]
  | ns => exact absurd trivial h
  | soa => exact absurd trivial h
  | other code => rfl

theorem apexAnswer_ne_nil_of_hasApexData (hbuilt : zone.Built hickory)
    (h : HasApexData peers recordType) :
    (apexAnswer zone peers queryName recordType).1 ≠ [] := by
  cases recordType with
  | a => simpa [HasApexData, apexAnswer] using h
  | aaaa => simpa [HasApexData, apexAnswer] using h
  | ns => exact hbuilt.records.1
  | soa => exact List.cons_ne_nil _ _
  | other code => exact h.elim

/-- In a zone, the handler's label comparison accepts the domain itself and `*` before it. -/
theorem numLabels_eq_iff (hzone : hickory.ZoneOfIsSuffix) (hcount : hickory.NumLabelsSkipsWildcard)
    (hcontains : zone.contains hickory queryName = true) :
    hickory.numLabels queryName = hickory.numLabels zone.domain ↔
      queryName.labels = zone.domain.labels ∨ queryName.labels = wildcardLabel :: zone.domain.labels ∧
        zone.domain.labels.head? ≠ some wildcardLabel := by
  rw [← UInt8.toNat_inj, hcount, hcount]
  exact countedLabels_eq_iff ((hzone _ _).mp hcontains)

variable {handler : DnsRequestHandler} {feeds : Receiver → ServablePeers} {request : Request}
  {query : Query}

variable (feeds request) in
theorem responseTo_of_matchingZone_eq_some
    (h : handler.matchingZone hickory query.name = some zone) :
    let response := handler.responseTo hickory feeds request query
    response.metadata.responseCode = .noError ∧ (response.answers, response.authorities)
      = zoneSections hickory zone (feeds zone.servablePeers) query.name query.queryType := by
  simp only [DnsRequestHandler.responseTo, DnsRequestHandler.answerQuery, h]
  exact ⟨trivial, rfl⟩

theorem responseTo_of_matchingZone_eq_none
    (h : handler.matchingZone hickory query.name = none) :
    let response := handler.responseTo hickory feeds request query
    response.metadata.responseCode = .refused ∧ response.answers = [] ∧
      response.authorities = [] := by
  simp only [DnsRequestHandler.responseTo, DnsRequestHandler.answerQuery, h]
  exact ⟨trivial, rfl, rfl⟩

/-- No query is `*` before a zone's domain and of a type with data at the apex, unless the domain
starts with `*` itself. -/
def NotWildcardOfApex (handler : DnsRequestHandler) (feeds : Receiver → ServablePeers)
    (query : Query) : Prop :=
  ∀ zone ∈ handler.zones, query.name.labels = wildcardLabel :: zone.domain.labels →
    zone.domain.labels.head? = some wildcardLabel ∨
      ¬ HasApexData (feeds zone.servablePeers) query.queryType

theorem contains_of_labels_eq (hzone : hickory.ZoneOfIsSuffix)
    (h : queryName.labels = zone.domain.labels) : zone.contains hickory queryName = true := by
  refine (hzone _ _).mpr ?_
  rw [h]

/-- Strictly below a domain, the sections are NODATA, but for `*` before the domain. -/
theorem zoneSections_below (hzone : hickory.ZoneOfIsSuffix)
    (hcount : hickory.NumLabelsSkipsWildcard) (hnot : NotWildcardOfApex handler feeds query)
    (hmem : zone ∈ handler.zones) (hcontains : zone.contains hickory query.name = true)
    (hne : query.name.labels ≠ zone.domain.labels) :
    zoneSections hickory zone (feeds zone.servablePeers) query.name query.queryType
      = ([], [zone.records.soa]) := by
  by_cases hlabels : hickory.numLabels query.name = hickory.numLabels zone.domain
  · rcases (numLabels_eq_iff hzone hcount hcontains).mp hlabels with heq | ⟨hwildcard, hhead⟩
    · exact absurd heq hne
    · -- the query passes for the apex, and the type has nothing there
      have hnodata := (hnot zone hmem hwildcard).resolve_left hhead
      rw [zoneSections_of_numLabels_eq hlabels, apexAnswer_of_not_hasApexData hnodata]
  · exact zoneSections_of_numLabels_ne hlabels

section Response

variable (hzone : hickory.ZoneOfIsSuffix) (hcount : hickory.NumLabelsSkipsWildcard)
  (haccepted : AcceptedZones hickory handler.zones)

include hzone haccepted

variable (feeds request) in
/-- Within a zone, a response's sections are the zone's. -/
theorem responseTo_of_contains (hmem : zone ∈ handler.zones)
    (hcontains : zone.contains hickory query.name = true) :
    let response := handler.responseTo hickory feeds request query
    response.metadata.responseCode = .noError ∧ (response.answers, response.authorities)
      = zoneSections hickory zone (feeds zone.servablePeers) query.name query.queryType :=
  responseTo_of_matchingZone_eq_some feeds request
    ((haccepted.matchingZone_eq_some_iff hzone).mpr ⟨hmem, hcontains⟩)

include hcount

/-- A response that meets the specification answers no query for the wildcard of an apex: the
specification demands an empty answer there, the handler gives the apex answer. -/
theorem notWildcardOfApex_of_onlyApexAnswers
    (h : OnlyApexAnswers hickory handler feeds query
      (handler.responseTo hickory feeds request query)) :
    NotWildcardOfApex handler feeds query := by
  intro zone hmem hwildcard
  by_contra hcon
  rw [not_or, not_not] at hcon
  have hcontains : zone.contains hickory query.name = true := by
    refine (hzone _ _).mpr ?_
    rw [hwildcard]
    exact List.suffix_cons _ _
  have hne : query.name.labels ≠ zone.domain.labels := by
    rw [hwildcard]
    exact List.cons_ne_self _ _
  obtain ⟨-, hempty, -⟩ := h.below zone hmem hcontains hne
  have hlabels := (numLabels_eq_iff hzone hcount hcontains).mpr (.inr ⟨hwildcard, hcon.1⟩)
  have hsections := (responseTo_of_contains feeds request hzone haccepted hmem hcontains).2
  rw [zoneSections_of_numLabels_eq hlabels, hempty] at hsections
  exact apexAnswer_ne_nil_of_hasApexData (haccepted.built zone hmem) hcon.2
    (congrArg Prod.fst hsections).symm

/-- Off the wildcard of an apex, a response below a domain is NODATA. -/
theorem responseTo_below (hnot : NotWildcardOfApex handler feeds query)
    (hmem : zone ∈ handler.zones) (hcontains : zone.contains hickory query.name = true)
    (hne : query.name.labels ≠ zone.domain.labels) :
    let response := handler.responseTo hickory feeds request query
    response.metadata.responseCode = .noError ∧ response.answers = [] ∧
      response.authorities = [zone.records.soa] := by
  obtain ⟨hcode, hsections⟩ := responseTo_of_contains feeds request hzone haccepted hmem hcontains
  rw [zoneSections_below hzone hcount hnot hmem hcontains hne, Prod.mk.injEq] at hsections
  exact ⟨hcode, hsections⟩

variable (request) in
/-- The response to a query meets the specification exactly off the wildcard of an apex. -/
theorem onlyApexAnswers_responseTo_iff :
    OnlyApexAnswers hickory handler feeds query
        (handler.responseTo hickory feeds request query) ↔
      NotWildcardOfApex handler feeds query := by
  refine ⟨notWildcardOfApex_of_onlyApexAnswers hzone hcount haccepted, fun hnot => ?_⟩
  refine ⟨fun hne => ?_, fun hout => ?_, fun zone hmem hcontains hbelow =>
    responseTo_below hzone hcount haccepted hnot hmem hcontains hbelow, fun zone hmem heq => ?_⟩
  · -- an answer comes from a zone, and not from below its domain
    cases hzonematch : handler.matchingZone hickory query.name with
    | none => exact absurd (responseTo_of_matchingZone_eq_none hzonematch).2.1 hne
    | some zone =>
        obtain ⟨hmem, hcontains⟩ := DnsRequestHandler.matchingZone_eq_some hzonematch
        refine ⟨zone, rfl, ?_⟩
        by_contra hbelow
        exact hne (responseTo_below hzone hcount haccepted hnot hmem hcontains hbelow).2.1
  · exact responseTo_of_matchingZone_eq_none
      (DnsRequestHandler.matchingZone_eq_none_iff.mpr hout)
  · have hcontains := contains_of_labels_eq hzone heq
    have hresponse := responseTo_of_contains feeds request hzone haccepted hmem hcontains
    rwa [zoneSections_of_numLabels_eq
      ((numLabels_eq_iff hzone hcount hcontains).mpr (.inl heq))] at hresponse

end Response

end Answer

/-- **Only the apex answers, but for its wildcard.** For every handler over accepted zones, every
snapshot and every admitted request, the response meets the specification exactly when the query is
not `*` before the domain of a zone, unless that domain starts with `*` itself or the type has no
data at its apex. -/
theorem onlyApexAnswers_iff (hickory : HickoryProto) (hzone : hickory.ZoneOfIsSuffix)
    (hcount : hickory.NumLabelsSkipsWildcard) (handler : DnsRequestHandler)
    (haccepted : AcceptedZones hickory handler.zones) (feeds : Receiver → ServablePeers)
    (verdict : IpAddr → Bool) (request : Request) (sendSucceeds : Bool) (query : Query)
    (hquery : request.queries.head? = some query)
    (hadmits : handler.Admits verdict request) :
    (∀ response,
      .sendResponse response ∈ handler.answerRequest hickory feeds verdict request sendSucceeds →
      OnlyApexAnswers hickory handler feeds query response) ↔
    NotWildcardOfApex handler feeds query := by
  rw [← onlyApexAnswers_responseTo_iff request hzone hcount haccepted]
  constructor
  · intro h
    exact h _ ((DnsRequestHandler.sendResponse_mem_answerRequest hquery).mpr ⟨hadmits, rfl⟩)
  · intro h response hsent
    obtain ⟨-, rfl⟩ := (DnsRequestHandler.sendResponse_mem_answerRequest hquery).mp hsent
    exact h

/-! ## A query for the wildcard of an apex -/

section Examples

open Reference

/-- The labels of `main.zec`. -/
def mainZec : List Label := [[109, 97, 105, 110], [122, 101, 99]]

/-- The example configuration starts one accepted zone, `main.zec`. -/
theorem exampleConfig_started : ∃ zone, startZones reference exampleConfig = .ok [zone] ∧
    AcceptedZones reference [zone] ∧ zone.domain.labels = mainZec := by
  have hok : (startZones reference exampleConfig).isOk = true := by decide +kernel
  have hdomains : ((startZones reference exampleConfig).map fun zones =>
      zones.map fun zone => zone.domain.labels) = .ok [mainZec] := by decide +kernel
  obtain ⟨zones, hstart⟩ := Result.exists_ok_of_isOk hok
  rw [hstart] at hdomains
  obtain ⟨zone, hzones, hlabels⟩ := List.map_eq_singleton_iff.mp (Except.ok.inj hdomains)
  rw [hzones] at hstart
  exact ⟨zone, hstart, acceptedZones_of_startZones (by decide +kernel) hstart, hlabels⟩

/-- `*.main.zec`, type `NS`. -/
def wildcardQuery : Query where
  originalName := ⟨wildcardLabel :: mainZec, true, by decide, by decide⟩
  queryType := .ns

/-- `Main.zec`, type `NS`. -/
def apexQuery : Query where
  originalName := ⟨[[77, 97, 105, 110], [122, 101, 99]], true, by decide, by decide⟩
  queryType := .ns

/-- A request from `9.9.9.9` with one query. -/
def requestFor (query : Query) : Request where
  src := ⟨.v4 ⟨9, 9, 9, 9⟩, 5353⟩
  metadata := ⟨7, false, .noError⟩
  queries := [query]

/-- The response to the apex query meets the specification. -/
theorem onlyApexAnswers_apexQuery : ∃ zone, startZones reference exampleConfig = .ok [zone] ∧
    ∀ response, .sendResponse response ∈ DnsRequestHandler.answerRequest reference ⟨[zone], none⟩
        (fun _ => .default) (fun _ => true) (requestFor apexQuery) true →
      OnlyApexAnswers reference ⟨[zone], none⟩ (fun _ => .default) apexQuery response := by
  obtain ⟨zone, hstart, haccepted, hlabels⟩ := exampleConfig_started
  refine ⟨zone, hstart, (onlyApexAnswers_iff reference reference_zoneOfIsSuffix
    reference_numLabelsSkipsWildcard ⟨[zone], none⟩ haccepted (fun _ => .default) (fun _ => true)
    (requestFor apexQuery) true apexQuery rfl (.inl rfl)).mpr ?_⟩
  intro other hother hwildcard
  rw [List.mem_singleton.mp hother, hlabels] at hwildcard
  exact absurd hwildcard (by decide +kernel)

/-- **A query for `*.main.zec` is answered as if it were for `main.zec`.** -/
theorem not_onlyApexAnswers_wildcardQuery :
    exampleConfig.validate reference = .ok () ∧
    ∃ zone, startZones reference exampleConfig = .ok [zone] ∧
    ¬ ∀ response, .sendResponse response ∈ DnsRequestHandler.answerRequest reference
        ⟨[zone], none⟩ (fun _ => .default) (fun _ => true) (requestFor wildcardQuery) true →
      OnlyApexAnswers reference ⟨[zone], none⟩ (fun _ => .default) wildcardQuery response := by
  obtain ⟨zone, hstart, haccepted, hlabels⟩ := exampleConfig_started
  refine ⟨by decide +kernel, zone, hstart, fun h => ?_⟩
  have hsent : RequestEffect.sendResponse (DnsRequestHandler.responseTo reference ⟨[zone], none⟩
        (fun _ => .default) (requestFor wildcardQuery) wildcardQuery)
      ∈ DnsRequestHandler.answerRequest reference ⟨[zone], none⟩ (fun _ => .default)
        (fun _ => true) (requestFor wildcardQuery) true :=
    (DnsRequestHandler.sendResponse_mem_answerRequest rfl).mpr ⟨.inl rfl, rfl⟩
  have hnot := (onlyApexAnswers_responseTo_iff (requestFor wildcardQuery) reference_zoneOfIsSuffix
    reference_numLabelsSkipsWildcard haccepted).mp (h _ hsent)
  have hquery : wildcardQuery.name.labels = wildcardLabel :: zone.domain.labels := by
    rw [hlabels]
    decide +kernel
  rcases hnot zone (List.mem_singleton_self _) hquery with hhead | hdata
  · rw [hlabels] at hhead
    exact absurd hhead (by decide)
  · exact hdata trivial

end Examples

end Zeeder.Serving
