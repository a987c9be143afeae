import Zeeder.Crawl.AddressCache
import Zeeder.Foundation.Text

/-! # The readiness response

`/ready` reads every zone's cached snapshot and compares its total with the threshold. The snapshot
is the one DNS answers are made of, cut off at 25 addresses per family, and so is the total.

* **`bodyLines_readinessReply`** — the body has one line per zone, with that zone's cached total.
* **`readinessReflects_iff`** — the response speaks about the real servable counts exactly when no
  zone has more servable peers of a family than a snapshot holds. -/

namespace Zeeder.Health

open Crawl Foundation

/-- A network paired with its live servable-peer feed. -/
abbrev ZoneReadiness := ZcashNetwork × Receiver

/-- The text of a plain HTTP/1.1 response. -/
def httpResponse (status : ℕ) (reason body : String) : String :=
  "HTTP/1.1 " ++ toString status ++ " " ++ reason ++ "\r\n"
    ++ "Content-Type: text/plain; charset=utf-8\r\n"
    ++ "Content-Length: " ++ toString body.utf8ByteSize ++ "\r\n"
    ++ "Connection: close\r\n"
    ++ "\r\n"
    ++ body

/-- The three parts a response is formatted from. -/
structure HttpReply where
  /-- The status code. -/
  status : ℕ
  /-- The reason phrase. -/
  reason : String
  /-- The body. -/
  body : String
  deriving DecidableEq, Repr

/-- One zone's line of the body, without its newline. -/
def readinessLine (network : ZcashNetwork) (servable : ℕ) (state : String) : String :=
  network.label ++ ": " ++ toString servable ++ " servable peers (" ++ state ++ ")"

/-- The local variables of the loop over the zones. -/
structure ReadinessState where
  /-- Whether every zone so far is ready. -/
  allReady : Bool
  /-- The lines written so far. -/
  body : String

section Response

variable (feeds : Receiver → ServablePeers) (readyThreshold : ℕ)

/-- The loop's body: compare one zone's cached total with the threshold and write its line. -/
def readinessStep (state : ReadinessState) (zone : ZoneReadiness) : ReadinessState :=
  let servable := (feeds zone.2).total
  let ready := decide (readyThreshold ≤ servable)
  { allReady := state.allReady && ready
    body := state.body
      ++ (readinessLine zone.1 servable (if ready then "ready" else "not ready") ++ "\n") }

/-- The status, reason and body of the readiness response. -/
def readinessReply (zones : List ZoneReadiness) : HttpReply :=
  let state := zones.foldl (readinessStep feeds readyThreshold) ⟨true, ""⟩
  if state.allReady then ⟨200, "OK", state.body⟩
  else ⟨503, "Service Unavailable", state.body⟩

/-- The text of the readiness response. -/
def readinessResponse (zones : List ZoneReadiness) : String :=
  let reply := readinessReply feeds readyThreshold zones
  httpResponse reply.status reply.reason reply.body

end Response

/-- The lines of a body, and what follows the last newline. -/
def bodyLines (body : String) : List (List Char) := body.toList.splitOn '\n'

section Reply

variable {feeds : Receiver → ServablePeers} {readyThreshold : ℕ}

/-- The loop's variables after all zones. -/
theorem foldl_readinessStep (zones : List ZoneReadiness) (state : ReadinessState) :
    zones.foldl (readinessStep feeds readyThreshold) state
      = { allReady := state.allReady &&
            zones.all fun zone => decide (readyThreshold ≤ (feeds zone.2).total)
          body := state.body ++ String.join (zones.map fun zone =>
            (readinessStep feeds readyThreshold ⟨true, ""⟩ zone).body) } := by
  induction zones generalizing state with
  | nil => simp
  | cons zone zones ih =>
      rw [List.foldl_cons, ih]
      simp [readinessStep, Bool.and_assoc, String.append_assoc]

/-- **The status compares every zone's cached total** with the threshold. -/
theorem status_readinessReply (zones : List ZoneReadiness) :
    (readinessReply feeds readyThreshold zones).status
      = if ∀ zone ∈ zones, readyThreshold ≤ (feeds zone.2).total then 200 else 503 := by
  unfold readinessReply
  rw [foldl_readinessStep]
  by_cases h : ∀ zone ∈ zones, readyThreshold ≤ (feeds zone.2).total
  · rw [if_pos h, if_pos (by simpa using h)]
  · rw [if_neg h, if_neg (by simpa using h)]

/-- The word a zone's line ends with. -/
def readinessWord (feeds : Receiver → ServablePeers) (readyThreshold : ℕ) (zone : ZoneReadiness) :
    String :=
  if readyThreshold ≤ (feeds zone.2).total then "ready" else "not ready"

theorem newline_not_mem_readinessLine (network : ZcashNetwork) (servable : ℕ) {state : String}
    (h : '\n' ∉ state.toList) : '\n' ∉ (readinessLine network servable state).toList := by
  have hcount : '\n' ∉ servable.repr.toList := not_mem_repr (by decide) servable
  have hlabel : '\n' ∉ network.label.toList := by cases network <;> decide
  simp only [readinessLine, String.toList_append, List.mem_append, not_or]
  exact ⟨⟨⟨⟨⟨hlabel, by decide⟩, hcount⟩, by decide⟩, h⟩, by decide⟩

/-- **One line per zone**, in order, with that zone's cached total. -/
theorem bodyLines_readinessReply (zones : List ZoneReadiness) :
    bodyLines (readinessReply feeds readyThreshold zones).body
      = (zones.map fun zone => (readinessLine zone.1 (feeds zone.2).total
          (readinessWord feeds readyThreshold zone)).toList) ++ [[]] := by
  have hbody : (readinessReply feeds readyThreshold zones).body.toList
      = (zones.map fun zone => (readinessLine zone.1 (feeds zone.2).total
          (readinessWord feeds readyThreshold zone)).toList).flatMap (· ++ ['\n']) := by
    have hloop : (readinessReply feeds readyThreshold zones).body
        = (zones.foldl (readinessStep feeds readyThreshold) ⟨true, ""⟩).body := by
      unfold readinessReply; dsimp only; split <;> rfl
    rw [hloop, foldl_readinessStep]
    simp [readinessStep, readinessWord, List.flatMap_map]
  rw [bodyLines, hbody]
  -- no line contains a newline of its own
  refine splitOn_terminated _ fun line hline => ?_
  obtain ⟨zone, -, rfl⟩ := List.mem_map.mp hline
  refine newline_not_mem_readinessLine _ _ ?_
  unfold readinessWord
  split <;> decide

end Reply

/-! ## The real servable counts -/

section Refreshed

variable (updaters : ZcashNetwork → CacheUpdater) (refreshes : ZcashNetwork → Refresh)

/-- The feeds once the given refresh of every network has been published. -/
def refreshedFeeds (receiver : Receiver) : ServablePeers :=
  (updaters receiver.updater).snapshot (refreshes receiver.updater)

/-- The readiness pairs of the zones of the given networks. -/
def readinessZones (networks : List ZcashNetwork) : List ZoneReadiness :=
  networks.map fun network => (network, ⟨network⟩)

/-- The number of peers in a network's address book that `classifyPeer` accepts, both families
together. -/
def realServable (network : ZcashNetwork) : ℕ :=
  (updaters network).servableCount (refreshes network) true
    + (updaters network).servableCount (refreshes network) false

/-- **The readiness response reflects the real servable counts**: it is `200` when every zone's count
reaches the threshold and `503` otherwise, and the line of every zone carries that zone's count. -/
structure ReadinessReflects (readyThreshold : ℕ) (networks : List ZcashNetwork) : Prop where
  /-- `200` exactly when every zone has enough servable peers. -/
  ok_iff : (readinessReply (refreshedFeeds updaters refreshes) readyThreshold
      (readinessZones networks)).status = 200
    ↔ ∀ network ∈ networks, readyThreshold ≤ realServable updaters refreshes network
  /-- Otherwise `503`. -/
  unavailable : (readinessReply (refreshedFeeds updaters refreshes) readyThreshold
      (readinessZones networks)).status ≠ 200 →
    (readinessReply (refreshedFeeds updaters refreshes) readyThreshold
      (readinessZones networks)).status = 503
  /-- Every zone's line carries its servable count. -/
  lines : ∀ (i : ℕ) (network : ZcashNetwork), networks[i]? = some network →
    ∃ state, (bodyLines (readinessReply (refreshedFeeds updaters refreshes) readyThreshold
      (readinessZones networks)).body)[i]?
        = some (readinessLine network (realServable updaters refreshes network) state).toList

variable {updaters refreshes}

theorem total_refreshedFeeds (network : ZcashNetwork) :
    (refreshedFeeds updaters refreshes ⟨network⟩).total
      = min maxDnsResponsePeers ((updaters network).servableCount (refreshes network) true)
        + min maxDnsResponsePeers ((updaters network).servableCount (refreshes network) false) :=
  total_snapshot _ _

/-- A snapshot's total is the real count exactly when neither family exceeds the cap. -/
theorem total_refreshedFeeds_eq_iff (network : ZcashNetwork) :
    (refreshedFeeds updaters refreshes ⟨network⟩).total = realServable updaters refreshes network ↔
      (updaters network).servableCount (refreshes network) true ≤ maxDnsResponsePeers ∧
      (updaters network).servableCount (refreshes network) false ≤ maxDnsResponsePeers := by
  rw [total_refreshedFeeds, realServable]
  omega

/-- A line determines its count. -/
theorem readinessLine_count_inj {network : ZcashNetwork} {m n : ℕ} {state state' : String}
    (h : (readinessLine network m state).toList = (readinessLine network n state').toList) :
    m = n := by
  -- the count is the field between the label and the next space
  have hsep : (" servable peers (" : String).toList = ' ' :: "servable peers (".toList := rfl
  simp only [readinessLine, String.toList_append, List.append_assoc] at h
  have htail := List.append_cancel_left (List.append_cancel_left h)
  rw [hsep, List.cons_append, List.cons_append] at htail
  exact decimal_field_inj (by decide) htail

variable (updaters refreshes) in
/-- The line of the `i`-th zone carries its cached total. -/
theorem getElem?_bodyLines (readyThreshold : ℕ) {i : ℕ} {networks : List ZcashNetwork}
    {network : ZcashNetwork} (h : networks[i]? = some network) :
    ∃ state, (bodyLines (readinessReply (refreshedFeeds updaters refreshes) readyThreshold
      (readinessZones networks)).body)[i]? = some (readinessLine network
        (refreshedFeeds updaters refreshes ⟨network⟩).total state).toList := by
  obtain ⟨hi, hget⟩ := List.getElem?_eq_some_iff.mp h
  refine ⟨readinessWord (refreshedFeeds updaters refreshes) readyThreshold (network, ⟨network⟩), ?_⟩
  rw [bodyLines_readinessReply, List.getElem?_append_left (by simpa [readinessZones] using hi)]
  simp [readinessZones, h]

/-- **Readiness reflects the real servable counts exactly when no zone has more than 25 servable
peers of a family**: beyond that, the count read from the DNS snapshot is cut off. -/
theorem readinessReflects_iff (updaters : ZcashNetwork → CacheUpdater)
    (refreshes : ZcashNetwork → Refresh) (readyThreshold : ℕ) (networks : List ZcashNetwork) :
    ReadinessReflects updaters refreshes readyThreshold networks ↔
      ∀ network ∈ networks,
        (updaters network).servableCount (refreshes network) true ≤ maxDnsResponsePeers ∧
        (updaters network).servableCount (refreshes network) false ≤ maxDnsResponsePeers := by
  constructor
  · intro h network hmem
    -- the zone's line carries both its cached total and its real count
    obtain ⟨i, hi⟩ := List.getElem?_of_mem hmem
    obtain ⟨state, hcached⟩ := getElem?_bodyLines updaters refreshes readyThreshold hi
    obtain ⟨state', hreal⟩ := h.lines i network hi
    rw [hcached, Option.some_inj] at hreal
    exact (total_refreshedFeeds_eq_iff network).mp (readinessLine_count_inj hreal)
  · intro h
    -- nothing is cut off, so cached totals are real counts
    have htotal : ∀ network ∈ networks, (refreshedFeeds updaters refreshes ⟨network⟩).total
        = realServable updaters refreshes network := fun network hmem =>
      (total_refreshedFeeds_eq_iff network).mpr (h network hmem)
    refine ⟨?_, ?_, ?_⟩
    · rw [status_readinessReply]
      have hzones : (∀ zone ∈ readinessZones networks,
            readyThreshold ≤ (refreshedFeeds updaters refreshes zone.2).total)
          ↔ ∀ network ∈ networks, readyThreshold ≤ realServable updaters refreshes network := by
        simp only [readinessZones, List.forall_mem_map]
        exact forall₂_congr fun network hmem => by rw [htotal network hmem]
      rw [if_congr hzones rfl rfl]
      split <;> simp_all
    · rw [status_readinessReply]
      split <;> simp
    · intro i network hi
      have hcached := getElem?_bodyLines updaters refreshes readyThreshold hi
      rwa [htotal network (List.mem_of_getElem? hi)] at hcached

end Refreshed

/-! ## A book with more servable peers than a snapshot holds -/

/-- A servable peer of the example network at `1.2.3.host`. -/
def examplePeer (host : UInt8) : MetaAddr where
  addr := ⟨.v4 ⟨1, 2, 3, host⟩, 8233⟩
  wasRecentlyLive _ := true
  negotiatedVersion := some ⟨20⟩
  lastKnownInfoIsValidForOutbound _ := true
  isInbound := false

/-- A book of thirty servable IPv4 peers. -/
def thirtyPeers : AddressBook where
  peers := (List.range 30).map fun host => examplePeer (UInt8.ofNat host)
  len := 30
  misbehaviorScore _ := 0

/-- The example network's cache updater. -/
def exampleUpdater (network : ZcashNetwork) : CacheUpdater := ⟨network, exampleNetwork, ⟨20⟩⟩

/-- A refresh over that book. -/
def thirtyPeersRefresh : Refresh := ⟨⟨20⟩, thirtyPeers, 0, .unshuffled⟩

/-- **Thirty servable peers do not reach a threshold of thirty.** -/
theorem not_readinessReflects_thirtyPeers :
    ¬ ReadinessReflects exampleUpdater (fun _ => thirtyPeersRefresh) 30 [.mainnet] := by
  intro h
  have hstatus := h.ok_iff.mpr (by decide +kernel)
  rw [status_readinessReply, if_neg (by decide +kernel)] at hstatus
  exact absurd hstatus (by decide)

end Zeeder.Health
