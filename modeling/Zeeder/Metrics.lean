import Mathlib.Algebra.Ring.Nat
import Mathlib.Data.List.Nodup
import Mathlib.Logic.Function.Basic

/-! # Metric names and writes

The metric and label names the modelled code writes, and the two kinds of write: setting a gauge and
counting an event. Gauge values are the counts themselves; the exporter's conversion to a floating
point number is not part of the model.

* **`setGauges_key`, `setGauges_of_not_mem`** — writes to distinct series are all read back, and leave
  every other series as it was.
* **`gauges_applyAll`, `counter_applyAll`** — a registry after some writes: the gauges are set in order,
  the counters have grown by what was added. -/

namespace Zeeder.Metrics

/-- Gauge of the address book's length. -/
def peersKnown : String := "zeeder_peers_known"

/-- Gauge of the servable peers of one address family. -/
def peersServable : String := "zeeder_peers_servable"

/-- Gauge of the peers that fail servability for one reason. -/
def peersUnservable : String := "zeeder_peers_unservable"

/-- Gauge of the protocol version that peers must speak. -/
def minProtocolVersion : String := "zeeder_min_protocol_version"

/-- Gauge of the network groups that answered ready in the last sweep. -/
def activationReadyGroups : String := "zeeder_activation_ready_groups"

/-- Gauge of the network groups probed in the last sweep. -/
def activationTotalGroups : String := "zeeder_activation_total_groups"

/-- Gauge of the consecutive qualifying sweeps. -/
def activationQualifyingSweeps : String := "zeeder_activation_qualifying_sweeps"

/-- Counter of activation probes by outcome. -/
def activationProbesTotal : String := "zeeder_activation_probes_total"

/-- Gauge that is one once the activation is confirmed. -/
def activationConfirmed : String := "zeeder_activation_confirmed"

/-- Gauge that carries the build in its labels. -/
def buildInfo : String := "zeeder_build_info"

/-- Counter of requests dropped by the rate limiter. -/
def dnsRateLimitedTotal : String := "zeeder_dns_rate_limited_total"

/-- Counter of responses that could not be sent. -/
def dnsErrorsTotal : String := "zeeder_dns_errors_total"

/-- Counter of queries by record type. -/
def dnsQueriesTotal : String := "zeeder_dns_queries_total"

/-- Histogram of the addresses in a peer answer. -/
def dnsResponsePeers : String := "zeeder_dns_response_peers"

/-- Label for the address family. -/
def labelAddrFamily : String := "addr_family"

/-- Label for the reason that a peer is not servable. -/
def labelReason : String := "reason"

/-- Label for the record type of a query. -/
def labelRecordType : String := "record_type"

/-- Label for the network. -/
def labelNetwork : String := "network"

/-- Label for the version of the build. -/
def labelVersion : String := "version"

/-- Label for the commit of the build. -/
def labelGitSha : String := "git_sha"

/-- Label for the outcome of an activation probe. -/
def labelOutcome : String := "outcome"

/-- The address family of IPv4. -/
def addrFamilyIpv4 : String := "v4"

/-- The address family of IPv6. -/
def addrFamilyIpv6 : String := "v6"

/-- The record type of an address query. -/
def recordTypeA : String := "A"

/-- The record type of an IPv6 address query. -/
def recordTypeAaaa : String := "AAAA"

/-- The record type of an SOA query. -/
def recordTypeSoa : String := "SOA"

/-- The record type of a nameserver query. -/
def recordTypeNs : String := "NS"

/-- Any other record type. -/
def recordTypeOther : String := "other"

/-- A gauge with its labels, set to a count. -/
structure GaugeWrite where
  /-- The metric name. -/
  name : String
  /-- The labels, as name and value. -/
  labels : List (String × String)
  /-- The count. -/
  value : ℕ
  deriving DecidableEq, Repr

/-! ## The registry -/

/-- A series: a metric name with its labels. -/
abbrev SeriesKey : Type := String × List (String × String)

/-- The series that a write sets. -/
def GaugeWrite.key (write : GaugeWrite) : SeriesKey := (write.name, write.labels)

/-- What each gauge series was last set to; `none` before the first time. -/
abbrev Gauges : Type := SeriesKey → Option ℕ

/-- Set one gauge. -/
def setGauge (gauges : Gauges) (write : GaugeWrite) : Gauges :=
  Function.update gauges write.key (some write.value)

/-- Set gauges in order. -/
def setGauges (gauges : Gauges) (writes : List GaugeWrite) : Gauges := writes.foldl setGauge gauges

/-- A series that no write sets keeps its value. -/
theorem setGauges_of_not_mem {gauges : Gauges} {writes : List GaugeWrite} {key : SeriesKey}
    (h : key ∉ writes.map GaugeWrite.key) : setGauges gauges writes key = gauges key := by
  induction writes generalizing gauges with
  | nil => rfl
  | cons write writes ih =>
      rw [List.map_cons, List.mem_cons, not_or] at h
      rw [setGauges, List.foldl_cons, ← setGauges, ih h.2, setGauge, Function.update_of_ne h.1]

/-- **Each of several distinct series reads its own write.** -/
theorem setGauges_key {gauges : Gauges} {writes : List GaugeWrite}
    (hnodup : (writes.map GaugeWrite.key).Nodup) {write : GaugeWrite} (hwrite : write ∈ writes) :
    setGauges gauges writes write.key = some write.value := by
  induction writes generalizing gauges with
  | nil => exact absurd hwrite List.not_mem_nil
  | cons first writes ih =>
      rw [List.map_cons, List.nodup_cons] at hnodup
      rw [setGauges, List.foldl_cons, ← setGauges]
      rcases List.mem_cons.mp hwrite with rfl | hmem
      · -- no later write sets the same series
        rw [setGauges_of_not_mem hnodup.1, setGauge, Function.update_self]
      · exact ih hnodup.2 hmem

/-- A write to the registry. -/
inductive MetricWrite where
  /-- A gauge is set. -/
  | set (write : GaugeWrite)
  /-- A counter grows, from zero where it is new. -/
  | add (key : SeriesKey) (amount : ℕ)
  deriving DecidableEq

/-- The series that a write is about. -/
def MetricWrite.key : MetricWrite → SeriesKey
  | set write => write.key
  | add key _ => key

/-- The gauge that a write sets. -/
def MetricWrite.gauge? : MetricWrite → Option GaugeWrite
  | set write => some write
  | add _ _ => none

/-- How much a write adds to a counter. -/
def MetricWrite.amount (key : SeriesKey) : MetricWrite → ℕ
  | set _ => 0
  | add series amount => if series = key then amount else 0

/-- The gauges and counters of one process. -/
structure Registry where
  /-- The gauges. -/
  gauges : Gauges
  /-- The counters; `none` before the first write. -/
  counters : SeriesKey → Option ℕ

namespace Registry

/-- Before the first write. -/
def empty : Registry := ⟨fun _ => none, fun _ => none⟩

/-- What a counter reads, zero where it is new. -/
def counter (registry : Registry) (key : SeriesKey) : ℕ := (registry.counters key).getD 0

/-- One write. -/
def apply (registry : Registry) : MetricWrite → Registry
  | .set write => { registry with gauges := setGauge registry.gauges write }
  | .add key amount =>
      let counters := Function.update registry.counters key (some (registry.counter key + amount))
      { registry with counters := counters }

/-- The series that is added to. -/
@[simp] theorem counters_apply_add_self (registry : Registry) (key : SeriesKey) (amount : ℕ) :
    (registry.apply (.add key amount)).counters key = some (registry.counter key + amount) :=
  Function.update_self ..

/-- Any other series. -/
theorem counters_apply_add_of_ne (registry : Registry) {key series : SeriesKey} (h : key ≠ series)
    (amount : ℕ) :
    (registry.apply (.add series amount)).counters key = registry.counters key :=
  Function.update_of_ne h ..

/-- Writes in order. -/
def applyAll (registry : Registry) (writes : List MetricWrite) : Registry :=
  writes.foldl apply registry

/-- Writes, and then more writes. -/
theorem applyAll_append (registry : Registry) (before after : List MetricWrite) :
    registry.applyAll (before ++ after) = (registry.applyAll before).applyAll after :=
  List.foldl_append

variable {registry : Registry} {writes : List MetricWrite} {key : SeriesKey}

/-- The gauges are set in order. -/
theorem gauges_applyAll : (registry.applyAll writes).gauges
    = setGauges registry.gauges (writes.filterMap MetricWrite.gauge?) := by
  induction writes generalizing registry with
  | nil => rfl
  | cons write writes ih =>
      rw [applyAll, List.foldl_cons, ← applyAll, ih]
      cases write <;> rfl

/-- Each of several distinct gauges reads its own write. -/
theorem gauges_applyAll_of_mem
    (hnodup : ((writes.filterMap MetricWrite.gauge?).map GaugeWrite.key).Nodup) {write : GaugeWrite}
    (hwrite : .set write ∈ writes) :
    (registry.applyAll writes).gauges write.key = some write.value := by
  rw [gauges_applyAll]
  exact setGauges_key hnodup (List.mem_filterMap.mpr ⟨_, hwrite, rfl⟩)

/-- A gauge that no write sets keeps its value. -/
theorem gauges_applyAll_of_ne (h : ∀ write ∈ writes, write.key ≠ key) :
    (registry.applyAll writes).gauges key = registry.gauges key := by
  rw [gauges_applyAll]
  refine setGauges_of_not_mem fun hmem => ?_
  obtain ⟨gauge, hgauge, rfl⟩ := List.mem_map.mp hmem
  obtain ⟨write, hwrite, hset⟩ := List.mem_filterMap.mp hgauge
  cases write with
  | set write =>
      cases hset
      exact h _ hwrite rfl
  | add series amount => cases hset

/-- The counters have grown by what was added. -/
theorem counter_applyAll : (registry.applyAll writes).counter key
    = registry.counter key + (writes.map (MetricWrite.amount key)).sum := by
  induction writes generalizing registry with
  | nil => rfl
  | cons write writes ih =>
      have hwrite : (registry.apply write).counter key
          = registry.counter key + write.amount key := by
        cases write with
        | set write => rfl
        | add series amount =>
            rw [counter, MetricWrite.amount]
            by_cases hseries : series = key
            · rw [hseries, counters_apply_add_self, if_pos rfl, Option.getD_some]
            · rw [counters_apply_add_of_ne _ (Ne.symm hseries), if_neg hseries, counter]
              rfl
      rw [applyAll, List.foldl_cons, ← applyAll, ih, hwrite, List.map_cons, List.sum_cons,
        Nat.add_assoc]

/-- A counter that no write adds to stays as it is, absent or not. -/
theorem counters_applyAll_of_ne (h : ∀ write ∈ writes, write.key ≠ key) :
    (registry.applyAll writes).counters key = registry.counters key := by
  induction writes generalizing registry with
  | nil => rfl
  | cons write writes ih =>
      rw [List.forall_mem_cons] at h
      rw [applyAll, List.foldl_cons, ← applyAll, ih h.2]
      cases write with
      | set write => rfl
      | add series amount => exact counters_apply_add_of_ne _ (Ne.symm h.1) _

/-- A counter that exists goes on to exist. -/
theorem counters_applyAll_ne_none (h : registry.counters key ≠ none) :
    (registry.applyAll writes).counters key ≠ none := by
  induction writes generalizing registry with
  | nil => exact h
  | cons write writes ih =>
      refine ih ?_
      cases write with
      | set write => exact h
      | add series amount =>
          by_cases hseries : key = series
          · simp [hseries]
          · rwa [counters_apply_add_of_ne _ hseries]

/-- A counter that was added to exists. -/
theorem counters_applyAll_of_mem {amount : ℕ} (h : .add key amount ∈ writes) :
    (registry.applyAll writes).counters key ≠ none := by
  obtain ⟨before, after, rfl⟩ := List.append_of_mem h
  rw [applyAll, List.foldl_append, List.foldl_cons]
  refine counters_applyAll_ne_none ?_
  simp

end Registry

end Zeeder.Metrics
