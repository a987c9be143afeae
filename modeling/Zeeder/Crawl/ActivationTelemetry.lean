import Zeeder.Crawl.CacheRefresh
import Zeeder.Crawl.ConcurrentSweep
import Zeeder.Crawl.PeerGauges

/-! # What the activation observer exports

The observer writes four gauges and a counter for each probe outcome, all under its network's label:
before its loop, after every sweep and when it confirms. Next to them stands the gauge of the protocol
floor, which the start of the network and the confirmation set.

* **`DescribesObserver`** — the gauges show the last sweep, the gate and the confirmation, and the
  counters add up to the sweeps.
* **`DescribesObserver.sweep`, `DescribesObserver.confirm`** — what the observer writes keeps this so. -/

namespace Zeeder.Crawl

open Foundation Metrics

/-! ## The series -/

/-- A series with a network label only. -/
def networkKey (name : String) (network : ZcashNetwork) : SeriesKey :=
  (name, [(labelNetwork, network.label)])

/-- The counter of a network's probes with one outcome. -/
def probesKey (network : ZcashNetwork) (outcome : String) : SeriesKey :=
  (activationProbesTotal, [(labelNetwork, network.label), (labelOutcome, outcome)])

/-- A gauge with a network label only is set. -/
def setNetworkGauge (name : String) (network : ZcashNetwork) (value : ℕ) : MetricWrite :=
  .set ⟨name, [(labelNetwork, network.label)], value⟩

/-- The gauges of a network's observer. -/
def observerGauges : List String :=
  [activationTotalGroups, activationReadyGroups, activationQualifyingSweeps, activationConfirmed]

/-- The series of a network's observer. -/
def observerSeries (network : ZcashNetwork) : List SeriesKey :=
  observerGauges.map (networkKey · network)
    ++ ProbeOutcome.all.map fun outcome => probesKey network outcome.label

theorem gauge_mem_observerSeries {name : String} (h : name ∈ observerGauges)
    (network : ZcashNetwork) : networkKey name network ∈ observerSeries network :=
  List.mem_append_left _ (List.mem_map_of_mem h)

theorem probesKey_mem_observerSeries (network : ZcashNetwork) (outcome : ProbeOutcome) :
    probesKey network outcome.label ∈ observerSeries network :=
  List.mem_append_right _ (List.mem_map_of_mem outcome.mem_all)

@[simp] theorem probesKey_inj {network : ZcashNetwork} {a b : String} :
    probesKey network a = probesKey network b ↔ a = b := by
  simp [probesKey]

/-! ## The writes -/

/-- Publish the evidence of a sweep and the streak. -/
def publishObservationMetrics (network : ZcashNetwork) (evidence : SweepEvidence)
    (qualifyingSweeps : UInt8) : List MetricWrite :=
  [setNetworkGauge activationTotalGroups network evidence.totalGroups,
    setNetworkGauge activationReadyGroups network evidence.readyGroups,
    setNetworkGauge activationQualifyingSweeps network qualifyingSweeps.toNat]

/-- What the observer writes before its loop. -/
def observerStartWrites (network : ZcashNetwork) (tip : SeederChainTip) : List MetricWrite :=
  publishObservationMetrics network ⟨0, 0⟩ 0
    ++ [setNetworkGauge activationConfirmed network (if tip.isActivationConfirmed then 1 else 0)]
    -- every outcome at zero, so that its first probe is an increase
    ++ if tip.isActivationConfirmed then []
      else ProbeOutcome.all.map fun outcome => .add (probesKey network outcome.label) 0

/-- What one sweep writes: each joined probe, then the evidence and the gate's streak. -/
def sweepWrites (network : ZcashNetwork) (report : SweepReport) (gate : ActivationGate) :
    List MetricWrite :=
  report.probesCounted.map (fun outcome => .add (probesKey network outcome) 1)
    ++ publishObservationMetrics network report.evidence gate.qualifyingSweeps

/-- What a confirmation writes. -/
def confirmWrites (network : ZcashNetwork) (target : ActivationTarget) : List MetricWrite :=
  [setNetworkGauge minProtocolVersion network target.requiredVersion.val.toNat,
    setNetworkGauge activationConfirmed network 1]

/-! ## The probe counters -/

/-- A report's increments by outcome: the ready ones are the ready groups, and together they are the
groups that were sampled. -/
def SweepReport.CountsProbes (report : SweepReport) : Prop :=
  report.probesCounted.count ProbeOutcome.ready.label = report.evidence.readyGroups ∧
    (ProbeOutcome.all.map fun outcome => report.probesCounted.count outcome.label).sum
      = report.evidence.totalGroups

theorem countsProbes_observeSweep (target : ActivationTarget) (sampledPeers : List PeerSocketAddr)
    (probe : PeerSocketAddr → Except JoinError ConnectResult)
    (completion : Shuffle (Except JoinError ConnectResult)) :
    (observeSweep target sampledPeers probe completion).CountsProbes := by
  have hcount (outcomes : List ProbeOutcome) (outcome : ProbeOutcome) :
      (outcomes.map ProbeOutcome.label).count outcome.label = outcomes.count outcome :=
    List.count_map_of_injective _ _ ProbeOutcome.label_injective _
  simp only [SweepReport.CountsProbes, observeSweep, foldl_countProbe_probesCounted,
    foldl_countProbe_evidence, List.nil_append, hcount, Nat.zero_add, true_and]
  rw [sum_map_count_eq_length ProbeOutcome.nodup_all ProbeOutcome.mem_all, List.length_map,
    (completion.perm _).length_eq, List.length_map]

section Writes

variable {network : ZcashNetwork} {registry : Registry}

/-- Increments of the probe counters. -/
theorem counter_applyAll_probes (outcomes : List String) (outcome : String) :
    (registry.applyAll (outcomes.map fun o => .add (probesKey network o) 1)).counter
        (probesKey network outcome)
      = registry.counter (probesKey network outcome) + outcomes.count outcome := by
  rw [Registry.counter_applyAll, List.map_map]
  congr 1
  induction outcomes with
  | nil => rfl
  | cons first outcomes ih =>
      rw [List.map_cons, List.sum_cons, ih, List.count_cons, Nat.add_comm]
      simp [MetricWrite.amount]

end Writes

/-! ## What the series describe -/

/-- A network's observer series describe its sweeps so far and whether its tip is raised. -/
structure DescribesObserver (registry : Registry) (network : ZcashNetwork) (raised : Bool)
    (swept : List SweepEvidence) : Prop where
  /-- The confirmation. -/
  confirmed : registry.gauges (networkKey activationConfirmed network)
    = some (if raised then 1 else 0)
  /-- The groups of the last sweep. -/
  total : registry.gauges (networkKey activationTotalGroups network)
    = some (swept.getLast?.elim 0 SweepEvidence.totalGroups)
  /-- The ready groups of the last sweep. -/
  ready : registry.gauges (networkKey activationReadyGroups network)
    = some (swept.getLast?.elim 0 SweepEvidence.readyGroups)
  /-- The streak that the gate has counted. -/
  qualifying : registry.gauges (networkKey activationQualifyingSweeps network)
    = some (ActivationGate.run swept).qualifyingSweeps.toNat
  /-- The probes of all outcomes are the groups of all sweeps. -/
  probed : (ProbeOutcome.all.map fun outcome =>
      registry.counter (probesKey network outcome.label)).sum
    = (swept.map SweepEvidence.totalGroups).sum
  /-- The ready probes are the ready groups of all sweeps. -/
  succeeded : registry.counter (probesKey network ProbeOutcome.ready.label)
    = (swept.map SweepEvidence.readyGroups).sum
  /-- Unless there was nothing to observe, every outcome is exported, probed or not. -/
  exported : raised = true ∧ swept = [] ∨
    ∀ outcome : ProbeOutcome, registry.counters (probesKey network outcome.label) ≠ none

section Describes

variable {network : ZcashNetwork} {registry : Registry} {raised : Bool} {swept : List SweepEvidence}
  {writes : List MetricWrite}

/-- Writes to other series. -/
theorem DescribesObserver.frame (h : DescribesObserver registry network raised swept)
    (hother : ∀ write ∈ writes, write.key ∉ observerSeries network) :
    DescribesObserver (registry.applyAll writes) network raised swept := by
  have hgauge {name : String} (hname : name ∈ observerGauges) :
      (registry.applyAll writes).gauges (networkKey name network)
        = registry.gauges (networkKey name network) :=
    Registry.gauges_applyAll_of_ne fun write hwrite heq =>
      hother write hwrite (heq ▸ gauge_mem_observerSeries hname network)
  have hcounter (outcome : ProbeOutcome) :
      (registry.applyAll writes).counters (probesKey network outcome.label)
        = registry.counters (probesKey network outcome.label) :=
    Registry.counters_applyAll_of_ne fun write hwrite heq =>
      hother write hwrite (heq ▸ probesKey_mem_observerSeries network outcome)
  exact
    { confirmed := (hgauge (by simp [observerGauges])).trans h.confirmed
      total := (hgauge (by simp [observerGauges])).trans h.total
      ready := (hgauge (by simp [observerGauges])).trans h.ready
      qualifying := (hgauge (by simp [observerGauges])).trans h.qualifying
      probed := by
        simp only [Registry.counter, hcounter]
        exact h.probed
      succeeded := by
        rw [Registry.counter, hcounter]
        exact h.succeeded
      exported := h.exported.imp_right fun hexported outcome => by
        rw [hcounter]
        exact hexported outcome }

/-- Each of several distinct gauges reads what it was set to. -/
theorem gauges_setNetworkGauge
    (hnodup : ((writes.filterMap MetricWrite.gauge?).map GaugeWrite.key).Nodup) {name : String}
    {value : ℕ} (h : setNetworkGauge name network value ∈ writes) :
    (registry.applyAll writes).gauges (networkKey name network) = some value :=
  Registry.gauges_applyAll_of_mem hnodup h

/-- What publishing the evidence of a sweep sets. -/
theorem gauges_publish (registry : Registry) (network : ZcashNetwork) (evidence : SweepEvidence)
    (qualifyingSweeps : UInt8) :
    let published := registry.applyAll (publishObservationMetrics network evidence qualifyingSweeps)
    published.gauges (networkKey activationTotalGroups network) = some evidence.totalGroups ∧
      published.gauges (networkKey activationReadyGroups network) = some evidence.readyGroups ∧
      published.gauges (networkKey activationQualifyingSweeps network)
        = some qualifyingSweeps.toNat := by
  have hnodup : (((publishObservationMetrics network evidence qualifyingSweeps).filterMap
      MetricWrite.gauge?).map GaugeWrite.key).Nodup := by
    simp [publishObservationMetrics, setNetworkGauge, MetricWrite.gauge?, GaugeWrite.key,
      activationTotalGroups, activationReadyGroups, activationQualifyingSweeps]
  refine ⟨gauges_setNetworkGauge hnodup ?_, gauges_setNetworkGauge hnodup ?_,
    gauges_setNetworkGauge hnodup ?_⟩ <;> simp [publishObservationMetrics]

/-- Publishing leaves other gauges and all counters alone. -/
theorem gauges_publish_of_ne (registry : Registry) {network : ZcashNetwork} {key : SeriesKey}
    (evidence : SweepEvidence) (qualifyingSweeps : UInt8)
    (htotal : key ≠ networkKey activationTotalGroups network)
    (hready : key ≠ networkKey activationReadyGroups network)
    (hqualifying : key ≠ networkKey activationQualifyingSweeps network) :
    (registry.applyAll (publishObservationMetrics network evidence qualifyingSweeps)).gauges key
      = registry.gauges key := by
  refine Registry.gauges_applyAll_of_ne fun write hwrite => ?_
  simp only [publishObservationMetrics, List.mem_cons, List.not_mem_nil, or_false] at hwrite
  rcases hwrite with rfl | rfl | rfl
  · exact htotal.symm
  · exact hready.symm
  · exact hqualifying.symm

@[simp] theorem counters_publish (registry : Registry) (network : ZcashNetwork)
    (evidence : SweepEvidence) (qualifyingSweeps : UInt8) :
    (registry.applyAll (publishObservationMetrics network evidence qualifyingSweeps)).counters
      = registry.counters := rfl

/-- **Before the loop**: no sweep, and the tip as it was spawned. -/
theorem describesObserver_start (tip : SeederChainTip)
    (hfresh : ∀ outcome : ProbeOutcome, registry.counters (probesKey network outcome.label) = none) :
    DescribesObserver (registry.applyAll (observerStartWrites network tip)) network
      tip.isActivationConfirmed [] := by
  have hnodup : (((observerStartWrites network tip).filterMap MetricWrite.gauge?).map
      GaugeWrite.key).Nodup := by
    unfold observerStartWrites
    cases tip.isActivationConfirmed <;>
      simp [publishObservationMetrics, setNetworkGauge, MetricWrite.gauge?, GaugeWrite.key,
        activationTotalGroups, activationReadyGroups, activationQualifyingSweeps,
        activationConfirmed, Function.comp_def]
  have hcounter (outcome : ProbeOutcome) :
      (registry.applyAll (observerStartWrites network tip)).counter
        (probesKey network outcome.label) = 0 := by
    -- whatever is added is zero
    have hzero : ∀ write ∈ observerStartWrites network tip,
        write.amount (probesKey network outcome.label) = 0 := by
      unfold observerStartWrites
      cases tip.isActivationConfirmed <;>
        simp [publishObservationMetrics, setNetworkGauge, MetricWrite.amount]
    rw [Registry.counter_applyAll, Registry.counter, hfresh, List.map_congr_left hzero]
    simp
  refine ⟨?_, ?_, ?_, ?_, ?_, hcounter _, ?_⟩
  · exact gauges_setNetworkGauge hnodup (by simp [observerStartWrites])
  · exact gauges_setNetworkGauge hnodup (by simp [observerStartWrites, publishObservationMetrics])
  · exact gauges_setNetworkGauge hnodup (by simp [observerStartWrites, publishObservationMetrics])
  · show _ = some (0 : UInt8).toNat
    exact gauges_setNetworkGauge hnodup (by simp [observerStartWrites, publishObservationMetrics])
  · simp [hcounter]
  · by_cases hconfirmed : tip.isActivationConfirmed = true
    · exact .inl ⟨hconfirmed, rfl⟩
    · refine .inr fun outcome => ?_
      have hmem : .add (probesKey network outcome.label) 0 ∈ observerStartWrites network tip := by
        simp [observerStartWrites, hconfirmed, ProbeOutcome.mem_all]
      exact Registry.counters_applyAll_of_mem hmem

/-- **One sweep.** -/
theorem DescribesObserver.sweep (h : DescribesObserver registry network raised swept)
    (hobserving : ¬ (raised = true ∧ swept = [])) {report : SweepReport}
    (hcounts : report.CountsProbes) :
    DescribesObserver (registry.applyAll (sweepWrites network report
        (ActivationGate.run (swept ++ [report.evidence])))) network raised
      (swept ++ [report.evidence]) := by
  obtain ⟨hready, htotal⟩ := hcounts
  have hcounter (outcome : ProbeOutcome) :
      (registry.applyAll (sweepWrites network report
          (ActivationGate.run (swept ++ [report.evidence])))).counter
        (probesKey network outcome.label)
      = registry.counter (probesKey network outcome.label)
        + report.probesCounted.count outcome.label := by
    rw [sweepWrites, Registry.applyAll_append, Registry.counter, counters_publish,
      ← Registry.counter, counter_applyAll_probes]
  obtain ⟨htotalGauge, hreadyGauge, hqualifying⟩ := gauges_publish
    (registry.applyAll (report.probesCounted.map fun outcome => .add (probesKey network outcome) 1))
    network report.evidence
    (ActivationGate.run (swept ++ [report.evidence])).qualifyingSweeps
  rw [← Registry.applyAll_append] at htotalGauge hreadyGauge hqualifying
  refine ⟨?_, ?_, ?_, hqualifying, ?_, ?_, ?_⟩
  · rw [sweepWrites, Registry.applyAll_append, gauges_publish_of_ne _ _ _ (by simp [networkKey,
      activationConfirmed, activationTotalGroups]) (by simp [networkKey, activationConfirmed,
      activationReadyGroups]) (by simp [networkKey, activationConfirmed,
      activationQualifyingSweeps]), Registry.gauges_applyAll_of_ne, h.confirmed]
    simp [MetricWrite.key, probesKey, networkKey, activationProbesTotal, activationConfirmed]
  · rw [List.getLast?_concat]
    exact htotalGauge
  · rw [List.getLast?_concat]
    exact hreadyGauge
  · simp only [hcounter, List.sum_map_add, h.probed, htotal, List.map_append, List.sum_append,
      List.map_singleton, List.sum_singleton]
  · rw [hcounter, h.succeeded, hready]
    simp
  · exact .inr fun outcome =>
      Registry.counters_applyAll_ne_none (h.exported.resolve_left hobserving outcome)

/-- **A confirmation.** -/
theorem DescribesObserver.confirm (h : DescribesObserver registry network raised swept)
    (hobserving : ¬ (raised = true ∧ swept = [])) (target : ActivationTarget) :
    DescribesObserver (registry.applyAll (confirmWrites network target)) network true swept ∧
      (registry.applyAll (confirmWrites network target)).gauges
          (networkKey minProtocolVersion network) = some target.requiredVersion.val.toNat := by
  have hnodup : (((confirmWrites network target).filterMap MetricWrite.gauge?).map
      GaugeWrite.key).Nodup := by
    simp [confirmWrites, setNetworkGauge, MetricWrite.gauge?, GaugeWrite.key, minProtocolVersion,
      activationConfirmed]
  have hkept {name : String} (hfloor : name ≠ minProtocolVersion)
      (hconfirmed : name ≠ activationConfirmed) :
      (registry.applyAll (confirmWrites network target)).gauges (networkKey name network)
        = registry.gauges (networkKey name network) := by
    refine Registry.gauges_applyAll_of_ne fun write hwrite heq => ?_
    simp only [confirmWrites, List.mem_cons, List.not_mem_nil, or_false] at hwrite
    rcases hwrite with rfl | rfl
    · exact hfloor (congrArg Prod.fst heq).symm
    · exact hconfirmed (congrArg Prod.fst heq).symm
  refine ⟨⟨?_, ?_, ?_, ?_, h.probed, h.succeeded, .inr (h.exported.resolve_left hobserving)⟩, ?_⟩
  · exact gauges_setNetworkGauge hnodup (by simp [confirmWrites])
  · exact (hkept (by decide) (by decide)).trans h.total
  · exact (hkept (by decide) (by decide)).trans h.ready
  · exact (hkept (by decide) (by decide)).trans h.qualifying
  · exact gauges_setNetworkGauge hnodup (by simp [confirmWrites])

end Describes

end Zeeder.Crawl
