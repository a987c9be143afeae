import Zeeder.Crawl.ActivationTelemetry
import Zeeder.Serving.QueryAccounting
import Zeeder.Serving.RestartedFloor

/-! # What a running process exports

The tasks of both networks and the DNS handler write to one registry, which lives as long as the
process. Here the process runs with its registry: every step makes its writes, and an observer task
writes its first series when it begins to run, some time after it was spawned.

* **`telemetry_of_reachable`** — at every moment a network's gauges show the floor that is in force,
  whether the activation is confirmed, the gate and the book that was classified last.
* **`answers_match_servable_gauge`** — the addresses of an answer are as many as the servable gauge
  says, up to the cap. -/

namespace Zeeder.Serving

open Crawl Dns Config Foundation Foundation.StepSystem Metrics

/-! ## The writes of each step -/

/-- The identity of the build. -/
structure BuildInfo where
  /-- The package version. -/
  version : String
  /-- The git commit, or `unknown`. -/
  gitSha : String

/-- What starting a network writes once its tip is created. -/
def spawnWrites (build : BuildInfo) (network : ZcashNetwork) (floor : Version) : List MetricWrite :=
  [setNetworkGauge minProtocolVersion network floor.val.toNat,
    .set ⟨buildInfo, [(labelVersion, build.version), (labelGitSha, build.gitSha),
      (labelNetwork, network.label)], 1⟩]

/-- The counters that a request increments. -/
def requestWrites (effects : List RequestEffect) : List MetricWrite :=
  effects.filterMap fun
    | .increment name labels => some (.add (name, labels) 1)
    | _ => none

section Writes

variable (hickory : HickoryProto) (compiled : ZcashNetwork → Network) (handler : DnsRequestHandler)
  (build : BuildInfo) (network : ZcashNetwork)

namespace NetworkTasks

/-- What a network's tasks write as one of them goes on. -/
def writes (tasks : NetworkTasks) : TaskInput → List MetricWrite
  | .cache (.classify now order) =>
      match tasks.cache.phase with
      | .versionRead minimumVersion =>
          ((spawnedUpdater compiled network).refresh
            ⟨minimumVersion, tasks.cache.book, now, order⟩).2.map .set
      | _ => []
  | .observer (.probe probe completion) =>
      match tasks.observer with
      | .probing sampledPeers =>
          let report := observeSweep (.latest (compiled network)) sampledPeers probe completion
          sweepWrites network report (tasks.gate.observe report.evidence).1
      | _ => []
  | .observer .confirm => confirmWrites network (.latest (compiled network))
  | _ => []

/-- The sweep that a step completes. -/
def sweepsDone (tasks : NetworkTasks) : TaskInput → List SweepEvidence
  | .observer (.probe probe completion) =>
      match tasks.observer with
      | .probing sampledPeers =>
          [(observeSweep (.latest (compiled network)) sampledPeers probe completion).evidence]
      | _ => []
  | _ => []

end NetworkTasks

namespace SeederState

/-- What a step of the process writes. -/
def writes (s : SeederState) : SeederInput → List MetricWrite
  | .spawn network _ =>
      match s.networks network with
      | .loaded confirmed =>
          spawnWrites build network
            (floorOf (compiled network) (.new (.latest (compiled network)) confirmed))
      | _ => []
  | .task network input =>
      match s.networks network with
      | .running tasks => tasks.writes compiled network input
      | _ => []
  | .query verdict request sendSucceeds =>
      requestWrites (s.effects hickory compiled handler (.query verdict request sendSucceeds))
  | _ => []

/-- The sweep of one network that a step completes. -/
def sweepsDone (s : SeederState) : SeederInput → List SweepEvidence
  | .task other input =>
      if other = network then
        match s.networks network with
        | .running tasks => tasks.sweepsDone compiled network input
        | _ => []
      else []
  | _ => []

end SeederState

end Writes

/-! ## The process with its registry -/

/-- The process, its registry, and what has become of the observers. -/
structure MonitoredState where
  /-- The process. -/
  seeder : SeederState
  /-- The metrics it exports. -/
  registry : Registry
  /-- Whether a network's observer has begun to run. -/
  observing : ZcashNetwork → Bool
  /-- The sweeps that a network's observer has completed. -/
  swept : ZcashNetwork → List SweepEvidence

/-- What happens to it. -/
inductive MonitoredInput where
  /-- A spawned observer begins to run. -/
  | beginObserver (network : ZcashNetwork)
  /-- The process goes on. -/
  | seeder (input : SeederInput)

/-- Whether a step is one of an observer that has not begun. -/
def MonitoredState.tooEarly (m : MonitoredState) : SeederInput → Bool
  | .task network (.observer _) => !m.observing network
  | _ => false

section Monitored

variable (hickory : HickoryProto) (compiled : ZcashNetwork → Network) (cacheDir : CacheDir)
  (handler : DnsRequestHandler) (build : BuildInfo)

/-- Where an input leads. -/
def MonitoredState.next (m : MonitoredState) : MonitoredInput → Option MonitoredState
  | .beginObserver network =>
      match m.seeder.networks network with
      | .running tasks =>
          if m.observing network then none
          else some { m with
            registry := m.registry.applyAll (observerStartWrites network tasks.cache.tip)
            observing := Function.update m.observing network true }
      | _ => none
  | .seeder .crash =>
      -- the registry dies with the process
      (m.seeder.next compiled cacheDir handler .crash).map fun seeder =>
        ⟨seeder, .empty, fun _ => false, fun _ => []⟩
  | .seeder input =>
      if m.tooEarly input then none
      else (m.seeder.next compiled cacheDir handler input).map fun seeder =>
        { seeder := seeder
          registry := m.registry.applyAll (m.seeder.writes hickory compiled handler build input)
          observing := m.observing
          swept := fun network => m.swept network ++ m.seeder.sweepsDone compiled network input }

/-- The monitored process as a step system: it starts with any files and no process. -/
def monitoredSystem : StepSystem MonitoredState MonitoredInput where
  Init m := (m.seeder.phase = .down ∧ ∀ network, m.seeder.networks network = .unstarted) ∧
    m.registry = .empty ∧ (∀ network, m.observing network = false) ∧ ∀ network, m.swept network = []
  Step m input n := m.next hickory compiled cacheDir handler build input = some n

end Monitored

/-! ## Whose series a step writes -/

/-- The series carries a network's label first. -/
def OfNetwork (network : ZcashNetwork) (key : SeriesKey) : Prop :=
  key.2.head? = some (labelNetwork, network.label)

/-- The gauge of the floor, the observer's series and the peer gauges of a network. -/
def networkSeries (network : ZcashNetwork) : List SeriesKey :=
  networkKey minProtocolVersion network :: observerSeries network ++ peerSeries network

section Series

variable {hickory : HickoryProto} {compiled : ZcashNetwork → Network} {handler : DnsRequestHandler}
  {build : BuildInfo} {network other : ZcashNetwork} {tasks : NetworkTasks} {write : MetricWrite}

theorem OfNetwork.unique {key : SeriesKey} (h : OfNetwork network key) (hother : OfNetwork other key) :
    other = network := by
  have hlabel : (labelNetwork, other.label) = (labelNetwork, network.label) :=
    Option.some.inj (hother.symm.trans h)
  exact ZcashNetwork.label_injective (congrArg Prod.snd hlabel)

theorem ofNetwork_of_mem {key : SeriesKey} (h : key ∈ networkSeries network) :
    OfNetwork network key := by
  simp only [networkSeries, observerSeries, List.mem_cons, List.mem_append, List.mem_map,
    List.cons_append] at h
  rcases h with rfl | (⟨name, -, rfl⟩ | ⟨outcome, -, rfl⟩) | hpeer
  · rfl
  · rfl
  · rfl
  · exact head?_of_mem_peerSeries hpeer

/-- A network's tasks write their own network's series. -/
theorem ofNetwork_taskWrites {input : TaskInput} (h : write ∈ tasks.writes compiled network input) :
    OfNetwork network write.key := by
  cases input with
  | cache input =>
      cases input with
      | classify now order =>
          simp only [NetworkTasks.writes] at h
          split at h
          · obtain ⟨gauge, hgauge, rfl⟩ := List.mem_map.mp h
            have hkey := List.mem_map_of_mem (f := GaugeWrite.key) hgauge
            rw [map_key_refresh] at hkey
            exact head?_of_mem_peerSeries hkey
          · cases h
      | _ => cases h
  | observer input =>
      cases input with
      | probe probe completion =>
          simp only [NetworkTasks.writes] at h
          split at h
          · simp only [sweepWrites, publishObservationMetrics, List.mem_append, List.mem_map,
              List.mem_cons, List.not_mem_nil, or_false] at h
            rcases h with ⟨outcome, -, rfl⟩ | rfl | rfl | rfl <;> rfl
          · cases h
      | confirm =>
          simp only [NetworkTasks.writes, confirmWrites, List.mem_cons, List.not_mem_nil,
            or_false] at h
          rcases h with rfl | rfl <;> rfl
      | _ => cases h

/-- The counters that a request increments are labelled by a record type or not at all. -/
theorem labels_of_increment_mem {feeds : Receiver → ServablePeers} {request : Request}
    {sendSucceeds : Bool} {name : String} {labels : List (String × String)}
    (h : .increment name labels ∈ handler.respond hickory feeds request sendSucceeds) :
    labels = [] ∨ ∃ label, labels = [(labelRecordType, label)] := by
  cases hquery : request.queries.head? with
  | none =>
      unfold DnsRequestHandler.respond at h
      rw [hquery] at h
      cases sendSucceeds <;> simp at h
      exact .inl h.2
  | some query =>
      have hquiet : RequestEffect.increment name labels
          ∉ (handler.answerQuery hickory feeds query).2.2 :=
        List.count_eq_zero.mp (answerQuery_counts handler feeds query name labels).1
      rw [respond_of_query hquery] at h
      simp only [List.mem_append, hquiet, or_false, List.mem_singleton, reduceCtorEq] at h
      rcases h with h | h
      · cases h
        exact .inr ⟨_, rfl⟩
      · cases sendSucceeds <;> simp at h
        exact .inl h.2

/-- Answering a request writes no network's series. -/
theorem not_ofNetwork_requestWrites {feeds : Receiver → ServablePeers} {verdict : IpAddr → Bool}
    {request : Request} {sendSucceeds : Bool}
    (h : write ∈ requestWrites (handler.answerRequest hickory feeds verdict request sendSucceeds)) :
    ¬ OfNetwork network write.key := by
  obtain ⟨effect, heffect, hwrite⟩ := List.mem_filterMap.mp h
  cases effect with
  | increment name labels =>
      have hlabels : labels = [] ∨ ∃ label, labels = [(labelRecordType, label)] := by
        unfold DnsRequestHandler.answerRequest at heffect
        cases hlimiter : handler.rateLimiter with
        | none =>
            rw [hlimiter] at heffect
            exact labels_of_increment_mem heffect
        | some limiter =>
            rw [hlimiter] at heffect
            cases hverdict : verdict request.src.ip with
            | true =>
                simp only [hverdict, if_true, List.mem_cons, reduceCtorEq, false_or] at heffect
                exact labels_of_increment_mem heffect
            | false =>
                simp [hverdict] at heffect
                exact .inl heffect.2
      cases hwrite
      rcases hlabels with rfl | ⟨label, rfl⟩ <;>
        simp [OfNetwork, MetricWrite.key, labelRecordType, labelNetwork]
  | _ => cases hwrite

/-- **A network's series are written by its own start and its own tasks only.** -/
theorem eq_spawn_or_task_of_writes {s : SeederState} {input : SeederInput}
    (h : write ∈ s.writes hickory compiled handler build input) (hkey : OfNetwork network write.key) :
    (∃ book, input = .spawn network book) ∨ ∃ taskInput, input = .task network taskInput := by
  cases input with
  | spawn other book =>
      simp only [SeederState.writes] at h
      split at h
      · simp only [spawnWrites, List.mem_cons, List.not_mem_nil, or_false] at h
        rcases h with rfl | rfl
        · have hother : OfNetwork other (networkKey minProtocolVersion other) := rfl
          exact .inl ⟨book, by rw [hkey.unique hother]⟩
        · simp [OfNetwork, MetricWrite.key, GaugeWrite.key, labelVersion, labelNetwork] at hkey
      · cases h
  | task other taskInput =>
      simp only [SeederState.writes] at h
      split at h
      · exact .inr ⟨taskInput, by rw [hkey.unique (ofNetwork_taskWrites h)]⟩
      · cases h
  | query verdict request sendSucceeds => exact absurd hkey (not_ofNetwork_requestWrites h)
  | _ => cases h

/-- The names of the observer's series. -/
theorem fst_of_mem_observerSeries {key : SeriesKey} (h : key ∈ observerSeries network) :
    key.1 ∈ activationProbesTotal :: observerGauges := by
  rcases List.mem_append.mp h with h | h
  · obtain ⟨name, hname, rfl⟩ := List.mem_map.mp h
    exact List.mem_cons_of_mem _ hname
  · obtain ⟨outcome, -, rfl⟩ := List.mem_map.mp h
    exact List.mem_cons_self

/-- The names of the peer gauges. -/
theorem fst_of_mem_peerSeries {key : SeriesKey} (h : key ∈ peerSeries network) :
    key.1 ∈ [peersKnown, peersServable, peersUnservable] := by
  simp only [peerSeries, List.mem_cons, List.mem_map] at h
  rcases h with rfl | rfl | rfl | ⟨reason, -, rfl⟩
  · exact List.mem_cons_self
  · exact List.mem_cons_of_mem _ List.mem_cons_self
  · exact List.mem_cons_of_mem _ List.mem_cons_self
  · exact List.mem_cons_of_mem _ (List.mem_cons_of_mem _ List.mem_cons_self)

/-- No series is both the observer's and a peer gauge. -/
theorem not_mem_peerSeries_of_mem_observerSeries {key : SeriesKey} (h : key ∈ observerSeries network) :
    key ∉ peerSeries network := by
  intro hpeer
  have hnames : ∀ name ∈ activationProbesTotal :: observerGauges,
      name ∉ [peersKnown, peersServable, peersUnservable] := by decide
  exact hnames _ (fst_of_mem_observerSeries h) (fst_of_mem_peerSeries hpeer)

/-- Before its loop the observer writes its own series. -/
theorem key_mem_of_observerStartWrites {tip : SeederChainTip}
    (h : write ∈ observerStartWrites network tip) : write.key ∈ observerSeries network := by
  simp only [observerStartWrites, publishObservationMetrics, List.mem_append, List.mem_cons,
    List.not_mem_nil, or_false] at h
  rcases h with ((rfl | rfl | rfl) | rfl) | hzero
  · exact gauge_mem_observerSeries (by simp [observerGauges]) network
  · exact gauge_mem_observerSeries (by simp [observerGauges]) network
  · exact gauge_mem_observerSeries (by simp [observerGauges]) network
  · exact gauge_mem_observerSeries (by simp [observerGauges]) network
  · split at hzero
    · cases hzero
    · obtain ⟨outcome, -, rfl⟩ := List.mem_map.mp hzero
      exact probesKey_mem_observerSeries network outcome

/-- The gauge of the floor is neither. -/
theorem floorKey_not_mem :
    networkKey minProtocolVersion network ∉ observerSeries network ∧
      networkKey minProtocolVersion network ∉ peerSeries network := by
  have hobserver : minProtocolVersion ∉ activationProbesTotal :: observerGauges := by decide
  have hpeers : minProtocolVersion ∉ [peersKnown, peersServable, peersUnservable] := by decide
  exact ⟨fun h => hobserver (fst_of_mem_observerSeries h),
    fun h => hpeers (fst_of_mem_peerSeries h)⟩

end Series

/-! ## What the registry shows of one network -/

/-- The refresh that classified its book last: it is about to be sent, or it is in the channel. -/
def lastClassified (cache : CacheState) : Option Refresh :=
  match cache.phase with
  | .classified refresh => some refresh
  | _ => cache.published

/-- The peer gauges describe a refresh's book, or do not exist before the first refresh. -/
def ShowsBook (gauges : Gauges) (updater : CacheUpdater) : Option Refresh → Prop
  | none => ∀ key ∈ peerSeries updater.network, gauges key = none
  | some refresh => DescribesBook gauges updater refresh

/-- **What the registry shows of a running network.** -/
structure ShowsTasks (compiled : ZcashNetwork → Network) (network : ZcashNetwork)
    (registry : Registry) (observing : Bool) (swept : List SweepEvidence) (tasks : NetworkTasks) :
    Prop where
  /-- The floor that the tip puts in force. -/
  floor : registry.gauges (networkKey minProtocolVersion network)
    = some (floorOf (compiled network) tasks.cache.tip).val.toNat
  /-- The gate has observed the sweeps. -/
  gate : tasks.gate = ActivationGate.run swept
  /-- Once the observer has begun: the confirmation, the last sweep, the streak and all probes. -/
  observer : observing = true →
    DescribesObserver registry network tasks.cache.tip.isActivationConfirmed swept
  /-- The book that was classified last. -/
  book : ShowsBook registry.gauges (spawnedUpdater compiled network) (lastClassified tasks.cache)

/-- The invariant of a running network. -/
structure TasksInv (compiled : ZcashNetwork → Network) (network : ZcashNetwork) (registry : Registry)
    (observing : Bool) (swept : List SweepEvidence) (tasks : NetworkTasks) : Prop where
  /-- What the registry shows. -/
  shows : ShowsTasks compiled network registry observing swept tasks
  /-- The tip waits for the compiled activation. -/
  target : tasks.cache.tip.activationHeight
    = (ActivationTarget.latest (compiled network)).activationHeight
  /-- It is never above it. -/
  height : tasks.cache.tip.height ≤ tasks.cache.tip.activationHeight
  /-- The observer's loop runs while the tip is not raised. -/
  unraised : tasks.observer ≠ .finished → tasks.cache.tip.isActivationConfirmed = false
  /-- Before the observer begins there is no sweep and no probe. -/
  fresh : observing = false → swept = [] ∧
    ∀ outcome : ProbeOutcome, registry.counters (probesKey network outcome.label) = none

/-- The invariant of a network that does not run: nothing of it is exported. -/
structure IdleInv (compiled : ZcashNetwork → Network) (network : ZcashNetwork) (registry : Registry)
    (observing : Bool) (swept : List SweepEvidence) : Prop where
  /-- No observer. -/
  observing : observing = false
  /-- No sweep. -/
  swept : swept = []
  /-- No probe. -/
  probes : ∀ outcome : ProbeOutcome, registry.counters (probesKey network outcome.label) = none
  /-- No book. -/
  book : ShowsBook registry.gauges (spawnedUpdater compiled network) none

/-- The invariant of a network. -/
def NetworkInv (compiled : ZcashNetwork → Network) (network : ZcashNetwork) (registry : Registry)
    (observing : Bool) (swept : List SweepEvidence) : NetworkPhase → Prop
  | .running tasks => TasksInv compiled network registry observing swept tasks
  | _ => IdleInv compiled network registry observing swept

section Invariant

variable {compiled : ZcashNetwork → Network} {network : ZcashNetwork} {registry : Registry}
  {observing : Bool} {swept : List SweepEvidence} {tasks : NetworkTasks} {writes : List MetricWrite}

theorem ShowsBook.frame {updater : CacheUpdater} {shown : Option Refresh}
    (h : ShowsBook registry.gauges updater shown)
    (hother : ∀ write ∈ writes, write.key ∉ peerSeries updater.network) :
    ShowsBook (registry.applyAll writes).gauges updater shown := by
  have hkept {key : SeriesKey} (hkey : key ∈ peerSeries updater.network) :
      (registry.applyAll writes).gauges key = registry.gauges key :=
    Registry.gauges_applyAll_of_ne fun write hwrite heq => hother write hwrite (heq ▸ hkey)
  cases shown with
  | none => exact fun key hkey => (hkept hkey).trans (h key hkey)
  | some refresh =>
      exact
        { known := (hkept (knownKey_mem_peerSeries _)).trans h.known
          servable := fun ipv4 => (hkept (servableKey_mem_peerSeries _ ipv4)).trans (h.servable ipv4)
          unservable := fun reason =>
            (hkept (unservableKey_mem_peerSeries _ reason)).trans (h.unservable reason) }

theorem probes_frame
    (h : ∀ outcome : ProbeOutcome, registry.counters (probesKey network outcome.label) = none)
    (hother : ∀ write ∈ writes, write.key ∉ observerSeries network) (outcome : ProbeOutcome) :
    (registry.applyAll writes).counters (probesKey network outcome.label) = none := by
  rw [Registry.counters_applyAll_of_ne fun write hwrite heq =>
    hother write hwrite (heq ▸ probesKey_mem_observerSeries network outcome)]
  exact h outcome

theorem floor_frame {floor : Option ℕ}
    (h : registry.gauges (networkKey minProtocolVersion network) = floor)
    (hother : ∀ write ∈ writes, write.key ≠ networkKey minProtocolVersion network) :
    (registry.applyAll writes).gauges (networkKey minProtocolVersion network) = floor :=
  (Registry.gauges_applyAll_of_ne hother).trans h

/-- **Writes to other series** keep the invariant of a network. -/
theorem NetworkInv.frame {phase : NetworkPhase}
    (h : NetworkInv compiled network registry observing swept phase)
    (hother : ∀ write ∈ writes, write.key ∉ networkSeries network) :
    NetworkInv compiled network (registry.applyAll writes) observing swept phase := by
  have hobserver : ∀ write ∈ writes, write.key ∉ observerSeries network := fun write hwrite hmem =>
    hother write hwrite (List.mem_append_left _ (List.mem_cons_of_mem _ hmem))
  have hpeers : ∀ write ∈ writes, write.key ∉ peerSeries network := fun write hwrite hmem =>
    hother write hwrite (List.mem_append_right _ hmem)
  have hfloor : ∀ write ∈ writes, write.key ≠ networkKey minProtocolVersion network :=
    fun write hwrite heq => hother write hwrite (heq ▸ List.mem_cons_self)
  have hidle (h : IdleInv compiled network registry observing swept) :
      IdleInv compiled network (registry.applyAll writes) observing swept :=
    { h with probes := probes_frame h.probes hobserver, book := h.book.frame hpeers }
  cases phase with
  | unstarted => exact hidle h
  | loaded confirmed => exact hidle h
  | running tasks =>
      exact
        { h with
          shows :=
            { floor := floor_frame h.shows.floor hfloor
              gate := h.shows.gate
              observer := fun hbegun => (h.shows.observer hbegun).frame hobserver
              book := h.shows.book.frame hpeers }
          fresh := fun hunbegun =>
            ⟨(h.fresh hunbegun).1, probes_frame (h.fresh hunbegun).2 hobserver⟩ }

/-! ## One network's own steps -/

/-- A fresh tip is not above its activation. -/
theorem height_new_le (network : Network) (confirmed : Bool) :
    (SeederChainTip.new (.latest network) confirmed).height
      ≤ (ActivationTarget.latest network).activationHeight := by
  cases confirmed with
  | true => exact le_rfl
  | false =>
      show network.latestActivationHeight.previous.getD ⟨0⟩ ≤ network.latestActivationHeight
      by_cases hpos : 0 < network.latestActivationHeight.val.toNat
      · obtain ⟨height, hprevious, hlt⟩ := Height.previous_lt hpos
        rw [hprevious]
        exact hlt.le
      · have hzero : network.latestActivationHeight.val = 0 := by
          apply UInt32.toNat_inj.mp
          rw [UInt32.toNat_zero]
          omega
        rw [Height.previous, if_pos hzero]
        exact UInt32.le_iff_toNat_le.mpr (Nat.zero_le _)

/-- **The start of a network** exports its floor and nothing else of it. -/
theorem tasksInv_spawned (h : IdleInv compiled network registry observing swept) (build : BuildInfo)
    (confirmed : Bool) (book : AddressBook) :
    TasksInv compiled network (registry.applyAll (spawnWrites build network
        (floorOf (compiled network) (.new (.latest (compiled network)) confirmed)))) observing swept
      (.spawned (compiled network) confirmed book) := by
  obtain ⟨hobserving, hswept, hprobes, hbook⟩ := h
  have hkeys {write : MetricWrite} {floor : Version} (hwrite : write ∈ spawnWrites build network floor) :
      write.key.1 = minProtocolVersion ∨ write.key.1 = buildInfo := by
    simp only [spawnWrites, List.mem_cons, List.not_mem_nil, or_false] at hwrite
    rcases hwrite with rfl | rfl
    · exact .inl rfl
    · exact .inr rfl
  have hnames : ∀ name ∈ activationProbesTotal :: observerGauges
      ++ [peersKnown, peersServable, peersUnservable],
      name ≠ minProtocolVersion ∧ name ≠ buildInfo := by decide
  have hobserver : ∀ write ∈ spawnWrites build network
      (floorOf (compiled network) (.new (.latest (compiled network)) confirmed)),
      write.key ∉ observerSeries network := fun write hwrite hmem => by
    have hname := hnames _ (List.mem_append_left _ (fst_of_mem_observerSeries hmem))
    exact (hkeys hwrite).elim hname.1 hname.2
  have hpeers : ∀ write ∈ spawnWrites build network
      (floorOf (compiled network) (.new (.latest (compiled network)) confirmed)),
      write.key ∉ peerSeries network := fun write hwrite hmem => by
    have hname := hnames _ (List.mem_append_right _ (fst_of_mem_peerSeries hmem))
    exact (hkeys hwrite).elim hname.1 hname.2
  refine ⟨⟨?_, ?_, ?_, ?_⟩, rfl, height_new_le _ _, ?_, fun _ => ⟨hswept, ?_⟩⟩
  · refine gauges_setNetworkGauge ?_ (by simp [spawnWrites, NetworkTasks.spawned])
    simp [spawnWrites, setNetworkGauge, MetricWrite.gauge?, GaugeWrite.key, minProtocolVersion,
      buildInfo]
  · rw [hswept]
    rfl
  · intro hbegun
    cases hobserving.symm.trans hbegun
  · exact hbook.frame hpeers
  · intro hrunning
    by_contra hconfirmed
    exact hrunning (if_pos (Bool.eq_true_of_not_eq_false hconfirmed))
  · exact probes_frame hprobes hobserver

/-- **The observer begins.** -/
theorem TasksInv.begin (h : TasksInv compiled network registry false swept tasks) :
    TasksInv compiled network (registry.applyAll (observerStartWrites network tasks.cache.tip)) true
      swept tasks := by
  obtain ⟨hswept, hprobes⟩ := h.fresh rfl
  have hkeys (write : MetricWrite) (hwrite : write ∈ observerStartWrites network tasks.cache.tip) :
      write.key ∈ observerSeries network := key_mem_of_observerStartWrites hwrite
  refine { h with shows := ⟨?_, h.shows.gate, fun _ => ?_, ?_⟩, fresh := fun hfalse => by cases hfalse }
  · exact floor_frame h.shows.floor fun write hwrite heq =>
      floorKey_not_mem.1 (heq ▸ hkeys write hwrite)
  · rw [hswept]
    exact describesObserver_start tasks.cache.tip hprobes
  · exact h.shows.book.frame fun write hwrite =>
      not_mem_peerSeries_of_mem_observerSeries (hkeys write hwrite)

/-- **A refresh that classifies** the book sets all peer gauges of its network, and nothing else. -/
theorem TasksInv.classify (h : TasksInv compiled network registry observing swept tasks)
    (refresh : Refresh) :
    TasksInv compiled network
      (registry.applyAll (((spawnedUpdater compiled network).refresh refresh).2.map .set)) observing
      swept { tasks with cache := { tasks.cache with phase := .classified refresh } } := by
  have hkeys : ∀ write ∈ ((spawnedUpdater compiled network).refresh refresh).2.map MetricWrite.set,
      write.key ∈ peerSeries network := by
    intro write hwrite
    obtain ⟨gauge, hgauge, rfl⟩ := List.mem_map.mp hwrite
    have hkey := List.mem_map_of_mem (f := GaugeWrite.key) hgauge
    rwa [map_key_refresh] at hkey
  have hobserver : ∀ write ∈ ((spawnedUpdater compiled network).refresh refresh).2.map MetricWrite.set,
      write.key ∉ observerSeries network := fun write hwrite hmem =>
    not_mem_peerSeries_of_mem_observerSeries hmem (hkeys write hwrite)
  refine ⟨⟨?_, h.shows.gate, fun hbegun => ?_, ?_⟩, h.target, h.height, h.unraised, fun hunbegun => ?_⟩
  · exact floor_frame h.shows.floor fun write hwrite heq =>
      floorKey_not_mem.2 (heq ▸ hkeys write hwrite)
  · exact (h.shows.observer hbegun).frame hobserver
  · show DescribesBook _ _ refresh
    have hset : (((spawnedUpdater compiled network).refresh refresh).2.map MetricWrite.set).filterMap
        MetricWrite.gauge? = ((spawnedUpdater compiled network).refresh refresh).2 := by
      rw [List.filterMap_map]
      exact List.filterMap_some
    rw [Registry.gauges_applyAll, hset]
    exact describesBook_refresh
  · exact ⟨(h.fresh hunbegun).1, probes_frame (h.fresh hunbegun).2 hobserver⟩

/-- **A sweep** counts its probes, and shows its evidence and the gate's streak. -/
theorem TasksInv.sweep (h : TasksInv compiled network registry true swept tasks)
    (hrunning : tasks.observer ≠ .finished) {report : SweepReport} (hcounts : report.CountsProbes)
    (point : ObserverPoint) :
    TasksInv compiled network
      (registry.applyAll (sweepWrites network report (tasks.gate.observe report.evidence).1)) true
      (swept ++ [report.evidence])
      { tasks with gate := (tasks.gate.observe report.evidence).1, observer := point } := by
  have hunraised := h.unraised hrunning
  have hgate : (tasks.gate.observe report.evidence).1
      = ActivationGate.run (swept ++ [report.evidence]) := by
    rw [h.shows.gate, ActivationGate.run_concat]
  have hkeys : ∀ write ∈ sweepWrites network report (tasks.gate.observe report.evidence).1,
      write.key.1 ∈ activationProbesTotal :: observerGauges := by
    intro write hwrite
    simp only [sweepWrites, publishObservationMetrics, List.mem_append, List.mem_map, List.mem_cons,
      List.not_mem_nil, or_false] at hwrite
    rcases hwrite with ⟨outcome, -, rfl⟩ | rfl | rfl | rfl
    · exact List.mem_cons_self
    · exact List.mem_cons_of_mem _ (by simp [observerGauges, setNetworkGauge, MetricWrite.key, GaugeWrite.key])
    · exact List.mem_cons_of_mem _ (by simp [observerGauges, setNetworkGauge, MetricWrite.key, GaugeWrite.key])
    · exact List.mem_cons_of_mem _ (by simp [observerGauges, setNetworkGauge, MetricWrite.key, GaugeWrite.key])
  refine ⟨⟨?_, hgate, fun _ => ?_, ?_⟩, h.target, h.height, fun _ => hunraised,
    fun hfalse => by cases hfalse⟩
  · refine floor_frame h.shows.floor fun write hwrite heq => ?_
    have hfloor : minProtocolVersion ∉ activationProbesTotal :: observerGauges := by decide
    have hname := hkeys write hwrite
    rw [heq] at hname
    exact hfloor hname
  · have hobserver := h.shows.observer rfl
    rw [hgate]
    refine hobserver.sweep (fun hdone => ?_) hcounts
    cases hdone.1.symm.trans hunraised
  · refine h.shows.book.frame fun write hwrite hmem => ?_
    have hnames : ∀ name ∈ activationProbesTotal :: observerGauges,
        name ∉ [peersKnown, peersServable, peersUnservable] := by decide
    exact hnames _ (hkeys write hwrite) (fst_of_mem_peerSeries hmem)

/-- **A confirmation** raises the tip and shows it. -/
theorem TasksInv.confirm (h : TasksInv compiled network registry true swept tasks)
    (hrunning : tasks.observer ≠ .finished) :
    TasksInv compiled network
      (registry.applyAll (confirmWrites network (.latest (compiled network)))) true swept
      { tasks with
        cache := { tasks.cache with tip := tasks.cache.tip.confirmActivation }
        observer := .finished } := by
  have hunraised := h.unraised hrunning
  have hheight : tasks.cache.tip.confirmActivation.height
      = (ActivationTarget.latest (compiled network)).activationHeight := by
    rw [SeederChainTip.confirmActivation_height, max_eq_right h.height, h.target]
  have hraised : tasks.cache.tip.confirmActivation.isActivationConfirmed = true := by
    rw [SeederChainTip.isActivationConfirmed, decide_eq_true_eq,
      SeederChainTip.confirmActivation_activationHeight]
    exact SeederChainTip.activationHeight_le_confirmActivation _
  obtain ⟨hobserver, hfloor⟩ := (h.shows.observer rfl).confirm
    (fun hdone => by cases hdone.1.symm.trans hunraised) (.latest (compiled network))
  refine ⟨⟨?_, h.shows.gate, fun _ => ?_, ?_⟩, ?_, ?_, fun hrunning => absurd rfl hrunning,
    fun hfalse => by cases hfalse⟩
  · rw [hfloor]
    show _ = some ((compiled network).minRemoteForHeight
      (some tasks.cache.tip.confirmActivation.height)).val.toNat
    rw [hheight]
    rfl
  · show DescribesObserver _ _ tasks.cache.tip.confirmActivation.isActivationConfirmed _
    rwa [hraised]
  · refine h.shows.book.frame fun write hwrite hmem => ?_
    have hnames : minProtocolVersion ∉ [peersKnown, peersServable, peersUnservable] ∧
        activationConfirmed ∉ [peersKnown, peersServable, peersUnservable] := by decide
    simp only [confirmWrites, List.mem_cons, List.not_mem_nil, or_false] at hwrite
    rcases hwrite with rfl | rfl
    · exact hnames.1 (fst_of_mem_peerSeries hmem)
    · exact hnames.2 (fst_of_mem_peerSeries hmem)
  · exact (SeederChainTip.confirmActivation_activationHeight _).trans h.target
  · rw [SeederChainTip.confirmActivation_activationHeight, hheight, h.target]

/-- A step that writes nothing and changes neither the tip nor the gate nor the last classification. -/
theorem TasksInv.of_quiet (h : TasksInv compiled network registry observing swept tasks)
    {tasks' : NetworkTasks} (htip : tasks'.cache.tip = tasks.cache.tip)
    (hgate : tasks'.gate = tasks.gate)
    (hbook : lastClassified tasks'.cache = lastClassified tasks.cache)
    (hrunning : tasks'.observer ≠ .finished → tasks.observer ≠ .finished) :
    TasksInv compiled network registry observing swept tasks' where
  shows :=
    { floor := htip ▸ h.shows.floor
      gate := hgate.trans h.shows.gate
      observer := htip ▸ h.shows.observer
      book := hbook ▸ h.shows.book }
  target := htip ▸ h.target
  height := htip ▸ h.height
  unraised := fun hrunning' => htip ▸ h.unraised (hrunning hrunning')
  fresh := h.fresh

variable {path : Option PathBuf} {fs : FileSystem} {tasks' : NetworkTasks}

/-- The crawler and the refresh loop. -/
theorem TasksInv.nextCache (h : TasksInv compiled network registry observing swept tasks)
    {input : CacheInput}
    (hnext : tasks.next (compiled network) path fs (.cache input) = some tasks') :
    TasksInv compiled network (registry.applyAll (tasks.writes compiled network (.cache input)))
      observing swept tasks' := by
  obtain ⟨cache, hcache, rfl⟩ := Option.map_eq_some_iff.mp hnext
  cases input with
  | updateBook book =>
      cases hcache
      exact h.of_quiet rfl rfl rfl id
  | readTip =>
      simp only [NetworkTasks.nextCache] at hcache
      split at hcache
      · next hphase =>
          cases hcache
          refine h.of_quiet rfl rfl ?_ id
          simp only [lastClassified, hphase]
      · cases hcache
  | classify now order =>
      simp only [NetworkTasks.nextCache] at hcache
      split at hcache
      · next minimumVersion hphase =>
          cases hcache
          simp only [NetworkTasks.writes, hphase]
          exact h.classify _
      · cases hcache
  | publish =>
      simp only [NetworkTasks.nextCache] at hcache
      split at hcache
      · next refresh hphase =>
          cases hcache
          refine h.of_quiet rfl rfl ?_ id
          simp only [lastClassified, hphase]
      · cases hcache

/-- An observer that has begun. -/
theorem TasksInv.nextObserver (h : TasksInv compiled network registry true swept tasks)
    {input : ObserverInput}
    (hnext : tasks.nextObserver (compiled network) path fs input = some tasks') :
    TasksInv compiled network (registry.applyAll (tasks.writes compiled network (.observer input)))
      true (swept ++ tasks.sweepsDone compiled network (.observer input)) tasks' := by
  have hrunning {point : ObserverPoint} (hpoint : tasks.observer = point)
      (hloop : point ≠ .finished) : tasks.observer ≠ .finished := hpoint ▸ hloop
  cases input with
  | probe probe completion =>
      simp only [NetworkTasks.nextObserver] at hnext
      split at hnext
      · next sampledPeers hpoint =>
          cases hnext
          simp only [NetworkTasks.writes, NetworkTasks.sweepsDone, hpoint]
          exact h.sweep (hrunning hpoint (by simp))
            (countsProbes_observeSweep _ sampledPeers probe completion) _
      · cases hnext
  | confirm =>
      simp only [NetworkTasks.nextObserver] at hnext
      split at hnext
      · next hpoint =>
          cases hnext
          simp only [NetworkTasks.sweepsDone, List.append_nil]
          exact h.confirm (hrunning hpoint (by simp))
      · cases hnext
  | sample now order =>
      simp only [NetworkTasks.nextObserver] at hnext
      split at hnext
      · next hpoint =>
          cases hnext
          simp only [NetworkTasks.sweepsDone, List.append_nil]
          exact h.of_quiet rfl rfl rfl fun _ => hrunning hpoint (by simp)
      · cases hnext
  | write outcome =>
      simp only [NetworkTasks.nextObserver] at hnext
      split at hnext
      · next hpoint =>
          cases hnext
          simp only [NetworkTasks.sweepsDone, List.append_nil]
          exact h.of_quiet rfl rfl rfl fun _ => hrunning hpoint (by simp)
      · cases hnext
  | writeReturn =>
      simp only [NetworkTasks.nextObserver] at hnext
      simp only [NetworkTasks.sweepsDone, List.append_nil]
      split at hnext
      · next hpoint =>
          cases hnext
          exact h.of_quiet rfl rfl rfl fun _ => hrunning hpoint (by simp)
      · next hpoint =>
          cases hnext
          exact h.of_quiet rfl rfl rfl fun _ => hrunning hpoint (by simp)
      · cases hnext

end Invariant

/-! ## Every step -/

section Steps

variable {hickory : HickoryProto} {compiled : ZcashNetwork → Network} {cacheDir : CacheDir}
  {handler : DnsRequestHandler} {build : BuildInfo} {m n : MonitoredState} {input : MonitoredInput}

/-- The invariant of a network in the monitored process. -/
def MonitoredInv (compiled : ZcashNetwork → Network) (network : ZcashNetwork) (m : MonitoredState) :
    Prop :=
  NetworkInv compiled network m.registry (m.observing network) (m.swept network)
    (m.seeder.networks network)

/-- A step of another network, or of none. -/
theorem MonitoredInv.of_other {network : ZcashNetwork} (h : MonitoredInv compiled network m)
    {s : SeederState} {input : SeederInput} (hspawn : ∀ book, input ≠ .spawn network book)
    (htask : ∀ taskInput, input ≠ .task network taskInput)
    (hphase : s.networks network = m.seeder.networks network ∨
      ∃ confirmed, m.seeder.networks network = .unstarted ∧ s.networks network = .loaded confirmed) :
    NetworkInv compiled network
      (m.registry.applyAll (m.seeder.writes hickory compiled handler build input))
      (m.observing network) (m.swept network ++ m.seeder.sweepsDone compiled network input)
      (s.networks network) := by
  have hother : ∀ write ∈ m.seeder.writes hickory compiled handler build input,
      write.key ∉ networkSeries network := by
    intro write hwrite hmem
    rcases eq_spawn_or_task_of_writes hwrite (ofNetwork_of_mem hmem) with ⟨book, heq⟩ | ⟨next, heq⟩
    · exact hspawn book heq
    · exact htask next heq
  have hswept : m.seeder.sweepsDone compiled network input = [] := by
    cases input with
    | task other next =>
        simp only [SeederState.sweepsDone]
        refine if_neg fun heq => htask next ?_
        rw [heq]
    | _ => rfl
  rw [hswept, List.append_nil]
  have hframe : NetworkInv compiled network
      (m.registry.applyAll (m.seeder.writes hickory compiled handler build input))
      (m.observing network) (m.swept network) (m.seeder.networks network) :=
    NetworkInv.frame h hother
  rcases hphase with heq | ⟨confirmed, hunstarted, hloaded⟩
  · rwa [heq]
  · rw [hunstarted] at hframe
    rw [hloaded]
    exact hframe

/-- A step of the process other than its death. -/
theorem exists_of_next_seeder {input : SeederInput} (hcrash : input ≠ .crash)
    (hnext : m.next hickory compiled cacheDir handler build (.seeder input) = some n) :
    m.tooEarly input = false ∧ ∃ s, m.seeder.next compiled cacheDir handler input = some s ∧
      n = { seeder := s
            registry := m.registry.applyAll (m.seeder.writes hickory compiled handler build input)
            observing := m.observing
            swept := fun network =>
              m.swept network ++ m.seeder.sweepsDone compiled network input } := by
  have hguarded : (if m.tooEarly input then none
      else (m.seeder.next compiled cacheDir handler input).map fun s =>
        ({ seeder := s
           registry := m.registry.applyAll (m.seeder.writes hickory compiled handler build input)
           observing := m.observing
           swept := fun network => m.swept network ++ m.seeder.sweepsDone compiled network input } :
          MonitoredState)) = some n := by
    cases input with
    | crash => exact absurd rfl hcrash
    | _ => exact hnext
  cases hearly : m.tooEarly input with
  | true =>
      rw [hearly, if_pos rfl] at hguarded
      cases hguarded
  | false =>
      rw [hearly, if_neg Bool.false_ne_true] at hguarded
      obtain ⟨s, hs, rfl⟩ := Option.map_eq_some_iff.mp hguarded
      exact ⟨rfl, s, hs, rfl⟩

/-- **An observer begins**, this network's or another's. -/
theorem MonitoredInv.beginObserver {network : ZcashNetwork} (h : MonitoredInv compiled network m)
    {other : ZcashNetwork}
    (hnext : m.next hickory compiled cacheDir handler build (.beginObserver other) = some n) :
    MonitoredInv compiled network n := by
  simp only [MonitoredState.next] at hnext
  split at hnext
  · next tasks hphase =>
      split at hnext
      · cases hnext
      · next hbegun =>
          cases hnext
          unfold MonitoredInv at h ⊢
          dsimp only
          by_cases hother : network = other
          · subst hother
            rw [hphase, Bool.eq_false_iff.mpr hbegun] at h
            rw [hphase, Function.update_self]
            exact TasksInv.begin h
          · rw [Function.update_of_ne hother]
            refine NetworkInv.frame h fun write hwrite hmem => hother ?_
            have hkey : OfNetwork other write.key := ofNetwork_of_mem
              (List.mem_append_left _ (List.mem_cons_of_mem _ (key_mem_of_observerStartWrites hwrite)))
            exact hkey.unique (ofNetwork_of_mem hmem)
  · cases hnext

/-- **Every step** keeps what the registry shows of each network. -/
theorem MonitoredInv.next {network : ZcashNetwork} (h : MonitoredInv compiled network m)
    (hnext : m.next hickory compiled cacheDir handler build input = some n) :
    MonitoredInv compiled network n := by
  cases input with
  | beginObserver other => exact h.beginObserver hnext
  | seeder input =>
      by_cases hcrash : input = .crash
      · subst hcrash
        cases hnext
        exact ⟨rfl, rfl, fun _ => rfl, fun _ _ => rfl⟩
      · obtain ⟨hearly, s, hs, rfl⟩ := exists_of_next_seeder hcrash hnext
        unfold MonitoredInv
        dsimp only
        cases input with
        | crash => exact absurd rfl hcrash
        | start =>
            simp only [SeederState.next] at hs
            split at hs <;> cases hs
            exact h.of_other (by simp) (by simp) (.inl rfl)
        | serve =>
            simp only [SeederState.next] at hs
            split at hs <;> cases hs
            exact h.of_other (by simp) (by simp) (.inl rfl)
        | query verdict request sendSucceeds =>
            simp only [SeederState.next] at hs
            split at hs <;> cases hs
            exact h.of_other (by simp) (by simp) (.inl rfl)
        | attest other dir a c v outcome =>
            cases hs
            exact h.of_other (by simp) (by simp) (.inl rfl)
        | load other fault =>
            simp only [SeederState.next] at hs
            split at hs
            · next hbefore =>
                split at hs <;> cases hs
                refine h.of_other (by simp) (by simp) ?_
                by_cases hother : network = other
                · subst hother
                  exact .inr ⟨_, hbefore, Function.update_self ..⟩
                · exact .inl (Function.update_of_ne hother _ _)
            · cases hs
        | spawn other book =>
            simp only [SeederState.next] at hs
            split at hs
            · next confirmed hbefore =>
                cases hs
                by_cases hother : network = other
                · subst hother
                  unfold MonitoredInv at h
                  rw [hbefore] at h
                  simp only [SeederState.writes, SeederState.sweepsDone, hbefore, List.append_nil,
                    Function.update_self]
                  exact tasksInv_spawned h build confirmed book
                · refine h.of_other ?_ (by simp) (.inl (Function.update_of_ne hother _ _))
                  rintro book ⟨⟩
                  exact hother rfl
            · cases hs
        | task other taskInput =>
            simp only [SeederState.next] at hs
            split at hs
            · next tasks hbefore =>
                obtain ⟨tasks', htask, rfl⟩ := Option.map_eq_some_iff.mp hs
                by_cases hother : network = other
                · subst hother
                  unfold MonitoredInv at h
                  rw [hbefore] at h
                  simp only [SeederState.writes, SeederState.sweepsDone, hbefore, if_true,
                    Function.update_self]
                  cases taskInput with
                  | cache input =>
                      simp only [NetworkTasks.sweepsDone, List.append_nil]
                      exact TasksInv.nextCache h htask
                  | observer input =>
                      have hbegun : m.observing network = true := by
                        simpa [MonitoredState.tooEarly] using hearly
                      rw [hbegun] at h ⊢
                      exact TasksInv.nextObserver h htask
                · refine h.of_other (by simp) ?_ (.inl (Function.update_of_ne hother _ _))
                  rintro taskInput ⟨⟩
                  exact hother rfl
            · cases hs

/-- **The telemetry tells the truth.** In every reachable state of the process with its registry,
whatever the order of both networks' tasks, requests, attestations, crashes and restarts: a running
network's gauges show the floor that its tip puts in force and the book that was classified last, and
once its observer has begun, whether the activation is confirmed, the last sweep and the streak; the
probe counters add up to the sweeps. -/
theorem telemetry_of_reachable (hickory : HickoryProto) (compiled : ZcashNetwork → Network)
    (cacheDir : CacheDir) (handler : DnsRequestHandler) (build : BuildInfo)
    (hreach : (monitoredSystem hickory compiled cacheDir handler build).Reachable m)
    {network : ZcashNetwork} {tasks : NetworkTasks}
    (hrunning : m.seeder.networks network = .running tasks) :
    ShowsTasks compiled network m.registry (m.observing network) (m.swept network) tasks := by
  have hinv : MonitoredInv compiled network m := by
    refine hreach.invariant (P := MonitoredInv compiled network) ?_
      fun _ _ _ _ h hstep => MonitoredInv.next h hstep
    rintro m ⟨⟨-, hunstarted⟩, hregistry, hobserving, hswept⟩
    unfold MonitoredInv
    rw [hunstarted, hregistry]
    exact ⟨hobserving network, hswept network, fun _ => rfl, fun _ _ => rfl⟩
  unfold MonitoredInv at hinv
  rw [hrunning] at hinv
  exact hinv.shows

/-! ## Answers and gauges -/

/-- The servable gauge of one family, capped, is the length of the family's list. -/
theorem ShowsBook.length_family {gauges : Gauges} {updater : CacheUpdater} {shown : Option Refresh}
    (h : ShowsBook gauges updater shown) (ipv4 : Bool) :
    ((shown.elim .default updater.snapshot).family ipv4).length
      = min maxDnsResponsePeers ((gauges (servableKey updater.network ipv4)).getD 0) := by
  cases shown with
  | none =>
      rw [h _ (servableKey_mem_peerSeries _ ipv4), Option.elim_none, default_family]
      rfl
  | some refresh =>
      rw [DescribesBook.servable h ipv4, Option.getD_some]
      exact length_servablePeers ipv4

/-- **Answers match the servable gauge.** Whenever no classified book waits to be sent, the response to
a query for addresses at a zone's domain holds as many as the servable gauge of its network and family
says, up to the cap, and none where the gauge does not exist yet. -/
theorem answers_match_servable_gauge (hickory : HickoryProto) (compiled : ZcashNetwork → Network)
    (cacheDir : CacheDir) (config : SeederConfig) (handler : DnsRequestHandler) (build : BuildInfo)
    (hstart : startZones hickory config = .ok handler.zones)
    (hreach : (monitoredSystem hickory compiled cacheDir handler build).Reachable m)
    {request : Request} {query : Query} {zone : SeedZone} {tasks : NetworkTasks} {ipv4 : Bool}
    (hquery : request.queries.head? = some query)
    (hmatch : handler.matchingZone hickory query.name = some zone)
    (hapex : hickory.numLabels query.name = hickory.numLabels zone.domain)
    (hfamily : addressFamily? query.queryType = some ipv4)
    (hrunning : m.seeder.networks zone.network = .running tasks)
    (hsent : ∀ refresh, tasks.cache.phase ≠ .classified refresh) {verdict : IpAddr → Bool}
    {sendSucceeds : Bool} {response : Response} (hresponse : .sendResponse response
      ∈ m.seeder.effects hickory compiled handler (.query verdict request sendSucceeds)) :
    (response.answers.filterMap (·.data.ip)).length = min maxDnsResponsePeers
      ((m.registry.gauges (servableKey zone.network ipv4)).getD 0) := by
  have hshows := telemetry_of_reachable hickory compiled cacheDir handler build hreach hrunning
  have hlast : lastClassified tasks.cache = tasks.cache.published := by
    unfold lastClassified
    split
    · next refresh hphase => exact absurd hphase (hsent refresh)
    · rfl
  have hbook := hshows.book
  rw [hlast] at hbook
  obtain ⟨hbuilt, hreceiver⟩ := built_of_matchingZone hstart hmatch
  obtain rfl := ((DnsRequestHandler.sendResponse_mem_answerRequest hquery).mp hresponse).2
  obtain ⟨-, hsections⟩ := responseTo_of_matchingZone_eq_some (fun receiver =>
    publishedPeers compiled receiver.updater (m.seeder.networks receiver.updater)) request hmatch
  rw [zoneSections_of_numLabels_eq hapex] at hsections
  have hanswers := congrArg Prod.fst hsections
  dsimp only at hanswers
  have hfeed : publishedPeers compiled zone.servablePeers.updater
      (m.seeder.networks zone.servablePeers.updater)
      = tasks.cache.published.elim .default (spawnedUpdater compiled zone.network).snapshot := by
    rw [hreceiver, hrunning]
    cases hpublished : tasks.cache.published with
    | none => simp only [publishedPeers, hpublished, Option.elim_none]
    | some refresh => simp only [publishedPeers, hpublished, Option.elim_some]
  rw [hanswers, filterMap_ip_apexAnswer hbuilt, List.length_map, requestedPeers, hfamily,
    Option.elim_some, hfeed]
  exact hbook.length_family ipv4

end Steps

/-! ## Both networks under observation -/

section Example

open Reference

/-- The process with both networks and its registry, as mainnet activates at height 100. -/
abbrev exampleMonitored : StepSystem MonitoredState MonitoredInput :=
  monitoredSystem reference (buildActivatingAt ⟨100⟩) ⟨some ["cache"]⟩ ⟨crossZones, none⟩
    ⟨"1.0.0", "unknown"⟩

/-- No process, no files and no metrics. -/
def unmonitored : MonitoredState := ⟨coldStart, .empty, fun _ => false, fun _ => []⟩

/-- Both networks start; mainnet refreshes once and sweeps once, and a request comes in between. -/
def monitoredStart : List MonitoredInput :=
  [.seeder .start, .seeder (.load .mainnet none), .seeder (.spawn .mainnet onePeer),
    .seeder (.load .testnet none), .seeder (.spawn .testnet onePeer), .seeder .serve,
    .beginObserver .testnet, .seeder (.task .mainnet (.cache .readTip)),
    .seeder (.task .mainnet (.cache (.classify 0 .unshuffled))),
    .seeder (.query (fun _ => true) (requestFor addressQuery) true),
    .seeder (.task .mainnet (.cache .publish)), .beginObserver .mainnet,
    .seeder (.task .mainnet (.observer (.sample 0 ⟨.refl, .refl, .refl⟩))),
    .seeder (.task .mainnet (.observer (.probe (fun _ => .ok .elapsed) .refl)))]

/-- Where they lead. -/
def monitoredAfter : Option MonitoredState :=
  monitoredStart.foldlM (fun m input => m.next reference (buildActivatingAt ⟨100⟩)
    ⟨some ["cache"]⟩ ⟨crossZones, none⟩ ⟨"1.0.0", "unknown"⟩ input) unmonitored

/-- Whether mainnet is observed, has one sweep behind it and has sent the book it classified. -/
def mainnetSettled (m : MonitoredState) : Bool :=
  match m.seeder.networks .mainnet with
  | .running tasks =>
      decide (m.swept .mainnet = [⟨1, 0⟩]) && m.observing .mainnet &&
        match tasks.cache.phase with
        | .idle => tasks.cache.published.isSome
        | _ => false
  | _ => false

/-- The inputs lead to such a state. -/
theorem exists_settled : ∃ m tasks, exampleMonitored.Reachable m ∧
    m.seeder.networks .mainnet = .running tasks ∧ m.swept .mainnet = [⟨1, 0⟩] ∧
    m.observing .mainnet = true ∧ tasks.cache.phase = .idle := by
  have hafter : monitoredAfter.any mainnetSettled = true := by decide +kernel
  obtain ⟨m, hm, hsettled⟩ := (Option.any_eq_true _ _).mp hafter
  have hreach : exampleMonitored.Reachable m :=
    ⟨unmonitored, _, ⟨⟨rfl, fun _ => rfl⟩, rfl, fun _ => rfl, fun _ => rfl⟩,
      run_of_foldlM (fun _ _ _ h => h) hm⟩
  unfold mainnetSettled at hsettled
  split at hsettled
  · next tasks htasks =>
      simp only [Bool.and_eq_true, decide_eq_true_eq] at hsettled
      obtain ⟨⟨hswept, hobserving⟩, hphase⟩ := hsettled
      split at hphase
      · next hidle => exact ⟨m, tasks, hreach, htasks, hswept, hobserving, hidle⟩
      · cases hphase
  · cases hsettled

/-- After a sweep whose only probe failed the gauge of the sampled groups shows one, and no streak. -/
theorem telemetry_of_reachable_example : ∃ m, exampleMonitored.Reachable m ∧
    m.registry.gauges (networkKey activationTotalGroups .mainnet) = some 1 ∧
    m.registry.gauges (networkKey activationQualifyingSweeps .mainnet) = some 0 := by
  obtain ⟨m, tasks, hreach, htasks, hswept, hobserving, -⟩ := exists_settled
  have hshows := telemetry_of_reachable reference (buildActivatingAt ⟨100⟩) ⟨some ["cache"]⟩
    ⟨crossZones, none⟩ ⟨"1.0.0", "unknown"⟩ hreach htasks
  have hobserver := hshows.observer hobserving
  refine ⟨m, hreach, ?_, ?_⟩
  · rw [hobserver.total, hswept]
    rfl
  · rw [hobserver.qualifying, hswept]
    rfl

/-- The zone of the address query is mainnet's, and the query names its domain. -/
theorem crossZones_matching : ∃ zone,
    DnsRequestHandler.matchingZone reference ⟨crossZones, none⟩ addressQuery.name = some zone ∧
      zone.network = .mainnet ∧
      reference.numLabels addressQuery.name = reference.numLabels zone.domain := by
  have hmatch : (DnsRequestHandler.matchingZone reference ⟨crossZones, none⟩ addressQuery.name).any
      (fun zone => decide (zone.network = .mainnet ∧
        reference.numLabels addressQuery.name = reference.numLabels zone.domain)) = true := by
    decide +kernel
  obtain ⟨zone, hzone, hprops⟩ := (Option.any_eq_true _ _).mp hmatch
  exact ⟨zone, hzone, of_decide_eq_true hprops⟩

/-- The address query gets a response. -/
theorem exists_response_sent (s : SeederState) : ∃ response, .sendResponse response
    ∈ s.effects reference (buildActivatingAt ⟨100⟩) ⟨crossZones, none⟩
      (.query (fun _ => true) (requestFor addressQuery) true) := by
  unfold SeederState.effects
  have hquery : (requestFor addressQuery).queries.head? = some addressQuery := rfl
  exact ⟨_, (DnsRequestHandler.sendResponse_mem_answerRequest hquery).mpr ⟨.inl rfl, rfl⟩⟩

/-- The response to the address query agrees with mainnet's gauge. -/
theorem answers_match_servable_gauge_example : ∃ m, exampleMonitored.Reachable m ∧
    ∃ response, .sendResponse response ∈ m.seeder.effects reference (buildActivatingAt ⟨100⟩)
        ⟨crossZones, none⟩ (.query (fun _ => true) (requestFor addressQuery) true) ∧
      (response.answers.filterMap (·.data.ip)).length = min maxDnsResponsePeers
        ((m.registry.gauges (servableKey .mainnet true)).getD 0) := by
  obtain ⟨m, tasks, hreach, htasks, -, -, hidle⟩ := exists_settled
  obtain ⟨zone, hmatch, hnetwork, hapex⟩ := crossZones_matching
  have hquery : (requestFor addressQuery).queries.head? = some addressQuery := rfl
  obtain ⟨response, hresponse⟩ : ∃ response, .sendResponse response
      ∈ m.seeder.effects reference (buildActivatingAt ⟨100⟩) ⟨crossZones, none⟩
        (.query (fun _ => true) (requestFor addressQuery) true) :=
    exists_response_sent m.seeder
  rw [← hnetwork] at htasks ⊢
  exact ⟨m, hreach, response, hresponse, answers_match_servable_gauge reference (buildActivatingAt ⟨100⟩)
    ⟨some ["cache"]⟩ crossConfig ⟨crossZones, none⟩ ⟨"1.0.0", "unknown"⟩ crossZones_started hreach
    hquery hmatch hapex rfl htasks (by simp [hidle]) hresponse⟩

end Example

end Zeeder.Serving
