import Zeeder.Serving.Process
import Zeeder.Serving.Routing

/-! # The networks do not interfere

The networks share the process, the cache directory, the record format and the DNS handler. What one
network shows, its tip, its record file, its channel and the answers in its zone, is a view of the
process that inputs of the other network leave alone: records of different networks have different
paths, and a name in one network's zone is routed to that zone's channel only.

* **`answerRequest_congr`** — an answer in a network's zone depends on that network's channel only.
* **`seederMachine_unwinding`** — the unwinding conditions of the process.
* **`networks_isolated`** — runs that agree on one network's inputs show the same of that network. -/

namespace Zeeder.Serving

open Crawl Dns Config Foundation

/-! ## Tasks -/

namespace NetworkTasks

variable {network : Network} {path : Option PathBuf} {fs₁ fs₂ : FileSystem} {tasks : NetworkTasks}

/-- Where one network's tasks go does not depend on the files: reporting a write looks at its outcome
only. -/
theorem next_congr (input : TaskInput) :
    tasks.next network path fs₁ input = tasks.next network path fs₂ input := by
  cases input with
  | cache input => rfl
  | observer input =>
      cases input with
      | write outcome => cases path <;> rfl
      | _ => rfl

/-- What a network's record file holds once its tasks went on depends on what it held before. -/
theorem recordFile_filesAfter_congr {input : TaskInput}
    (h : recordFile path fs₁ = recordFile path fs₂) :
    recordFile path (filesAfter network path fs₁ input)
      = recordFile path (filesAfter network path fs₂ input) := by
  cases input with
  | cache input => exact h
  | observer input =>
      cases input with
      | write outcome => exact recordFile_persistConfirmation_congr h
      | _ => exact h

end NetworkTasks

/-- Another network's tasks leave a network's record file alone. -/
theorem recordFile_filesAfter_of_ne {compiled : ZcashNetwork → Network}
    {network other : ZcashNetwork} {cacheDir : CacheDir} {fs : FileSystem} {input : TaskInput}
    (hname : (compiled other).lowercaseName ≠ (compiled network).lowercaseName) :
    recordFile (confirmationPath cacheDir (compiled network))
        (NetworkTasks.filesAfter (compiled other) (confirmationPath cacheDir (compiled other)) fs
          input)
      = recordFile (confirmationPath cacheDir (compiled network)) fs := by
  cases input with
  | cache input => rfl
  | observer input =>
      cases input with
      | write outcome => exact recordFile_persistConfirmation_of_ne hname
      | _ => rfl

/-! ## Answers -/

section Answers

variable {hickory : HickoryProto} {config : SeederConfig} {handler : DnsRequestHandler}

/-- **An answer in a network's zone depends on that network's channel only.** -/
theorem answerRequest_congr (hzone : hickory.ZoneOfIsSuffix)
    (hvalid : config.validate hickory = .ok ())
    (hstart : startZones hickory config = .ok handler.zones) {zone : SeedZone}
    (hmem : zone ∈ handler.zones) {request : Request} {query : Query}
    (hquery : request.queries.head? = some query)
    (hcontains : zone.contains hickory query.name = true) {feeds₁ feeds₂ : Receiver → ServablePeers}
    (hfeeds : feeds₁ ⟨zone.network⟩ = feeds₂ ⟨zone.network⟩) (verdict : IpAddr → Bool)
    (sendSucceeds : Bool) :
    handler.answerRequest hickory feeds₁ verdict request sendSucceeds
      = handler.answerRequest hickory feeds₂ verdict request sendSucceeds := by
  have hmatch : handler.matchingZone hickory query.name = some zone :=
    ((acceptedZones_of_startZones hvalid hstart).matchingZone_eq_some_iff hzone).mpr
      ⟨hmem, hcontains⟩
  -- the zone reads its own network's channel
  obtain ⟨conf, -, hspawn⟩ := mem_zones_of_startZones hstart hmem
  have hown := (spawnNetworkCrawler_ok hspawn).2
  have hanswer : handler.answerQuery hickory feeds₁ query
      = handler.answerQuery hickory feeds₂ query := by
    simp only [DnsRequestHandler.answerQuery, hmatch, hown, hfeeds]
  simp only [DnsRequestHandler.answerRequest, DnsRequestHandler.respond, hquery, hanswer]

end Answers

/-! ## What one network sees and shows -/

section Views

variable (hickory : HickoryProto) (compiled : ZcashNetwork → Network) (cacheDir : CacheDir)
  (handler : DnsRequestHandler) (network : ZcashNetwork)

/-- A network's part of the process and of the files. -/
structure NetworkView where
  /-- The life of the process. -/
  phase : SeederPhase
  /-- The network's start and tasks. -/
  tasks : NetworkPhase
  /-- What its record file holds. -/
  record : Option ByteArray

/-- The process as one network has it. -/
def networkView (s : SeederState) : NetworkView where
  phase := s.phase
  tasks := s.networks network
  record := recordFile (confirmationPath cacheDir (compiled network)) s.fs

/-- Whether a request's query lies in the network's zone. -/
def inZone (request : Request) : Bool :=
  request.queries.head?.any fun query =>
    handler.zones.any fun zone => zone.network == network && zone.contains hickory query.name

/-- The inputs that concern a network: the process's life, its own tasks, reads, writes and
attestations, and the queries in its zone. -/
def concerns : SeederInput → Bool
  | .start | .serve | .crash => true
  | .load other _ => other == network
  | .spawn other _ => other == network
  | .task other _ => other == network
  | .attest other _ _ _ _ _ => other == network
  | .query _ request _ => inZone hickory handler network request

/-- What a network shows after an input. -/
structure NetworkShown where
  /-- What answering a query in its zone did. -/
  effects : List RequestEffect
  /-- The height of its tip, once there is one. -/
  tipHeight : Option Height
  /-- What its record file holds. -/
  record : Option ByteArray
  /-- What its channel holds. -/
  published : ServablePeers

/-- What a network shows, from the effects of an input and its view afterwards. -/
def networkShown (shown : List RequestEffect × NetworkView) : NetworkShown where
  effects := shown.1
  tipHeight :=
    match shown.2.tasks with
    | .running tasks => some tasks.cache.tip.height
    | _ => none
  record := shown.2.record
  published := publishedPeers compiled network shown.2.tasks

/-- What a network shows along a run, after each input that concerns it. -/
def shownAlong (s : SeederState) (inputs : List SeederInput) : Option (List NetworkShown) :=
  ((seederMachine hickory compiled cacheDir handler).observed (networkView compiled cacheDir network)
    (concerns hickory handler network) s inputs).map (List.map (networkShown compiled network))

end Views

section Unwinding

variable {hickory : HickoryProto} {config : SeederConfig} {handler : DnsRequestHandler}
  {cacheDir : CacheDir} {network : ZcashNetwork} {compiled compiled₁ compiled₂ : ZcashNetwork → Network}

/-- The records of the other networks are other files. -/
def NamesDiffer (compiled : ZcashNetwork → Network) (network : ZcashNetwork) : Prop :=
  ∀ other, other ≠ network → (compiled other).lowercaseName ≠ (compiled network).lowercaseName

/-- **An input that does not concern a network leaves its view alone.** -/
theorem networkView_unseen (hnames : NamesDiffer compiled network) :
    (seederMachine hickory compiled cacheDir handler).Unseen (networkView compiled cacheDir network)
      (concerns hickory handler network) := by
  intro s input t hconcerns hnext
  change s.next compiled cacheDir handler input = some t at hnext
  cases input with
  | start => cases hconcerns
  | serve => cases hconcerns
  | crash => cases hconcerns
  | load other fault =>
      have hne : network ≠ other := Ne.symm (beq_eq_false_iff_ne.mp hconcerns)
      simp only [SeederState.next] at hnext
      split at hnext
      · split at hnext
        · cases hnext
          simp only [networkView, Function.update_of_ne hne]
        · cases hnext
      · cases hnext
  | spawn other book =>
      have hne : network ≠ other := Ne.symm (beq_eq_false_iff_ne.mp hconcerns)
      simp only [SeederState.next] at hnext
      split at hnext
      · cases hnext
        simp only [networkView, Function.update_of_ne hne]
      · cases hnext
  | task other input =>
      have hne : network ≠ other := Ne.symm (beq_eq_false_iff_ne.mp hconcerns)
      simp only [SeederState.next] at hnext
      split at hnext
      · obtain ⟨tasks, -, rfl⟩ := Option.map_eq_some_iff.mp hnext
        simp only [networkView, Function.update_of_ne hne,
          recordFile_filesAfter_of_ne (hnames other hne.symm)]
      · cases hnext
  | query verdict request sendSucceeds =>
      simp only [SeederState.next] at hnext
      split at hnext
      · cases hnext
        rfl
      · cases hnext
  | attest other dir a c v outcome =>
      have hne : network ≠ other := Ne.symm (beq_eq_false_iff_ne.mp hconcerns)
      simp only [SeederState.next] at hnext
      cases hnext
      simp only [networkView, recordFile_attestConfirmation_of_ne (hnames other hne.symm)]

/-- Equal channels have equal snapshots. -/
theorem publishedPeers_congr (hcompiled : compiled₁ network = compiled₂ network)
    (tasks : NetworkPhase) :
    publishedPeers compiled₁ network tasks = publishedPeers compiled₂ network tasks := by
  simp only [publishedPeers, spawnedUpdater, hcompiled]

section Seen

variable {s₁ s₂ t₁ t₂ : SeederState} (hcompiled : compiled₁ network = compiled₂ network)
  (hview : networkView compiled₁ cacheDir network s₁ = networkView compiled₂ cacheDir network s₂)

include hcompiled hview

/-- Loading the record: both processes read the same. -/
theorem networkView_load {fault : Option IoError}
    (h₁ : s₁.next compiled₁ cacheDir handler (.load network fault) = some t₁)
    (h₂ : s₂.next compiled₂ cacheDir handler (.load network fault) = some t₂) :
    networkView compiled₁ cacheDir network t₁ = networkView compiled₂ cacheDir network t₂ := by
  obtain ⟨hphase, htasks, hrecord⟩ := NetworkView.mk.inj hview
  simp only [SeederState.next, htasks, hcompiled] at h₁ h₂
  cases hunstarted : s₂.networks network with
  | unstarted =>
      simp only [hunstarted] at h₁ h₂
      split at h₁ <;> cases h₁
      split at h₂ <;> cases h₂
      rw [hcompiled] at hrecord
      simp only [networkView, Function.update_self, hcompiled, hphase, hrecord,
        loadConfirmation_congr hrecord]
  | _ => simp [hunstarted] at h₁

/-- Spawning the tasks: both processes start from the same answer and the same book. -/
theorem networkView_spawn {book : AddressBook}
    (h₁ : s₁.next compiled₁ cacheDir handler (.spawn network book) = some t₁)
    (h₂ : s₂.next compiled₂ cacheDir handler (.spawn network book) = some t₂) :
    networkView compiled₁ cacheDir network t₁ = networkView compiled₂ cacheDir network t₂ := by
  obtain ⟨hphase, htasks, hrecord⟩ := NetworkView.mk.inj hview
  simp only [SeederState.next, htasks, hcompiled] at h₁ h₂
  cases hloaded : s₂.networks network with
  | loaded confirmed =>
      simp only [hloaded] at h₁ h₂
      cases h₁
      cases h₂
      simp only [networkView, Function.update_self, hphase, hrecord]
  | _ => simp [hloaded] at h₁

/-- The tasks go on in the same way, and so does their record file. -/
theorem networkView_task {input : TaskInput}
    (h₁ : s₁.next compiled₁ cacheDir handler (.task network input) = some t₁)
    (h₂ : s₂.next compiled₂ cacheDir handler (.task network input) = some t₂) :
    networkView compiled₁ cacheDir network t₁ = networkView compiled₂ cacheDir network t₂ := by
  obtain ⟨hphase, htasks, hrecord⟩ := NetworkView.mk.inj hview
  simp only [SeederState.next, htasks, hcompiled] at h₁ h₂
  cases hrunning : s₂.networks network with
  | running tasks =>
      simp only [hrunning] at h₁ h₂
      obtain ⟨tasks₁, hnext₁, rfl⟩ := Option.map_eq_some_iff.mp h₁
      obtain ⟨tasks₂, hnext₂, rfl⟩ := Option.map_eq_some_iff.mp h₂
      have hsame : some tasks₁ = some tasks₂ :=
        hnext₁.symm.trans ((NetworkTasks.next_congr input).trans hnext₂)
      obtain rfl := Option.some.inj hsame
      rw [hcompiled] at hrecord
      simp only [networkView, Function.update_self, hcompiled, hphase,
        NetworkTasks.recordFile_filesAfter_congr hrecord]
  | _ => simp [hrunning] at h₁

/-- An attestation writes the same in both. -/
theorem networkView_attest {dir : CacheDir} {a c v : UInt32} {outcome : WriteOutcome}
    (h₁ : s₁.next compiled₁ cacheDir handler (.attest network dir a c v outcome) = some t₁)
    (h₂ : s₂.next compiled₂ cacheDir handler (.attest network dir a c v outcome) = some t₂) :
    networkView compiled₁ cacheDir network t₁ = networkView compiled₂ cacheDir network t₂ := by
  obtain ⟨hphase, htasks, hrecord⟩ := NetworkView.mk.inj hview
  cases h₁
  cases h₂
  rw [hcompiled] at hrecord
  simp only [networkView, hcompiled, hphase, htasks, recordFile_attestConfirmation_congr hrecord]

end Seen

/-- **An input that concerns a network does the same to processes that look the same to it.** -/
theorem networkView_seen (hzone : hickory.ZoneOfIsSuffix) (hvalid : config.validate hickory = .ok ())
    (hstart : startZones hickory config = .ok handler.zones)
    (hcompiled : compiled₁ network = compiled₂ network) {s₁ s₂ t₁ t₂ : SeederState}
    {input : SeederInput} (hconcerns : concerns hickory handler network input = true)
    (hview : networkView compiled₁ cacheDir network s₁ = networkView compiled₂ cacheDir network s₂)
    (h₁ : s₁.next compiled₁ cacheDir handler input = some t₁)
    (h₂ : s₂.next compiled₂ cacheDir handler input = some t₂) :
    s₁.effects hickory compiled₁ handler input = s₂.effects hickory compiled₂ handler input ∧
      networkView compiled₁ cacheDir network t₁ = networkView compiled₂ cacheDir network t₂ := by
  cases input with
  | start =>
      obtain ⟨hphase, htasks, hrecord⟩ := NetworkView.mk.inj hview
      simp only [SeederState.next] at h₁ h₂
      split at h₁ <;> cases h₁
      split at h₂ <;> cases h₂
      exact ⟨rfl, by simp only [networkView, htasks, hrecord]⟩
  | serve =>
      obtain ⟨hphase, htasks, hrecord⟩ := NetworkView.mk.inj hview
      simp only [SeederState.next] at h₁ h₂
      split at h₁ <;> cases h₁
      split at h₂ <;> cases h₂
      exact ⟨rfl, by simp only [networkView, htasks, hrecord]⟩
  | crash =>
      obtain ⟨hphase, htasks, hrecord⟩ := NetworkView.mk.inj hview
      cases h₁
      cases h₂
      exact ⟨rfl, by simp only [networkView, hrecord]⟩
  | load other fault =>
      obtain rfl : other = network := by simpa [concerns] using hconcerns
      exact ⟨rfl, networkView_load hcompiled hview h₁ h₂⟩
  | spawn other book =>
      obtain rfl : other = network := by simpa [concerns] using hconcerns
      exact ⟨rfl, networkView_spawn hcompiled hview h₁ h₂⟩
  | task other input =>
      obtain rfl : other = network := by simpa [concerns] using hconcerns
      exact ⟨rfl, networkView_task hcompiled hview h₁ h₂⟩
  | attest other dir a c v outcome =>
      obtain rfl : other = network := by simpa [concerns] using hconcerns
      exact ⟨rfl, networkView_attest hcompiled hview h₁ h₂⟩
  | query verdict request sendSucceeds =>
      obtain ⟨query, hquery, hany⟩ := (Option.any_eq_true _ _).mp hconcerns
      obtain ⟨zone, hmem, hmatches⟩ := List.any_eq_true.mp hany
      obtain ⟨hnetwork, hcontains⟩ := Bool.and_eq_true_iff.mp hmatches
      obtain rfl : zone.network = network := beq_iff_eq.mp hnetwork
      simp only [SeederState.next] at h₁ h₂
      split at h₁ <;> cases h₁
      split at h₂ <;> cases h₂
      refine ⟨answerRequest_congr hzone hvalid hstart hmem hquery hcontains ?_ verdict sendSucceeds,
        hview⟩
      -- the zone's channel is the network's own
      have htasks : s₁.networks zone.network = s₂.networks zone.network :=
        congrArg NetworkView.tasks hview
      show publishedPeers compiled₁ _ (s₁.networks _) = publishedPeers compiled₂ _ (s₂.networks _)
      rw [htasks, publishedPeers_congr hcompiled]

/-- **The process unwinds**: for one network, two processes that differ in the other networks'
compiled data do the same on inputs that concern it and nothing on others. -/
theorem seederMachine_unwinding (hzone : hickory.ZoneOfIsSuffix)
    (hvalid : config.validate hickory = .ok ())
    (hstart : startZones hickory config = .ok handler.zones)
    (hcompiled : compiled₁ network = compiled₂ network) (hnames₁ : NamesDiffer compiled₁ network)
    (hnames₂ : NamesDiffer compiled₂ network) :
    Machine.Unwinding (seederMachine hickory compiled₁ cacheDir handler)
      (seederMachine hickory compiled₂ cacheDir handler) (networkView compiled₁ cacheDir network)
      (networkView compiled₂ cacheDir network) (concerns hickory handler network) where
  unseen₁ := networkView_unseen hnames₁
  unseen₂ := networkView_unseen hnames₂
  seen _ _ _ _ _ hconcerns hview h₁ h₂ :=
    networkView_seen hzone hvalid hstart hcompiled hconcerns hview h₁ h₂

/-- **The networks do not interfere.** For every accepted configuration and every network of the
process: an input that does not concern the network, whatever the other network does, leaves its tip,
its record file and its channel alone; and two runs, with crashes and restarts, whose inputs that
concern the network agree, from states that agree on its part, show the same tip heights, record
files, snapshots and answers in its zone, however the other network's inputs, compiled data and the
interleaving differ. -/
theorem networks_isolated (hickory : HickoryProto) (hzone : hickory.ZoneOfIsSuffix)
    (config : SeederConfig) (hvalid : config.validate hickory = .ok ()) (handler : DnsRequestHandler)
    (hstart : startZones hickory config = .ok handler.zones) (cacheDir : CacheDir)
    (network : ZcashNetwork) (compiled₁ compiled₂ : ZcashNetwork → Network)
    (hcompiled : compiled₁ network = compiled₂ network) (hnames₁ : NamesDiffer compiled₁ network)
    (hnames₂ : NamesDiffer compiled₂ network) :
    (∀ s input t, concerns hickory handler network input = false →
      s.next compiled₁ cacheDir handler input = some t →
      networkView compiled₁ cacheDir network t = networkView compiled₁ cacheDir network s) ∧
    (∀ s₁ s₂ inputs₁ inputs₂ shown₁ shown₂,
      networkView compiled₁ cacheDir network s₁ = networkView compiled₂ cacheDir network s₂ →
      inputs₁.filter (concerns hickory handler network)
        = inputs₂.filter (concerns hickory handler network) →
      shownAlong hickory compiled₁ cacheDir handler network s₁ inputs₁ = some shown₁ →
      shownAlong hickory compiled₂ cacheDir handler network s₂ inputs₂ = some shown₂ →
      shown₁ = shown₂) := by
  refine ⟨fun s input t => networkView_unseen hnames₁ s input t, ?_⟩
  intro s₁ s₂ inputs₁ inputs₂ shown₁ shown₂ hview hinputs h₁ h₂
  obtain ⟨observed₁, hobserved₁, rfl⟩ := Option.map_eq_some_iff.mp h₁
  obtain ⟨observed₂, hobserved₂, rfl⟩ := Option.map_eq_some_iff.mp h₂
  rw [(seederMachine_unwinding hzone hvalid hstart hcompiled hnames₁ hnames₂).observed_eq hview
    hinputs hobserved₁ hobserved₂]
  refine List.map_congr_left fun shown _ => ?_
  simp only [networkShown, publishedPeers_congr hcompiled]

end Unwinding

/-! ## Two runs of both networks -/

section Examples

open Reference

/-- The zones of a configuration with both networks. -/
def crossZones : List SeedZone :=
  match startZones reference crossConfig with
  | .ok zones => zones
  | .error _ => []

/-- A build in which the test network activates at the given height. -/
def buildActivatingAt (height : Height) : ZcashNetwork → Network
  | .mainnet => exampleNetwork
  | .testnet => { exampleNetwork with lowercaseName := "testnet", latestActivationHeight := height }

/-- No process and no files. -/
def coldStart : SeederState := ⟨fun _ => none, .down, fun _ => .unstarted⟩

/-- Both networks start before mainnet is attested and its tip is read. -/
def bothStart : List SeederInput :=
  [.start, .load .mainnet none, .spawn .mainnet onePeer, .load .testnet none, .spawn .testnet onePeer,
    .serve, .attest .mainnet ⟨some ["cache"]⟩ 100 200 20 .installed, .task .mainnet (.cache .readTip)]

/-- So they do, but the test network is attested, its read fails and its refresh loop runs first. -/
def testnetDiffers : List SeederInput :=
  [.start, .attest .testnet ⟨some ["cache"]⟩ 7 107 10 .installed, .load .mainnet none,
    .spawn .mainnet onePeer, .load .testnet (some ⟨.other, "unreadable"⟩), .spawn .testnet onePeer,
    .task .testnet (.cache .readTip), .serve,
    .attest .mainnet ⟨some ["cache"]⟩ 100 200 20 .installed,
    .task .testnet (.cache (.classify 0 .unshuffled)), .task .mainnet (.cache .readTip)]

/-- Mainnet shows the same in both. -/
theorem networks_isolated_example :
    ∃ shown, shownAlong reference (buildActivatingAt ⟨100⟩) ⟨some ["cache"]⟩ ⟨crossZones, none⟩
        .mainnet coldStart bothStart = some shown ∧
      shownAlong reference (buildActivatingAt ⟨7⟩) ⟨some ["cache"]⟩ ⟨crossZones, none⟩
        .mainnet coldStart testnetDiffers = some shown := by
  have hstart : startZones reference crossConfig = .ok crossZones := by
    have hok : (startZones reference crossConfig).isOk = true := by decide +kernel
    obtain ⟨zones, hzones⟩ := Result.exists_ok_of_isOk hok
    rw [crossZones, hzones]
  have hnames : ∀ height, NamesDiffer (buildActivatingAt height) .mainnet := by
    intro height other hother
    cases other with
    | mainnet => exact absurd rfl hother
    | testnet => exact (by decide : "testnet" ≠ "mainnet")
  obtain ⟨shown₁, hshown₁⟩ := Option.isSome_iff_exists.mp (show (shownAlong reference
    (buildActivatingAt ⟨100⟩) ⟨some ["cache"]⟩ ⟨crossZones, none⟩ .mainnet coldStart
    bothStart).isSome = true by decide +kernel)
  obtain ⟨shown₂, hshown₂⟩ := Option.isSome_iff_exists.mp (show (shownAlong reference
    (buildActivatingAt ⟨7⟩) ⟨some ["cache"]⟩ ⟨crossZones, none⟩ .mainnet coldStart
    testnetDiffers).isSome = true by decide +kernel)
  have hsame := (networks_isolated reference reference_zoneOfIsSuffix crossConfig (by decide +kernel)
    ⟨crossZones, none⟩ hstart ⟨some ["cache"]⟩ .mainnet (buildActivatingAt ⟨100⟩)
    (buildActivatingAt ⟨7⟩) rfl (hnames _) (hnames _)).2 coldStart coldStart bothStart
    testnetDiffers shown₁ shown₂ rfl rfl hshown₁ hshown₂
  exact ⟨shown₁, hshown₁, hsame ▸ hshown₂⟩

end Examples

end Zeeder.Serving
