import Zeeder.Serving.ProcessRefinement

/-! # The floor after a restart

A raised tip has its record on disk, and nothing that the process, another network or an operator does
takes the record away. So whoever starts later and can read it starts at the raised floor: there is no
time between the start and the first refresh in which a peer below the floor could be published, and
nothing is left to observe.

* **`RecordInPlace.next`** — no step of the process loses the record.
* **`ConfirmedPhase`** — the invariant of a network that was started from its record.
* **`restarted_serves_above_floor`** — what such a process answers. -/

namespace Zeeder.Serving

open Crawl Dns Config Foundation Foundation.StepSystem

/-! ## One network that starts confirmed -/

section Cache

variable {network : Network} {s t : CacheState} {l : CacheLabel} {ls : List CacheLabel}

/-- The network's book, tip, loop and channel in a process that started from the record: every floor in
sight is the required version. -/
structure ConfirmedCache (network : Network) (cache : CacheState) : Prop where
  /-- The tip is at the activation height. -/
  tip : cache.tip = .new (.latest network) true
  /-- The floor of an unfinished refresh. -/
  versions : ∀ version ∈ cache.phase.versions,
    version = (ActivationTarget.latest network).requiredVersion
  /-- The floor of the refresh in the channel. -/
  published : ∀ refresh, cache.published = some refresh →
    refresh.minimumVersion = (ActivationTarget.latest network).requiredVersion

/-- A tip that starts confirmed has nothing to confirm. -/
theorem confirmActivation_new_true (target : ActivationTarget) :
    (SeederChainTip.new target true).confirmActivation = .new target true := by
  have hdone : (SeederChainTip.new target true).needsRaise = false :=
    decide_eq_false (lt_irrefl target.activationHeight)
  unfold SeederChainTip.confirmActivation
  rw [hdone]
  exact if_neg Bool.false_ne_true

theorem ConfirmedCache.step (h : ConfirmedCache network s) (hstep : CacheStep network s l t) :
    ConfirmedCache network t := by
  cases hstep with
  | updateBook book => exact ⟨h.tip, h.versions, h.published⟩
  | confirmActivation =>
      have htip : s.tip.confirmActivation = .new (.latest network) true := by
        rw [h.tip, confirmActivation_new_true]
      exact ⟨htip, h.versions, h.published⟩
  | readTip hphase =>
      refine ⟨h.tip, fun version hversion => ?_, h.published⟩
      rw [List.mem_singleton.mp hversion, h.tip]
      rfl
  | classify minimumVersion now order hphase =>
      refine ⟨h.tip, fun version hversion => h.versions version ?_, h.published⟩
      rw [hphase]
      exact hversion
  | publish refresh hphase =>
      refine ⟨h.tip, fun _ hversion => absurd hversion List.not_mem_nil, ?_⟩
      rintro _ ⟨⟩
      refine h.versions _ ?_
      rw [hphase]
      exact List.mem_singleton_self _

theorem ConfirmedCache.run (h : ConfirmedCache network s) (hrun : (cacheSystem network).Run s ls t) :
    ConfirmedCache network t :=
  hrun.preserves (P := ConfirmedCache network) (A := fun _ => True)
    (fun _ _ _ _ h hstep => h.step hstep) (fun _ _ => trivial) h

end Cache

/-- A network that was started from its record, however far it is by now. -/
def ConfirmedPhase (network : Network) : NetworkPhase → Prop
  | .unstarted => True
  | .loaded confirmed => confirmed = true
  | .running tasks => tasks.observer = .finished ∧ ConfirmedCache network tasks.cache

section Tasks

variable {network : Network} {path : Option PathBuf} {fs : FileSystem} {tasks tasks' : NetworkTasks}

/-- A finished observer takes no step. -/
theorem nextObserver_of_finished (hfinished : tasks.observer = .finished) (input : ObserverInput) :
    tasks.nextObserver network path fs input = none := by
  unfold NetworkTasks.nextObserver
  rw [hfinished]
  cases input <;> rfl

/-- Tasks that are spawned confirmed. -/
theorem confirmedPhase_spawned (book : AddressBook) :
    ConfirmedPhase network (.running (.spawned network true book)) := by
  have hconfirmed : (SeederChainTip.new (.latest network) true).isActivationConfirmed = true :=
    decide_eq_true (le_refl (ActivationTarget.latest network).activationHeight)
  refine ⟨?_, rfl, fun _ hversion => absurd hversion List.not_mem_nil, fun _ h => by cases h⟩
  show (if (SeederChainTip.new (.latest network) true).isActivationConfirmed then
    ObserverPoint.finished else .waiting) = .finished
  rw [if_pos hconfirmed]

/-- **Tasks that go on** stay confirmed. -/
theorem confirmedPhase_next (h : ConfirmedPhase network (.running tasks)) {input : TaskInput}
    (hnext : tasks.next network path fs input = some tasks') :
    ConfirmedPhase network (.running tasks') := by
  obtain ⟨hfinished, hcache⟩ := h
  obtain ⟨ls, hrun⟩ := NetworkTasks.exists_run_cache hnext
  refine ⟨?_, hcache.run hrun⟩
  cases input with
  | cache input =>
      obtain ⟨cache, -, rfl⟩ := Option.map_eq_some_iff.mp hnext
      exact hfinished
  | observer input =>
      have hnone : tasks.nextObserver network path fs input = none :=
        nextObserver_of_finished hfinished input
      cases hnone.symm.trans hnext

end Tasks

/-! ## The record and the process -/

section Process

variable {hickory : HickoryProto} {compiled : ZcashNetwork → Network} {cacheDir : CacheDir}
  {handler : DnsRequestHandler} {network : ZcashNetwork} {s t : SeederState} {input : SeederInput}
  {inputs : List SeederInput}

/-- The record of a network's compiled target is on disk. -/
def RecordInPlace (compiled : ZcashNetwork → Network) (cacheDir : CacheDir) (network : ZcashNetwork)
    (s : SeederState) : Prop :=
  HoldsRecord s.fs (confirmationPath cacheDir (compiled network)) (.latest (compiled network))

/-- What the record file holds decides whether it is the record. -/
theorem holdsRecord_iff {fs : FileSystem} {path : Option PathBuf} {target : ActivationTarget} :
    HoldsRecord fs path target ↔ recordFile path fs = some target.recordBytes := by
  cases path with
  | none => simp [HoldsRecord, recordFile]
  | some file => simp [HoldsRecord, recordFile]

/-- **No step loses the record.** -/
theorem RecordInPlace.next (hnames : NamesDiffer compiled network)
    (h : RecordInPlace compiled cacheDir network s)
    (hnext : s.next compiled cacheDir handler input = some t) :
    RecordInPlace compiled cacheDir network t := by
  unfold RecordInPlace at h ⊢
  cases networkMoves_of_next network hnext with
  | rest htasks hrecord => exact holdsRecord_iff.mpr ((hrecord hnames).trans (holdsRecord_iff.mp h))
  | crash htasks hfs => rwa [hfs]
  | load fault hbefore htasks hfs => rwa [hfs]
  | spawn confirmed book hbefore htasks hfs => rwa [hfs]
  | task input tasks tasks' hbefore htask htasks hfs =>
      rw [hfs]
      cases input with
      | cache input => exact h
      | observer input =>
          cases input with
          | write outcome => exact h.persistConfirmation outcome
          | _ => exact h
  | attest dir a c v outcome htasks hfs =>
      rw [hfs]
      exact h.attestConfirmation dir a c v outcome

/-- Only reading a network's record takes it from unstarted to loaded. -/
theorem eq_load_of_next (hnext : s.next compiled cacheDir handler input = some t)
    (hbefore : s.networks network = .unstarted) {confirmed : Bool}
    (hafter : t.networks network = .loaded confirmed) :
    ∃ fault, input = .load network fault ∧ confirmed = loadConfirmation s.fs
      (confirmationPath cacheDir (compiled network)) (.latest (compiled network)) fault := by
  have hsame {networks : NetworkPhase} (h : networks = s.networks network)
      (hloaded : networks = .loaded confirmed) : False := by
    rw [h, hbefore] at hloaded
    cases hloaded
  cases input with
  | load other fault =>
      simp only [SeederState.next] at hnext
      split at hnext
      · split at hnext <;> cases hnext
        by_cases hother : network = other
        · subst hother
          exact ⟨fault, rfl, NetworkPhase.loaded.inj (hafter.symm.trans (Function.update_self ..))⟩
        · exact (hsame (Function.update_of_ne hother _ _) hafter).elim
      · cases hnext
  | spawn other book =>
      simp only [SeederState.next] at hnext
      split at hnext
      · cases hnext
        by_cases hother : network = other
        · subst hother
          cases (Function.update_self ..).symm.trans hafter
        · exact (hsame (Function.update_of_ne hother _ _) hafter).elim
      · cases hnext
  | task other input =>
      simp only [SeederState.next] at hnext
      split at hnext
      · obtain ⟨tasks', -, rfl⟩ := Option.map_eq_some_iff.mp hnext
        by_cases hother : network = other
        · subst hother
          cases (Function.update_self ..).symm.trans hafter
        · exact (hsame (Function.update_of_ne hother _ _) hafter).elim
      · cases hnext
  | crash =>
      cases hnext
      cases hafter
  | start =>
      simp only [SeederState.next] at hnext
      split at hnext <;> cases hnext
      exact (hsame rfl hafter).elim
  | serve =>
      simp only [SeederState.next] at hnext
      split at hnext <;> cases hnext
      exact (hsame rfl hafter).elim
  | query verdict request sendSucceeds =>
      simp only [SeederState.next] at hnext
      split at hnext <;> cases hnext
      exact (hsame rfl hafter).elim
  | attest other dir a c v outcome =>
      cases hnext
      exact (hsame rfl hafter).elim

/-- The record is on disk, and the network was or will be started from it. -/
structure StartedFromRecord (compiled : ZcashNetwork → Network) (cacheDir : CacheDir)
    (network : ZcashNetwork) (s : SeederState) : Prop where
  /-- The record is on disk. -/
  record : RecordInPlace compiled cacheDir network s
  /-- However far the network is, it started from the record. -/
  phase : ConfirmedPhase (compiled network) (s.networks network)

/-- **One step** whose read of the record, if it is one, succeeds. -/
theorem StartedFromRecord.next (hnames : NamesDiffer compiled network)
    (h : StartedFromRecord compiled cacheDir network s)
    (hread : ∀ error, input ≠ .load network (some error))
    (hnext : s.next compiled cacheDir handler input = some t) :
    StartedFromRecord compiled cacheDir network t := by
  refine ⟨h.record.next hnames hnext, ?_⟩
  have hphase := h.phase
  cases networkMoves_of_next network hnext with
  | rest htasks hrecord => rwa [htasks]
  | attest dir a c v outcome htasks hfs => rwa [htasks]
  | crash htasks hfs =>
      rw [htasks]
      exact trivial
  | load fault hbefore htasks hfs =>
      obtain ⟨fault, rfl, hloaded⟩ := eq_load_of_next hnext hbefore htasks
      -- the read succeeds, and finds the record
      obtain rfl : fault = none := by
        cases fault with
        | none => rfl
        | some error => exact absurd rfl (hread error)
      rw [htasks, hloaded]
      exact (loadConfirmation_eq_true_iff _ _ _).mpr h.record
  | spawn confirmed book hbefore htasks hfs =>
      rw [hbefore] at hphase
      obtain rfl : confirmed = true := hphase
      rw [htasks]
      exact confirmedPhase_spawned book
  | task input tasks tasks' hbefore htask htasks hfs =>
      rw [hbefore] at hphase
      rw [htasks]
      exact confirmedPhase_next hphase htask

/-- **A run** whose reads of the record succeed. -/
theorem StartedFromRecord.run (hnames : NamesDiffer compiled network)
    (h : StartedFromRecord compiled cacheDir network s)
    (hreads : ∀ error, .load network (some error) ∉ inputs)
    (hrun : (processSystem compiled cacheDir handler).Run s inputs t) :
    StartedFromRecord compiled cacheDir network t := by
  refine hrun.preserves (P := StartedFromRecord compiled cacheDir network)
    (A := fun input => ∀ error, input ≠ .load network (some error))
    (fun _ _ _ hread h hstep => h.next hnames hread hstep) ?_ h
  rintro input hinput error rfl
  exact hreads error hinput

/-- After a crash of a process with a raised tip, whatever came in between. -/
theorem startedFromRecord_of_crash (hnames : NamesDiffer compiled network)
    (hrecord : RecordInPlace compiled cacheDir network s) {before after : List SeederInput}
    (hrun : (processSystem compiled cacheDir handler).Run s (before ++ .crash :: after) t)
    (hreads : ∀ error, .load network (some error) ∉ after) :
    StartedFromRecord compiled cacheDir network t := by
  obtain ⟨a, hbefore, hrest⟩ := hrun.split
  obtain ⟨b, hcrash, hafter⟩ := hrest.uncons
  have hkept : RecordInPlace compiled cacheDir network a :=
    hbefore.preserves (P := RecordInPlace compiled cacheDir network) (A := fun _ => True)
      (fun _ _ _ _ h hstep => h.next hnames hstep) (fun _ _ => trivial) hrecord
  have hfirst : StartedFromRecord compiled cacheDir network b := by
    refine ⟨hkept.next hnames hcrash, ?_⟩
    cases hcrash
    exact trivial
  exact hfirst.run hnames hreads hafter

/-! ## Answers -/

/-- The networks' caches; one that does not run has published nothing. -/
def cacheStates (compiled : ZcashNetwork → Network) (s : SeederState) (network : ZcashNetwork) :
    CacheState :=
  match s.networks network with
  | .running tasks => tasks.cache
  | _ => (NetworkTasks.spawned (compiled network) false ⟨[], 0, fun _ => 0⟩).cache

/-- The handler reads the channels of these caches. -/
theorem publishedPeers_eq_currentFeeds (receiver : Receiver) :
    publishedPeers compiled receiver.updater (s.networks receiver.updater)
      = currentFeeds compiled (cacheStates compiled s) receiver := by
  unfold publishedPeers currentFeeds cacheStates
  cases s.networks receiver.updater <;> rfl

/-- A snapshot in the channel was published by a running network. -/
theorem running_of_published {refresh : Refresh}
    (h : (cacheStates compiled s network).published = some refresh) :
    ∃ tasks, s.networks network = .running tasks ∧ tasks.cache.published = some refresh := by
  unfold cacheStates at h
  cases hphase : s.networks network with
  | unstarted =>
      rw [hphase] at h
      cases h
  | loaded confirmed =>
      rw [hphase] at h
      cases h
  | running tasks =>
      rw [hphase] at h
      exact ⟨tasks, rfl, h⟩

end Process

/-- **A restarted process serves from the raised floor on.** Take any run of the process with both
networks in which a network's tip was raised, go on in any way up to a crash, and from there in any way
in which reading that network's record does not fail: starts, crashes, book updates, refreshes, writes,
operators' attestations, the other network's steps. At the end the network has nothing to observe, and
every address that an answer in its zone holds, also the first one after the start, is of an entry that
negotiated at least the required version. -/
theorem restarted_serves_above_floor (hickory : HickoryProto) (compiled : ZcashNetwork → Network)
    (cacheDir : CacheDir) (config : SeederConfig) (handler : DnsRequestHandler)
    (hstart : startZones hickory config = .ok handler.zones) (network : ZcashNetwork)
    (hnames : NamesDiffer compiled network)
    (hpos : 0 < (compiled network).latestActivationHeight.val.toNat) {s t : SeederState}
    (hreach : (processSystem compiled cacheDir handler).Reachable s) {tasks : NetworkTasks}
    (hrunning : s.networks network = .running tasks)
    (hraised : (compiled network).latestActivationHeight ≤ tasks.cache.tip.height)
    {before after : List SeederInput}
    (hrun : (processSystem compiled cacheDir handler).Run s (before ++ .crash :: after) t)
    (hreads : ∀ error, .load network (some error) ∉ after) :
    (∀ input, t.next compiled cacheDir handler (.task network (.observer input)) = none) ∧
    ∀ verdict request sendSucceeds response query zone,
      .sendResponse response
        ∈ t.effects hickory compiled handler (.query verdict request sendSucceeds) →
      request.queries.head? = some query → handler.matchingZone hickory query.name = some zone →
      zone.network = network →
      ∀ record ∈ response.answers, ∀ ip, record.data.ip = some ip →
        ∃ tasks refresh, t.networks network = .running tasks ∧
          tasks.cache.published = some refresh ∧ ∃ peer ∈ refresh.book.peers, peer.addr.ip = ip ∧
            ∃ version, peer.negotiatedVersion = some version ∧
              (ActivationTarget.latest (compiled network)).requiredVersion ≤ version := by
  have hrecord : RecordInPlace compiled cacheDir network s :=
    holdsRecord_iff.mpr (record_of_raised hnames hpos hreach hrunning hraised)
  have hstarted := startedFromRecord_of_crash hnames hrecord hrun hreads
  constructor
  · intro input
    have hphase := hstarted.phase
    simp only [SeederState.next]
    split
    · next running htasks =>
        rw [htasks] at hphase
        rw [Option.map_eq_none_iff]
        exact nextObserver_of_finished hphase.1 input
    · rfl
  · rintro verdict request sendSucceeds response query zone hsent hquery hmatch rfl record hrecord ip hip
    -- the handler reads the channels of the running networks
    have hfeeds : (fun receiver => publishedPeers compiled receiver.updater
        (t.networks receiver.updater)) = currentFeeds compiled (cacheStates compiled t) :=
      funext publishedPeers_eq_currentFeeds
    obtain rfl := ((DnsRequestHandler.sendResponse_mem_answerRequest hquery).mp hsent).2
    rw [hfeeds] at hrecord
    obtain ⟨refresh, ipv4, hpublished, -, peer, hpeer, hpeerIp, -, -, hok, -⟩ :=
      accepted_of_record hstart hmatch hip hrecord
    obtain ⟨running, htasks, hrefresh⟩ := running_of_published hpublished
    have hphase := hstarted.phase
    rw [htasks] at hphase
    obtain ⟨version, hversion, hle⟩ := classifyPeer_ok_version hok
    rw [hphase.2.published refresh hrefresh] at hle
    exact ⟨running, refresh, htasks, hrefresh, peer, hpeer, hpeerIp, version, hversion, hle⟩

/-! ## A restart of both networks -/

section Example

open Reference

/-- The process with both networks, as mainnet activates at height 100. -/
abbrev exampleProcess : StepSystem SeederState SeederInput :=
  processSystem (buildActivatingAt ⟨100⟩) ⟨some ["cache"]⟩ ⟨crossZones, none⟩

/-- Where inputs lead, if they can come. -/
def stateAfter (s : SeederState) (inputs : List SeederInput) : Option SeederState :=
  inputs.foldlM (fun s input => s.next (buildActivatingAt ⟨100⟩) ⟨some ["cache"]⟩
    ⟨crossZones, none⟩ input) s

theorem run_of_stateAfter {s t : SeederState} {inputs : List SeederInput}
    (h : stateAfter s inputs = some t) : exampleProcess.Run s inputs t :=
  run_of_foldlM (fun _ _ _ hnext => hnext) h

/-- Both networks' zones start. -/
theorem crossZones_started : startZones reference crossConfig = .ok crossZones := by
  have hok : (startZones reference crossConfig).isOk = true := by decide +kernel
  obtain ⟨zones, hzones⟩ := Result.exists_ok_of_isOk hok
  rw [crossZones, hzones]

/-- Mainnet is attested and started. -/
def attestedStart : List SeederInput :=
  [.start, .attest .mainnet ⟨some ["cache"]⟩ 100 1100 20 .installed, .load .mainnet none,
    .spawn .mainnet onePeer]

/-- After a crash both networks are started, and mainnet refreshes once. -/
def startAgain : List SeederInput :=
  [.start, .load .mainnet none, .spawn .mainnet onePeer, .load .testnet none,
    .spawn .testnet onePeer, .serve, .task .mainnet (.cache .readTip),
    .task .mainnet (.cache (.classify 0 .unshuffled)), .task .mainnet (.cache .publish)]

/-- Whether mainnet runs with a raised tip. -/
def mainnetRaised (s : SeederState) : Bool :=
  match s.networks .mainnet with
  | .running tasks => decide ((⟨100⟩ : Height) ≤ tasks.cache.tip.height)
  | _ => false

/-- How many addresses the answer to the address query holds. -/
def addressesAnswered (s : SeederState) : ℕ :=
  ((DnsRequestHandler.responseTo reference ⟨crossZones, none⟩
    (fun receiver => publishedPeers (buildActivatingAt ⟨100⟩) receiver.updater
      (s.networks receiver.updater)) (requestFor addressQuery) addressQuery).answers.filterMap
    (·.data.ip)).length

/-- After the crash and the start, mainnet answers with its one peer and observes nothing. -/
theorem restarted_serves_above_floor_example : ∃ t, exampleProcess.Reachable t ∧
    addressesAnswered t = 1 ∧ ∀ input, t.next (buildActivatingAt ⟨100⟩) ⟨some ["cache"]⟩
      ⟨crossZones, none⟩ (.task .mainnet (.observer input)) = none := by
  have hnames : NamesDiffer (buildActivatingAt ⟨100⟩) .mainnet := by
    intro other hother
    cases other with
    | mainnet => exact absurd rfl hother
    | testnet => exact (by decide : "testnet" ≠ "mainnet")
  have hfirst : (stateAfter coldStart attestedStart).any mainnetRaised = true := by decide +kernel
  have hsecond : ((stateAfter coldStart attestedStart).bind fun s =>
      stateAfter s (.crash :: startAgain)).any (fun t => addressesAnswered t == 1) = true := by
    decide +kernel
  obtain ⟨s, hs, hraised⟩ := (Option.any_eq_true _ _).mp hfirst
  rw [hs, Option.bind_some, Option.any_eq_true] at hsecond
  obtain ⟨t, ht, hanswered⟩ := hsecond
  have hreach : exampleProcess.Reachable s :=
    ⟨coldStart, _, ⟨rfl, fun _ => rfl⟩, run_of_stateAfter hs⟩
  have hrun : exampleProcess.Run s ([] ++ .crash :: startAgain) t := run_of_stateAfter ht
  unfold mainnetRaised at hraised
  split at hraised
  · next tasks htasks =>
      have h := restarted_serves_above_floor reference (buildActivatingAt ⟨100⟩) ⟨some ["cache"]⟩
        crossConfig ⟨crossZones, none⟩ crossZones_started .mainnet hnames (by decide) hreach htasks
        (of_decide_eq_true hraised) hrun (by simp [startAgain])
      exact ⟨t, hreach.run hrun, by simpa using hanswered, h.1⟩
  · cases hraised

end Example

end Zeeder.Serving
