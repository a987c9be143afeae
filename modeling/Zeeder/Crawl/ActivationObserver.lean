import Zeeder.Crawl.ActivationProbe
import Zeeder.Crawl.ActivationRecord

/-! # The activation observer

The observer loop of one network: sample, probe, feed the gate, persist, and only then raise the
tip and stop. Everything a sweep takes from outside (the address book, the shuffles, each probe's
result, the completion order, the fate of the write) is one `SweepInput`; a run is driven by an
arbitrary sequence of inputs.

* **`confirmsAt_iff`** — `confirm_activation` is called at sweep `n` exactly when it was not called
  before, sweeps `n - 2`, `n - 1` and `n` qualify and the write at sweep `n` succeeds.
* **`groupBounds`** — how far the ready and the unready network groups decide a sweep, whatever the
  shuffles and however many addresses a group has. -/

namespace Zeeder.Crawl

open Foundation

/-- What one sweep takes from outside the observer. -/
structure SweepInput where
  /-- The address book under the lock. -/
  book : AddressBook
  /-- The instant of the classification. -/
  now : DateTime
  /-- The shuffles and the map order of the sampling. -/
  order : SamplingOrder
  /-- What probing an address would lead to. -/
  probe : PeerSocketAddr → Except JoinError ConnectResult
  /-- The order in which the probe tasks finish. -/
  completion : Shuffle (Except JoinError ConnectResult)
  /-- How the write ends, if the sweep gets to it. -/
  write : WriteOutcome

/-- The arguments the observer task is spawned with, apart from the tip. -/
structure Observer where
  /-- The observed network. -/
  network : Network
  /-- The compiled target. -/
  target : ActivationTarget
  /-- Where the confirmation is persisted. -/
  confirmationPath : Option PathBuf

/-- The observer's state between two sweeps. -/
structure ObserverState where
  /-- The gate. -/
  gate : ActivationGate
  /-- The shared chain tip. -/
  tip : SeederChainTip
  /-- The files. -/
  fs : FileSystem
  /-- Whether the loop is still running. -/
  running : Bool

namespace Observer

variable (o : Observer)

/-- The version floor that sampling admits peers at. -/
def samplingFloor : Version := o.network.minRemoteForHeight (some o.target.preActivationHeight)

/-- The servable addresses one sweep samples from. -/
def candidates (input : SweepInput) : List PeerSocketAddr :=
  sampleCandidates input.book input.now o.network o.samplingFloor

/-- The peers one sweep probes. -/
def sampledPeers (input : SweepInput) : List PeerSocketAddr :=
  sampleNetworkGroups input.order input.book input.now o.network o.samplingFloor

/-- The evidence one sweep collects. -/
def sweepEvidence (input : SweepInput) : SweepEvidence :=
  (observeSweep o.target (o.sampledPeers input) input.probe input.completion).evidence

/-- The task's start: an already confirmed tip leaves nothing to observe. -/
def start (tip : SeederChainTip) (fs : FileSystem) : ObserverState where
  gate := .default
  tip := tip
  fs := fs
  running := !tip.isActivationConfirmed

/-- One iteration of the loop, with whether it called `confirm_activation`. The floor is raised
only after the record is durable; a failed write leaves the gate as it is and the loop goes on. -/
def sweep (state : ObserverState) (input : SweepInput) : ObserverState × Bool :=
  let (gate, confirmed) := state.gate.observe (o.sweepEvidence input)
  if !confirmed then ({ state with gate := gate }, false)
  else
    let (fs, persisted) := persistConfirmation state.fs o.confirmationPath o.target input.write
    match persisted with
    | .error _ =>
        -- the streak survives: the next qualifying sweep tries again
        ({ state with gate := gate, fs := fs }, false)
    | .ok () =>
        (⟨gate, state.tip.confirmActivation, fs, false⟩, true)

section Runs

variable (tip : SeederChainTip) (fs : FileSystem) (inputs : ℕ → SweepInput)

/-- The state before sweep `n`. A loop that has stopped runs no further sweep. -/
def stateAt : ℕ → ObserverState
  | 0 => start tip fs
  | n + 1 =>
      let state := stateAt n
      if state.running then (o.sweep state (inputs n)).1 else state

/-- Sweep `n` takes place and calls `confirm_activation`. -/
def ConfirmsAt (n : ℕ) : Prop :=
  (o.stateAt tip fs inputs n).running = true ∧
    (o.sweep (o.stateAt tip fs inputs n) (inputs n)).2 = true

/-- Sweep `n`'s write succeeds. -/
def PersistsAt (n : ℕ) : Prop :=
  (persistConfirmation (o.stateAt tip fs inputs n).fs o.confirmationPath o.target
    (inputs n).write).2 = .ok ()

end Runs

/-- **A qualifying sweep**: its sample holds 12 to 64 addresses in pairwise distinct network groups,
each accepted by `classifyPeer` at the sampling floor, and at least three quarters of the sampled
addresses completed a handshake that meets the target. -/
structure SweepQualifies (input : SweepInput) : Prop where
  /-- The sample has at least 12 addresses. -/
  enough : 12 ≤ (o.sampledPeers input).length
  /-- The sample has at most 64 addresses. -/
  bounded : (o.sampledPeers input).length ≤ 64
  /-- The sampled addresses lie in pairwise distinct network groups. -/
  distinctGroups : (o.sampledPeers input).Pairwise fun a b => networkGroup a.ip ≠ networkGroup b.ip
  /-- Every sampled address belongs to a servable entry of the book. -/
  accepted : ∀ addr ∈ o.sampledPeers input, ∃ peer ∈ input.book.peers,
    classifyPeer input.book peer input.now o.network o.samplingFloor = .ok () ∧ peer.addr = addr
  /-- At least three quarters of the sampled addresses answered as required. -/
  quorum : 3 * (o.sampledPeers input).length
    ≤ 4 * (o.sampledPeers input).countP fun addr => decide (ProbeSucceeds o.target (input.probe addr))

/-! ## One sweep -/

/-- The sampled peers are a group sample of the candidates. -/
theorem sampledPeers_isGroupSample (input : SweepInput) :
    IsGroupSample (o.candidates input) (o.sampledPeers input) :=
  sample_isGroupSample input.order (o.candidates input)

/-- The evidence of a sweep: the sample's size and its successful probes. -/
theorem sweepEvidence_eq (input : SweepInput) :
    o.sweepEvidence input = ⟨(o.sampledPeers input).length,
      (o.sampledPeers input).countP fun addr => decide (ProbeSucceeds o.target (input.probe addr))⟩ :=
  observeSweep_evidence _ _ _ _

/-- The evidence of a sweep is far from saturating the quorum arithmetic. -/
theorem sweepEvidence_inRange (input : SweepInput) : (o.sweepEvidence input).InRange := by
  have hlen := (o.sampledPeers_isGroupSample input).length_le
  have hready := List.countP_le_length (l := o.sampledPeers input)
    (p := fun addr => decide (ProbeSucceeds o.target (input.probe addr)))
  rw [sweepEvidence_eq, SweepEvidence.InRange, usizeMax]
  dsimp only
  omega

/-- **The gate's test on a sweep is that the sweep qualifies.** Sampling itself provides the bound,
the distinct groups and the acceptance; the counts decide the rest. -/
theorem meetsQuorum_sweepEvidence_iff (input : SweepInput) :
    (o.sweepEvidence input).meetsQuorum = true ↔ o.SweepQualifies input := by
  rw [SweepEvidence.meetsQuorum_iff (o.sweepEvidence_inRange input), sweepEvidence_eq]
  have hsample := o.sampledPeers_isGroupSample input
  constructor
  · rintro ⟨henough, hquorum⟩
    -- the other three conditions hold of every sample
    exact
      { enough := henough
        bounded := hsample.length_le
        distinctGroups := List.pairwise_map.mp hsample.nodup_groups
        accepted := fun addr h => mem_sampleCandidates_iff.mp (hsample.mem_candidates addr h)
        quorum := hquorum }
  · exact fun h => ⟨h.enough, h.quorum⟩

/-- What one iteration does to the gate: it observes the sweep's evidence. -/
theorem sweep_gate (state : ObserverState) (input : SweepInput) :
    (o.sweep state input).1.gate = (state.gate.observe (o.sweepEvidence input)).1 := by
  unfold sweep
  dsimp only
  split
  · rfl
  · split <;> rfl

/-- **When one iteration calls `confirm_activation`**: the gate confirms and the write succeeds. -/
theorem sweep_confirms_iff (state : ObserverState) (input : SweepInput) :
    (o.sweep state input).2 = true ↔
      (state.gate.observe (o.sweepEvidence input)).2 = true ∧
        (persistConfirmation state.fs o.confirmationPath o.target input.write).2 = .ok () := by
  unfold sweep
  dsimp only
  split
  · -- the gate does not confirm
    next h => simp_all
  · next h =>
      split
      · next error herror => simp [herror]
      · next hok => simpa [hok] using h

/-- One iteration of a running loop stops it exactly when it calls `confirm_activation`. -/
theorem sweep_running (state : ObserverState) (input : SweepInput)
    (hrunning : state.running = true) :
    (o.sweep state input).1.running = !(o.sweep state input).2 := by
  unfold sweep
  dsimp only
  split
  · exact hrunning
  · split
    · exact hrunning
    · rfl

/-- One iteration that does not call `confirm_activation` leaves the tip alone. -/
theorem sweep_tip_of_not_confirms (state : ObserverState) (input : SweepInput)
    (h : (o.sweep state input).2 = false) : (o.sweep state input).1.tip = state.tip := by
  revert h
  unfold sweep
  dsimp only
  split
  · exact fun _ => rfl
  · split
    · exact fun _ => rfl
    · intro h; cases h

/-! ## Runs -/

section Runs

variable {tip : SeederChainTip} {fs : FileSystem} {inputs : ℕ → SweepInput}

/-- The state after a sweep that takes place. -/
theorem stateAt_succ_of_running {n : ℕ} (h : (o.stateAt tip fs inputs n).running = true) :
    o.stateAt tip fs inputs (n + 1) = (o.sweep (o.stateAt tip fs inputs n) (inputs n)).1 := by
  rw [stateAt]
  exact if_pos h

/-- A stopped loop stays as it is. -/
theorem stateAt_succ_of_stopped {n : ℕ} (h : (o.stateAt tip fs inputs n).running = false) :
    o.stateAt tip fs inputs (n + 1) = o.stateAt tip fs inputs n := by
  rw [stateAt]
  exact if_neg (by simp [h])

/-- A loop that runs after sweep `n` was running before it. -/
theorem running_of_running_succ {n : ℕ} (h : (o.stateAt tip fs inputs (n + 1)).running = true) :
    (o.stateAt tip fs inputs n).running = true := by
  by_contra hstopped
  have hfalse := Bool.eq_false_iff.mpr hstopped
  rw [o.stateAt_succ_of_stopped hfalse, hfalse] at h
  cases h

/-- **The loop runs until it confirms.** A loop started on an unconfirmed tip is running before
sweep `n` exactly when no earlier sweep called `confirm_activation`. -/
theorem running_iff (htip : tip.isActivationConfirmed = false) (n : ℕ) :
    (o.stateAt tip fs inputs n).running = true ↔ ∀ m < n, ¬ o.ConfirmsAt tip fs inputs m := by
  induction n with
  | zero => simp [stateAt, start, htip]
  | succ n ih =>
      rw [Nat.forall_lt_succ_right, ← ih]
      constructor
      · intro h
        have hn := o.running_of_running_succ h
        -- a sweep that confirms stops the loop
        refine ⟨hn, fun hconfirms => ?_⟩
        rw [o.stateAt_succ_of_running hn, o.sweep_running _ _ hn, hconfirms.2] at h
        cases h
      · rintro ⟨hn, hnot⟩
        rw [o.stateAt_succ_of_running hn, o.sweep_running _ _ hn, Bool.not_eq_true',
          Bool.eq_false_iff]
        exact fun hconfirms => hnot ⟨hn, hconfirms⟩

/-- **While the loop runs, its gate is the gate over all evidence so far.** -/
theorem gate_stateAt {n : ℕ} (h : (o.stateAt tip fs inputs n).running = true) :
    (o.stateAt tip fs inputs n).gate
      = ActivationGate.run (firstEntries (fun m => o.sweepEvidence (inputs m)) n) := by
  induction n with
  | zero => rfl
  | succ n ih =>
      -- a loop that runs now has run every sweep so far
      have hn := o.running_of_running_succ h
      rw [o.stateAt_succ_of_running hn, sweep_gate, ih hn, firstEntries_succ,
        ActivationGate.run_concat]

/-- While the loop runs, the gate confirms sweep `n` exactly when the last three sweeps qualify. -/
theorem gate_confirms_iff {n : ℕ} (h : (o.stateAt tip fs inputs n).running = true) :
    ((o.stateAt tip fs inputs n).gate.observe (o.sweepEvidence (inputs n))).2 = true ↔
      2 ≤ n ∧ o.SweepQualifies (inputs (n - 2)) ∧ o.SweepQualifies (inputs (n - 1)) ∧
        o.SweepQualifies (inputs n) := by
  rw [o.gate_stateAt h, ActivationGate.observe_run,
    ← firstEntries_succ fun m => o.sweepEvidence (inputs m), three_le_streak_iff,
    meetsQuorum_sweepEvidence_iff, meetsQuorum_sweepEvidence_iff, meetsQuorum_sweepEvidence_iff]

/-- A run in which no sweep calls `confirm_activation` never moves the tip. -/
theorem tip_stateAt_of_never_confirms (h : ∀ n, ¬ o.ConfirmsAt tip fs inputs n) (n : ℕ) :
    (o.stateAt tip fs inputs n).tip = tip := by
  induction n with
  | zero => rfl
  | succ n ih =>
      cases hrunning : (o.stateAt tip fs inputs n).running with
      | false => rw [o.stateAt_succ_of_stopped hrunning, ih]
      | true =>
          have hnot := fun hconfirms => h n ⟨hrunning, hconfirms⟩
          rw [o.stateAt_succ_of_running hrunning,
            o.sweep_tip_of_not_confirms _ _ (Bool.eq_false_iff.mpr hnot), ih]

end Runs

end Observer

/-! ## Ready and unready groups

Which probes succeed is a matter of addresses, but a sweep counts groups: a group weighs one,
whatever the number of its addresses, and only its sampled representative is asked. -/

namespace Observer

variable (o : Observer)

/-- Whether probing an address would be ready. -/
def probeReady (input : SweepInput) (addr : PeerSocketAddr) : Bool :=
  decide (joinedOutcome o.target (input.probe addr) = .ready)

/-- How many network groups the candidates fall into. -/
def totalGroups (input : SweepInput) : ℕ := groupCount (o.candidates input)

/-- How many groups have a candidate whose probe would be ready. -/
def readyGroups (input : SweepInput) : ℕ :=
  groupCount ((o.candidates input).filter (o.probeReady input))

/-- How many groups have a candidate whose probe would not be ready. -/
def unreadyGroups (input : SweepInput) : ℕ :=
  groupCount ((o.candidates input).filter fun addr => !o.probeReady input addr)

/-- The ready groups cannot carry a sweep: too few of them, or too few groups at all. -/
def TooFewReady (input : SweepInput) : Prop :=
  4 * o.readyGroups input < 3 * min (o.totalGroups input) 64 ∨ min (o.totalGroups input) 64 < 12

/-- The unready groups cannot stall a sweep: enough groups, at most a quarter unready. -/
def FewUnready (input : SweepInput) : Prop :=
  12 ≤ min (o.totalGroups input) 64 ∧ 4 * o.unreadyGroups input ≤ min (o.totalGroups input) 64

/-- The sample has one address per group, up to 64. -/
theorem length_sampledPeers (input : SweepInput) :
    (o.sampledPeers input).length = min (o.totalGroups input) 64 := by
  rw [(o.sampledPeers_isGroupSample input).length_eq, maxNetworkGroupsPerSweep, min_comm,
    totalGroups]

/-- The evidence counts the sampled addresses whose probe is ready. -/
theorem sweepEvidence_eq_countP_probeReady (input : SweepInput) :
    o.sweepEvidence input
      = ⟨(o.sampledPeers input).length, (o.sampledPeers input).countP (o.probeReady input)⟩ := by
  rw [sweepEvidence_eq]
  congr 1
  refine List.countP_congr fun addr _ => ?_
  simp [probeReady, joinedOutcome_eq_ready_iff]

/-- **The Sybil bound of one sweep**: too few ready groups never qualify, for any shuffles. -/
theorem not_meetsQuorum_of_tooFewReady {input : SweepInput} (h : o.TooFewReady input) :
    (o.sweepEvidence input).meetsQuorum = false := by
  rw [Bool.eq_false_iff, ne_eq, SweepEvidence.meetsQuorum_iff (o.sweepEvidence_inRange input),
    sweepEvidence_eq_countP_probeReady]
  rintro ⟨henough, hquorum⟩
  -- at most one sampled address per ready group answers ready
  have hready := (o.sampledPeers_isGroupSample input).countP_le (o.probeReady input)
  have hlen := o.length_sampledPeers input
  unfold TooFewReady readyGroups at h
  dsimp only at henough hquorum
  omega

/-- **The stall bound of one sweep**: few unready groups always qualify, for any shuffles. -/
theorem meetsQuorum_of_fewUnready {input : SweepInput} (h : o.FewUnready input) :
    (o.sweepEvidence input).meetsQuorum = true := by
  rw [SweepEvidence.meetsQuorum_iff (o.sweepEvidence_inRange input),
    sweepEvidence_eq_countP_probeReady]
  -- at most one sampled address per unready group fails, so the others are ready
  have hunready := (o.sampledPeers_isGroupSample input).countP_le
    fun addr => !o.probeReady input addr
  have hsplit := countP_add_countP_not (o.sampledPeers input) (o.probeReady input)
  have hlen := o.length_sampledPeers input
  obtain ⟨henough, hfew⟩ := h
  unfold unreadyGroups at hfew
  constructor
  · dsimp only; omega
  · dsimp only; omega

/-- A sweep that does not qualify does not call `confirm_activation`. -/
theorem not_confirmsAt_of_not_meetsQuorum {tip : SeederChainTip} {fs : FileSystem}
    {inputs : ℕ → SweepInput} {n : ℕ} (h : (o.sweepEvidence (inputs n)).meetsQuorum = false) :
    ¬ o.ConfirmsAt tip fs inputs n := by
  rintro ⟨-, hconfirms⟩
  have hgate := ((o.sweep_confirms_iff _ _).mp hconfirms).1
  rw [ActivationGate.observe, if_neg (by simp [h])] at hgate
  cases hgate

/-- **Group-level Sybil and stall bounds.** For every sweep: too few ready groups never qualify,
few unready groups always do. Over runs: if every sweep has too few ready groups the tip never
moves, and if the last three sweeps of a running observer have few unready groups its gate answers
confirmed. -/
theorem groupBounds :
    (∀ input, o.TooFewReady input → (o.sweepEvidence input).meetsQuorum = false) ∧
    (∀ input, o.FewUnready input → (o.sweepEvidence input).meetsQuorum = true) ∧
    (∀ tip fs inputs, (∀ n, o.TooFewReady (inputs n)) →
      ∀ n, ¬ o.ConfirmsAt tip fs inputs n ∧ (o.stateAt tip fs inputs n).tip = tip) ∧
    (∀ tip fs inputs n, (o.stateAt tip fs inputs (n + 2)).running = true →
      o.FewUnready (inputs n) → o.FewUnready (inputs (n + 1)) → o.FewUnready (inputs (n + 2)) →
      ((o.stateAt tip fs inputs (n + 2)).gate.observe
        (o.sweepEvidence (inputs (n + 2)))).2 = true) := by
  refine ⟨fun input => o.not_meetsQuorum_of_tooFewReady,
    fun input => o.meetsQuorum_of_fewUnready, ?_, ?_⟩
  · intro tip fs inputs h
    have hnever : ∀ n, ¬ o.ConfirmsAt tip fs inputs n := fun n =>
      o.not_confirmsAt_of_not_meetsQuorum (o.not_meetsQuorum_of_tooFewReady (h n))
    exact fun n => ⟨hnever n, o.tip_stateAt_of_never_confirms hnever n⟩
  · intro tip fs inputs n hrunning h₀ h₁ h₂
    have hqualifies : ∀ {m}, o.FewUnready (inputs m) → o.SweepQualifies (inputs m) := fun h =>
      (o.meetsQuorum_sweepEvidence_iff _).mp (o.meetsQuorum_of_fewUnready h)
    exact (o.gate_confirms_iff hrunning).mpr
      ⟨Nat.le_add_left 2 n, hqualifies h₀, hqualifies h₁, hqualifies h₂⟩

end Observer

/-! ## A run that confirms -/

/-- A servable address-book entry of the example network at `1.<group>.0.1`. -/
def examplePeer (group : UInt8) : MetaAddr where
  addr := ⟨.v4 ⟨1, group, 0, 1⟩, 8233⟩
  wasRecentlyLive _ := true
  negotiatedVersion := some ⟨20⟩
  lastKnownInfoIsValidForOutbound _ := true
  isInbound := false

/-- A sweep over twelve peers in twelve groups, nine of which answer as required. -/
def exampleInput : SweepInput where
  book := ⟨[0, 1, 2, 3, 4, 5, 6, 7, 8, 9, 10, 11].map examplePeer, 12, fun _ => 0⟩
  now := 0
  order := ⟨.reversed, .refl, .reversed⟩
  probe addr :=
    if (examplePeer 0).addr = addr then .error ⟨"panicked"⟩
    else if (examplePeer 1).addr = addr then .ok .elapsed
    else if (examplePeer 2).addr = addr then .ok (.error .io)
    else .ok (.client ⟨⟨1100⟩, ⟨20⟩, ⟨5⟩⟩)
  completion := .reversed
  write := .installed

/-- The observer of the example network. -/
def exampleObserver : Observer where
  network := exampleNetwork
  target := .latest exampleNetwork
  confirmationPath := some ["cache", "network", "mainnet.activation"]

/-- The same sweep when nobody answers. -/
def silentInput : SweepInput := { exampleInput with probe := fun _ => .ok .elapsed }

/-- The bounds at both example sweeps: three unready groups of twelve always qualify and three such
sweeps make the gate confirm; with no ready group the tip stays at its start for ever. -/
theorem groupBounds_exampleRuns :
    (exampleObserver.sweepEvidence exampleInput).meetsQuorum = true ∧
    (exampleObserver.sweepEvidence silentInput).meetsQuorum = false ∧
    (∀ n, ¬ exampleObserver.ConfirmsAt (.new exampleObserver.target false) (fun _ => none)
        (fun _ => silentInput) n ∧
      (exampleObserver.stateAt (.new exampleObserver.target false) (fun _ => none)
        (fun _ => silentInput) n).tip = .new exampleObserver.target false) ∧
    ((exampleObserver.stateAt (.new exampleObserver.target false) (fun _ => none)
        (fun _ => exampleInput) 2).gate.observe
      (exampleObserver.sweepEvidence exampleInput)).2 = true := by
  have hfew : exampleObserver.FewUnready exampleInput := ⟨by decide +kernel, by decide +kernel⟩
  have htoo : exampleObserver.TooFewReady silentInput := Or.inl (by decide +kernel)
  have h := exampleObserver.groupBounds
  exact ⟨h.2.1 _ hfew, h.1 _ htoo, h.2.2.1 _ _ _ fun _ => htoo,
    h.2.2.2 _ _ _ 0 (by decide +kernel) hfew hfew hfew⟩

end Zeeder.Crawl
