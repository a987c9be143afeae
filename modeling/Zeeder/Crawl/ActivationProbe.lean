import Zeeder.Crawl.ActivationSampling
import Zeeder.Crawl.ChainTip

/-! # Probing the sampled peers

Every sampled peer gets one isolated handshake in its own task. A probe ends in one `ProbeOutcome`;
only `ready` counts towards the quorum, and whatever else happens to a probe (refused, closed, timed
out, outdated, panicked) stays in the denominator. `observeSweep` is the `join_next` loop over the
tasks in the order they finish.

* **`joinedOutcome_eq_ready_iff`** — a probe is ready exactly when its task completed a handshake
  that reports the confirmation height, the required version and the full-node service.
* **`observeSweep_evidence`** — in every completion order the evidence is the sample's size and the
  number of ready probes. -/

namespace Zeeder.Crawl

open Foundation

/-- Why one sampled peer did or did not count towards the quorum. -/
inductive ProbeOutcome where
  /-- The peer meets every condition and counts towards the quorum. -/
  | ready
  /-- The TCP connection failed. -/
  | connectFailed
  /-- The peer accepted the connection, then closed or reset it. -/
  | handshakeClosed
  /-- The peer did not complete the connection or answer in time. -/
  | handshakeTimeout
  /-- The handshake failed for another protocol reason. -/
  | handshakeFailed
  /-- The peer reported a start height below the confirmation height. -/
  | belowConfirmationHeight
  /-- The peer's protocol version is below the target. -/
  | outdatedVersion
  /-- The peer does not advertise the full-node service. -/
  | notFullNode
  /-- The probe task itself panicked or was cancelled. -/
  | probeTaskFailed
  deriving DecidableEq, Repr

namespace ProbeOutcome

/-- Every outcome, in the order the metric documentation lists them. -/
def all : List ProbeOutcome :=
  [ready, connectFailed, handshakeClosed, handshakeTimeout, handshakeFailed,
    belowConfirmationHeight, outdatedVersion, notFullNode, probeTaskFailed]

/-- Stable `outcome` metric label. -/
def label : ProbeOutcome → String
  | ready => "ready"
  | connectFailed => "connect_failed"
  | handshakeClosed => "handshake_closed"
  | handshakeTimeout => "handshake_timeout"
  | handshakeFailed => "handshake_failed"
  | belowConfirmationHeight => "below_confirmation_height"
  | outdatedVersion => "outdated_version"
  | notFullNode => "not_full_node"
  | probeTaskFailed => "probe_task_failed"

end ProbeOutcome

/-- zebra-network's handshake errors. -/
inductive HandshakeError where
  /-- The peer sent an unexpected message. -/
  | unexpectedMessage
  /-- The peer reused our nonce. -/
  | remoteNonceReuse
  /-- We generated a duplicate nonce. -/
  | localDuplicateNonce
  /-- The peer closed the connection. -/
  | connectionClosed
  /-- An I/O error occurred. -/
  | io
  /-- A message did not parse. -/
  | serialization
  /-- The peer's version is obsolete. -/
  | obsoleteVersion (version : Version)
  /-- The handshake timed out. -/
  | timeout
  /-- The peer lacks required services. -/
  | missingRequiredServices
  deriving DecidableEq

/-- The boxed error of an isolated connection, by the downcasts the seeder tries. -/
inductive ConnectError where
  /-- An elapsed timer. -/
  | elapsed
  /-- A handshake error. -/
  | handshake (error : HandshakeError)
  /-- An I/O error from the TCP connection. -/
  | io
  /-- Any other error type. -/
  | other
  deriving DecidableEq

/-- What a remote peer reports in a completed handshake. -/
structure RemoteInfo where
  /-- The height of the peer's best block. -/
  startHeight : Height
  /-- The peer's protocol version. -/
  version : Version
  /-- The services the peer advertises. -/
  services : PeerServices
  deriving DecidableEq

/-- How one isolated connection ended, under the observer's timeout. -/
inductive ConnectResult where
  /-- The observer's own timeout elapsed first. -/
  | elapsed
  /-- The connection or the handshake failed. -/
  | error (error : ConnectError)
  /-- The handshake completed. -/
  | client (remote : RemoteInfo)
  deriving DecidableEq

/-- A probe task that panicked or was cancelled. -/
structure JoinError where
  /-- The task's panic or cancellation message. -/
  message : String
  deriving DecidableEq

/-- Classify a handshake that returned an error. -/
def ProbeOutcome.ofHandshakeError : ConnectError → ProbeOutcome
  | .elapsed => handshakeTimeout
  | .handshake .timeout => handshakeTimeout
  | .handshake .connectionClosed => handshakeClosed
  | .handshake .io => handshakeClosed
  | .handshake (.obsoleteVersion _) => outdatedVersion
  | .handshake .unexpectedMessage => handshakeFailed
  | .handshake .remoteNonceReuse => handshakeFailed
  | .handshake .localDuplicateNonce => handshakeFailed
  | .handshake .serialization => handshakeFailed
  | .handshake .missingRequiredServices => handshakeFailed
  | .io => connectFailed
  | .other => handshakeFailed

/-- Classify a completed handshake, reporting the first unmet condition. -/
def ProbeOutcome.ofHandshake (startHeight : Height) (version : Version) (services : PeerServices)
    (target : ActivationTarget) : ProbeOutcome :=
  if startHeight < target.confirmationHeight then belowConfirmationHeight
  else if version < target.requiredVersion then outdatedVersion
  else if !services.contains PeerServices.nodeNetwork then notFullNode
  else ready

/-- Probe one peer and classify the result. -/
def observePeer (target : ActivationTarget) : ConnectResult → ProbeOutcome
  | .elapsed => .handshakeTimeout
  | .error error => .ofHandshakeError error
  | .client remote => .ofHandshake remote.startHeight remote.version remote.services target

/-- The outcome counted for one joined probe task. -/
def joinedOutcome (target : ActivationTarget) : Except JoinError ConnectResult → ProbeOutcome
  | .error _ => .probeTaskFailed
  | .ok result => observePeer target result

/-- A completed handshake that reports everything the target requires. -/
def MeetsTarget (target : ActivationTarget) (remote : RemoteInfo) : Prop :=
  target.confirmationHeight ≤ remote.startHeight ∧ target.requiredVersion ≤ remote.version ∧
    remote.services.contains PeerServices.nodeNetwork = true

/-- A probe whose task completed a handshake that meets the target. -/
def ProbeSucceeds (target : ActivationTarget) (probe : Except JoinError ConnectResult) : Prop :=
  ∃ remote, probe = .ok (.client remote) ∧ MeetsTarget target remote

/-- No handshake error counts as ready. -/
theorem ofHandshakeError_ne_ready (error : ConnectError) :
    ProbeOutcome.ofHandshakeError error ≠ .ready := by
  cases error with
  | elapsed => decide
  | io => decide
  | other => decide
  | handshake error => cases error <;> simp [ProbeOutcome.ofHandshakeError]

/-- A completed handshake is ready exactly when it meets the target. -/
theorem ofHandshake_eq_ready_iff (target : ActivationTarget) (remote : RemoteInfo) :
    ProbeOutcome.ofHandshake remote.startHeight remote.version remote.services target = .ready
      ↔ MeetsTarget target remote := by
  unfold ProbeOutcome.ofHandshake MeetsTarget
  -- one case per unmet condition, in the order they are checked, and the last with all met
  split_ifs with hheight hversion hservices
  · simp [hheight]
  · simp [hversion]
  · simpa using fun _ _ => by simpa using hservices
  · simpa using ⟨not_lt.mp hheight, not_lt.mp hversion, by simpa using hservices⟩

/-- **A probe is ready exactly when it succeeds**: every refused, failed, timed-out or panicked
probe is counted as not ready. -/
theorem joinedOutcome_eq_ready_iff (target : ActivationTarget)
    (probe : Except JoinError ConnectResult) :
    joinedOutcome target probe = .ready ↔ ProbeSucceeds target probe := by
  unfold ProbeSucceeds
  match probe with
  | .error _ => simp [joinedOutcome]
  | .ok .elapsed => simp [joinedOutcome, observePeer]
  | .ok (.error error) =>
      simpa [joinedOutcome, observePeer] using ofHandshakeError_ne_ready error
  | .ok (.client remote) =>
      simpa [joinedOutcome, observePeer] using ofHandshake_eq_ready_iff target remote

instance (target : ActivationTarget) (probe : Except JoinError ConnectResult) :
    Decidable (ProbeSucceeds target probe) :=
  decidable_of_iff _ (joinedOutcome_eq_ready_iff target probe)

/-- What one sweep leaves behind: the evidence for the gate and the outcome labels whose
`zeeder_activation_probes_total` counter was incremented, in order. -/
structure SweepReport where
  /-- The evidence handed to the gate. -/
  evidence : SweepEvidence
  /-- The `outcome` label of each increment. -/
  probesCounted : List String

/-- Count one joined probe. -/
def countProbe (report : SweepReport) (outcome : ProbeOutcome) : SweepReport where
  evidence :=
    { report.evidence with
      readyGroups := report.evidence.readyGroups + if outcome = .ready then 1 else 0 }
  probesCounted := report.probesCounted ++ [outcome.label]

/-- Probe every sampled peer concurrently and join the tasks in the order `completion` gives. -/
def observeSweep (target : ActivationTarget) (sampledPeers : List PeerSocketAddr)
    (probe : PeerSocketAddr → Except JoinError ConnectResult)
    (completion : Shuffle (Except JoinError ConnectResult)) : SweepReport :=
  let joined := completion.apply (sampledPeers.map probe)
  -- the denominator is the sample's size, whatever becomes of the probes
  (joined.map (joinedOutcome target)).foldl countProbe ⟨⟨sampledPeers.length, 0⟩, []⟩

/-- The join loop adds the ready outcomes to the count it starts from and keeps the total. -/
theorem foldl_countProbe_evidence (outcomes : List ProbeOutcome) (report : SweepReport) :
    (outcomes.foldl countProbe report).evidence
      = ⟨report.evidence.totalGroups, report.evidence.readyGroups + outcomes.count .ready⟩ := by
  induction outcomes generalizing report with
  | nil => rfl
  | cons outcome outcomes ih =>
      rw [List.foldl_cons, ih, List.count_cons, countProbe]
      simp only [beq_iff_eq, SweepEvidence.mk.injEq, true_and]
      omega

/-- **The evidence of a sweep** is its sample's size and the number of its probes that succeed, in
every completion order. -/
theorem observeSweep_evidence (target : ActivationTarget) (sampledPeers : List PeerSocketAddr)
    (probe : PeerSocketAddr → Except JoinError ConnectResult)
    (completion : Shuffle (Except JoinError ConnectResult)) :
    (observeSweep target sampledPeers probe completion).evidence
      = ⟨sampledPeers.length,
          sampledPeers.countP fun addr => decide (ProbeSucceeds target (probe addr))⟩ := by
  -- counting ready outcomes does not depend on the order in which the tasks finish
  have hperm := (completion.perm (sampledPeers.map probe)).map (joinedOutcome target)
  rw [observeSweep, foldl_countProbe_evidence, hperm.count_eq, List.map_map, List.count,
    List.countP_map, Nat.zero_add]
  congr 1
  refine List.countP_congr fun addr _ => ?_
  simp [joinedOutcome_eq_ready_iff]

end Zeeder.Crawl
