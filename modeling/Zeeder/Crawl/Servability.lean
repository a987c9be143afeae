import Zeeder.Network.Types
import Mathlib.Data.List.Nodup

/-! # Peer servability

Whether a crawled peer may be returned to a bootstrapping node: recently handshaked, at or above
the current version floor, a full node, routable on the network's default port, not inbound and in
no banned peer group. `classify` reports the first failing check; `classifyPeer` feeds it from an
address-book entry.

* **`classify_eq_ok_iff`** — acceptance is the conjunction of all seven conditions.
* **`classify_eq_firstFailing`** — a rejection reports the first of the seven checks that fails.
* **`classifyPeer_ok_version`, `classifyPeer_ok_port`** — the two consequences other modules build
  on: an accepted peer negotiated at least the floor and listens on the default port. -/

namespace Zeeder.Crawl

/-- Why a peer is not servable. -/
inductive UnservableReason where
  /-- Loopback, unspecified, or multicast address. -/
  | notRoutable
  /-- Not on the network's default port. -/
  | wrongPort
  /-- No recent successful handshake. -/
  | notRecentlyLive
  /-- The last handshake negotiated a version below the current floor. -/
  | outdatedVersion
  /-- Does not advertise the full-node service. -/
  | notFullNode
  /-- Recorded from an inbound connection. -/
  | inbound
  /-- Belongs to a banned peer group. -/
  | misbehaving
  deriving DecidableEq, Repr

namespace UnservableReason

/-- Every reason, so callers can reset each per-reason gauge on a refresh. -/
def all : List UnservableReason :=
  [notRoutable, wrongPort, notRecentlyLive, outdatedVersion, notFullNode, inbound, misbehaving]

/-- Stable `snake_case` label used as a metric value. -/
def label : UnservableReason → String
  | notRoutable => "not_routable"
  | wrongPort => "wrong_port"
  | notRecentlyLive => "not_recently_live"
  | outdatedVersion => "outdated_version"
  | notFullNode => "not_full_node"
  | inbound => "inbound"
  | misbehaving => "misbehaving"

end UnservableReason

/-- The attributes the servability decision reads. -/
structure PeerAttributes where
  /-- The peer's IP address. -/
  ip : IpAddr
  /-- The peer's port. -/
  port : UInt16
  /-- The network's default port. -/
  defaultPort : UInt16
  /-- Whether the peer was handshaked recently. -/
  isRecentlyLive : Bool
  /-- The version negotiated in the last handshake, if any. -/
  negotiatedVersion : Option Version
  /-- The current version floor. -/
  minimumVersion : Version
  /-- Whether the peer advertises the full-node service. -/
  advertisesNodeNetwork : Bool
  /-- Whether the entry comes from an inbound connection. -/
  isInbound : Bool
  /-- The peer group's misbehavior score. -/
  misbehaviorScore : UInt32

/-- Whether no version was negotiated or the negotiated one is below the floor. -/
def PeerAttributes.isOutdated (peer : PeerAttributes) : Bool :=
  match peer.negotiatedVersion with
  | none => true
  | some version => decide (version < peer.minimumVersion)

/-- Whether the address can never be dialled from elsewhere. -/
def PeerAttributes.isUnroutable (peer : PeerAttributes) : Bool :=
  peer.ip.isLoopback || peer.ip.isUnspecified || peer.ip.isMulticast

/-- These are the blocks `127.0.0.0/8`, `0.0.0.0/32` and `224.0.0.0/4`, and `::1/128`, `::/128` and
`ff00::/8`. -/
theorem PeerAttributes.isUnroutable_iff (peer : PeerAttributes) :
    peer.isUnroutable = true ↔
      match peer.ip with
      | .v4 ip => ip.o0 = 127 ∨ ip = ⟨0, 0, 0, 0⟩ ∨ 224 ≤ ip.o0 ∧ ip.o0 ≤ 239
      | .v6 ip => ip = ⟨0, 0, 0, 0, 0, 0, 0, 1⟩ ∨ ip = ⟨0, 0, 0, 0, 0, 0, 0, 0⟩ ∨
          ip.s0 &&& 0xff00 = 0xff00 := by
  unfold isUnroutable
  cases peer.ip with
  | v4 ip => simp [IpAddr.isLoopback, IpAddr.isUnspecified, IpAddr.isMulticast, or_assoc]
  | v6 ip => simp [IpAddr.isLoopback, IpAddr.isUnspecified, IpAddr.isMulticast, or_assoc]

/-- Decide servability from a peer's attributes, reporting the first failing check. -/
def classify (peer : PeerAttributes) : Except UnservableReason Unit :=
  if peer.isUnroutable then .error .notRoutable
  else if peer.port ≠ peer.defaultPort then .error .wrongPort
  else if !peer.isRecentlyLive then .error .notRecentlyLive
  else if peer.isOutdated then .error .outdatedVersion
  else if !peer.advertisesNodeNetwork then .error .notFullNode
  else if peer.isInbound then .error .inbound
  else if peer.misbehaviorScore ≠ 0 then .error .misbehaving
  else .ok ()

/-- **Acceptance is the conjunction of all conditions.** -/
theorem classify_eq_ok_iff (peer : PeerAttributes) :
    classify peer = .ok () ↔
      peer.isUnroutable = false ∧ peer.port = peer.defaultPort ∧ peer.isRecentlyLive = true ∧
      peer.isOutdated = false ∧ peer.advertisesNodeNetwork = true ∧ peer.isInbound = false ∧
      peer.misbehaviorScore = 0 := by
  unfold classify
  split_ifs <;> simp_all

/-- Whether the check behind a reason fails. -/
def UnservableReason.fails (peer : PeerAttributes) : UnservableReason → Bool
  | notRoutable => peer.isUnroutable
  | wrongPort => peer.port != peer.defaultPort
  | notRecentlyLive => !peer.isRecentlyLive
  | outdatedVersion => peer.isOutdated
  | notFullNode => !peer.advertisesNodeNetwork
  | inbound => peer.isInbound
  | misbehaving => peer.misbehaviorScore != 0

/-- The first check that fails, if any, in the order of `UnservableReason.all`. -/
def firstFailing (peer : PeerAttributes) : Option UnservableReason :=
  UnservableReason.all.find? fun reason => reason.fails peer

/-- **A rejection reports the first failing check.** -/
theorem classify_eq_firstFailing (peer : PeerAttributes) :
    classify peer = match firstFailing peer with
      | none => .ok ()
      | some reason => .error reason := by
  unfold classify firstFailing
  -- one case per check that fails first, and the last with none
  split_ifs <;> simp_all [UnservableReason.all, UnservableReason.fails]

/-- The list of reasons is complete. -/
theorem UnservableReason.mem_all (reason : UnservableReason) : reason ∈ UnservableReason.all := by
  cases reason <;> decide

/-- The reasons are listed once each. -/
theorem UnservableReason.nodup_all : UnservableReason.all.Nodup := by decide

/-- Reasons have distinct labels. -/
theorem UnservableReason.label_injective : Function.Injective UnservableReason.label := by
  have hnodup : (UnservableReason.all.map UnservableReason.label).Nodup := by decide
  exact fun a b h => List.inj_on_of_nodup_map hnodup a.mem_all b.mem_all h

/-- A peer is not outdated exactly when it negotiated a version at or above the floor. -/
theorem isOutdated_eq_false_iff (peer : PeerAttributes) :
    peer.isOutdated = false ↔
      ∃ version, peer.negotiatedVersion = some version ∧ peer.minimumVersion ≤ version := by
  unfold PeerAttributes.isOutdated
  cases peer.negotiatedVersion with
  | none => simp
  | some version => simp

/-- The attributes `classifyPeer` extracts from an address-book entry. The misbehavior score comes
from the book: bans are tracked per peer group, not per entry. -/
def peerAttributes (book : AddressBook) (peer : MetaAddr) (now : DateTime) (network : Network)
    (minimumVersion : Version) : PeerAttributes where
  ip := peer.addr.ip
  port := peer.addr.port
  defaultPort := network.defaultPort
  isRecentlyLive := peer.wasRecentlyLive now
  negotiatedVersion := peer.negotiatedVersion
  minimumVersion := minimumVersion
  advertisesNodeNetwork := peer.lastKnownInfoIsValidForOutbound network
  isInbound := peer.isInbound
  misbehaviorScore := book.misbehaviorScore peer.addr

/-- Decide the servability of an address-book entry. -/
def classifyPeer (book : AddressBook) (peer : MetaAddr) (now : DateTime) (network : Network)
    (minimumVersion : Version) : Except UnservableReason Unit :=
  classify (peerAttributes book peer now network minimumVersion)

/-- Whether `classifyPeer` accepts the entry. -/
def isServable (book : AddressBook) (now : DateTime) (network : Network) (minimumVersion : Version)
    (peer : MetaAddr) : Bool :=
  (classifyPeer book peer now network minimumVersion).isOk

section Accepted

variable {book : AddressBook} {peer : MetaAddr} {now : DateTime} {network : Network}
  {minimumVersion : Version}

/-- The boolean test is acceptance by `classifyPeer`. -/
theorem isServable_iff :
    isServable book now network minimumVersion peer
      ↔ classifyPeer book peer now network minimumVersion = .ok () := by
  unfold isServable
  cases classifyPeer book peer now network minimumVersion with
  | error reason => simp [Except.isOk, Except.toBool]
  | ok u => simp [Except.isOk, Except.toBool]

/-- **An accepted peer negotiated at least the floor.** -/
theorem classifyPeer_ok_version (h : classifyPeer book peer now network minimumVersion = .ok ()) :
    ∃ version, peer.negotiatedVersion = some version ∧ minimumVersion ≤ version :=
  (isOutdated_eq_false_iff _).mp ((classify_eq_ok_iff _).mp h).2.2.2.1

/-- **An accepted peer listens on the network's default port.** -/
theorem classifyPeer_ok_port (h : classifyPeer book peer now network minimumVersion = .ok ()) :
    peer.addr.port = network.defaultPort :=
  ((classify_eq_ok_iff _).mp h).2.1

end Accepted

end Zeeder.Crawl
