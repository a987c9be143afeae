import Mathlib.Order.Basic
import Mathlib.Order.Lattice

/-! # Addresses, heights, versions and the address book

The data the seeder reads from the standard library, zebra-chain and zebra-network: socket
addresses with their classification predicates, block heights and protocol versions (both `u32`
newtypes ordered by their value), service bits, and the address book. The dependencies' own
decisions (liveness, validity for outbound use, bans, the version table) enter as data the book and
the network carry, so a statement about every book and network covers whatever they decide. -/

namespace Zeeder

/-! ## Addresses -/

/-- An IPv4 address, by its octets. -/
structure Ipv4Addr where
  /-- First octet. -/
  o0 : UInt8
  /-- Second octet. -/
  o1 : UInt8
  /-- Third octet. -/
  o2 : UInt8
  /-- Fourth octet. -/
  o3 : UInt8
  deriving DecidableEq, Repr

/-- An IPv6 address, by its 16-bit segments. -/
structure Ipv6Addr where
  /-- Segment 0. -/
  s0 : UInt16
  /-- Segment 1. -/
  s1 : UInt16
  /-- Segment 2. -/
  s2 : UInt16
  /-- Segment 3. -/
  s3 : UInt16
  /-- Segment 4. -/
  s4 : UInt16
  /-- Segment 5. -/
  s5 : UInt16
  /-- Segment 6. -/
  s6 : UInt16
  /-- Segment 7. -/
  s7 : UInt16
  deriving DecidableEq, Repr

/-- An IP address of either family. -/
inductive IpAddr where
  /-- An IPv4 address. -/
  | v4 (ip : Ipv4Addr)
  /-- An IPv6 address. -/
  | v6 (ip : Ipv6Addr)
  deriving DecidableEq, Repr

namespace IpAddr

/-- Whether the address is IPv4. -/
def isIpv4 : IpAddr → Bool
  | v4 _ => true
  | v6 _ => false

/-- `127.0.0.0/8` and `::1`. -/
def isLoopback : IpAddr → Bool
  | v4 ip => ip.o0 == 127
  | v6 ip => ip == ⟨0, 0, 0, 0, 0, 0, 0, 1⟩

/-- `0.0.0.0` and `::`. -/
def isUnspecified : IpAddr → Bool
  | v4 ip => ip == ⟨0, 0, 0, 0⟩
  | v6 ip => ip == ⟨0, 0, 0, 0, 0, 0, 0, 0⟩

/-- `224.0.0.0/4` and `ff00::/8`. -/
def isMulticast : IpAddr → Bool
  | v4 ip => decide (224 ≤ ip.o0) && decide (ip.o0 ≤ 239)
  | v6 ip => ip.s0 &&& 0xff00 == 0xff00

end IpAddr

/-- A peer's canonical socket address. -/
structure PeerSocketAddr where
  /-- The peer's IP address. -/
  ip : IpAddr
  /-- The peer's port. -/
  port : UInt16
  deriving DecidableEq, Repr

/-! ## Heights, versions and services -/

/-- A block height (`u32`). -/
structure Height where
  /-- The number of blocks below. -/
  val : UInt32
  deriving Repr

/-- A protocol version (`u32`). -/
structure Version where
  /-- The version number. -/
  val : UInt32
  deriving Repr

/-- A height is determined by its number. -/
theorem Height.toNat_injective : Function.Injective fun h : Height => h.val.toNat := by
  rintro ⟨a⟩ ⟨b⟩ h
  exact congrArg Height.mk (UInt32.toNat_inj.mp h)

/-- A version is determined by its number. -/
theorem Version.toNat_injective : Function.Injective fun v : Version => v.val.toNat := by
  rintro ⟨a⟩ ⟨b⟩ h
  exact congrArg Version.mk (UInt32.toNat_inj.mp h)

/-- A socket address is determined by its IP address and its port. -/
theorem PeerSocketAddr.eq_of_ip_of_port {a b : PeerSocketAddr} (hip : a.ip = b.ip)
    (hport : a.port = b.port) : a = b := by
  cases a with
  | mk ip port =>
      cases b with
      | mk ip' port' => exact congrArg₂ PeerSocketAddr.mk hip hport

/-- Heights are ordered by their number. -/
instance : LinearOrder Height := LinearOrder.lift' (fun h => h.val.toNat) Height.toNat_injective

/-- Versions are ordered by their number. -/
instance : LinearOrder Version := LinearOrder.lift' (fun v => v.val.toNat) Version.toNat_injective

/-- The order of heights, read off their numbers. -/
theorem Height.lt_iff {a b : Height} : a < b ↔ a.val.toNat < b.val.toNat := Iff.rfl

/-- The height one block below, unless the height is `0`. -/
def Height.previous (h : Height) : Option Height := if h.val = 0 then none else some ⟨h.val - 1⟩

/-- Below every height from `1` on there is the one numbered one less. -/
theorem Height.previous_lt {h : Height} (hpos : 0 < h.val.toNat) :
    ∃ p, h.previous = some p ∧ p < h := by
  have hne : h.val ≠ 0 := by
    intro h0
    rw [h0, UInt32.toNat_zero] at hpos
    exact absurd hpos (lt_irrefl 0)
  refine ⟨⟨h.val - 1⟩, by rw [previous, if_neg hne], ?_⟩
  -- the subtraction does not wrap
  have hone : (1 : UInt32) ≤ h.val := by
    rw [UInt32.le_iff_toNat_le, UInt32.toNat_one]
    exact hpos
  rw [Height.lt_iff, UInt32.toNat_sub_of_le _ _ hone, UInt32.toNat_one]
  omega

/-- Service bits a peer advertises (`u64` flags). -/
structure PeerServices where
  /-- The raw flags. -/
  bits : UInt64
  deriving DecidableEq, Repr

/-- The full-node service flag. -/
def PeerServices.nodeNetwork : PeerServices := ⟨1⟩

/-- Whether all flags of `other` are set. -/
def PeerServices.contains (services other : PeerServices) : Bool :=
  services.bits &&& other.bits == other.bits

/-! ## Networks -/

/-- Zcash networks the seeder can crawl and serve. -/
inductive ZcashNetwork where
  /-- The production Zcash network. -/
  | mainnet
  /-- The default public Zcash test network. -/
  | testnet
  deriving DecidableEq, Repr

/-- Stable lowercase label, used as the `network` metric label value. -/
def ZcashNetwork.label : ZcashNetwork → String
  | mainnet => "mainnet"
  | testnet => "testnet"

/-- Networks have distinct labels. -/
theorem ZcashNetwork.label_injective : Function.Injective ZcashNetwork.label := by
  intro a b
  cases a <;> cases b <;> decide

/-- What zebra-chain and zebra-network compile in for one network. -/
structure Network where
  /-- `Network::lowercase_name`, used in file names. -/
  lowercaseName : String
  /-- `Network::default_port`. -/
  defaultPort : UInt16
  /-- The height of `NetworkUpgrade::current_with_activation_height(network, Height::MAX)`. -/
  latestActivationHeight : Height
  /-- `Version::min_remote_for_height`; `none` is the no-chain-tip fallback. -/
  minRemoteForHeight : Option Height → Version

/-- A network whose latest activation is at height 100 and requires version 20 (before it, 10). -/
def exampleNetwork : Network where
  lowercaseName := "mainnet"
  defaultPort := 8233
  latestActivationHeight := ⟨100⟩
  minRemoteForHeight
    | some height => if height < ⟨100⟩ then ⟨10⟩ else ⟨20⟩
    | none => ⟨10⟩

/-! ## The address book -/

/-- A UTC instant. -/
abbrev DateTime := ℤ

/-- One address-book entry, by the answers of the accessors the seeder calls. -/
structure MetaAddr where
  /-- The peer's address. -/
  addr : PeerSocketAddr
  /-- Whether the peer was handshaked recently, as seen at an instant. -/
  wasRecentlyLive : DateTime → Bool
  /-- The version negotiated in the last successful handshake. -/
  negotiatedVersion : Option Version
  /-- Whether the last known services and address suit an outbound connection. -/
  lastKnownInfoIsValidForOutbound : Network → Bool
  /-- Whether the entry was recorded from an inbound connection. -/
  isInbound : Bool

/-- The address book: its entries in iteration order, its reported length and the ban scores. -/
structure AddressBook where
  /-- `AddressBook::peers`, in iteration order. -/
  peers : List MetaAddr
  /-- `AddressBook::len`. -/
  len : ℕ
  /-- `AddressBook::misbehavior_score`. -/
  misbehaviorScore : PeerSocketAddr → UInt32

end Zeeder
