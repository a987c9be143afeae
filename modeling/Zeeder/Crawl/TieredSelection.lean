import Zeeder.Crawl.AddressCache
import Zeeder.Foundation.UniformShuffle
import Mathlib.Tactic.NormNum

/-! # Tiered selection and its rotation

A family's published list is a prefix of its shuffled target tier, followed by as much of its
shuffled fallback tier as fits under the cap of 25. With both shuffles as uniformly random
permutations, the peers of one tier take each place of its segment equally often.

* **`tieredSelection`** — the shape of every published list, for every book and every outcome of the
  shuffles.
* **`evenRotation`** — how often a peer is listed, and where. -/

namespace Zeeder.Crawl

open Foundation Equiv

/-! ## The two segments of a list -/

section Segments

variable {targetOrder fallbackOrder : Shuffle PeerSocketAddr} {target fallback : List PeerSocketAddr}

/-- The target tier's segment, then what the cap leaves to the fallback tier. -/
theorem shuffledVersionPreferredPeers_eq :
    shuffledVersionPreferredPeers targetOrder fallbackOrder target fallback
      = (targetOrder.apply target).take maxDnsResponsePeers
        ++ (fallbackOrder.apply fallback).take (maxDnsResponsePeers - target.length) := by
  rw [shuffledVersionPreferredPeers, List.take_append, Shuffle.length_apply]

/-- The length of the fallback tier's segment. -/
theorem min_sub_length_eq (k t f : ℕ) : min (k - t) f = min f (k - min t k) := by
  omega

/-- **The shape of a list**: a segment of each tier, and the fallback tier only after all of the
target tier. -/
theorem exists_segments (targetOrder fallbackOrder : Shuffle PeerSocketAddr)
    (target fallback : List PeerSocketAddr) :
    ∃ front back,
      shuffledVersionPreferredPeers targetOrder fallbackOrder target fallback = front ++ back ∧
      front.Subperm target ∧ back.Subperm fallback ∧ front.length = min target.length 25 ∧
      back.length = min fallback.length (25 - min target.length 25) ∧
      (back ≠ [] → ∀ addr ∈ target, addr ∈ front) := by
  refine ⟨_, _, shuffledVersionPreferredPeers_eq, ?_, ?_, ?_, ?_, ?_⟩
  · exact (List.take_sublist _ _).subperm.trans (targetOrder.perm target).subperm
  · exact (List.take_sublist _ _).subperm.trans (fallbackOrder.perm fallback).subperm
  · rw [Shuffle.length_take_apply, min_comm, maxDnsResponsePeers]
  · rw [Shuffle.length_take_apply, min_sub_length_eq, maxDnsResponsePeers]
  · intro hback addr haddr
    -- a place was left, so no target peer was cut off
    have hroom : target.length ≤ maxDnsResponsePeers := by
      by_contra hfull
      rw [Nat.sub_eq_zero_of_le (not_le.mp hfull).le, List.take_zero] at hback
      exact hback rfl
    rw [List.take_of_length_le ((targetOrder.length_apply target).trans_le hroom)]
    exact targetOrder.mem_apply.mpr haddr

end Segments

/-! ## The published list of a family -/

section Families

variable {book book' : AddressBook} {now : DateTime} {network : Network}
  {minimumVersion targetVersion : Version} {ipv4 : Bool}

/-- Two books with the same entries of one address family, in the same order, and the same ban scores
for them. -/
structure SameFamily (ipv4 : Bool) (book book' : AddressBook) : Prop where
  /-- The entries of the family. -/
  peers : book.peers.filter (fun peer => peer.addr.ip.isIpv4 == ipv4)
    = book'.peers.filter fun peer => peer.addr.ip.isIpv4 == ipv4
  /-- Their ban scores. -/
  misbehaviorScore : ∀ peer ∈ book.peers, peer.addr.ip.isIpv4 = ipv4 →
    book.misbehaviorScore peer.addr = book'.misbehaviorScore peer.addr

/-- Classification reads nothing of the book but the entry's ban score. -/
theorem classifyPeer_congr {peer : MetaAddr}
    (h : book.misbehaviorScore peer.addr = book'.misbehaviorScore peer.addr) :
    classifyPeer book peer now network minimumVersion
      = classifyPeer book' peer now network minimumVersion := by
  rw [classifyPeer, classifyPeer, peerAttributes, peerAttributes, h]

/-- A tier is a filter of its family's entries. -/
theorem tierPeers_eq_filter_family (target : Bool) (peers : List MetaAddr) :
    tierPeers book now network minimumVersion targetVersion ipv4 target peers
      = (peers.filter fun peer => peer.addr.ip.isIpv4 == ipv4).filter fun peer =>
          isServable book now network minimumVersion peer
            && (isTargetVersion targetVersion peer == target) := by
  rw [tierPeers, List.filter_filter]
  refine List.filter_congr fun peer _ => ?_
  rw [Bool.and_right_comm]

/-- **A tier depends on its own family only.** -/
theorem tierPeers_congr (h : SameFamily ipv4 book book') (target : Bool) :
    tierPeers book now network minimumVersion targetVersion ipv4 target book.peers
      = tierPeers book' now network minimumVersion targetVersion ipv4 target book'.peers := by
  rw [tierPeers_eq_filter_family, tierPeers_eq_filter_family, ← h.peers]
  refine List.filter_congr fun peer hpeer => ?_
  obtain ⟨hmem, hfamily⟩ := List.mem_filter.mp hpeer
  have hscore := h.misbehaviorScore peer hmem (beq_iff_eq.mp hfamily)
  rw [isServable, isServable, classifyPeer_congr hscore]

/-- The families of two refreshes with the same entries and shuffles of one family agree on it. -/
theorem servablePeers_family_congr {order order' : RefreshOrder} {networkLabel : String}
    (h : SameFamily ipv4 book book') (horder : order.family ipv4 = order'.family ipv4) :
    (servablePeers order book now network minimumVersion targetVersion networkLabel).1.family ipv4
      = (servablePeers order' book' now network minimumVersion targetVersion networkLabel).1.family
          ipv4 := by
  rw [servablePeers_family, servablePeers_family, tierPeers_congr h, tierPeers_congr h, horder]

end Families

/-- **Exact tiered selection.** For every book, floor, target version and outcome of the shuffles,
with `T` servable peers of a family at or above the target version and `F` below it: the family's
list has `min 25 (T + F)` entries, none twice when the book has no address twice, and consists of
`min T 25` peers of the target tier followed by `min F (25 - min T 25)` peers of the fallback tier,
which appear only if all of the target tier does; every entry is a servable peer of the family; the
other family and its shuffles have no influence; and at a floor from the target version on the
fallback tier is empty. -/
theorem tieredSelection (order : RefreshOrder) (book : AddressBook) (now : DateTime)
    (network : Network) (minimumVersion targetVersion : Version) (networkLabel : String)
    (ipv4 : Bool) :
    let list := (servablePeers order book now network minimumVersion targetVersion
      networkLabel).1.family ipv4
    let target := (tierPeers book now network minimumVersion targetVersion ipv4 true book.peers).map
      (·.addr)
    let fallback := (tierPeers book now network minimumVersion targetVersion ipv4 false
      book.peers).map (·.addr)
    list.length = min 25 (target.length + fallback.length) ∧
    ((book.peers.map (·.addr)).Nodup → list.Nodup) ∧
    (∃ front back, list = front ++ back ∧ front.Subperm target ∧ back.Subperm fallback ∧
      front.length = min target.length 25 ∧
      back.length = min fallback.length (25 - min target.length 25) ∧
      (back ≠ [] → ∀ addr ∈ target, addr ∈ front)) ∧
    (∀ addr ∈ list, ∃ peer ∈ book.peers, peer.addr = addr ∧ addr.ip.isIpv4 = ipv4 ∧
      classifyPeer book peer now network minimumVersion = .ok ()) ∧
    (∀ order' book', SameFamily ipv4 book book' → order.family ipv4 = order'.family ipv4 →
      (servablePeers order' book' now network minimumVersion targetVersion networkLabel).1.family
        ipv4 = list) ∧
    (targetVersion ≤ minimumVersion → fallback = [] ∧ ∀ addr ∈ list, addr ∈ target) := by
  dsimp only
  refine ⟨?_, ?_, ?_, ?_, ?_, ?_⟩
  · rw [length_servablePeers, List.length_map, List.length_map, length_tierPeers_add]
    rfl
  · exact fun hbook => nodup_servablePeers_family hbook ipv4
  · rw [servablePeers_family]
    exact exists_segments _ _ _ _
  · exact fun addr haddr => mem_servablePeers haddr
  · exact fun order' book' hbook horder => (servablePeers_family_congr hbook horder).symm
  · intro hfloor
    rw [servablePeers_family, tierPeers_fallback_eq_nil hfloor, List.map_nil]
    refine ⟨rfl, fun addr haddr => ?_⟩
    -- with nothing to fall back on, the list is a part of the shuffled target tier
    obtain ⟨front, back, hlist, hfront, hback, -⟩ := exists_segments _ _ _ []
    rw [hlist, List.subperm_nil.mp hback, List.append_nil] at haddr
    exact hfront.subset haddr

/-- A peer of the example network at `1.2.3.<last>`, at the given version. -/
def versionedPeer (last : UInt8) (version : Version) : MetaAddr where
  addr := ⟨.v4 ⟨1, 2, 3, last⟩, 8233⟩
  wasRecentlyLive _ := true
  negotiatedVersion := some version
  lastKnownInfoIsValidForOutbound _ := true
  isInbound := false

/-- Two peers below the version 20, and one at it. -/
def exampleTiers : AddressBook :=
  ⟨[versionedPeer 1 ⟨10⟩, versionedPeer 2 ⟨20⟩, versionedPeer 3 ⟨10⟩], 3, fun _ => 0⟩

/-- Twenty peers at version 20, and after every second one of them a peer below it. -/
def exampleCrowd : AddressBook :=
  ⟨(List.range 30).map fun i =>
    versionedPeer (.ofNat (i + 1)) (if i % 3 = 2 then ⟨10⟩ else ⟨20⟩), 30, fun _ => 0⟩

/-- At floor 10 the first book's list is its target peer and then the other two, and at floor 20 there
is no fallback. The second book's list is cut off: all twenty target peers, and then five of the ten
others. -/
theorem tieredSelection_exampleTiers :
    (servablePeers .unshuffled exampleTiers 0 exampleNetwork ⟨10⟩ ⟨20⟩ "mainnet").1.family true
      = [(versionedPeer 2 ⟨20⟩).addr, (versionedPeer 1 ⟨10⟩).addr, (versionedPeer 3 ⟨10⟩).addr] ∧
    (tierPeers exampleTiers 0 exampleNetwork ⟨20⟩ ⟨20⟩ true false exampleTiers.peers).map (·.addr)
      = [] ∧
    ∃ front back, (servablePeers .unshuffled exampleCrowd 0 exampleNetwork ⟨10⟩ ⟨20⟩
        "mainnet").1.family true = front ++ back ∧
      (front ++ back).Nodup ∧ front.length = 20 ∧ back.length = 5 ∧
      ∀ i < 30, i % 3 ≠ 2 → (versionedPeer (.ofNat (i + 1)) ⟨20⟩).addr ∈ front := by
  have hhigh := tieredSelection .unshuffled exampleTiers 0 exampleNetwork ⟨20⟩ ⟨20⟩ "mainnet" true
  obtain ⟨-, hnodup, ⟨front, back, hlist, -, -, hfront, hback, hall⟩, -⟩ :=
    tieredSelection .unshuffled exampleCrowd 0 exampleNetwork ⟨10⟩ ⟨20⟩ "mainnet" true
  have htarget : ((tierPeers exampleCrowd 0 exampleNetwork ⟨10⟩ ⟨20⟩ true true
      exampleCrowd.peers).map (·.addr)).length = 20 := by decide +kernel
  have hfallback : ((tierPeers exampleCrowd 0 exampleNetwork ⟨10⟩ ⟨20⟩ true false
      exampleCrowd.peers).map (·.addr)).length = 10 := by decide +kernel
  have hmem : ∀ i < 30, i % 3 ≠ 2 → (versionedPeer (.ofNat (i + 1)) ⟨20⟩).addr ∈
      (tierPeers exampleCrowd 0 exampleNetwork ⟨10⟩ ⟨20⟩ true true exampleCrowd.peers).map
        (·.addr) := by decide +kernel
  rw [htarget] at hfront
  rw [htarget, hfallback] at hback
  have hfive : back.length = 5 := hback
  have hne : back ≠ [] := by
    rintro rfl
    cases hfive
  refine ⟨by decide +kernel, (hhigh.2.2.2.2.2 le_rfl).1, front, back, hlist, ?_, hfront, hfive,
    fun i hi hthird => hall hne _ (hmem i hi hthird)⟩
  rw [← hlist]
  exact hnodup (by decide +kernel)

/-! ## Rotation within a tier -/

section Rotation

variable {target fallback : List PeerSocketAddr}

/-- The outcomes of the two shuffles: a permutation of each tier. -/
abbrev TierOutcome (target fallback : List PeerSocketAddr) : Type :=
  Perm (Fin target.length) × Perm (Fin fallback.length)

/-- The list at one outcome of the shuffles. -/
def listAt (target fallback : List PeerSocketAddr) (outcome : TierOutcome target fallback) :
    List PeerSocketAddr :=
  shuffledVersionPreferredPeers (.ofPerm outcome.1) (.ofPerm outcome.2) target fallback

/-- The places of the target tier's segment hold the head of the shuffled target tier. -/
theorem getElem?_listAt_target (outcome : TierOutcome target fallback) {i : ℕ}
    (hi : i < min target.length 25) :
    (listAt target fallback outcome)[i]? = ((Shuffle.ofPerm outcome.1).apply target)[i]? := by
  obtain ⟨htarget, hlt⟩ := lt_min_iff.mp hi
  have hcap : i < maxDnsResponsePeers := hlt
  rw [listAt, shuffledVersionPreferredPeers_eq, List.getElem?_append_left,
    List.getElem?_take_of_lt hcap]
  rw [Shuffle.length_take_apply]
  exact lt_min hcap htarget

/-- The places of the fallback tier's segment hold the head of the shuffled fallback tier. -/
theorem getElem?_listAt_fallback (outcome : TierOutcome target fallback) {i : ℕ}
    (hi : i < min fallback.length (25 - min target.length 25)) :
    (listAt target fallback outcome)[min target.length 25 + i]?
      = ((Shuffle.ofPerm outcome.2).apply fallback)[i]? := by
  obtain ⟨-, hroom⟩ := lt_min_iff.mp hi
  -- the segment has a place, so the target tier is below the cap
  have hmin : min target.length 25 = target.length := by omega
  have hlength : (((Shuffle.ofPerm outcome.1).apply target).take maxDnsResponsePeers).length
      = target.length := by
    rw [Shuffle.length_take_apply, maxDnsResponsePeers, min_comm, hmin]
  rw [listAt, shuffledVersionPreferredPeers_eq, hmin,
    List.getElem?_append_right (hlength.trans_le (Nat.le_add_right _ _)), hlength,
    Nat.add_sub_cancel_left, List.getElem?_take_of_lt]
  rw [hmin] at hroom
  exact hroom

theorem mem_listAt_iff {outcome : TierOutcome target fallback} {addr : PeerSocketAddr} :
    addr ∈ listAt target fallback outcome ↔
      addr ∈ ((Shuffle.ofPerm outcome.1).apply target).take maxDnsResponsePeers ∨
        addr ∈ ((Shuffle.ofPerm outcome.2).apply fallback).take
          (maxDnsResponsePeers - target.length) := by
  rw [listAt, shuffledVersionPreferredPeers_eq, List.mem_append]

/-- A target-version peer is listed with share `min T 25 / T`. -/
theorem frequency_mem_listAt_target (hnodup : (target ++ fallback).Nodup) {addr : PeerSocketAddr}
    (haddr : addr ∈ target) :
    frequency (fun outcome : TierOutcome target fallback => addr ∈ listAt target fallback outcome)
      = (min target.length 25 : ℕ) / target.length := by
  obtain ⟨htarget, -, hdisjoint⟩ := List.nodup_append.mp hnodup
  refine (frequency_congr fun outcome => ?_).trans (frequency_fst
    (P := fun σ : Perm (Fin target.length) =>
      addr ∈ ((Shuffle.ofPerm σ).apply target).take maxDnsResponsePeers)
    |>.trans ?_)
  · rw [mem_listAt_iff]
    refine or_iff_left fun h => ?_
    exact hdisjoint addr haddr addr ((Shuffle.ofPerm outcome.2).mem_of_mem_take_apply h) rfl
  · rw [frequency_mem_take htarget rfl haddr, min_comm, maxDnsResponsePeers]

/-- A fallback peer is listed with share `min F (25 - min T 25) / F`. -/
theorem frequency_mem_listAt_fallback (hnodup : (target ++ fallback).Nodup) {addr : PeerSocketAddr}
    (haddr : addr ∈ fallback) :
    frequency (fun outcome : TierOutcome target fallback => addr ∈ listAt target fallback outcome)
      = (min fallback.length (25 - min target.length 25) : ℕ) / fallback.length := by
  obtain ⟨-, hfallback, hdisjoint⟩ := List.nodup_append.mp hnodup
  refine (frequency_congr fun outcome => ?_).trans (frequency_snd
    (Q := fun _ (τ : Perm (Fin fallback.length)) =>
      addr ∈ ((Shuffle.ofPerm τ).apply fallback).take (maxDnsResponsePeers - target.length))
    fun σ => ?_)
  · rw [mem_listAt_iff]
    refine or_iff_right fun h => ?_
    exact hdisjoint addr ((Shuffle.ofPerm outcome.1).mem_of_mem_take_apply h) addr haddr rfl
  · rw [frequency_mem_take hfallback rfl haddr, min_sub_length_eq, maxDnsResponsePeers]

/-- A target-version peer takes each place of its segment with share `1 / T`. -/
theorem frequency_getElem?_listAt_target (hnodup : (target ++ fallback).Nodup)
    {addr : PeerSocketAddr} (haddr : addr ∈ target) {i : ℕ} (hi : i < min target.length 25) :
    frequency (fun outcome : TierOutcome target fallback =>
      (listAt target fallback outcome)[i]? = some addr) = 1 / target.length := by
  obtain ⟨htarget, -, -⟩ := List.nodup_append.mp hnodup
  refine (frequency_congr fun outcome => ?_).trans (frequency_fst
    (P := fun σ : Perm (Fin target.length) => ((Shuffle.ofPerm σ).apply target)[i]? = some addr)
    |>.trans ?_)
  · rw [getElem?_listAt_target outcome hi]
  · exact frequency_getElem?_eq_some htarget rfl haddr (hi.trans_le (min_le_left _ _))

/-- A fallback peer takes each place of its segment with share `1 / F`. -/
theorem frequency_getElem?_listAt_fallback (hnodup : (target ++ fallback).Nodup)
    {addr : PeerSocketAddr} (haddr : addr ∈ fallback) {i : ℕ}
    (hi : i < min fallback.length (25 - min target.length 25)) :
    frequency (fun outcome : TierOutcome target fallback =>
      (listAt target fallback outcome)[min target.length 25 + i]? = some addr)
      = 1 / fallback.length := by
  obtain ⟨-, hfallback, -⟩ := List.nodup_append.mp hnodup
  refine (frequency_congr fun outcome => ?_).trans (frequency_snd
    (Q := fun _ (τ : Perm (Fin fallback.length)) =>
      ((Shuffle.ofPerm τ).apply fallback)[i]? = some addr) fun σ => ?_)
  · rw [getElem?_listAt_fallback outcome hi]
  · exact frequency_getElem?_eq_some hfallback rfl haddr (hi.trans_le (min_le_left _ _))

/-- The share of one place among the places of a segment of length `k` of a tier of length `n`. -/
theorem one_div_eq_share {k n : ℕ} (hk : 0 < k) : (1 : ℚ) / n = (k : ℕ) / n / k := by
  have hne : (k : ℚ) ≠ 0 := Nat.cast_ne_zero.mpr hk.ne'
  rw [div_right_comm, div_self hne]

/-- A target-version peer is listed in its own segment or not at all. -/
theorem mem_listAt_target_iff (hnodup : (target ++ fallback).Nodup) {addr : PeerSocketAddr}
    (haddr : addr ∈ target) (outcome : TierOutcome target fallback) :
    addr ∈ listAt target fallback outcome ↔
      ∃ i < min target.length 25, (listAt target fallback outcome)[i]? = some addr := by
  obtain ⟨-, -, hdisjoint⟩ := List.nodup_append.mp hnodup
  constructor
  · intro h
    rcases mem_listAt_iff.mp h with h | h
    · obtain ⟨i, hi, hget⟩ := mem_take_iff_exists_getElem?.mp h
      rw [Finset.mem_range, Shuffle.length_apply, min_comm, maxDnsResponsePeers] at hi
      exact ⟨i, hi, (getElem?_listAt_target outcome hi).trans hget⟩
    · exact absurd rfl (hdisjoint addr haddr addr
        ((Shuffle.ofPerm outcome.2).mem_of_mem_take_apply h))
  · rintro ⟨i, -, hget⟩
    exact List.mem_of_getElem? hget

/-- A fallback peer is listed in its own segment or not at all. -/
theorem mem_listAt_fallback_iff (hnodup : (target ++ fallback).Nodup) {addr : PeerSocketAddr}
    (haddr : addr ∈ fallback) (outcome : TierOutcome target fallback) :
    addr ∈ listAt target fallback outcome ↔
      ∃ i < min fallback.length (25 - min target.length 25),
        (listAt target fallback outcome)[min target.length 25 + i]? = some addr := by
  obtain ⟨-, -, hdisjoint⟩ := List.nodup_append.mp hnodup
  constructor
  · intro h
    rcases mem_listAt_iff.mp h with h | h
    · exact absurd rfl (hdisjoint addr ((Shuffle.ofPerm outcome.1).mem_of_mem_take_apply h)
        addr haddr)
    · obtain ⟨i, hi, hget⟩ := mem_take_iff_exists_getElem?.mp h
      rw [Finset.mem_range, Shuffle.length_apply, min_sub_length_eq, maxDnsResponsePeers] at hi
      exact ⟨i, hi, (getElem?_listAt_fallback outcome hi).trans hget⟩
  · rintro ⟨i, -, hget⟩
    exact List.mem_of_getElem? hget

/-- **Even rotation within a tier.** For `T` target-version and `F` fallback peers, all distinct, over
all pairs of permutations of the tiers: a target-version peer is listed for exactly the share
`min T 25 / T` of the pairs, a fallback peer for exactly `min F (25 - min T 25) / F`; a listed peer is
in its tier's segment, and takes each place of it equally often. -/
theorem evenRotation (target fallback : List PeerSocketAddr) (hnodup : (target ++ fallback).Nodup) :
    (∀ addr ∈ target,
      frequency (fun outcome : TierOutcome target fallback => addr ∈ listAt target fallback outcome)
        = (min target.length 25 : ℕ) / target.length ∧
      (∀ outcome, addr ∈ listAt target fallback outcome ↔
        ∃ i < min target.length 25, (listAt target fallback outcome)[i]? = some addr) ∧
      ∀ i < min target.length 25,
        frequency (fun outcome : TierOutcome target fallback =>
            (listAt target fallback outcome)[i]? = some addr)
          = frequency (fun outcome : TierOutcome target fallback =>
              addr ∈ listAt target fallback outcome) / (min target.length 25 : ℕ)) ∧
    (∀ addr ∈ fallback,
      frequency (fun outcome : TierOutcome target fallback => addr ∈ listAt target fallback outcome)
        = (min fallback.length (25 - min target.length 25) : ℕ) / fallback.length ∧
      (∀ outcome, addr ∈ listAt target fallback outcome ↔
        ∃ i < min fallback.length (25 - min target.length 25),
          (listAt target fallback outcome)[min target.length 25 + i]? = some addr) ∧
      ∀ i < min fallback.length (25 - min target.length 25),
        frequency (fun outcome : TierOutcome target fallback =>
            (listAt target fallback outcome)[min target.length 25 + i]? = some addr)
          = frequency (fun outcome : TierOutcome target fallback =>
              addr ∈ listAt target fallback outcome)
            / (min fallback.length (25 - min target.length 25) : ℕ)) := by
  refine ⟨fun addr haddr => ⟨?_, ?_, ?_⟩, fun addr haddr => ⟨?_, ?_, ?_⟩⟩
  · exact frequency_mem_listAt_target hnodup haddr
  · exact mem_listAt_target_iff hnodup haddr
  · intro i hi
    rw [frequency_getElem?_listAt_target hnodup haddr hi, frequency_mem_listAt_target hnodup haddr]
    exact one_div_eq_share (Nat.zero_lt_of_lt hi)
  · exact frequency_mem_listAt_fallback hnodup haddr
  · exact mem_listAt_fallback_iff hnodup haddr
  · intro i hi
    rw [frequency_getElem?_listAt_fallback hnodup haddr hi,
      frequency_mem_listAt_fallback hnodup haddr]
    exact one_div_eq_share (Nat.zero_lt_of_lt hi)

/-- Addresses `1.2.<third>.0` to `1.2.<third>.29`. -/
def thirtyAddrs (third : UInt8) : List PeerSocketAddr :=
  (List.range 30).map fun last => ⟨.v4 ⟨1, 2, third, UInt8.ofNat last⟩, 8233⟩

/-- Of thirty target-version peers each is listed five times out of six, and then in each of the 25
places equally often; a fallback peer behind them is never listed. -/
theorem evenRotation_thirtyAddrs :
    frequency (fun outcome : TierOutcome (thirtyAddrs 3) (thirtyAddrs 4) =>
        ⟨.v4 ⟨1, 2, 3, 7⟩, 8233⟩ ∈ listAt (thirtyAddrs 3) (thirtyAddrs 4) outcome) = 5 / 6 ∧
    frequency (fun outcome : TierOutcome (thirtyAddrs 3) (thirtyAddrs 4) =>
        (listAt (thirtyAddrs 3) (thirtyAddrs 4) outcome)[24]? = some ⟨.v4 ⟨1, 2, 3, 7⟩, 8233⟩)
      = 1 / 30 ∧
    frequency (fun outcome : TierOutcome (thirtyAddrs 3) (thirtyAddrs 4) =>
        ⟨.v4 ⟨1, 2, 4, 7⟩, 8233⟩ ∈ listAt (thirtyAddrs 3) (thirtyAddrs 4) outcome) = 0 := by
  have hlength : ∀ third, (thirtyAddrs third).length = 30 := fun _ => by simp [thirtyAddrs]
  have h := evenRotation (thirtyAddrs 3) (thirtyAddrs 4) (by decide +kernel)
  simp only [hlength] at h
  obtain ⟨hlisted, -, hplaces⟩ := h.1 ⟨.v4 ⟨1, 2, 3, 7⟩, 8233⟩ (by decide +kernel)
  refine ⟨?_, ?_, ?_⟩
  · rw [hlisted]
    norm_num
  · rw [hplaces 24 (by decide), hlisted]
    norm_num
  · rw [(h.2 ⟨.v4 ⟨1, 2, 4, 7⟩, 8233⟩ (by decide +kernel)).1]
    norm_num

end Rotation

end Zeeder.Crawl
