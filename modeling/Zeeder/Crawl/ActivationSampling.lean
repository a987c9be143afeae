import Zeeder.Crawl.Servability
import Zeeder.Foundation.FirstWins
import Zeeder.Foundation.Shuffle
import Zeeder.Crawl.ActivationGate

/-! # Sampling one peer per network group

The observer probes at most one peer per network group (IPv4 `/16`, IPv6 `/32`), so that many
addresses in one prefix weigh no more than one. The two shuffles and the hash map's iteration order
are arguments, one `Shuffle` each.

* **`sample_isGroupSample`** — whatever the three orders are, the sample is a *group sample* of the
  candidates: members of the list, in pairwise distinct groups, and `min 64 G` of them when the
  candidates fall into `G` groups.
* **`IsGroupSample.countP_le`** — hence the sampled peers that pass any test are at most as many as
  the groups with a candidate that passes it. -/

namespace Zeeder.Crawl

open Foundation

/-- Stable fallback grouping that limits raw-IP Sybil weight. -/
inductive NetworkGroup where
  /-- An IPv4 `/16`: the first two octets. -/
  | ipv4 (o0 o1 : UInt8)
  /-- An IPv6 `/32`: the first two segments. -/
  | ipv6 (s0 s1 : UInt16)
  deriving DecidableEq, Repr

/-- The network group of an address. -/
def networkGroup : IpAddr → NetworkGroup
  | .v4 ip => .ipv4 ip.o0 ip.o1
  | .v6 ip => .ipv6 ip.s0 ip.s1

/-- The network group of a peer's address. -/
def peerGroup (addr : PeerSocketAddr) : NetworkGroup := networkGroup addr.ip

/-- The orders left open by one sampling: both shuffles and the map's iteration order. -/
structure SamplingOrder where
  /-- The shuffle of the candidates. -/
  candidates : Shuffle PeerSocketAddr
  /-- The iteration order of `representative_by_group`. -/
  mapOrder : Shuffle PeerSocketAddr
  /-- The shuffle of the representatives. -/
  representatives : Shuffle PeerSocketAddr

/-- Choose one random peer per group, then uniformly bound the group sample. -/
def sampleNetworkGroupCandidates (order : SamplingOrder) (candidates : List PeerSocketAddr) :
    List PeerSocketAddr :=
  let candidates := order.candidates.apply candidates
  -- `entry(group).or_insert(candidate)` over the shuffled candidates
  let representativeByGroup := firstWins peerGroup candidates
  let sampledPeers := order.mapOrder.apply (representatives representativeByGroup)
  (order.representatives.apply sampledPeers).take maxNetworkGroupsPerSweep

/-- The candidates of one sampling: the addresses of the entries `classifyPeer` accepts. -/
def sampleCandidates (book : AddressBook) (now : DateTime) (network : Network)
    (minimumVersion : Version) : List PeerSocketAddr :=
  (book.peers.filter (isServable book now network minimumVersion)).map MetaAddr.addr

/-- Sample one servable peer from each network group of the address book. -/
def sampleNetworkGroups (order : SamplingOrder) (book : AddressBook) (now : DateTime)
    (network : Network) (minimumVersion : Version) : List PeerSocketAddr :=
  sampleNetworkGroupCandidates order (sampleCandidates book now network minimumVersion)

/-- A candidate is the address of an entry that `classifyPeer` accepts. -/
theorem mem_sampleCandidates_iff {book : AddressBook} {now : DateTime} {network : Network}
    {minimumVersion : Version} {addr : PeerSocketAddr} :
    addr ∈ sampleCandidates book now network minimumVersion ↔
      ∃ peer ∈ book.peers,
        classifyPeer book peer now network minimumVersion = .ok () ∧ peer.addr = addr := by
  unfold sampleCandidates
  simp only [List.mem_map, List.mem_filter, isServable_iff, and_assoc]

/-! ## Group samples -/

/-- The number of distinct network groups among some addresses. -/
def groupCount (addrs : List PeerSocketAddr) : ℕ := (addrs.map peerGroup).toFinset.card

/-- What sampling promises about its result, whatever the order: members of the candidates, in
pairwise distinct groups, and as many as there are groups, up to 64. -/
structure IsGroupSample (candidates sample : List PeerSocketAddr) : Prop where
  /-- Every sampled address is a candidate. -/
  mem_candidates : ∀ addr ∈ sample, addr ∈ candidates
  /-- The sampled addresses lie in pairwise distinct groups. -/
  nodup_groups : (sample.map peerGroup).Nodup
  /-- The sample holds one address per group, up to the cap. -/
  length_eq : sample.length = min maxNetworkGroupsPerSweep (groupCount candidates)

/-- The number of groups does not depend on the order of the addresses. -/
theorem groupCount_perm {l₁ l₂ : List PeerSocketAddr} (h : l₁.Perm l₂) :
    groupCount l₁ = groupCount l₂ := by
  rw [groupCount, groupCount, List.toFinset_eq_of_perm _ _ (h.map peerGroup)]

/-- **Sampling yields a group sample**, for every outcome of the shuffles and the map order. -/
theorem sample_isGroupSample (order : SamplingOrder) (candidates : List PeerSocketAddr) :
    IsGroupSample candidates (sampleNetworkGroupCandidates order candidates) where
  mem_candidates addr h := by
    have hrep := order.mapOrder.mem_apply.mp (order.representatives.mem_of_mem_take_apply h)
    exact order.candidates.mem_apply.mp (mem_of_mem_representatives peerGroup hrep)
  nodup_groups := by
    -- the map has one entry per group; its iteration order and the truncation keep that
    have hrep := nodup_map_key_representatives peerGroup (order.candidates.apply candidates)
    have hmap := ((order.mapOrder.perm
      (representatives (firstWins peerGroup (order.candidates.apply candidates)))).map
        peerGroup).nodup_iff.mpr hrep
    exact order.representatives.nodup_map_take_apply hmap _
  length_eq := by
    rw [sampleNetworkGroupCandidates, Shuffle.length_take_apply, Shuffle.length_apply,
      length_representatives, ← groupCount, groupCount_perm (order.candidates.perm candidates)]

/-- The sample never exceeds 64 addresses. -/
theorem IsGroupSample.length_le {candidates sample : List PeerSocketAddr}
    (h : IsGroupSample candidates sample) : sample.length ≤ 64 := by
  rw [h.length_eq]; exact Nat.min_le_left _ _

/-- **A test passed by sampled addresses is paid for in groups.** At most one sampled address per
group counts, so the sampled addresses that pass are at most as many as the groups with any
candidate that passes. -/
theorem IsGroupSample.countP_le {candidates sample : List PeerSocketAddr}
    (h : IsGroupSample candidates sample) (test : PeerSocketAddr → Bool) :
    sample.countP test ≤ groupCount (candidates.filter test) := by
  have hnodup : ((sample.filter test).map peerGroup).Nodup :=
    h.nodup_groups.sublist (List.filter_sublist.map peerGroup)
  rw [List.countP_eq_length_filter, ← List.length_map (f := peerGroup),
    ← List.toFinset_card_of_nodup hnodup]
  -- every group of a passing sampled address is the group of a passing candidate
  refine Finset.card_le_card fun group hgroup => ?_
  obtain ⟨addr, haddr, rfl⟩ := List.mem_map.mp (List.mem_toFinset.mp hgroup)
  rw [List.mem_filter] at haddr
  exact List.mem_toFinset.mpr (List.mem_map_of_mem
    (List.mem_filter.mpr ⟨h.mem_candidates addr haddr.1, haddr.2⟩))

/-- Every sampled address passes a test or its negation. -/
theorem countP_add_countP_not (sample : List PeerSocketAddr) (test : PeerSocketAddr → Bool) :
    sample.countP test + sample.countP (fun addr => !test addr) = sample.length := by
  have h := List.length_eq_countP_add_countP (l := sample) test
  simpa using h.symm

end Zeeder.Crawl
