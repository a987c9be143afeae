import Zeeder.Crawl.ActivationSampling
import Zeeder.Foundation.UniformShuffle
import Mathlib.Tactic.NormNum

/-! # Sampling is uniform over groups

Both shuffles of the sampling as uniformly random permutations: the first of the candidates, the
second of the representatives in whatever order the map gives them. A group's chance to be in the
sample depends on the number of groups alone, not on its size; the addresses of a group share its
chance evenly.

* **`samplingStructure`** — what every outcome of the sampling looks like.
* **`samplingUniform`** — how often a group, and how often an address, is sampled. -/

namespace Zeeder.Crawl

open Foundation Equiv

/-! ## Every outcome -/

/-- A group sample of at most 64 groups represents them all. -/
theorem IsGroupSample.exists_peerGroup_eq {candidates sample : List PeerSocketAddr}
    (h : IsGroupSample candidates sample) (hfew : groupCount candidates ≤ maxNetworkGroupsPerSweep)
    {addr : PeerSocketAddr} (haddr : addr ∈ candidates) :
    ∃ sampled ∈ sample, peerGroup sampled = peerGroup addr := by
  have hsubset : (sample.map peerGroup).toFinset ⊆ (candidates.map peerGroup).toFinset := by
    intro group hgroup
    obtain ⟨sampled, hsampled, rfl⟩ := List.mem_map.mp (List.mem_toFinset.mp hgroup)
    exact List.mem_toFinset.mpr (List.mem_map_of_mem (h.mem_candidates sampled hsampled))
  -- as many groups are sampled as there are
  have hcard : (candidates.map peerGroup).toFinset.card ≤ (sample.map peerGroup).toFinset.card := by
    rw [List.toFinset_card_of_nodup h.nodup_groups, List.length_map, h.length_eq,
      min_eq_right hfew, groupCount]
  have hgroup := List.mem_toFinset.mpr (List.mem_map_of_mem (f := peerGroup) haddr)
  rw [← Finset.eq_of_subset_of_card_le hsubset hcard] at hgroup
  exact List.mem_map.mp (List.mem_toFinset.mp hgroup)

/-- **Sampling structure.** For every outcome of the shuffles and of the map's iteration order: the
sampled addresses are candidates, lie in pairwise distinct groups and are as many as the candidates
have groups, up to 64; with at most 64 groups every group is represented. -/
theorem samplingStructure (order : SamplingOrder) (candidates : List PeerSocketAddr) :
    (∀ addr ∈ sampleNetworkGroupCandidates order candidates, addr ∈ candidates) ∧
    (sampleNetworkGroupCandidates order candidates).Pairwise
      (fun a b => peerGroup a ≠ peerGroup b) ∧
    (sampleNetworkGroupCandidates order candidates).length = min 64 (groupCount candidates) ∧
    (groupCount candidates ≤ 64 → ∀ addr ∈ candidates,
      ∃ sampled ∈ sampleNetworkGroupCandidates order candidates,
        peerGroup sampled = peerGroup addr) := by
  have hsample := sample_isGroupSample order candidates
  refine ⟨hsample.mem_candidates, ?_, hsample.length_eq, ?_⟩
  · exact List.pairwise_map.mp hsample.nodup_groups
  · exact fun hfew addr haddr => hsample.exists_peerGroup_eq hfew haddr

/-- Two addresses in one IPv4 group, one in another, and one in an IPv6 group. -/
def exampleCandidates : List PeerSocketAddr :=
  [⟨.v4 ⟨1, 2, 0, 1⟩, 8233⟩, ⟨.v4 ⟨1, 2, 7, 7⟩, 8233⟩, ⟨.v4 ⟨1, 3, 0, 1⟩, 8233⟩,
    ⟨.v6 ⟨0x2001, 0xdb8, 0, 0, 0, 0, 0, 1⟩, 8233⟩]

/-- The example's three groups are all represented, in three sampled addresses. -/
theorem samplingStructure_exampleCandidates :
    (sampleNetworkGroupCandidates ⟨.reversed, .refl, .reversed⟩ exampleCandidates).length = 3 ∧
    ∃ sampled ∈ sampleNetworkGroupCandidates ⟨.reversed, .refl, .reversed⟩ exampleCandidates,
      peerGroup sampled = .ipv4 1 2 := by
  obtain ⟨-, -, hlength, hall⟩ := samplingStructure ⟨.reversed, .refl, .reversed⟩ exampleCandidates
  exact ⟨hlength.trans (by decide), hall (by decide) ⟨.v4 ⟨1, 2, 0, 1⟩, 8233⟩ (by decide)⟩

/-! ## All outcomes, counted equally -/

section Uniform

variable {candidates : List PeerSocketAddr}

/-- The outcomes of the two shuffles: a permutation of the candidates and one of the groups'
representatives. -/
abbrev SamplingOutcome (candidates : List PeerSocketAddr) : Type :=
  Perm (Fin candidates.length) × Perm (Fin (groupCount candidates))

/-- The sample at one outcome of the shuffles. -/
def sampleAt (mapOrder : Shuffle PeerSocketAddr) (candidates : List PeerSocketAddr)
    (outcome : SamplingOutcome candidates) : List PeerSocketAddr :=
  sampleNetworkGroupCandidates ⟨.ofPerm outcome.1, mapOrder, .ofPerm outcome.2⟩ candidates

/-- The representatives in the map's iteration order, at one outcome of the first shuffle. -/
def mapValues (mapOrder : Shuffle PeerSocketAddr) (candidates : List PeerSocketAddr)
    (σ : Perm (Fin candidates.length)) : List PeerSocketAddr :=
  mapOrder.apply (representatives (firstWins peerGroup ((Shuffle.ofPerm σ).apply candidates)))

variable (mapOrder : Shuffle PeerSocketAddr)

theorem mem_mapValues_iff {σ : Perm (Fin candidates.length)} {addr : PeerSocketAddr} :
    addr ∈ mapValues mapOrder candidates σ ↔
      ((Shuffle.ofPerm σ).apply candidates).find? (fun other => peerGroup other = peerGroup addr)
        = some addr := by
  rw [mapValues, Shuffle.mem_apply, mem_representatives_iff]

theorem nodup_map_mapValues (σ : Perm (Fin candidates.length)) :
    ((mapValues mapOrder candidates σ).map peerGroup).Nodup :=
  ((mapOrder.perm _).map peerGroup).nodup_iff.mpr (nodup_map_key_representatives peerGroup _)

theorem length_mapValues (σ : Perm (Fin candidates.length)) :
    (mapValues mapOrder candidates σ).length = groupCount candidates := by
  rw [mapValues, Shuffle.length_apply, length_representatives, ← groupCount,
    groupCount_perm ((Shuffle.ofPerm σ).perm candidates)]

/-- Every group with a candidate has a representative. -/
theorem exists_mem_mapValues (σ : Perm (Fin candidates.length)) {group : NetworkGroup}
    (hgroup : group ∈ candidates.map peerGroup) :
    ∃ addr ∈ mapValues mapOrder candidates σ, peerGroup addr = group := by
  have hperm := ((Shuffle.ofPerm σ).perm candidates).map peerGroup
  have hmem : group ∈ (representatives
      (firstWins peerGroup ((Shuffle.ofPerm σ).apply candidates))).map peerGroup := by
    rw [← List.mem_toFinset, toFinset_map_key_representatives, List.mem_toFinset]
    exact hperm.mem_iff.mpr hgroup
  obtain ⟨addr, haddr, hkey⟩ := List.mem_map.mp hmem
  exact ⟨addr, mapOrder.mem_apply.mpr haddr, hkey⟩

/-- **A representative makes it into the sample** with share `min 64 G / G`. -/
theorem frequency_mem_take_mapValues (σ : Perm (Fin candidates.length)) {addr : PeerSocketAddr}
    (haddr : addr ∈ mapValues mapOrder candidates σ) :
    frequency (fun τ : Perm (Fin (groupCount candidates)) =>
        addr ∈ ((Shuffle.ofPerm τ).apply (mapValues mapOrder candidates σ)).take
          maxNetworkGroupsPerSweep)
      = (min maxNetworkGroupsPerSweep (groupCount candidates) : ℕ) / groupCount candidates :=
  frequency_mem_take (List.Nodup.of_map _ (nodup_map_mapValues mapOrder σ))
    (length_mapValues mapOrder σ) haddr _

/-- A group is in the sample with share `min 64 G / G`, whatever its size. -/
theorem frequency_group_sampled {group : NetworkGroup} (hgroup : group ∈ candidates.map peerGroup) :
    frequency (fun outcome : SamplingOutcome candidates =>
        group ∈ (sampleAt mapOrder candidates outcome).map peerGroup)
      = (min maxNetworkGroupsPerSweep (groupCount candidates) : ℕ) / groupCount candidates := by
  refine frequency_snd (Q := fun σ (τ : Perm (Fin (groupCount candidates))) =>
    group ∈ (sampleAt mapOrder candidates (σ, τ)).map peerGroup) fun σ => ?_
  obtain ⟨addr, haddr, rfl⟩ := exists_mem_mapValues mapOrder σ hgroup
  rw [← frequency_mem_take_mapValues mapOrder σ haddr]
  refine frequency_congr fun τ => ?_
  constructor
  · intro h
    obtain ⟨other, hother, hkey⟩ := List.mem_map.mp h
    -- the group has one representative only
    have hmem := (Shuffle.ofPerm τ).mem_of_mem_take_apply hother
    rwa [← List.inj_on_of_nodup_map (nodup_map_mapValues mapOrder σ) hmem haddr hkey]
  · exact fun h => List.mem_map_of_mem h

/-- A candidate is sampled with its share of its group's share. -/
theorem frequency_addr_sampled (hnodup : candidates.Nodup) {addr : PeerSocketAddr}
    (haddr : addr ∈ candidates) :
    frequency (fun outcome : SamplingOutcome candidates =>
        addr ∈ sampleAt mapOrder candidates outcome)
      = 1 / (candidates.countP fun other => peerGroup other = peerGroup addr : ℕ)
        * ((min maxNetworkGroupsPerSweep (groupCount candidates) : ℕ) / groupCount candidates) := by
  have hboth : frequency (fun outcome : SamplingOutcome candidates =>
        addr ∈ sampleAt mapOrder candidates outcome)
      = frequency (fun outcome : SamplingOutcome candidates =>
          addr ∈ mapValues mapOrder candidates outcome.1 ∧
            addr ∈ sampleAt mapOrder candidates (outcome.1, outcome.2)) := by
    refine frequency_congr fun outcome => ⟨fun h => ⟨?_, h⟩, And.right⟩
    exact (Shuffle.ofPerm outcome.2).mem_of_mem_take_apply h
  rw [hboth, frequency_and (P := fun σ => addr ∈ mapValues mapOrder candidates σ)
    (Q := fun σ τ => addr ∈ sampleAt mapOrder candidates (σ, τ))
    fun σ hσ => frequency_mem_take_mapValues mapOrder σ hσ]
  congr 1
  rw [← frequency_find?_eq_some peerGroup hnodup haddr]
  exact frequency_congr fun σ => mem_mapValues_iff mapOrder

/-- **Sampling is uniform over groups, not over addresses.** Over all pairs of permutations of `n`
distinct candidates in `G` groups, with the map's iteration order arbitrary: every group is in the
sample for exactly the share `min G 64 / G` of the pairs, and every candidate of a group of size `s`
is the sampled one for exactly the share `min G 64 / (G * s)`. -/
theorem samplingUniform (mapOrder : Shuffle PeerSocketAddr) (candidates : List PeerSocketAddr)
    (hnodup : candidates.Nodup) :
    (∀ group ∈ candidates.map peerGroup,
      frequency (fun outcome : SamplingOutcome candidates =>
          group ∈ (sampleAt mapOrder candidates outcome).map peerGroup)
        = (min (groupCount candidates) 64 : ℕ) / groupCount candidates) ∧
    (∀ addr ∈ candidates,
      frequency (fun outcome : SamplingOutcome candidates =>
          addr ∈ sampleAt mapOrder candidates outcome)
        = (min (groupCount candidates) 64 : ℕ) / (groupCount candidates
          * (candidates.countP fun other => peerGroup other = peerGroup addr : ℕ))) := by
  refine ⟨fun group hgroup => ?_, fun addr haddr => ?_⟩
  · rw [frequency_group_sampled mapOrder hgroup, min_comm]
    rfl
  · rw [frequency_addr_sampled mapOrder hnodup haddr, min_comm, one_div_mul_eq_div, div_div]
    rfl

/-- In the example each of the two addresses of one group is sampled half of the time, the only
address of another always. -/
theorem samplingUniform_exampleCandidates :
    frequency (fun outcome : SamplingOutcome exampleCandidates =>
        ⟨.v4 ⟨1, 2, 7, 7⟩, 8233⟩ ∈ sampleAt .reversed exampleCandidates outcome) = 1 / 2 ∧
    frequency (fun outcome : SamplingOutcome exampleCandidates =>
        ⟨.v4 ⟨1, 3, 0, 1⟩, 8233⟩ ∈ sampleAt .reversed exampleCandidates outcome) = 1 := by
  have hcount : groupCount exampleCandidates = 3 := by decide
  have h := (samplingUniform .reversed exampleCandidates (by decide)).2
  constructor
  · have hsize : exampleCandidates.countP
        (fun other => peerGroup other = peerGroup ⟨.v4 ⟨1, 2, 7, 7⟩, 8233⟩) = 2 := by decide
    rw [h _ (by decide), hcount, hsize]
    norm_num
  · have hsize : exampleCandidates.countP
        (fun other => peerGroup other = peerGroup ⟨.v4 ⟨1, 3, 0, 1⟩, 8233⟩) = 1 := by decide
    rw [h _ (by decide), hcount, hsize]
    norm_num

end Uniform

end Zeeder.Crawl
