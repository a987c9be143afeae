import Zeeder.Crawl.Servability
import Zeeder.Foundation.Shuffle
import Zeeder.Metrics
import Mathlib.Data.List.Induction
import Mathlib.Logic.Function.Basic

/-! # The served-address cache

One refresh classifies every address-book entry, sorts the accepted ones into four tiers (by address
family, and by whether they negotiated the compiled target version), publishes the counts as gauges
and returns, for each family, the shuffled target tier followed by the shuffled fallback tier, cut
off at the number of addresses a DNS response may hold.

* **`classifyPeers_eq`** — the loop's tiers are filters of the book.
* **`tierPeers_fallback_eq_nil`** — at a floor from the target version on, nothing falls back.
* **`mem_servablePeers`** — where a cached address comes from.
* **`length_servablePeers`** — a family's list is as long as the book has servable peers of that
  family, up to the cap.
* **`nodup_ip_servablePeers`** — no IP address is listed twice. -/

namespace Zeeder.Crawl

open Foundation Metrics

/-- Maximum addresses returned per DNS query, per address family. -/
def maxDnsResponsePeers : ℕ := 25

/-- Cached servable peers for DNS response generation. -/
structure ServablePeers where
  /-- The IPv4 addresses. -/
  ipv4 : List PeerSocketAddr
  /-- The IPv6 addresses. -/
  ipv6 : List PeerSocketAddr
  deriving DecidableEq, Repr

/-- The cache before its first refresh. -/
def ServablePeers.default : ServablePeers := ⟨[], []⟩

/-- The number of cached addresses across both address families. -/
def ServablePeers.total (peers : ServablePeers) : ℕ := peers.ipv4.length + peers.ipv6.length

/-! ## Classification -/

/-- The local variables of the classification loop. -/
structure PeerTiers where
  /-- IPv4 addresses at the target version. -/
  targetIpv4 : List PeerSocketAddr
  /-- IPv4 addresses below the target version. -/
  fallbackIpv4 : List PeerSocketAddr
  /-- IPv6 addresses at the target version. -/
  targetIpv6 : List PeerSocketAddr
  /-- IPv6 addresses below the target version. -/
  fallbackIpv6 : List PeerSocketAddr
  /-- How many entries failed with each reason. -/
  unservable : UnservableReason → ℕ

/-- The loop's variables before the first entry. -/
def PeerTiers.empty : PeerTiers := ⟨[], [], [], [], fun _ => 0⟩

/-- Whether the entry negotiated at least the target version. -/
def isTargetVersion (targetVersion : Version) (peer : MetaAddr) : Bool :=
  match peer.negotiatedVersion with
  | none => false
  | some version => decide (targetVersion ≤ version)

theorem isTargetVersion_iff {targetVersion : Version} {peer : MetaAddr} :
    isTargetVersion targetVersion peer = true ↔
      ∃ version, peer.negotiatedVersion = some version ∧ targetVersion ≤ version := by
  unfold isTargetVersion
  cases peer.negotiatedVersion with
  | none => simp
  | some version => simp

/-- Append an accepted entry to its tier. -/
def PeerTiers.accept (tiers : PeerTiers) (targetVersion : Version) (peer : MetaAddr) : PeerTiers :=
  match peer.addr.ip.isIpv4, isTargetVersion targetVersion peer with
  | true, true => { tiers with targetIpv4 := tiers.targetIpv4 ++ [peer.addr] }
  | true, false => { tiers with fallbackIpv4 := tiers.fallbackIpv4 ++ [peer.addr] }
  | false, true => { tiers with targetIpv6 := tiers.targetIpv6 ++ [peer.addr] }
  | false, false => { tiers with fallbackIpv6 := tiers.fallbackIpv6 ++ [peer.addr] }

/-- Count a rejected entry under its reason. -/
def PeerTiers.reject (tiers : PeerTiers) (reason : UnservableReason) : PeerTiers :=
  { tiers with
    unservable := Function.update tiers.unservable reason (tiers.unservable reason + 1) }

section Classification

variable (book : AddressBook) (now : DateTime) (network : Network)
  (minimumVersion targetVersion : Version)

/-- The loop's body. -/
def classifyStep (tiers : PeerTiers) (peer : MetaAddr) : PeerTiers :=
  match classifyPeer book peer now network minimumVersion with
  | .ok () => tiers.accept targetVersion peer
  | .error reason => tiers.reject reason

/-- The loop over the address book. -/
def classifyPeers : PeerTiers :=
  book.peers.foldl (classifyStep book now network minimumVersion targetVersion) .empty

/-- The accepted entries of one address family, at the target version or below it. -/
def tierPeers (ipv4 target : Bool) (peers : List MetaAddr) : List MetaAddr :=
  peers.filter fun peer => isServable book now network minimumVersion peer &&
    (peer.addr.ip.isIpv4 == ipv4) && (isTargetVersion targetVersion peer == target)

/-- The number of entries whose first failing check has the given reason. -/
def reasonCount (peers : List MetaAddr) (reason : UnservableReason) : ℕ :=
  peers.countP fun peer =>
    decide (classifyPeer book peer now network minimumVersion = .error reason)

/-- The number of servable peers of one address family. -/
def servableCount (ipv4 : Bool) : ℕ :=
  book.peers.countP fun peer =>
    isServable book now network minimumVersion peer && (peer.addr.ip.isIpv4 == ipv4)

end Classification

/-! ## The tiers of a book -/

section Tiers

variable {book : AddressBook} {now : DateTime} {network : Network}
  {minimumVersion targetVersion : Version}

/-- The loop's variables after the entries `peers`, in closed form. -/
def tiersAfter (book : AddressBook) (now : DateTime) (network : Network)
    (minimumVersion targetVersion : Version) (peers : List MetaAddr) : PeerTiers :=
  let tier ipv4 target :=
    (tierPeers book now network minimumVersion targetVersion ipv4 target peers).map (·.addr)
  { targetIpv4 := tier true true
    fallbackIpv4 := tier true false
    targetIpv6 := tier false true
    fallbackIpv6 := tier false false
    unservable := reasonCount book now network minimumVersion peers }

theorem classifyStep_tiersAfter (peers : List MetaAddr) (peer : MetaAddr) :
    classifyStep book now network minimumVersion targetVersion
        (tiersAfter book now network minimumVersion targetVersion peers) peer
      = tiersAfter book now network minimumVersion targetVersion (peers ++ [peer]) := by
  unfold classifyStep
  cases hclass : classifyPeer book peer now network minimumVersion with
  | ok u =>
      have hserv : isServable book now network minimumVersion peer = true :=
        isServable_iff.mpr hclass
      have hcount : reasonCount book now network minimumVersion (peers ++ [peer])
          = reasonCount book now network minimumVersion peers := by
        funext reason
        simp [reasonCount, hclass]
      -- exactly one of the four tiers grows, by the family and the version of the entry
      cases hip : peer.addr.ip.isIpv4 <;> cases htarget : isTargetVersion targetVersion peer <;>
        simp [PeerTiers.accept, tiersAfter, tierPeers, hserv, hip, htarget, hcount]
  | error reason =>
      have hserv : isServable book now network minimumVersion peer = false := by
        simp [isServable, hclass, Except.isOk, Except.toBool]
      have hcount : reasonCount book now network minimumVersion (peers ++ [peer])
          = Function.update (reasonCount book now network minimumVersion peers) reason
              (reasonCount book now network minimumVersion peers reason + 1) := by
        funext other
        by_cases h : other = reason
        · subst h
          simp [reasonCount, hclass]
        · rw [Function.update_of_ne h]
          simp [reasonCount, hclass, Ne.symm h]
      simp [PeerTiers.reject, tiersAfter, tierPeers, hserv, hcount]

/-- **The tiers are filters of the book**, in its order. -/
theorem classifyPeers_eq :
    classifyPeers book now network minimumVersion targetVersion
      = tiersAfter book now network minimumVersion targetVersion book.peers := by
  unfold classifyPeers
  -- the loop pushes at the end of its vectors, so the book is taken apart from its end
  induction book.peers using List.reverseRecOn with
  | nil => rfl
  | append_singleton peers peer ih =>
      rw [List.foldl_append, List.foldl_cons, List.foldl_nil, ih, classifyStep_tiersAfter]

theorem mem_tierPeers {ipv4 target : Bool} {peer : MetaAddr} {peers : List MetaAddr} :
    peer ∈ tierPeers book now network minimumVersion targetVersion ipv4 target peers ↔
      peer ∈ peers ∧ classifyPeer book peer now network minimumVersion = .ok () ∧
        peer.addr.ip.isIpv4 = ipv4 ∧ isTargetVersion targetVersion peer = target := by
  simp [tierPeers, isServable_iff, and_assoc]

/-- The two tiers of a family hold its servable peers. -/
theorem length_tierPeers_add (ipv4 : Bool) :
    (tierPeers book now network minimumVersion targetVersion ipv4 true book.peers).length
      + (tierPeers book now network minimumVersion targetVersion ipv4 false book.peers).length
      = servableCount book now network minimumVersion ipv4 := by
  unfold tierPeers servableCount
  -- split the family's servable peers by the version they negotiated
  rw [List.countP_eq_countP_filter_add _ _ fun peer => isTargetVersion targetVersion peer]
  rw [List.countP_filter, List.countP_filter, List.countP_eq_length_filter,
    List.countP_eq_length_filter]
  simp [Bool.and_assoc]

/-- **At a floor from the target version on, the fallback tiers are empty.** -/
theorem tierPeers_fallback_eq_nil (h : targetVersion ≤ minimumVersion) (ipv4 : Bool)
    (peers : List MetaAddr) :
    tierPeers book now network minimumVersion targetVersion ipv4 false peers = [] := by
  refine List.eq_nil_iff_forall_not_mem.mpr fun peer hmem => ?_
  obtain ⟨-, hok, -, htarget⟩ := mem_tierPeers.mp hmem
  -- an accepted peer negotiated at least the floor, hence at least the target version
  obtain ⟨version, hversion, hle⟩ := classifyPeer_ok_version hok
  rw [isTargetVersion_iff.mpr ⟨version, hversion, h.trans hle⟩] at htarget
  exact absurd htarget (by decide)

end Tiers

/-! ## The snapshot -/

/-- The outcomes of one refresh's four shuffles. -/
structure RefreshOrder where
  /-- Of the IPv4 target tier. -/
  targetIpv4 : Shuffle PeerSocketAddr
  /-- Of the IPv4 fallback tier. -/
  fallbackIpv4 : Shuffle PeerSocketAddr
  /-- Of the IPv6 target tier. -/
  targetIpv6 : Shuffle PeerSocketAddr
  /-- Of the IPv6 fallback tier. -/
  fallbackIpv6 : Shuffle PeerSocketAddr

/-- The order in which every tier stays as it is. -/
def RefreshOrder.unshuffled : RefreshOrder := ⟨.refl, .refl, .refl, .refl⟩

/-- The shuffled target tier, then the shuffled fallback tier, cut off. -/
def shuffledVersionPreferredPeers (targetOrder fallbackOrder : Shuffle PeerSocketAddr)
    (targetVersion fallbackVersion : List PeerSocketAddr) : List PeerSocketAddr :=
  (targetOrder.apply targetVersion ++ fallbackOrder.apply fallbackVersion).take maxDnsResponsePeers

/-- The gauges a refresh sets, in order. -/
def peerGauges (book : AddressBook) (tiers : PeerTiers) (networkLabel : String) : List GaugeWrite :=
  let servableIpv4 := tiers.targetIpv4.length + tiers.fallbackIpv4.length
  let servableIpv6 := tiers.targetIpv6.length + tiers.fallbackIpv6.length
  [⟨peersKnown, [(labelNetwork, networkLabel)], book.len⟩,
    ⟨peersServable, [(labelNetwork, networkLabel), (labelAddrFamily, addrFamilyIpv4)],
      servableIpv4⟩,
    ⟨peersServable, [(labelNetwork, networkLabel), (labelAddrFamily, addrFamilyIpv6)],
      servableIpv6⟩]
  ++ UnservableReason.all.map fun reason =>
    ⟨peersUnservable, [(labelNetwork, networkLabel), (labelReason, reason.label)],
      tiers.unservable reason⟩

/-- Classify every peer in the book; return the shuffled, capped snapshot and the gauges set. -/
def servablePeers (order : RefreshOrder) (book : AddressBook) (now : DateTime) (network : Network)
    (minimumVersion targetVersion : Version) (networkLabel : String) :
    ServablePeers × List GaugeWrite :=
  let tiers := classifyPeers book now network minimumVersion targetVersion
  (⟨shuffledVersionPreferredPeers order.targetIpv4 order.fallbackIpv4 tiers.targetIpv4
        tiers.fallbackIpv4,
      shuffledVersionPreferredPeers order.targetIpv6 order.fallbackIpv6 tiers.targetIpv6
        tiers.fallbackIpv6⟩,
    peerGauges book tiers networkLabel)

/-- One family of a snapshot. -/
def ServablePeers.family (peers : ServablePeers) (ipv4 : Bool) : List PeerSocketAddr :=
  if ipv4 then peers.ipv4 else peers.ipv6

/-- The two shuffles of one family. -/
def RefreshOrder.family (order : RefreshOrder) (ipv4 : Bool) :
    Shuffle PeerSocketAddr × Shuffle PeerSocketAddr :=
  if ipv4 then (order.targetIpv4, order.fallbackIpv4) else (order.targetIpv6, order.fallbackIpv6)

section Snapshot

variable {order : RefreshOrder} {book : AddressBook} {now : DateTime} {network : Network}
  {minimumVersion targetVersion : Version} {networkLabel : String}

/-- One family of a refresh's snapshot, whichever family it is. -/
theorem servablePeers_family (ipv4 : Bool) :
    (servablePeers order book now network minimumVersion targetVersion networkLabel).1.family ipv4
      = shuffledVersionPreferredPeers (order.family ipv4).1 (order.family ipv4).2
          ((tierPeers book now network minimumVersion targetVersion ipv4 true book.peers).map
            (·.addr))
          ((tierPeers book now network minimumVersion targetVersion ipv4 false book.peers).map
            (·.addr)) := by
  unfold servablePeers
  rw [classifyPeers_eq]
  cases ipv4 <;> rfl

/-- **Where a cached address comes from**: an entry of the book that `classifyPeer` accepts, of
that address family. -/
theorem mem_servablePeers {ipv4 : Bool} {addr : PeerSocketAddr}
    (h : addr ∈ (servablePeers order book now network minimumVersion targetVersion
      networkLabel).1.family ipv4) :
    ∃ peer ∈ book.peers, peer.addr = addr ∧ addr.ip.isIpv4 = ipv4 ∧
      classifyPeer book peer now network minimumVersion = .ok () := by
  rw [servablePeers_family] at h
  have hmem := List.mem_of_mem_take h
  rw [List.mem_append, Shuffle.mem_apply, Shuffle.mem_apply, List.mem_map, List.mem_map] at hmem
  rcases hmem with ⟨peer, hpeer, rfl⟩ | ⟨peer, hpeer, rfl⟩
  all_goals
    obtain ⟨hbook, hok, hip, -⟩ := mem_tierPeers.mp hpeer
    exact ⟨peer, hbook, rfl, hip, hok⟩

/-- **The length of a family's list**: the servable peers of that family, up to the cap. -/
theorem length_servablePeers (ipv4 : Bool) :
    ((servablePeers order book now network minimumVersion targetVersion networkLabel).1.family
      ipv4).length
      = min maxDnsResponsePeers (servableCount book now network minimumVersion ipv4) := by
  rw [servablePeers_family, shuffledVersionPreferredPeers, List.length_take, List.length_append,
    Shuffle.length_apply, Shuffle.length_apply, List.length_map, List.length_map,
    length_tierPeers_add]

/-- Two accepted entries with the same IP address have the same socket address: they share the
default port. -/
theorem addr_eq_of_ip_eq {peer other : MetaAddr}
    (hpeer : classifyPeer book peer now network minimumVersion = .ok ())
    (hother : classifyPeer book other now network minimumVersion = .ok ())
    (hip : peer.addr.ip = other.addr.ip) : peer.addr = other.addr := by
  have hport : peer.addr.port = other.addr.port :=
    (classifyPeer_ok_port hpeer).trans (classifyPeer_ok_port hother).symm
  exact PeerSocketAddr.eq_of_ip_of_port hip hport

/-- The two tiers of a family share no address when the book's addresses are distinct. -/
theorem tierPeers_disjoint (hbook : (book.peers.map (·.addr)).Nodup) (ipv4 : Bool)
    {peer other : MetaAddr}
    (hpeer : peer ∈ tierPeers book now network minimumVersion targetVersion ipv4 true book.peers)
    (hother : other ∈ tierPeers book now network minimumVersion targetVersion ipv4 false
      book.peers) : peer.addr ≠ other.addr := by
  intro heq
  obtain ⟨hp, -, -, hpt⟩ := mem_tierPeers.mp hpeer
  obtain ⟨ho, -, -, hot⟩ := mem_tierPeers.mp hother
  -- one entry of the book would be both at and below the target version
  rw [← List.inj_on_of_nodup_map hbook hp ho heq, hpt] at hot
  exact absurd hot (by decide)

/-- **No address is in both tiers, or in one twice**, when the book's addresses are distinct. -/
theorem nodup_tiers (hbook : (book.peers.map (·.addr)).Nodup) (ipv4 : Bool) :
    ((tierPeers book now network minimumVersion targetVersion ipv4 true book.peers).map (·.addr)
      ++ (tierPeers book now network minimumVersion targetVersion ipv4 false book.peers).map
        (·.addr)).Nodup := by
  have htier : ∀ target, ((tierPeers book now network minimumVersion targetVersion ipv4 target
      book.peers).map (·.addr)).Nodup := fun target =>
    hbook.sublist (List.filter_sublist.map _)
  refine List.nodup_append.mpr ⟨htier true, htier false, ?_⟩
  intro a ha b hb
  obtain ⟨peer, hpeer, rfl⟩ := List.mem_map.mp ha
  obtain ⟨other, hother, rfl⟩ := List.mem_map.mp hb
  exact tierPeers_disjoint hbook ipv4 hpeer hother

theorem nodup_servablePeers_family (hbook : (book.peers.map (·.addr)).Nodup) (ipv4 : Bool) :
    ((servablePeers order book now network minimumVersion targetVersion networkLabel).1.family
      ipv4).Nodup := by
  rw [servablePeers_family]
  -- the list is a prefix of the shuffled tiers
  refine List.Nodup.sublist (List.take_sublist _ _) ?_
  exact (((Shuffle.perm _ _).append (Shuffle.perm _ _)).nodup_iff).mpr (nodup_tiers hbook ipv4)

/-- **No IP address twice**: a book with distinct socket addresses gives families with distinct IP
addresses. -/
theorem nodup_ip_servablePeers (hbook : (book.peers.map (·.addr)).Nodup) (ipv4 : Bool) :
    (((servablePeers order book now network minimumVersion targetVersion networkLabel).1.family
      ipv4).map (·.ip)).Nodup := by
  refine (List.nodup_map_iff_inj_on (nodup_servablePeers_family hbook ipv4)).mpr ?_
  intro a ha b hb hip
  -- both were accepted, so both listen on the default port
  obtain ⟨peer, -, rfl, -, hpeer⟩ := mem_servablePeers ha
  obtain ⟨other, -, rfl, -, hother⟩ := mem_servablePeers hb
  exact addr_eq_of_ip_eq hpeer hother hip

end Snapshot

/-! ## Refreshes and their channel -/

/-- The receiving end of the watch channel that one network's cache updater sends to. -/
structure Receiver where
  /-- The network whose updater sends. -/
  updater : ZcashNetwork
  deriving DecidableEq, Repr

/-- The arguments one network's cache updater is spawned with, apart from the book and the tip. -/
structure CacheUpdater where
  /-- The network. -/
  network : ZcashNetwork
  /-- Its zebra-chain network. -/
  zcashNetwork : Network
  /-- The compiled target version. -/
  targetVersion : Version

/-- What one refresh reads: the floor derived from the tip, then the book under the lock. -/
structure Refresh where
  /-- The version floor derived from the tip before the lock. -/
  minimumVersion : Version
  /-- The address book under the lock. -/
  book : AddressBook
  /-- The instant of the classification. -/
  now : DateTime
  /-- The outcomes of the shuffles. -/
  order : RefreshOrder

/-- The snapshot and the gauges of one refresh. -/
def CacheUpdater.refresh (updater : CacheUpdater) (r : Refresh) : ServablePeers × List GaugeWrite :=
  servablePeers r.order r.book r.now updater.zcashNetwork r.minimumVersion updater.targetVersion
    updater.network.label

/-- The snapshot one refresh sends to the channel. -/
def CacheUpdater.snapshot (updater : CacheUpdater) (r : Refresh) : ServablePeers :=
  (updater.refresh r).1

/-- The number of peers in one refresh's book that `classifyPeer` accepts, by address family. -/
def CacheUpdater.servableCount (updater : CacheUpdater) (r : Refresh) (ipv4 : Bool) : ℕ :=
  Crawl.servableCount r.book r.now updater.zcashNetwork r.minimumVersion ipv4

/-- The servable gauges carry the uncapped counts. -/
theorem servableGauge_mem_refresh (updater : CacheUpdater) (r : Refresh) (ipv4 : Bool) :
    ⟨peersServable, [(labelNetwork, updater.network.label),
        (labelAddrFamily, if ipv4 then addrFamilyIpv4 else addrFamilyIpv6)],
      updater.servableCount r ipv4⟩ ∈ (updater.refresh r).2 := by
  have hcount : updater.servableCount r ipv4
      = (tierPeers r.book r.now updater.zcashNetwork r.minimumVersion updater.targetVersion ipv4 true
          r.book.peers).length
        + (tierPeers r.book r.now updater.zcashNetwork r.minimumVersion updater.targetVersion ipv4
          false r.book.peers).length := (length_tierPeers_add ipv4).symm
  rw [hcount, CacheUpdater.refresh, servablePeers, classifyPeers_eq]
  cases ipv4 <;> simp [peerGauges, tiersAfter]

/-- **The cached total is capped per family.** -/
theorem total_snapshot (updater : CacheUpdater) (r : Refresh) :
    (updater.snapshot r).total = min maxDnsResponsePeers (updater.servableCount r true)
      + min maxDnsResponsePeers (updater.servableCount r false) :=
  congrArg₂ (· + ·) (length_servablePeers true) (length_servablePeers false)

end Zeeder.Crawl
