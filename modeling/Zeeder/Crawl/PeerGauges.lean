import Zeeder.Crawl.AddressCache
import Zeeder.Foundation.Tally

/-! # The peer gauges over a sequence of refreshes

Every refresh sets ten gauges of its network: the entries known, the servable ones by address family,
and the unservable ones by reason. The refreshes of both networks write to one registry, in any order.

* **`length_eq_servableCount_add`** — every entry is servable in one family or unservable for one
  reason.
* **`peerGauges_describe`** — after every refresh the gauges of its network describe its book, and go
  on to do so until the next refresh of that network. -/

namespace Zeeder.Crawl

open Foundation Metrics

/-! ## Every entry is counted once -/

section Conservation

variable {book : AddressBook} {now : DateTime} {network : Network} {minimumVersion : Version}

/-- The reason why an entry is rejected, if it is. -/
def rejection? (book : AddressBook) (now : DateTime) (network : Network) (minimumVersion : Version)
    (peer : MetaAddr) : Option UnservableReason :=
  firstFailing (peerAttributes book peer now network minimumVersion)

theorem classifyPeer_eq_rejection (peer : MetaAddr) :
    classifyPeer book peer now network minimumVersion
      = match rejection? book now network minimumVersion peer with
        | none => .ok ()
        | some reason => .error reason :=
  classify_eq_firstFailing _

/-- A reason counts the entries whose first failing check it names. -/
theorem reasonCount_eq (peers : List MetaAddr) (reason : UnservableReason) :
    reasonCount book now network minimumVersion peers reason
      = peers.countP fun peer => rejection? book now network minimumVersion peer == some reason := by
  unfold reasonCount
  refine List.countP_congr fun peer _ => ?_
  rw [classifyPeer_eq_rejection]
  cases rejection? book now network minimumVersion peer <;> simp

/-- The servable entries are those without a failing check. -/
theorem isServable_eq (peer : MetaAddr) :
    isServable book now network minimumVersion peer
      = !(rejection? book now network minimumVersion peer).isSome := by
  rw [isServable, classifyPeer_eq_rejection]
  cases rejection? book now network minimumVersion peer <;> rfl

/-- The two families hold all servable entries. -/
theorem servableCount_add :
    servableCount book now network minimumVersion true
      + servableCount book now network minimumVersion false
      = book.peers.countP (isServable book now network minimumVersion) := by
  rw [List.countP_eq_countP_filter_add _ _ fun peer => peer.addr.ip.isIpv4 == true]
  unfold servableCount
  rw [List.countP_filter, List.countP_filter]
  congr 1
  refine List.countP_congr fun peer _ => ?_
  cases peer.addr.ip.isIpv4 <;> simp

/-- **Every entry is servable in one family or unservable for one reason.** -/
theorem length_eq_servableCount_add :
    book.peers.length
      = servableCount book now network minimumVersion true
        + servableCount book now network minimumVersion false
        + (UnservableReason.all.map fun reason =>
            reasonCount book now network minimumVersion book.peers reason).sum := by
  have hrejected := sum_map_countP_eq_countP UnservableReason.nodup_all UnservableReason.mem_all
    (rejection? book now network minimumVersion) book.peers
  simp only [reasonCount_eq, servableCount_add]
  rw [hrejected, List.length_eq_countP_add_countP (isServable book now network minimumVersion)]
  congr 1
  refine List.countP_congr fun peer _ => ?_
  rw [isServable_eq]
  cases rejection? book now network minimumVersion peer <;> simp

end Conservation

/-! ## The series of one network -/

/-- The series of a network's known entries. -/
def knownKey (network : ZcashNetwork) : SeriesKey := (peersKnown, [(labelNetwork, network.label)])

/-- The series of a network's servable entries of one address family. -/
def servableKey (network : ZcashNetwork) (ipv4 : Bool) : SeriesKey :=
  (peersServable, [(labelNetwork, network.label),
    (labelAddrFamily, if ipv4 then addrFamilyIpv4 else addrFamilyIpv6)])

/-- The series of a network's entries rejected for one reason. -/
def unservableKey (network : ZcashNetwork) (reason : UnservableReason) : SeriesKey :=
  (peersUnservable, [(labelNetwork, network.label), (labelReason, reason.label)])

/-- All peer series of a network. -/
def peerSeries (network : ZcashNetwork) : List SeriesKey :=
  knownKey network :: servableKey network true :: servableKey network false
    :: UnservableReason.all.map (unservableKey network)

theorem knownKey_mem_peerSeries (network : ZcashNetwork) : knownKey network ∈ peerSeries network :=
  List.mem_cons_self

theorem servableKey_mem_peerSeries (network : ZcashNetwork) (ipv4 : Bool) :
    servableKey network ipv4 ∈ peerSeries network := by
  cases ipv4 <;> simp [peerSeries]

theorem unservableKey_mem_peerSeries (network : ZcashNetwork) (reason : UnservableReason) :
    unservableKey network reason ∈ peerSeries network := by
  have hreason := List.mem_map_of_mem (f := unservableKey network) reason.mem_all
  simp only [peerSeries, List.mem_cons, hreason, or_true]

/-- Reasons have distinct series, since they have distinct labels. -/
theorem unservableKey_injective (network : ZcashNetwork) :
    Function.Injective (unservableKey network) := by
  intro a b h
  have hlabel : a.label = b.label := by simpa [unservableKey] using h
  exact UnservableReason.label_injective hlabel

/-- A network's series are distinct. -/
theorem nodup_peerSeries (network : ZcashNetwork) : (peerSeries network).Nodup := by
  have hreasons := UnservableReason.nodup_all.map (unservableKey_injective network)
  simp [peerSeries, hreasons, knownKey, servableKey, unservableKey, peersKnown, peersServable,
    peersUnservable, addrFamilyIpv4, addrFamilyIpv6]

/-- Every series of a network carries its label first. -/
theorem head?_of_mem_peerSeries {network : ZcashNetwork} {key : SeriesKey}
    (h : key ∈ peerSeries network) : key.2.head? = some (labelNetwork, network.label) := by
  simp only [peerSeries, List.mem_cons, List.mem_map] at h
  rcases h with rfl | rfl | rfl | ⟨reason, -, rfl⟩
  all_goals rfl

/-- Two networks share no series. -/
theorem not_mem_peerSeries_of_ne {a b : ZcashNetwork} (h : a ≠ b) {key : SeriesKey}
    (hkey : key ∈ peerSeries a) : key ∉ peerSeries b := by
  intro hother
  have hlabel : a.label = b.label := by
    have := (head?_of_mem_peerSeries hkey).symm.trans (head?_of_mem_peerSeries hother)
    simpa using this
  cases a <;> cases b <;> first | exact h rfl | exact absurd hlabel (by decide)

/-- A refresh sets exactly the series of its network. -/
theorem map_key_refresh (updater : CacheUpdater) (r : Refresh) :
    (updater.refresh r).2.map GaugeWrite.key = peerSeries updater.network := by
  simp [CacheUpdater.refresh, servablePeers, peerGauges, peerSeries, knownKey, servableKey,
    unservableKey, GaugeWrite.key, Function.comp_def]

/-! ## A sequence of refreshes -/

/-- The registry after the refreshes of some updaters, in order. -/
def gaugesAfter (gauges : Gauges) (refreshes : List (CacheUpdater × Refresh)) : Gauges :=
  refreshes.foldl (fun gauges e => setGauges gauges (e.1.refresh e.2).2) gauges

/-- The gauges of a network describe the book of one refresh, and nothing else: its entries, the
servable ones by family (not cut off at the cap of a response), and the others by the first check in
`classify` that they fail. -/
structure DescribesBook (gauges : Gauges) (updater : CacheUpdater) (r : Refresh) : Prop where
  /-- The known entries. -/
  known : gauges (knownKey updater.network) = some r.book.len
  /-- The servable entries of each family. -/
  servable : ∀ ipv4, gauges (servableKey updater.network ipv4) = some (updater.servableCount r ipv4)
  /-- The entries rejected for each reason, zero where there are none. -/
  unservable : ∀ reason, gauges (unservableKey updater.network reason)
    = some (r.book.peers.countP fun peer =>
        rejection? r.book r.now updater.zcashNetwork r.minimumVersion peer == some reason)

section Refreshes

variable {gauges : Gauges} {updater : CacheUpdater} {r : Refresh}

/-- A gauge that a refresh writes reads what it wrote. -/
theorem setGauges_refresh (write : GaugeWrite) (h : write ∈ (updater.refresh r).2) :
    setGauges gauges (updater.refresh r).2 write.key = some write.value := by
  refine setGauges_key ?_ h
  rw [map_key_refresh]
  exact nodup_peerSeries updater.network

/-- **One refresh**: afterwards the gauges describe its book. -/
theorem describesBook_refresh : DescribesBook (setGauges gauges (updater.refresh r).2) updater r where
  known := setGauges_refresh ⟨peersKnown, [(labelNetwork, updater.network.label)],
    r.book.len⟩ (by simp [CacheUpdater.refresh, servablePeers, peerGauges])
  servable ipv4 := setGauges_refresh _ (servableGauge_mem_refresh updater r ipv4)
  unservable reason := by
    rw [← reasonCount_eq]
    refine setGauges_refresh ⟨peersUnservable, [(labelNetwork, updater.network.label),
      (labelReason, reason.label)], _⟩ ?_
    rw [CacheUpdater.refresh, servablePeers, classifyPeers_eq]
    refine List.mem_append_right _ (List.mem_map.mpr ⟨reason, reason.mem_all, rfl⟩)

/-- Refreshes of other networks leave a network's series alone. -/
theorem gaugesAfter_of_ne {network : ZcashNetwork} {key : SeriesKey} (hkey : key ∈ peerSeries network)
    {refreshes : List (CacheUpdater × Refresh)} (h : ∀ e ∈ refreshes, e.1.network ≠ network) :
    gaugesAfter gauges refreshes key = gauges key := by
  induction refreshes generalizing gauges with
  | nil => rfl
  | cons e refreshes ih =>
      rw [List.forall_mem_cons] at h
      rw [gaugesAfter, List.foldl_cons, ← gaugesAfter, ih h.2]
      refine setGauges_of_not_mem ?_
      rw [map_key_refresh]
      exact not_mem_peerSeries_of_ne h.1.symm hkey

/-- Refreshes set no other series than those of their networks. -/
theorem gaugesAfter_of_not_mem {key : SeriesKey} {refreshes : List (CacheUpdater × Refresh)}
    (h : ∀ e ∈ refreshes, key ∉ peerSeries e.1.network) :
    gaugesAfter gauges refreshes key = gauges key := by
  induction refreshes generalizing gauges with
  | nil => rfl
  | cons e refreshes ih =>
      rw [List.forall_mem_cons] at h
      rw [gaugesAfter, List.foldl_cons, ← gaugesAfter, ih h.2]
      exact setGauges_of_not_mem (map_key_refresh e.1 e.2 ▸ h.1)

/-- The description survives the refreshes of other networks. -/
theorem DescribesBook.after_others (h : DescribesBook gauges updater r)
    {refreshes : List (CacheUpdater × Refresh)}
    (hother : ∀ e ∈ refreshes, e.1.network ≠ updater.network) :
    DescribesBook (gaugesAfter gauges refreshes) updater r where
  known := (gaugesAfter_of_ne (knownKey_mem_peerSeries _) hother).trans h.known
  servable ipv4 :=
    (gaugesAfter_of_ne (servableKey_mem_peerSeries _ ipv4) hother).trans (h.servable ipv4)
  unservable reason :=
    (gaugesAfter_of_ne (unservableKey_mem_peerSeries _ reason) hother).trans (h.unservable reason)

/-- **Conservation**: the known entries are the servable ones of both families and the unservable
ones of all reasons. -/
theorem DescribesBook.conservation (h : DescribesBook gauges updater r)
    (hlen : r.book.len = r.book.peers.length) :
    (gauges (knownKey updater.network)).getD 0
      = (gauges (servableKey updater.network true)).getD 0
        + (gauges (servableKey updater.network false)).getD 0
        + (UnservableReason.all.map fun reason =>
            (gauges (unservableKey updater.network reason)).getD 0).sum := by
  simp only [h.known, h.servable, h.unservable, Option.getD_some, hlen, ← reasonCount_eq]
  exact length_eq_servableCount_add

end Refreshes

/-- **The peer gauges account for every entry and never go stale.** For every sequence of refreshes of
any networks, books and floors, from any registry: after each refresh, and until the next one of the
same network, the network's gauges describe that refresh's book alone; if the book reports as many
entries as it has, the known entries are the servable ones plus the unservable ones over all reasons.
Starting from an empty registry, no series exists but those of the networks refreshed: one for each
reason label. -/
theorem peerGauges_describe (gauges : Gauges) (before : List (CacheUpdater × Refresh))
    (updater : CacheUpdater) (r : Refresh) (after : List (CacheUpdater × Refresh))
    (hafter : ∀ e ∈ after, e.1.network ≠ updater.network) :
    let current := gaugesAfter gauges (before ++ (updater, r) :: after)
    DescribesBook current updater r ∧
    (r.book.len = r.book.peers.length →
      (current (knownKey updater.network)).getD 0
        = (current (servableKey updater.network true)).getD 0
          + (current (servableKey updater.network false)).getD 0
          + (UnservableReason.all.map fun reason =>
              (current (unservableKey updater.network reason)).getD 0).sum) ∧
    ((∀ key, gauges key = none) → ∀ labels, current (peersUnservable, labels) ≠ none →
      ∃ e ∈ before ++ (updater, r) :: after, ∃ reason,
        (peersUnservable, labels) = unservableKey e.1.network reason) := by
  intro current
  have hdescribes : DescribesBook current updater r := by
    have hsplit : current
        = gaugesAfter (setGauges (gaugesAfter gauges before) (updater.refresh r).2) after := by
      simp only [current, gaugesAfter, List.foldl_append, List.foldl_cons]
    rw [hsplit]
    exact describesBook_refresh.after_others hafter
  refine ⟨hdescribes, fun hlen => hdescribes.conservation hlen, fun hempty labels hset => ?_⟩
  by_contra hnone
  refine hset ((gaugesAfter_of_not_mem fun e he hkey => hnone ⟨e, he, ?_⟩).trans (hempty _))
  have hknown : peersUnservable ≠ peersKnown := by decide
  have hservable : peersUnservable ≠ peersServable := by decide
  -- of a network's series, those with this name are the ones by reason
  simp only [peerSeries, List.mem_cons, List.mem_map] at hkey
  rcases hkey with h | h | h | ⟨reason, -, h⟩
  · exact absurd (congrArg Prod.fst h) hknown
  · exact absurd (congrArg Prod.fst h) hservable
  · exact absurd (congrArg Prod.fst h) hservable
  · exact ⟨reason, h.symm⟩

/-! ## A reason that goes away -/

/-- An entry of the example network at `1.2.3.4`, listening on the given port. -/
def peerOnPort (port : UInt16) : MetaAddr where
  addr := ⟨.v4 ⟨1, 2, 3, 4⟩, port⟩
  wasRecentlyLive _ := true
  negotiatedVersion := some ⟨20⟩
  lastKnownInfoIsValidForOutbound _ := true
  isInbound := false

/-- A refresh over that entry alone. -/
def refreshOnPort (port : UInt16) : Refresh :=
  ⟨⟨10⟩, ⟨[peerOnPort port], 1, fun _ => 0⟩, 0, .unshuffled⟩

/-- The cache updater of the example network. -/
def exampleUpdater (network : ZcashNetwork) : CacheUpdater := ⟨network, exampleNetwork, ⟨20⟩⟩

/-- After a refresh with a wrong port, one with the right port and one of the other network, the
reason is back to zero and the entry counts as servable. -/
theorem peerGauges_describe_example :
    let current := gaugesAfter (fun _ => none)
      ([(exampleUpdater .mainnet, refreshOnPort 1)] ++ (exampleUpdater .mainnet, refreshOnPort 8233)
        :: [(exampleUpdater .testnet, refreshOnPort 1)])
    current (unservableKey .mainnet .wrongPort) = some 0 ∧
      current (servableKey .mainnet true) = some 1 := by
  have h := (peerGauges_describe (fun _ => none) [(exampleUpdater .mainnet, refreshOnPort 1)]
    (exampleUpdater .mainnet) (refreshOnPort 8233) [(exampleUpdater .testnet, refreshOnPort 1)]
    (by simp [exampleUpdater])).1
  exact ⟨(h.unservable .wrongPort).trans (by decide), (h.servable true).trans (by decide)⟩

end Zeeder.Crawl
