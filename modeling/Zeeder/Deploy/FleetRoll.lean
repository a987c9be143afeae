import Mathlib.Data.List.Induction
import Zeeder.Deploy.FleetAudit

/-! # A fleet roll exposes at most one nameserver

What a roll has done is the trace of its commands. Every command that changes a VM is allowed only
where the audits, the firewall check, the signature and the gates of all earlier VMs are already in
the trace; that the script calls such commands only when they are allowed is its weakest precondition.

* **`GatePassed`** — the `k`-th VM was reset and afterwards showed mainnet records over UDP and TCP
  within one try, at its reserved address.
* **`wp_rollVm`** — rolling one VM, with the invariant between VMs (`Rolled`).
* **`fleetRoll_safe`** — the property, at every moment of every roll. -/

namespace Zeeder.Deploy

open Foundation

/-- A VM, as `gcloud` is told about it. -/
abbrev VmId := String × String

/-- The VM of an inventory row. -/
def Seeder.vmId (vm : Seeder) : VmId := (vm.name, vm.zone)

/-- The VM that a command resets. -/
def resetVm? : FleetEvent → Option VmId
  | ⟨.act (.reset name zone), _⟩ => some (name, zone)
  | _ => none

/-- The VM whose metadata a command changes, or that it resets. -/
def changedVm? : FleetEvent → Option VmId
  | ⟨.act (.addMetadata name zone _), _⟩ => some (name, zone)
  | ⟨.act (.removeMetadata name zone _), _⟩ => some (name, zone)
  | ⟨.act (.reset name zone), _⟩ => some (name, zone)
  | _ => none

/-- The VM that a command labels, and the labels. -/
def labelledVm? : FleetEvent → Option (VmId × String)
  | ⟨.act (.addLabels name zone labels), _⟩ => some ((name, zone), labels)
  | _ => none

/-- The VMs that were reset, oldest first. -/
def resets (trace : List FleetEvent) : List VmId := trace.filterMap resetVm?

@[simp] theorem resets_nil : resets [] = [] := rfl

@[simp] theorem resets_append (before after : List FleetEvent) :
    resets (before ++ after) = resets before ++ resets after := List.filterMap_append

namespace Fleet

variable (fleet : Fleet)

/-! ## What a trace shows -/

/-- Everything that has to be checked before the first change. -/
structure Preflight (trace : List FleetEvent) : Prop where
  /-- Every selected VM passed the audit. -/
  audited : ∀ vm ∈ fleet.selectedSeeders, fleet.InfraAudited trace vm
  /-- The firewall admits queries. -/
  firewall : fleet.FirewallChecked trace
  /-- The image is signed. -/
  verified : fleet.ImageVerified trace

/-- The four probes of one try, with what they printed. -/
def tryTrace (ip : String) (mainUdp mainTcp testUdp testTcp : List String) : List FleetEvent :=
  [⟨.dig ip fleet.mainnetDomain false, mainUdp⟩, ⟨.dig ip fleet.mainnetDomain true, mainTcp⟩,
    ⟨.dig ip fleet.testnetDomain false, testUdp⟩, ⟨.dig ip fleet.testnetDomain true, testTcp⟩]

/-- Within one try an address showed a mainnet record over UDP and one over TCP. -/
def ShowedMainnet (ip : String) (trace : List FleetEvent) : Prop :=
  ∃ mainUdp mainTcp testUdp testTcp,
    fleet.tryTrace ip mainUdp mainTcp testUdp testTcp <:+: trace ∧
      1 ≤ countA mainUdp ∧ 1 ≤ countA mainTcp

/-- **The `k`-th selected VM was reset and passed its mainnet gate**: after the `k`-th reset its
reserved address, looked up before, showed mainnet records within one try. -/
def GatePassed (trace : List FleetEvent) (k : ℕ) : Prop :=
  ∃ vm rows ip status before after, fleet.selectedSeeders[k]? = some vm ∧
    trace = before ++ ⟨.act (.reset vm.name vm.zone), (status : ℕ)⟩ :: after ∧
    (resets before).length = k ∧ ⟨.listAddresses, rows⟩ ∈ before ∧
    reservedAddress vm.name vm.region rows = .ok ip ∧ ip ≠ "" ∧ fleet.ShowedMainnet ip after

/-- The `k`-th VM was reset and has not passed its gate. -/
def Exposed (trace : List FleetEvent) (k : ℕ) : Prop :=
  k < (resets trace).length ∧ ¬ fleet.GatePassed trace k

/-- The next VM may be changed: everything is checked, it is its turn, every earlier gate passed. -/
structure MayChange (trace : List FleetEvent) (vm : VmId) : Prop where
  /-- Everything is checked. -/
  preflight : fleet.Preflight trace
  /-- It is the VM's turn. -/
  turn : (fleet.selectedSeeders.map Seeder.vmId)[(resets trace).length]? = some vm
  /-- Every VM before it passed its gate. -/
  gates : ∀ j < (resets trace).length, fleet.GatePassed trace j

/-- A VM may be labelled: with the pinned digest, and after its own gate and all earlier ones. -/
structure MayLabel (trace : List FleetEvent) (vm : VmId) (labels : String) : Prop where
  /-- The label names the pinned digest. -/
  pinned : ∃ digest, digestShort? fleet.imageRef = some digest ∧ labels = s!"zeeder-digest={digest}"
  /-- The VM itself and all before it passed their gates. -/
  gates : ∃ k, (resets trace).length = k + 1 ∧
    (fleet.selectedSeeders.map Seeder.vmId)[k]? = some vm ∧ ∀ j ≤ k, fleet.GatePassed trace j

/-- Which commands a roll may call. -/
structure Allowed (trace : List FleetEvent) (event : FleetEvent) : Prop where
  /-- Changing or resetting a VM. -/
  change : ∀ vm, changedVm? event = some vm → fleet.MayChange trace vm
  /-- Labelling a VM. -/
  label : ∀ vm labels, labelledVm? event = some (vm, labels) → fleet.MayLabel trace vm labels

/-- **The property of a roll**, of everything it has done up to some moment. -/
structure RollSafe (trace : List FleetEvent) : Prop where
  /-- No VM is changed before all audits, the firewall check and the signature. -/
  preflight : ∀ before event after vm, trace = before ++ event :: after →
    changedVm? event = some vm → fleet.Preflight before
  /-- VMs are reset in inventory order. -/
  inOrder : resets trace <+: fleet.selectedSeeders.map Seeder.vmId
  /-- A VM is touched only after every earlier one passed its mainnet gate. -/
  gated : ∀ before event after vm, trace = before ++ event :: after →
    (changedVm? event = some vm ∨ ∃ labels, labelledVm? event = some (vm, labels)) →
    ∃ k, (fleet.selectedSeeders.map Seeder.vmId)[k]? = some vm ∧
      ((resets before).length = k ∨ (resets before).length = k + 1) ∧
      ∀ j < k, fleet.GatePassed before j
  /-- At most one VM is exposed. -/
  oneExposed : ∀ i j, fleet.Exposed trace i → fleet.Exposed trace j → i = j
  /-- A VM is labelled only with the pinned digest and only after its own gate passed. -/
  labelled : ∀ before event after vm labels, trace = before ++ event :: after →
    labelledVm? event = some (vm, labels) →
    (∃ digest, digestShort? fleet.imageRef = some digest ∧ labels = s!"zeeder-digest={digest}") ∧
      ∃ k, (fleet.selectedSeeders.map Seeder.vmId)[k]? = some vm ∧
        (resets before).length = k + 1 ∧ fleet.GatePassed before k

/-! ## What more of a trace keeps -/

section Monotone

variable {fleet} {trace more : List FleetEvent}

theorem Preflight.append (h : fleet.Preflight trace) : fleet.Preflight (trace ++ more) where
  audited vm hvm := (h.audited vm hvm).mono ⟨[], more, rfl⟩
  firewall := by
    obtain ⟨rules, hrules, h⟩ := h.firewall
    exact ⟨rules, List.mem_append_left _ hrules, h⟩
  verified := List.mem_append_left _ h.verified

theorem ShowedMainnet.append {ip : String} (h : fleet.ShowedMainnet ip trace) :
    fleet.ShowedMainnet ip (trace ++ more) := by
  obtain ⟨mainUdp, mainTcp, testUdp, testTcp, hinfix, h⟩ := h
  exact ⟨mainUdp, mainTcp, testUdp, testTcp, hinfix.trans ⟨[], more, by simp⟩, h⟩

theorem ShowedMainnet.cons {ip : String} {event : FleetEvent} (h : fleet.ShowedMainnet ip trace) :
    fleet.ShowedMainnet ip (event :: trace) := by
  obtain ⟨mainUdp, mainTcp, testUdp, testTcp, hinfix, h⟩ := h
  exact ⟨mainUdp, mainTcp, testUdp, testTcp, hinfix.trans ⟨[event], [], by simp⟩, h⟩

theorem GatePassed.append {k : ℕ} (h : fleet.GatePassed trace k) :
    fleet.GatePassed (trace ++ more) k := by
  obtain ⟨vm, rows, ip, status, before, after, hvm, rfl, hcount, hrows, hip, hne, hshown⟩ := h
  exact ⟨vm, rows, ip, status, before, after ++ more, hvm, by simp, hcount, hrows, hip, hne,
    hshown.append⟩

end Monotone

/-! ## From allowed commands to the property -/

section Safe

variable {fleet} {trace : List FleetEvent}

/-- Every command of a trace was allowed. -/
def AllAllowed (fleet : Fleet) (trace : List FleetEvent) : Prop :=
  ∀ before event after, trace = before ++ event :: after → fleet.Allowed before event

theorem AllAllowed.init {event : FleetEvent} (h : fleet.AllAllowed (trace ++ [event])) :
    fleet.AllAllowed trace := fun before e after htrace =>
  h before e (after ++ [event]) (by rw [htrace]; simp)

theorem AllAllowed.last {event : FleetEvent} (h : fleet.AllAllowed (trace ++ [event])) :
    fleet.Allowed trace event := h trace event [] rfl

/-- Resetting a VM changes it. -/
theorem changedVm?_of_resetVm? {event : FleetEvent} {vm : VmId} (h : resetVm? event = some vm) :
    changedVm? event = some vm := by
  unfold resetVm? at h
  split at h
  · exact h
  · cases h

/-- What one more command does to the resets. -/
theorem resets_concat (event : FleetEvent) :
    resets (trace ++ [event]) = resets trace ++ (resetVm? event).toList := by
  rw [resets_append]
  cases h : resetVm? event <;> simp [resets, h]

/-- VMs are reset in order: each reset is the next selected VM's. -/
theorem AllAllowed.inOrder (h : fleet.AllAllowed trace) :
    resets trace <+: fleet.selectedSeeders.map Seeder.vmId := by
  induction trace using List.reverseRecOn with
  | nil => exact List.nil_prefix
  | append_singleton trace event ih =>
      rw [resets_concat]
      cases hreset : resetVm? event with
      | none => simpa using ih h.init
      | some vm =>
          obtain ⟨rest, hrest⟩ := ih h.init
          have hturn := (h.last.change vm (changedVm?_of_resetVm? hreset)).turn
          rw [← hrest, List.getElem?_append_right (Nat.le_refl _), Nat.sub_self] at hturn
          cases rest with
          | nil => cases hturn
          | cons next rest =>
              obtain rfl : next = vm := by simpa using hturn
              exact ⟨rest, by simp [← hrest]⟩

/-- Every reset VM but the last has passed its gate. -/
theorem AllAllowed.gatePassed (h : fleet.AllAllowed trace) {k : ℕ}
    (hk : k + 1 < (resets trace).length) : fleet.GatePassed trace k := by
  induction trace using List.reverseRecOn with
  | nil => simp at hk
  | append_singleton trace event ih =>
      rw [resets_concat] at hk
      cases hreset : resetVm? event with
      | none =>
          rw [hreset, Option.toList_none, List.append_nil] at hk
          exact (ih h.init hk).append
      | some vm =>
          -- a reset is allowed only after all earlier gates
          have hgates := (h.last.change vm (changedVm?_of_resetVm? hreset)).gates
          rw [hreset, Option.toList_some, List.length_append, List.length_singleton] at hk
          exact (hgates k (by omega)).append

/-- **Allowed commands make a safe roll.** -/
theorem AllAllowed.rollSafe (h : fleet.AllAllowed trace) : fleet.RollSafe trace where
  preflight before event after vm htrace hvm := ((h before event after htrace).change vm hvm).preflight
  inOrder := h.inOrder
  gated before event after vm htrace hvm := by
    have hallowed := h before event after htrace
    rcases hvm with hvm | ⟨labels, hvm⟩
    · have hchange := hallowed.change vm hvm
      exact ⟨_, hchange.turn, .inl rfl, hchange.gates⟩
    · obtain ⟨k, hcount, hturn, hgates⟩ := (hallowed.label vm labels hvm).gates
      exact ⟨k, hturn, .inr hcount, fun j hj => hgates j (Nat.le_of_lt hj)⟩
  oneExposed i j hi hj := by
    -- an exposed VM is the last one that was reset
    have hlast : ∀ {k}, fleet.Exposed trace k → (resets trace).length = k + 1 := by
      rintro k ⟨hk, hnot⟩
      by_contra hne
      exact hnot (h.gatePassed (by omega))
    have hcounts := (hlast hi).symm.trans (hlast hj)
    omega
  labelled before event after vm labels htrace hvm := by
    have hlabel := (h before event after htrace).label vm labels hvm
    obtain ⟨k, hcount, hturn, hgates⟩ := hlabel.gates
    exact ⟨hlabel.pinned, k, hturn, hcount, hgates k (Nat.le_refl k)⟩

end Safe

/-! ## The script calls only allowed commands -/

section Roll

open Script

variable {fleet} {trace : List FleetEvent}

/-- A command that neither changes nor labels a VM is always allowed. -/
theorem allowed_of_quiet {event : FleetEvent} (hchange : changedVm? event = none)
    (hlabel : labelledVm? event = none) : fleet.Allowed trace event where
  change vm h := by rw [hchange] at h; cases h
  label vm labels h := by rw [hlabel] at h; cases h

/-- A roll may read. -/
theorem allowsReads_allowed : AllowsReads fleet.Allowed := by
  intro trace event hread
  refine allowed_of_quiet ?_ ?_
  · unfold changedVm?
    split <;> first | rfl | cases hread
  · unfold labelledVm?
    split
    · cases hread
    · rfl

/-- Reading resets nothing. -/
theorem ReadsOnly.resets_eq_nil (h : ReadsOnly trace) : resets trace = [] := by
  refine List.filterMap_eq_nil_iff.mpr fun event hevent => ?_
  have hread := h event hevent
  unfold resetVm?
  split
  · cases hread
  · rfl

/-- Probing resets nothing. -/
@[simp] theorem resets_tryTrace {ip : String} {mainUdp mainTcp testUdp testTcp : List String} :
    resets (fleet.tryTrace ip mainUdp mainTcp testUdp testTcp) = [] := rfl

/-- The last try of the gate before it waits, if there was one. -/
def LastTry (fleet : Fleet) (ip : String) (counts : GateCounts) (trace : List FleetEvent) : Prop :=
  counts = ⟨some 0, some 0, some 0, some 0⟩ ∨
    ∃ mainUdp mainTcp testUdp testTcp,
      fleet.tryTrace ip mainUdp mainTcp testUdp testTcp <:+: trace ∧
        counts = ⟨some (countA mainUdp), some (countA mainTcp), some (countA testUdp),
          some (countA testTcp)⟩

/-- A last try whose mainnet counts are not below one showed mainnet records. -/
theorem LastTry.showedMainnet {ip : String} {counts : GateCounts}
    (h : fleet.LastTry ip counts trace)
    (hmain : (lessThanOne counts.mainUdp || lessThanOne counts.mainTcp) = false) :
    fleet.ShowedMainnet ip trace := by
  rcases h with rfl | ⟨mainUdp, mainTcp, testUdp, testTcp, hinfix, rfl⟩
  · cases hmain
  · simp only [lessThanOne, Option.any_some, Bool.or_eq_false_iff, decide_eq_false_iff_not,
      Nat.not_lt] at hmain
    exact ⟨mainUdp, mainTcp, testUdp, testTcp, hinfix, hmain⟩

/-- One try: four probes, then success or a wait. -/
theorem wp_gateTry (hwet : fleet.dryRun = false) {ip : String} (hip : ip ≠ "")
    {Q : Unit ⊕ GateCounts → List FleetEvent → Prop}
    (hpass : ∀ mainUdp mainTcp testUdp testTcp, 1 ≤ countA mainUdp → 1 ≤ countA mainTcp →
      Q (.inl ()) (trace ++ fleet.tryTrace ip mainUdp mainTcp testUdp testTcp))
    (hwait : ∀ mainUdp mainTcp testUdp testTcp (status : ℕ),
      Q (.inr ⟨some (countA mainUdp), some (countA mainTcp), some (countA testUdp),
          some (countA testTcp)⟩)
        (trace ++ fleet.tryTrace ip mainUdp mainTcp testUdp testTcp
          ++ [⟨.act (.sleep fleet.gateSleep), status⟩])) :
    wp fleet.Allowed (fleet.gateTry ip) Q trace := by
  rw [gateTry, wp_bind]
  refine wp_assign (wp_digCount hwet hip (fun _ => allowed_of_quiet rfl rfl) fun mainUdp => ?_)
  rw [wp_bind]
  refine wp_assign (wp_digCount hwet hip (fun _ => allowed_of_quiet rfl rfl) fun mainTcp => ?_)
  rw [wp_bind]
  refine wp_assign (wp_digCount hwet hip (fun _ => allowed_of_quiet rfl rfl) fun testUdp => ?_)
  rw [wp_bind]
  refine wp_assign (wp_digCount hwet hip (fun _ => allowed_of_quiet rfl rfl) fun testTcp => ?_)
  have htrace : trace ++ [⟨.dig ip fleet.mainnetDomain false, mainUdp⟩]
      ++ [⟨.dig ip fleet.mainnetDomain true, mainTcp⟩]
      ++ [⟨.dig ip fleet.testnetDomain false, testUdp⟩]
      ++ [⟨.dig ip fleet.testnetDomain true, testTcp⟩]
      = trace ++ fleet.tryTrace ip mainUdp mainTcp testUdp testTcp := by simp [tryTrace]
  rw [htrace]
  split
  · next hcounts =>
      simp only [atLeastOne, Option.any_some, Bool.and_eq_true, decide_eq_true_eq] at hcounts
      exact hpass mainUdp mainTcp testUdp testTcp hcounts.1.1.1 hcounts.1.1.2
  · rw [wp_bind]
    refine wp_act (fun _ => allowed_of_quiet rfl rfl) fun status => ?_
    rw [wp_bind]
    exact wp_errexit fun _ => hwait mainUdp mainTcp testUdp testTcp status

/-- **The gate**: it ends only after a try that showed mainnet records, and resets nothing. The
invariant between tries is what the last one counted. -/
theorem wp_gate (hwet : fleet.dryRun = false) {ip : String} {Q : Unit → List FleetEvent → Prop}
    (h : ∀ probes, ip ≠ "" → resets probes = [] → fleet.ShowedMainnet ip probes →
      Q () (trace ++ probes)) :
    wp fleet.Allowed (fleet.gate ip) Q trace := by
  rw [gate, hwet, if_neg Bool.false_ne_true, wp_bind]
  refine wp_require fun hip => ?_
  have hne : ip ≠ "" := by simpa using hip
  rw [wp_bind]
  refine wp_retry (fun counts t => ∃ probes, t = trace ++ probes ∧ resets probes = [] ∧
    fleet.LastTry ip counts probes) ?_ ?_ ⟨[], by simp, rfl, .inl rfl⟩
  · rintro counts _ ⟨probes, rfl, hresets, -⟩
    refine wp_gateTry hwet hne ?_ ?_
    · intro mainUdp mainTcp testUdp testTcp hudp htcp
      dsimp only [wp_pure]
      rw [List.append_assoc]
      refine h _ hne (by simp [hresets]) ⟨mainUdp, mainTcp, testUdp, testTcp, ?_, hudp, htcp⟩
      exact ⟨probes, [], by simp⟩
    · intro mainUdp mainTcp testUdp testTcp status
      refine ⟨probes ++ (fleet.tryTrace ip mainUdp mainTcp testUdp testTcp
        ++ [⟨.act (.sleep fleet.gateSleep), status⟩]), by simp, ?_, .inr ⟨mainUdp, mainTcp,
        testUdp, testTcp, ?_, rfl⟩⟩
      · rw [resets_append, resets_append, hresets, resets_tryTrace]
        rfl
      · exact ⟨probes, [⟨.act (.sleep fleet.gateSleep), status⟩], by simp⟩
  · rintro counts _ ⟨probes, rfl, hresets, hlast⟩
    dsimp only
    split
    · exact trivial
    · next hmain =>
        exact h probes hne hresets (hlast.showedMainnet (by simpa using hmain))

/-- **Between two VMs of a roll**: everything is checked, `k` VMs were reset and passed their gates. -/
structure Rolled (fleet : Fleet) (k : ℕ) (trace : List FleetEvent) : Prop where
  /-- Everything is checked. -/
  preflight : fleet.Preflight trace
  /-- The resets so far. -/
  count : (resets trace).length = k
  /-- Their gates. -/
  gates : ∀ j < k, fleet.GatePassed trace j

/-- More commands that reset nothing keep that. -/
theorem Rolled.append {k : ℕ} {more : List FleetEvent} (h : fleet.Rolled k trace)
    (hmore : resets more = []) : fleet.Rolled k (trace ++ more) where
  preflight := h.preflight.append
  count := by rw [resets_append, hmore, List.append_nil, h.count]
  gates j hj := (h.gates j hj).append

/-- The next VM may be changed. -/
theorem Rolled.mayChange {k : ℕ} {vm : Seeder} (h : fleet.Rolled k trace)
    (hvm : fleet.selectedSeeders[k]? = some vm) : fleet.MayChange trace vm.vmId where
  preflight := h.preflight
  turn := by rw [h.count, List.getElem?_map, hvm]; rfl
  gates j hj := h.gates j (h.count ▸ hj)

/-- **The next VM passed its gate**: reset, then showed mainnet records, with no other reset. -/
theorem Rolled.next {k : ℕ} {vm : Seeder} {rows : List AddressRow} {ip : String} {status : ℕ}
    {after : List FleetEvent} (h : fleet.Rolled k trace)
    (hvm : fleet.selectedSeeders[k]? = some vm) (hrows : ⟨.listAddresses, rows⟩ ∈ trace)
    (hip : reservedAddress vm.name vm.region rows = .ok ip) (hne : ip ≠ "")
    (hresets : resets after = []) (hshown : fleet.ShowedMainnet ip after) :
    fleet.Rolled (k + 1) (trace ++ ⟨.act (.reset vm.name vm.zone), (status : ℕ)⟩ :: after) where
  preflight := h.preflight.append
  count := by
    rw [← List.singleton_append, resets_append, resets_append, hresets, List.length_append, h.count]
    rfl
  gates j hj := by
    rcases Nat.lt_succ_iff_lt_or_eq.mp hj with hj | rfl
    · exact (h.gates j hj).append
    · exact ⟨vm, rows, ip, status, trace, after, hvm, rfl, h.count, hrows, hip, hne, hshown⟩

/-- A change of a VM that may be changed is allowed. -/
theorem allowed_of_mayChange {event : FleetEvent} {vm : VmId} (h : fleet.MayChange trace vm)
    (hchange : changedVm? event = some vm) (hlabel : labelledVm? event = none) :
    fleet.Allowed trace event where
  change other hother := by
    obtain rfl : vm = other := Option.some.inj (hchange.symm.trans hother)
    exact h
  label other labels hother := by rw [hlabel] at hother; cases hother

/-- Labelling a VM that has passed its gate with the pinned digest is allowed. -/
theorem Rolled.allowed_label {k : ℕ} {vm : Seeder} {digest : String} {status : ℕ}
    (h : fleet.Rolled (k + 1) trace) (hvm : fleet.selectedSeeders[k]? = some vm)
    (hdigest : digestShort? fleet.imageRef = some digest) :
    fleet.Allowed trace
      ⟨.act (.addLabels vm.name vm.zone s!"zeeder-digest={digest}"), status⟩ where
  change other hother := by cases hother
  label other labels hother := by
    cases hother
    exact
      { pinned := ⟨digest, hdigest, rfl⟩
        gates := ⟨k, h.count, by rw [List.getElem?_map, hvm]; rfl,
          fun j hj => h.gates j (Nat.lt_succ_of_le hj)⟩ }

/-- Resetting a VM, waiting at its gate and labelling it. -/
theorem wp_restartVm (hwet : fleet.dryRun = false) {k : ℕ} {vm : Seeder} {rows : List AddressRow}
    {ip rendered digest : String} (hvm : fleet.selectedSeeders[k]? = some vm)
    (h : fleet.Rolled k trace) (hrows : ⟨.listAddresses, rows⟩ ∈ trace)
    (hip : reservedAddress vm.name vm.region rows = .ok ip)
    (hdigest : digestShort? fleet.imageRef = some digest) :
    wp fleet.Allowed (do
      errexit (← fleet.runCmd (.reset vm.name vm.zone))
      errexit (← act (.rm rendered))
      fleet.gate ip
      errexit (← fleet.runCmd (.addLabels vm.name vm.zone s!"zeeder-digest={digest}")))
      (fun _ => fleet.Rolled (k + 1)) trace := by
  rw [wp_bind]
  refine wp_runCmd hwet (fun _ => allowed_of_mayChange (h.mayChange hvm) rfl rfl) fun status => ?_
  rw [wp_bind]
  refine wp_errexit fun _ => ?_
  rw [wp_bind]
  refine wp_act (fun _ => allowed_of_quiet rfl rfl) fun cleaned => ?_
  rw [wp_bind]
  refine wp_errexit fun _ => ?_
  rw [wp_bind]
  refine wp_gate hwet fun probes hne hresets hshown => ?_
  -- the gate has passed: all that is left is the label
  have hnext : fleet.Rolled (k + 1) (trace ++ [⟨.act (.reset vm.name vm.zone), status⟩]
      ++ [⟨.act (.rm rendered), cleaned⟩] ++ probes) := by
    rw [List.append_assoc, List.append_assoc]
    exact h.next hvm hrows hip hne hresets hshown.cons
  rw [wp_bind]
  refine wp_runCmd hwet (fun _ => hnext.allowed_label hvm hdigest) fun labelled => ?_
  exact wp_errexit fun _ => hnext.append rfl

/-- The part of rolling a VM that changes it; whether the legacy metadata goes does not matter. -/
theorem wp_changeVm (hwet : fleet.dryRun = false) {k : ℕ} {vm : Seeder} {rows : List AddressRow}
    {ip rendered digest : String} (hvm : fleet.selectedSeeders[k]? = some vm)
    (h : fleet.Rolled k trace) (hrows : ⟨.listAddresses, rows⟩ ∈ trace)
    (hip : reservedAddress vm.name vm.region rows = .ok ip)
    (hdigest : digestShort? fleet.imageRef = some digest) :
    wp fleet.Allowed (do
      errexit (← fleet.runCmd (.addMetadata vm.name vm.zone rendered))
      let _ ← fleet.runCmd (.removeMetadata vm.name vm.zone "gce-container-declaration")
      errexit (← fleet.runCmd (.reset vm.name vm.zone))
      errexit (← act (.rm rendered))
      fleet.gate ip
      errexit (← fleet.runCmd (.addLabels vm.name vm.zone s!"zeeder-digest={digest}")))
      (fun _ => fleet.Rolled (k + 1)) trace := by
  rw [wp_bind]
  refine wp_runCmd hwet (fun _ => allowed_of_mayChange (h.mayChange hvm) rfl rfl) fun added => ?_
  rw [wp_bind]
  refine wp_errexit fun _ => ?_
  have hadded : fleet.Rolled k
      (trace ++ [⟨.act (.addMetadata vm.name vm.zone rendered), added⟩]) := h.append rfl
  rw [wp_bind]
  refine wp_runCmd hwet (fun _ => allowed_of_mayChange (hadded.mayChange hvm) rfl rfl)
    fun removed => ?_
  exact wp_restartVm hwet hvm (hadded.append rfl)
    (List.mem_append_left _ (List.mem_append_left _ hrows)) hip hdigest

/-- **Rolling one VM**, the next one in order. -/
theorem wp_rollVm (hwet : fleet.dryRun = false) {k : ℕ} {vm : Seeder}
    (hvm : fleet.selectedSeeders[k]? = some vm) (h : fleet.Rolled k trace) :
    wp fleet.Allowed (fleet.rollVm vm) (fun _ => fleet.Rolled (k + 1)) trace := by
  refine wp_prepareVm allowsReads_allowed hwet fun reads rendered rows ip digest hreads hrows hip
    hdigest => ?_
  exact wp_changeVm hwet hvm (h.append hreads.resets_eq_nil) (List.mem_append_right _ hrows) hip
    hdigest

/-- **A roll calls only allowed commands.** -/
theorem wp_roll (hwet : fleet.dryRun = false) :
    wp fleet.Allowed fleet.roll (fun _ => fleet.Rolled fleet.selectedSeeders.length) [] := by
  refine wp_requireTools allowsReads_allowed fun gcloud dig => ?_
  rw [wp_bind]
  refine wp_auditAll allowsReads_allowed hwet fun reads hreads haudited hfirewall => ?_
  rw [wp_bind]
  refine wp_verifyImage allowsReads_allowed hwet fun found => ?_
  -- from here on the invariant is how many VMs are done
  have hstart : fleet.Rolled 0
      ([] ++ toolTrace gcloud dig ++ reads ++ fleet.signatureTrace found) :=
    { preflight :=
        { audited := fun vm hvm => (haudited vm hvm).mono ⟨_, _, rfl⟩
          firewall := by
            obtain ⟨rules, hrules, hadmits⟩ := hfirewall
            exact ⟨rules, List.mem_append_left _ (List.mem_append_right _ hrules), hadmits⟩
          verified := List.mem_append_right _ (.tail _ (.head _)) }
      count := by
        rw [resets_append, resets_append, hreads.resets_eq_nil]
        rfl
      gates := fun j hj => absurd hj (Nat.not_lt_zero j) }
  refine wp_eachSelected (fun rolled => fleet.Rolled rolled.length) hstart ?_ fun _ h => h
  intro before vm after trace hselected hrolled
  rw [List.length_append, List.length_singleton]
  exact wp_rollVm hwet (by rw [hselected, List.getElem?_append_right (Nat.le_refl _)]; simp) hrolled

/-- **A fleet roll exposes at most one nameserver.** For every inventory and `--only` filter and
whatever the commands answer, at every moment of a roll that is no dry run: nothing is changed before
every selected VM passed the audit, the firewall check passed and the signature was verified; VMs are
reset in inventory order; a VM is touched only after every earlier selected one showed, within one
try, mainnet records over UDP and over TCP; at most one VM that was reset has not passed its gate;
and a VM is labelled, with the pinned digest, only after its own gate passed. -/
theorem fleetRoll_safe (fleet : Fleet) (hwet : fleet.dryRun = false) {trace : List FleetEvent}
    {rest : Shell Unit} (hreaches : Reaches fleet.roll trace rest) : fleet.RollSafe trace :=
  AllAllowed.rollSafe fun _ _ _ htrace => allowed_of_reaches (wp_roll hwet) hreaches htrace

/-- **A finished roll** has reset exactly the selected VMs, each one once. -/
theorem resets_of_done (fleet : Fleet) (hwet : fleet.dryRun = false) {trace : List FleetEvent}
    (hreaches : Reaches fleet.roll trace (.done ())) :
    resets trace = fleet.selectedSeeders.map Seeder.vmId := by
  have hrolled : fleet.Rolled fleet.selectedSeeders.length trace :=
    wp_of_reaches (wp_roll hwet) hreaches
  have hsafe : fleet.RollSafe trace :=
    AllAllowed.rollSafe fun _ _ _ htrace => allowed_of_reaches (wp_roll hwet) hreaches htrace
  refine hsafe.inOrder.eq_of_length ?_
  rw [hrolled.count, List.length_map]

end Roll

/-! ## A roll over two VMs -/

/-- The roll in that environment. -/
def exampleRoll : List FleetEvent := (Script.follow exampleAnswer 60 [] exampleFleet.roll).1

/-- Both VMs are reset in order, and at the end none is exposed. -/
theorem fleetRoll_safe_exampleRoll :
    resets exampleRoll = [("seeder-2", "us-east1-b"), ("seeder-1", "us-central1-a")] ∧
      exampleFleet.RollSafe exampleRoll :=
  ⟨by decide +kernel,
    fleetRoll_safe exampleFleet rfl (Script.Reaches.start.follow exampleAnswer 60)⟩

end Fleet

end Zeeder.Deploy
