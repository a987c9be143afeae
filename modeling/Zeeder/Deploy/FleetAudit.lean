import Mathlib.Data.List.Induction
import Mathlib.Data.Option.Basic
import Zeeder.Deploy.Seeders

/-! # What an audit of the fleet establishes

An audit reads: what it has established is read off the trace of its commands. The full audit also
looks for the legacy container metadata, and here what a failed read prints, nothing, is what the
check asks for. So its success is worth what the project really holds (`FleetState`) except where that
one read failed.

* **`exists_of_reservedAddress`** — where the reserved address of a VM comes from.
* **`wp_auditAll`** — both audits: they end only if every selected VM passes, and they only read.
* **`fullAudit_sound_iff`** — when a full audit that succeeds is right. -/

namespace Zeeder.Deploy

open Foundation

/-! ## Reserved addresses -/

/-- The addresses found among some rows: one that the VM uses, and one of its name. -/
structure AddressFound (name region : String) (rows : List AddressRow) (found : String × String) :
    Prop where
  /-- The address that the VM uses. -/
  byUser : found.1 = "" ∨ ∃ row ∈ rows, row.region = region ∧ row.ip = found.1 ∧
    inCommaList row.users name = true
  /-- Without one, the VM uses none of the rows. -/
  unused : found.1 = "" → ∀ row ∈ rows, row.region = region →
    inCommaList row.users name = true → row.ip = ""
  /-- The address of the VM's name. -/
  byName : found.2 = "" ∨ ∃ row ∈ rows, row.region = region ∧ row.ip = found.2 ∧ row.name = name

/-- The loop body of `reservedAddress`. -/
def addressStep (name region : String) (found : String × String) (row : AddressRow) :
    Except String (String × String) :=
  if row.region ≠ region then .ok found
  else
    let byName := if row.name = name then row.ip else found.2
    if inCommaList row.users name then
      if found.1 = "" then .ok (row.ip, byName)
      else .error s!"{name} has more than one reserved address in {region}"
    else .ok (found.1, byName)

section Reserved

variable {name region : String} {rows more : List AddressRow} {row : AddressRow}
  {found next : String × String}

theorem reservedAddress_eq :
    reservedAddress name region rows = (rows.foldlM (addressStep name region) ("", "")).map
      fun found => if found.1 = "" then found.2 else found.1 := rfl

/-- Rows that the VM does not use change nothing. -/
theorem AddressFound.append (h : AddressFound name region rows found)
    (hmore : ∀ row ∈ more, row.region = region → inCommaList row.users name = true → row.ip = "") :
    AddressFound name region (rows ++ more) found where
  byUser := h.byUser.imp_right fun ⟨row, hrow, hused⟩ => ⟨row, List.mem_append_left _ hrow, hused⟩
  unused hnone row hrow hregion hused := by
    rcases List.mem_append.mp hrow with hrow | hrow
    · exact h.unused hnone row hrow hregion hused
    · exact hmore row hrow hregion hused
  byName := h.byName.imp_right fun ⟨row, hrow, hnamed⟩ => ⟨row, List.mem_append_left _ hrow, hnamed⟩

/-- What one row can do: another region's nothing, else it is looked at for the name and the user. -/
theorem addressStep_cases (h : addressStep name region found row = .ok next) :
    (row.region ≠ region ∧ next = found) ∨
    (row.region = region ∧ next.2 = (if row.name = name then row.ip else found.2) ∧
      (inCommaList row.users name = true ∧ next.1 = row.ip ∧ found.1 = "" ∨
        inCommaList row.users name ≠ true ∧ next.1 = found.1)) := by
  unfold addressStep at h
  by_cases hregion : row.region = region
  · rw [if_neg (not_not_intro hregion)] at h
    dsimp only at h
    refine .inr ⟨hregion, ?_⟩
    by_cases hused : inCommaList row.users name = true
    · rw [if_pos hused] at h
      by_cases hnone : found.1 = ""
      · rw [if_pos hnone] at h
        cases h
        exact ⟨rfl, .inl ⟨hused, rfl, hnone⟩⟩
      · rw [if_neg hnone] at h
        cases h
    · rw [if_neg hused] at h
      cases h
      exact ⟨rfl, .inr ⟨hused, rfl⟩⟩
  · rw [if_pos hregion] at h
    cases h
    exact .inl ⟨hregion, rfl⟩

/-- A row of the region is looked at for the name whether or not the VM uses it. -/
theorem AddressFound.named (h : AddressFound name region rows found) (hregion : row.region = region)
    (hnext : next.2 = if row.name = name then row.ip else found.2) :
    next.2 = "" ∨ ∃ other ∈ rows ++ [row], other.region = region ∧ other.ip = next.2 ∧
      other.name = name := by
  by_cases hname : row.name = name
  · rw [if_pos hname] at hnext
    exact .inr ⟨row, List.mem_append_right _ (List.mem_singleton_self row), hregion, hnext.symm, hname⟩
  · rw [if_neg hname] at hnext
    rw [hnext]
    exact h.byName.imp_right fun ⟨other, hother, hfound⟩ =>
      ⟨other, List.mem_append_left _ hother, hfound⟩

/-- One row. -/
theorem AddressFound.step (h : AddressFound name region rows found)
    (hstep : addressStep name region found row = .ok next) :
    AddressFound name region (rows ++ [row]) next := by
  rcases addressStep_cases hstep with
    ⟨hregion, rfl⟩ | ⟨hregion, hnext, ⟨hused, hip, hnone⟩ | ⟨hunused, hip⟩⟩
  · exact h.append fun other hother hother' =>
      absurd hother' (List.mem_singleton.mp hother ▸ hregion)
  · refine ⟨.inr ⟨row, List.mem_append_right _ (List.mem_singleton_self row), hregion, hip.symm,
      hused⟩, fun hempty other hother => ?_, h.named hregion hnext⟩
    rcases List.mem_append.mp hother with hother | hother
    · exact h.unused hnone other hother
    · obtain rfl := List.mem_singleton.mp hother
      exact fun _ _ => hip.symm.trans hempty
  · have hkeep : AddressFound name region (rows ++ [row]) found :=
      h.append fun other hother _ hused => absurd hused (List.mem_singleton.mp hother ▸ hunused)
    exact ⟨hip ▸ hkeep.byUser, fun hempty => hkeep.unused (hip ▸ hempty), h.named hregion hnext⟩

/-- All rows. -/
theorem addressFound_of_foldlM (h : rows.foldlM (addressStep name region) ("", "") = .ok found) :
    AddressFound name region rows found := by
  induction rows using List.reverseRecOn generalizing found with
  | nil =>
      cases h
      exact ⟨.inl rfl, fun _ _ hrow => absurd hrow List.not_mem_nil, .inl rfl⟩
  | append_singleton rows row ih =>
      rw [List.foldlM_append] at h
      cases hrows : rows.foldlM (addressStep name region) ("", "") with
      | error message => rw [hrows] at h; cases h
      | ok found =>
          rw [hrows] at h
          refine (ih hrows).step ?_
          cases hrow : addressStep name region found row with
          | error message => simp [hrow, bind, Except.bind] at h
          | ok next => simpa [hrow, bind, Except.bind, pure, Except.pure] using h

/-- **The reserved address**: the one that the VM uses or, if it uses none, the one of its name. -/
theorem exists_of_reservedAddress {ip : String} (h : reservedAddress name region rows = .ok ip)
    (hip : ip ≠ "") :
    ∃ row ∈ rows, row.region = region ∧ row.ip = ip ∧
      (inCommaList row.users name = true ∨ row.name = name ∧ ∀ other ∈ rows,
        other.region = region → inCommaList other.users name = true → other.ip = "") := by
  rw [reservedAddress_eq] at h
  cases hfold : rows.foldlM (addressStep name region) ("", "") with
  | error message => rw [hfold] at h; cases h
  | ok found =>
      rw [hfold] at h
      have hresult : (if found.1 = "" then found.2 else found.1) = ip := Except.ok.inj h
      have hfound := addressFound_of_foldlM hfold
      by_cases hnone : found.1 = ""
      · rw [if_pos hnone] at hresult
        obtain ⟨row, hrow, hregion, hrowIp, hname⟩ := hfound.byName.resolve_left (hresult ▸ hip)
        exact ⟨row, hrow, hregion, hrowIp.trans hresult, .inr ⟨hname, hfound.unused hnone⟩⟩
      · rw [if_neg hnone] at hresult
        obtain ⟨row, hrow, hregion, hrowIp, hused⟩ := hfound.byUser.resolve_left hnone
        exact ⟨row, hrow, hregion, hrowIp.trans hresult, .inl hused⟩

end Reserved

namespace Fleet

variable (fleet : Fleet)

/-! ## What a trace shows -/

/-- The fields that the infrastructure audit requires. -/
structure InfraAuditPasses (fields : InstanceFields) (reserved : String) : Prop where
  /-- It runs. -/
  running : fields.status = "RUNNING"
  /-- It has a reserved address. -/
  hasAddress : reserved ≠ ""
  /-- It uses that address. -/
  usesAddress : fields.natIp = reserved
  /-- It runs as the fleet's account. -/
  account : fields.serviceAccount = fleet.serviceAccount
  /-- It cannot be deleted. -/
  deletionProtected : fields.deletionProtection = "True" ∨ fields.deletionProtection = "true"

/-- A VM passed the infrastructure audit. -/
def InfraAudited (trace : List FleetEvent) (vm : Seeder) : Prop :=
  ∃ fields rows reserved,
    [⟨.describeInstance vm.name vm.zone, fields⟩, ⟨.listAddresses, rows⟩] <:+: trace ∧
      reservedAddress vm.name vm.region rows = .ok reserved ∧
      fleet.InfraAuditPasses fields reserved

/-- A VM passed the full audit: the label names the pinned digest too, and no legacy metadata was
printed. -/
def FullAudited (trace : List FleetEvent) (vm : Seeder) : Prop :=
  ∃ fields rows reserved,
    [⟨.describeInstance vm.name vm.zone, fields⟩, ⟨.listAddresses, rows⟩,
        ⟨.describeMetadata vm.name vm.zone "gce-container-declaration", ("" : String)⟩] <:+: trace ∧
      reservedAddress vm.name vm.region rows = .ok reserved ∧
      fleet.InfraAuditPasses fields reserved ∧ digestShort? fleet.imageRef = some fields.label

/-- A VM passed an audit. -/
def Audited : AuditScope → List FleetEvent → Seeder → Prop
  | .infra => fleet.InfraAudited
  | .full => fleet.FullAudited

/-- The firewall check passed. -/
def FirewallChecked (trace : List FleetEvent) : Prop :=
  ∃ rules, ⟨.listFirewallRules, rules⟩ ∈ trace ∧
    ∃ rule ∈ rules, FirewallRule.admitsDns fleet.networkTag rule = true

/-- `cosign verify` accepted the pinned image. -/
def ImageVerified (trace : List FleetEvent) : Prop :=
  ⟨.act (.cosignVerify fleet.imageRef), (0 : ℕ)⟩ ∈ trace

/-- The search for the tools. -/
def toolTrace (gcloud dig : ℕ) : List FleetEvent :=
  [⟨.act (.commandV "gcloud"), gcloud⟩, ⟨.act (.commandV "dig"), dig⟩]

/-- A signature check that succeeds. -/
def signatureTrace (found : ℕ) : List FleetEvent :=
  [⟨.act (.commandV "cosign"), found⟩, ⟨.act (.cosignVerify fleet.imageRef), (0 : ℕ)⟩]

/-- No command of a trace creates, resets or relabels a VM or changes its metadata. -/
def ReadsOnly (trace : List FleetEvent) : Prop := ∀ event ∈ trace, event.1.mutatesVm = false

section Trace

variable {fleet} {trace more : List FleetEvent} {vm : Seeder}

theorem ReadsOnly.append (h : ReadsOnly trace) (hmore : ReadsOnly more) :
    ReadsOnly (trace ++ more) := by
  intro event hevent
  rcases List.mem_append.mp hevent with hevent | hevent
  · exact h event hevent
  · exact hmore event hevent

theorem InfraAudited.mono (h : fleet.InfraAudited more vm) (hmore : more <:+: trace) :
    fleet.InfraAudited trace vm := by
  obtain ⟨fields, rows, reserved, hinfix, h⟩ := h
  exact ⟨fields, rows, reserved, hinfix.trans hmore, h⟩

theorem FullAudited.mono (h : fleet.FullAudited more vm) (hmore : more <:+: trace) :
    fleet.FullAudited trace vm := by
  obtain ⟨fields, rows, reserved, hinfix, h⟩ := h
  exact ⟨fields, rows, reserved, hinfix.trans hmore, h⟩

theorem Audited.mono {scope : AuditScope} (h : fleet.Audited scope more vm)
    (hmore : more <:+: trace) : fleet.Audited scope trace vm := by
  cases scope with
  | infra => exact InfraAudited.mono h hmore
  | full => exact FullAudited.mono h hmore

end Trace

/-! ## The audits only read -/

section Wp

open Script

variable {allowed : List FleetEvent → FleetEvent → Prop} {fleet} {trace : List FleetEvent}

/-- Whatever changes no VM is allowed. -/
def AllowsReads (allowed : List FleetEvent → FleetEvent → Prop) : Prop :=
  ∀ trace event, event.1.mutatesVm = false → allowed trace event

/-- The checks that both audits make, whatever they say when they fail. -/
theorem wp_infraChecks {fields : InstanceFields} {reserved : String} {rest : Shell Unit}
    {Q : Unit → List FleetEvent → Prop} {running hasAddress usesAddress account deletion : String}
    (h : fleet.InfraAuditPasses fields reserved → wp allowed rest Q trace) :
    wp allowed (do
      require (fields.status == "RUNNING") running
      require (reserved != "") hasAddress
      require (fields.natIp == reserved) usesAddress
      require (fields.serviceAccount == fleet.serviceAccount) account
      require (fields.deletionProtection == "True" || fields.deletionProtection == "true") deletion
      rest) Q trace := by
  rw [wp_bind]
  refine wp_require fun hrunning => ?_
  rw [wp_bind]
  refine wp_require fun hreserved => ?_
  rw [wp_bind]
  refine wp_require fun hnat => ?_
  rw [wp_bind]
  refine wp_require fun haccount => ?_
  rw [wp_bind]
  refine wp_require fun hdeletion => h ?_
  exact
    { running := by simpa using hrunning
      hasAddress := by simpa using hreserved
      usesAddress := by simpa using hnat
      account := by simpa using haccount
      deletionProtected := by simpa using hdeletion }

section Reads

variable (hreads : AllowsReads allowed)
include hreads

/-- The tools that every mode needs. -/
theorem wp_requireTools {rest : Shell Unit} {Q : Unit → List FleetEvent → Prop}
    (h : ∀ gcloud dig, wp allowed rest Q (trace ++ toolTrace gcloud dig)) :
    wp allowed (do
      requireCmd "gcloud"
      requireCmd "dig"
      rest) Q trace := by
  rw [wp_bind]
  refine wp_requireCmd (fun _ => hreads _ _ rfl) fun gcloud => ?_
  rw [wp_bind]
  refine wp_requireCmd (fun _ => hreads _ _ rfl) fun dig => ?_
  rw [List.append_assoc]
  exact h gcloud dig

variable (hwet : fleet.dryRun = false)
include hwet

/-- **Auditing one VM**: it ends only if the VM passes, and it only reads. -/
theorem wp_auditVm {scope : AuditScope} {vm : Seeder} {Q : Unit → List FleetEvent → Prop}
    (h : ∀ reads, ReadsOnly reads → fleet.Audited scope reads vm → Q () (trace ++ reads)) :
    wp allowed (fleet.auditVm scope vm) Q trace := by
  rw [auditVm, wp_bind]
  refine wp_getCmd hwet (fun _ => hreads _ _ rfl) fun fields => ?_
  rw [wp_bind]
  refine wp_assign (wp_addr hwet (fun _ => hreads _ _ rfl) fun rows reserved hreserved => ?_)
  cases scope with
  | infra =>
      rw [List.append_assoc, hwet, wp_bind, wp_pure]
      dsimp only
      rw [if_neg Bool.false_ne_true]
      refine wp_infraChecks fun hpasses => ?_
      exact h _ (by simp [ReadsOnly, ShellCommand.mutatesVm])
        ⟨fields, rows, reserved, List.infix_rfl, hreserved, hpasses⟩
  | full =>
      dsimp only
      rw [wp_bind]
      refine wp_assign (wp_digestShort fun digest hdigest => ?_)
      rw [wp_bind]
      refine wp_assign (wp_getCmd hwet (fun _ => hreads _ _ rfl) fun konlet => ?_)
      rw [List.append_assoc, List.append_assoc, hwet, wp_bind, wp_pure]
      dsimp only
      rw [if_neg Bool.false_ne_true]
      refine wp_infraChecks fun hpasses => ?_
      rw [wp_bind]
      refine wp_require fun hkonlet => wp_require fun hlabel => ?_
      obtain rfl : konlet = "" := by simpa using hkonlet
      obtain rfl : fields.label = digest := by simpa using hlabel
      exact h _ (by simp [ReadsOnly, ShellCommand.mutatesVm])
        ⟨fields, rows, reserved, List.infix_rfl, hreserved, hpasses, hdigest⟩

/-- **Auditing the fleet**. -/
theorem wp_auditAll {scope : AuditScope} {Q : Unit → List FleetEvent → Prop}
    (h : ∀ reads, ReadsOnly reads → (∀ vm ∈ fleet.selectedSeeders, fleet.Audited scope reads vm) →
      fleet.FirewallChecked reads → Q () (trace ++ reads)) :
    wp allowed (fleet.auditAll scope) Q trace := by
  rw [auditAll, wp_bind]
  refine wp_eachSelected (fun audited t => ∃ reads, t = trace ++ reads ∧ ReadsOnly reads ∧
    ∀ vm ∈ audited, fleet.Audited scope reads vm) ⟨[], by simp, by simp [ReadsOnly], by simp⟩ ?_ ?_
  · rintro before vm after _ - ⟨earlier, rfl, hearlier, haudited⟩
    refine wp_auditVm hreads hwet fun reads hreads hvm =>
      ⟨earlier ++ reads, List.append_assoc _ _ _, hearlier.append hreads, fun other hother => ?_⟩
    rcases List.mem_append.mp hother with hother | hother
    · exact (haudited other hother).mono ⟨[], reads, rfl⟩
    · obtain rfl := List.mem_singleton.mp hother
      exact hvm.mono ⟨earlier, [], by simp⟩
  · rintro _ ⟨reads, rfl, hreadsOnly, haudited⟩
    rw [firewallOk, hwet, if_neg Bool.false_ne_true, wp_bind, wp_bind]
    refine wp_command (fun _ => hreads _ _ rfl) fun rules => ?_
    refine wp_require fun hadmits => ?_
    obtain ⟨rule, hrule, hadmits⟩ := List.any_eq_true.mp hadmits
    rw [List.append_assoc]
    refine h _ (hreadsOnly.append (by simp [ReadsOnly, ShellCommand.mutatesVm]))
      (fun vm hvm => (haudited vm hvm).mono ⟨[], _, rfl⟩) ?_
    exact ⟨rules, List.mem_append_right _ (List.mem_singleton_self _), rule, hrule, hadmits⟩

/-- Verifying the image: it ends only if `cosign` accepts the pinned reference. -/
theorem wp_verifyImage {Q : Unit → List FleetEvent → Prop}
    (h : ∀ found : ℕ, Q () (trace ++ fleet.signatureTrace found)) :
    wp allowed fleet.verifyImage Q trace := by
  rw [verifyImage, hwet, if_neg Bool.false_ne_true, wp_bind]
  refine wp_requireCmd (fun _ => hreads _ _ rfl) fun found => ?_
  rw [wp_bind]
  refine wp_act (fun _ => hreads _ _ rfl) fun verified => wp_errexit fun hverified => ?_
  rw [List.append_assoc, hverified]
  exact h found

/-- What a roll looks up before it changes a VM: it goes on only with a pinned digest. -/
theorem wp_prepareVm {vm : Seeder} {rest : String → String → String → Shell Unit}
    {Q : Unit → List FleetEvent → Prop}
    (h : ∀ reads rendered rows ip digest, ReadsOnly reads → ⟨.listAddresses, rows⟩ ∈ reads →
      reservedAddress vm.name vm.region rows = .ok ip →
      digestShort? fleet.imageRef = some digest →
      wp allowed (rest rendered ip digest) Q (trace ++ reads)) :
    wp allowed (do
      let rendered ← assign fleet.renderStartupScript
      let ip ← assign (fleet.addr vm.name vm.region)
      let digest ← assign fleet.digestShort
      rest rendered ip digest) Q trace := by
  rw [wp_bind]
  refine wp_assign (wp_renderStartupScript (fun _ _ => hreads _ _ rfl)
    (fun _ _ _ _ _ => hreads _ _ rfl) fun rendered status => ?_)
  rw [wp_bind]
  refine wp_assign (wp_addr hwet (fun _ => hreads _ _ rfl) fun rows ip hip => ?_)
  rw [wp_bind]
  refine wp_assign (wp_digestShort fun digest hdigest => ?_)
  rw [List.append_assoc, List.append_assoc]
  exact h _ rendered rows ip digest (by simp [ReadsOnly, ShellCommand.mutatesVm]) (by simp) hip
    hdigest

end Reads

end Wp

/-! ## What the project really holds -/

/-- The project, as far as the audits read it. -/
structure FleetState where
  /-- The instances by name and zone. -/
  instances : String → String → Option InstanceFields
  /-- An instance's metadata by name, zone and key. -/
  metadata : String → String → String → Option String
  /-- The reserved addresses. -/
  addresses : List AddressRow
  /-- The firewall rules. -/
  firewallRules : List FirewallRule

/-- Each read of a trace prints what there is, or fails and prints nothing. -/
def FleetState.Answers (state : FleetState) : FleetEvent → Prop
  | ⟨.describeInstance name zone, fields⟩ =>
      fields = (state.instances name zone).getD .empty ∨ fields = .empty
  | ⟨.describeMetadata name zone key, value⟩ =>
      value = (state.metadata name zone key).getD "" ∨ value = ""
  | ⟨.listAddresses, rows⟩ => rows = state.addresses ∨ rows = []
  | ⟨.listFirewallRules, rules⟩ => rules = state.firewallRules ∨ rules = []
  | _ => True

/-- An address is the one reserved for a VM: in its region, and either used by the VM or of its name
while the VM uses no address there. -/
def FleetState.Reserves (state : FleetState) (vm : Seeder) (ip : String) : Prop :=
  ip ≠ "" ∧ ∃ row ∈ state.addresses, row.region = vm.region ∧ row.ip = ip ∧
    (inCommaList row.users vm.name = true ∨ row.name = vm.name ∧ ∀ other ∈ state.addresses,
      other.region = vm.region → inCommaList other.users vm.name = true → other.ip = "")

/-- A VM is as the full audit promises. -/
structure VmSound (state : FleetState) (vm : Seeder) (fields : InstanceFields) : Prop where
  /-- It exists. -/
  described : state.instances vm.name vm.zone = some fields
  /-- It runs. -/
  running : fields.status = "RUNNING"
  /-- Its NAT address is its reserved one. -/
  usesReserved : state.Reserves vm fields.natIp
  /-- It runs as the fleet's account. -/
  account : fields.serviceAccount = fleet.serviceAccount
  /-- It cannot be deleted. -/
  deletionProtected : fields.deletionProtection = "True" ∨ fields.deletionProtection = "true"
  /-- It carries no legacy metadata. -/
  noLegacy : state.metadata vm.name vm.zone "gce-container-declaration" = none
  /-- Its label names the pinned digest. -/
  labelled : digestShort? fleet.imageRef = some fields.label

/-- The fleet is as the full audit promises. -/
structure FleetSound (state : FleetState) : Prop where
  /-- Every selected VM is. -/
  vms : ∀ vm ∈ fleet.selectedSeeders, ∃ fields, fleet.VmSound state vm fields
  /-- One firewall rule admits queries over UDP and TCP. -/
  firewall : ∃ rule ∈ state.firewallRules, FirewallRule.admitsDns fleet.networkTag rule = true

/-- Where a VM carries legacy metadata, no read of it came back empty. -/
def FleetState.LegacySeen (state : FleetState) (trace : List FleetEvent) (vm : Seeder) : Prop :=
  state.metadata vm.name vm.zone "gce-container-declaration" ≠ none →
    ⟨.describeMetadata vm.name vm.zone "gce-container-declaration", ("" : String)⟩ ∉ trace

section Sound

open Script

variable {fleet} {state : FleetState} {trace : List FleetEvent} {vm : Seeder}

/-- Fields that pass were not printed by a failed read. -/
theorem InfraAuditPasses.described {fields : InstanceFields} {reserved : String}
    (h : fleet.InfraAuditPasses fields reserved)
    (hanswer : state.Answers ⟨.describeInstance vm.name vm.zone, fields⟩) :
    state.instances vm.name vm.zone = some fields := by
  have hnotEmpty : fields ≠ .empty := by
    rintro rfl
    exact absurd h.running (by decide)
  have hactual := Or.resolve_right hanswer hnotEmpty
  cases hstate : state.instances vm.name vm.zone with
  | none =>
      rw [hstate] at hactual
      exact absurd hactual hnotEmpty
  | some actual =>
      rw [hstate] at hactual
      rw [hactual, Option.getD_some]

/-- An address that was found was not printed by a failed read. -/
theorem reserves_of_reservedAddress {rows : List AddressRow} {ip : String}
    (h : reservedAddress vm.name vm.region rows = .ok ip) (hip : ip ≠ "")
    (hanswer : state.Answers ⟨.listAddresses, rows⟩) : state.Reserves vm ip := by
  obtain ⟨row, hrow, hfound⟩ := exists_of_reservedAddress h hip
  rcases hanswer with rfl | rfl
  · exact ⟨hip, row, hrow, hfound⟩
  · cases hrow

/-- **A VM that passed the full audit** is sound, if its legacy metadata was seen. -/
theorem FullAudited.vmSound (h : fleet.FullAudited trace vm)
    (hanswers : ∀ event ∈ trace, state.Answers event) (hseen : state.LegacySeen trace vm) :
    ∃ fields, fleet.VmSound state vm fields := by
  obtain ⟨fields, rows, reserved, hinfix, hreserved, hpasses, hlabel⟩ := h
  have hmem := hinfix.subset
  have hfields := hanswers _ (hmem (.head _))
  have hrows := hanswers _ (hmem (.tail _ (.head _)))
  exact ⟨fields,
    { described := hpasses.described hfields
      running := hpasses.running
      usesReserved :=
        hpasses.usesAddress ▸ reserves_of_reservedAddress hreserved hpasses.hasAddress hrows
      account := hpasses.account
      deletionProtected := hpasses.deletionProtected
      noLegacy := by
        by_contra hlegacy
        exact hseen hlegacy (hmem (.tail _ (.tail _ (.head _))))
      labelled := hlabel }⟩

/-- The firewall check is not passed on a failed read. -/
theorem FirewallChecked.firewall (h : fleet.FirewallChecked trace)
    (hanswers : ∀ event ∈ trace, state.Answers event) :
    ∃ rule ∈ state.firewallRules, FirewallRule.admitsDns fleet.networkTag rule = true := by
  obtain ⟨rules, hrules, rule, hrule, hadmits⟩ := h
  rcases hanswers _ hrules with rfl | rfl
  · exact ⟨rule, hrule, hadmits⟩
  · cases hrule

/-- **A full audit ends** only if every selected VM and the firewall passed. -/
theorem fullAudited_of_reaches (hwet : fleet.dryRun = false)
    (hdone : Reaches fleet.audit trace (.done ())) :
    (∀ vm ∈ fleet.selectedSeeders, fleet.FullAudited trace vm) ∧ fleet.FirewallChecked trace := by
  have hreads : AllowsReads fun _ _ => True := fun _ _ _ => trivial
  have hwp : wp (fun _ _ => True) fleet.audit (fun _ trace =>
      (∀ vm ∈ fleet.selectedSeeders, fleet.FullAudited trace vm) ∧ fleet.FirewallChecked trace)
      [] := by
    refine wp_requireTools hreads fun gcloud dig => ?_
    refine wp_auditAll hreads hwet fun reads _ haudited hfirewall => ⟨fun vm hvm => ?_, ?_⟩
    · exact (haudited vm hvm).mono (List.suffix_append _ _).isInfix
    · obtain ⟨rules, hrules, hadmits⟩ := hfirewall
      exact ⟨rules, List.mem_append_right _ hrules, hadmits⟩
  exact wp_of_reaches hwp hdone

/-- **When a successful full audit is right.** For every inventory, `--only` filter and state of the
project, and whichever reads fail and print nothing: if an audit that is no dry run exits
successfully, then the fleet is as the audit promises if and only if no read of the legacy metadata of
a selected VM that still carries it came back empty. -/
theorem fullAudit_sound_iff (fleet : Fleet) (state : FleetState) (hwet : fleet.dryRun = false)
    {trace : List FleetEvent} (hdone : Reaches fleet.audit trace (.done ()))
    (hanswers : ∀ event ∈ trace, state.Answers event) :
    fleet.FleetSound state ↔ ∀ vm ∈ fleet.selectedSeeders, state.LegacySeen trace vm := by
  constructor
  · intro hsound vm hvm hlegacy
    obtain ⟨fields, hfields⟩ := hsound.vms vm hvm
    exact absurd hfields.noLegacy hlegacy
  · intro hseen
    obtain ⟨haudited, hfirewall⟩ := fullAudited_of_reaches hwet hdone
    exact
      { vms := fun vm hvm => (haudited vm hvm).vmSound hanswers (hseen vm hvm)
        firewall := hfirewall.firewall hanswers }

end Sound

/-! ## A fleet of two VMs -/

/-- Two VMs, the canary first. -/
def exampleFleet : Fleet where
  seeders := [⟨"seeder-2", "us-east1-b", "us-east1", "ns2"⟩,
    ⟨"seeder-1", "us-central1-a", "us-central1", "ns1"⟩]
  networkTag := "seeder"
  serviceAccount := "seeder-vms"
  gateTries := 2
  gateSleep := "12"
  mainnetDomain := "mainnet.seeder"
  testnetDomain := "testnet.seeder"
  imageRef := "dnsseeder@sha256:8a61870699281899f2655c7c04312e81f5a193adf8d0ec725b41b913677050af"
  template := "startup-script.sh.tmpl"
  only := ""
  dryRun := false

/-- Everything succeeds, but no testnet record is ever shown. -/
def exampleAnswer : (cmd : ShellCommand) → cmd.Outcome
  | .act _ => (0 : ℕ)
  | .describeInstance name _ => ⟨"RUNNING", if name = "seeder-2" then "192.0.2.2" else "192.0.2.1",
      "seeder-vms", "True", ""⟩
  | .describeMetadata _ _ _ => ""
  | .describeStatus _ _ => "RUNNING"
  | .listAddresses => [⟨"a", "192.0.2.1", "us-central1", "seeder-1"⟩,
      ⟨"b", "192.0.2.2", "us-east1", "seeder-2"⟩]
  | .listFirewallRules => [⟨"False", "INGRESS", "0.0.0.0/0", "seeder", "udp:53,tcp:53"⟩]
  | .mktemp => "/tmp/rendered"
  | .dig _ domain _ => if domain = "mainnet.seeder" then ["198.51.100.7"] else []

/-- Both VMs are labelled with the pinned digest. -/
def exampleLabelled (name : String) : InstanceFields :=
  { exampleAnswer (.describeInstance name "") with label := "8a6187069928" }

/-- The same, and no read of metadata prints anything. -/
def exampleAuditAnswer : (cmd : ShellCommand) → cmd.Outcome
  | .describeInstance name _ => exampleLabelled name
  | cmd => exampleAnswer cmd

/-- A project that looks like that, with the given metadata. -/
def exampleState (metadata : String → String → String → Option String) : FleetState where
  instances name _ := some (exampleLabelled name)
  metadata := metadata
  addresses := exampleAnswer .listAddresses
  firewallRules := exampleAnswer .listFirewallRules

/-- The full audit in that environment. -/
def exampleAudit : List FleetEvent := (Script.follow exampleAuditAnswer 20 [] exampleFleet.audit).1

theorem exampleAudit_done : Script.Reaches exampleFleet.audit exampleAudit (.done ()) := by
  have hfollow : (Script.follow exampleAuditAnswer 20 [] exampleFleet.audit).2 = .done () :=
    Script.eq_done_of_value? (by decide +kernel)
  exact hfollow ▸ Script.Reaches.start.follow exampleAuditAnswer 20

/-- Whatever metadata there is: the reads of it may have failed. -/
theorem exampleAudit_answers (metadata : String → String → String → Option String) :
    ∀ event ∈ exampleAudit, (exampleState metadata).Answers event := by
  refine Script.forall_mem_follow (fun cmd => ?_) 20 (fun event hevent => by cases hevent)
  cases cmd with
  | describeInstance name zone => exact .inl rfl
  | describeMetadata name zone key => exact .inr rfl
  | listAddresses => exact .inl rfl
  | listFirewallRules => exact .inl rfl
  | act action => exact trivial
  | describeStatus name zone => exact trivial
  | mktemp => exact trivial
  | dig server domain tcp => exact trivial

/-- Without metadata the audit is right. -/
theorem fullAudit_sound_exampleAudit : exampleFleet.FleetSound (exampleState fun _ _ _ => none) :=
  (fullAudit_sound_iff exampleFleet (exampleState fun _ _ _ => none) rfl exampleAudit_done
    (exampleAudit_answers _)).mpr fun _ _ hlegacy => absurd rfl hlegacy

/-- **A failed read passes for missing metadata**: the audit exits successfully although the canary
still carries the legacy metadata. -/
theorem maskedAudit_succeeds : exampleFleet.dryRun = false ∧
    Script.Reaches exampleFleet.audit exampleAudit (.done ()) ∧
      (∀ event ∈ exampleAudit,
        (exampleState fun _ _ _ => some "spec: containers").Answers event) ∧
      ¬ exampleFleet.FleetSound (exampleState fun _ _ _ => some "spec: containers") := by
  refine ⟨rfl, exampleAudit_done, exampleAudit_answers _, fun hsound => ?_⟩
  have hselected : (⟨"seeder-2", "us-east1-b", "us-east1", "ns2"⟩ : Seeder) ∈
      exampleFleet.selectedSeeders := by decide
  obtain ⟨fields, hfields⟩ := hsound.vms _ hselected
  cases hfields.noLegacy

end Fleet

end Zeeder.Deploy
