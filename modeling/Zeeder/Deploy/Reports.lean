import Mathlib.Data.List.Forall2
import Zeeder.Deploy.FleetAudit

/-! # The modes that report on the fleet

`--status` prints one row for each VM of the inventory and `--dns` one address record for each; neither
looks at `--only`. Both read the project through the same calls as the audits, whose failures they
swallow: what they print is worth what those calls answered.

* **`Fleet.calls_status`, `Fleet.calls_dns`, `Fleet.calls_audit`** — these modes only read, and a dry
  run reads nothing.
* **`cleanAudit_reports`** — after a full audit that succeeded, while the project answers alike, both
  reports end and agree with it. -/

namespace Zeeder.Deploy

open Foundation

/-! ## The reports -/

/-- A field of the status table. -/
def orNotAvailable (field : String) : String := if field = "" then "N/A" else field

/-- A label of the status table. -/
def orNone (label : String) : String := if label = "" then "none" else label

/-- The digest column: the label that was read, the one that is wanted, and whether they match. -/
def digestColumn (label want : String) : String :=
  let verdict := if label = want then "match" else "miss"
  s!"{orNone label}/{want} {verdict}"

/-- One row of the status table, column by column. -/
structure StatusRow where
  /-- `name(ns)`. -/
  seeder : String
  /-- `IP`. -/
  ip : String
  /-- `VM`. -/
  vm : String
  /-- `digest`. -/
  digest : String
  /-- `main u/t`. -/
  main : String
  /-- `test u/t`. -/
  test : String

/-- The row printed for a VM, from what was read of it and the probes of its address. -/
def StatusRow.print (want : String) (vm : Seeder) (fields : InstanceFields) (counts : GateCounts) :
    StatusRow where
  seeder := s!"{vm.name}({vm.ns})"
  ip := orNotAvailable fields.natIp
  vm := orNotAvailable fields.status
  digest := digestColumn fields.label want
  main := s!"{countText counts.mainUdp}/{countText counts.mainTcp}"
  test := s!"{countText counts.testUdp}/{countText counts.testTcp}"

/-- What `--status` prints. -/
structure StatusReport where
  /-- The rows, in inventory order. -/
  rows : List StatusRow
  /-- How many addresses the mainnet delegation shows. -/
  mainnet : String
  /-- How many addresses the testnet delegation shows. -/
  testnet : String

namespace Fleet

variable (fleet : Fleet)

/-- Count the `A` records of a domain as the system's resolver finds them: no server is named. -/
def delegationCount (domain : String) : Shell String :=
  if fleet.dryRun then pure "-"
  else do
    let lines : List String ← command (.dig "" domain false)
    pure (toString (countA lines))

/-- The row of one VM. The call asks for three of the fields that the audit reads. -/
def statusRow (want : String) (vm : Seeder) : Shell StatusRow := do
  let fields : InstanceFields ← fleet.getCmd (.describeInstance vm.name vm.zone) .empty
  let mainUdp ← assign (fleet.digCount fields.natIp fleet.mainnetDomain false)
  let mainTcp ← assign (fleet.digCount fields.natIp fleet.mainnetDomain true)
  let testUdp ← assign (fleet.digCount fields.natIp fleet.testnetDomain false)
  let testTcp ← assign (fleet.digCount fields.natIp fleet.testnetDomain true)
  pure (.print want vm fields ⟨mainUdp, mainTcp, testUdp, testTcp⟩)

/-- `show_status`. -/
def showStatus : Shell StatusReport := do
  let want ← assign fleet.digestShort
  let rows ← fleet.seeders.mapM (fleet.statusRow want)
  let mainnet ← substitute (fleet.delegationCount fleet.mainnetDomain)
  let testnet ← substitute (fleet.delegationCount fleet.testnetDomain)
  pure ⟨rows, mainnet, testnet⟩

/-- The address record of a VM's nameserver. -/
def dnsLine (vm : Seeder) (ip : String) : String := s!"{vm.ns}.zfnd.org. IN A {orReservedIp ip}"

/-- The last line that `--dns` prints. -/
def delegateLine : String :=
  s!"; Delegate {fleet.mainnetDomain} and {fleet.testnetDomain} to ns1.zfnd.org through ns6.zfnd.org."

/-- `print_dns`. -/
def printDns : Shell (List String) := do
  let lines ← fleet.seeders.mapM fun vm => do
    let ip ← assign (fleet.addr vm.name vm.region)
    pure (dnsLine vm ip)
  pure (lines ++ [fleet.delegateLine])

/-- The script in the mode `status`. -/
def status : Shell StatusReport := do
  requireCmd "gcloud"
  requireCmd "dig"
  fleet.showStatus

/-- The script in the mode `dns`. -/
def dns : Shell (List String) := do
  requireCmd "gcloud"
  requireCmd "dig"
  fleet.printDns

end Fleet

/-! ## What these modes call -/

/-- Whether a command stays on the operator's machine: it calls neither `gcloud` nor `cosign` nor
`dig`. -/
def ShellCommand.isLocal : ShellCommand → Bool
  | .act (.commandV _) => true
  | .act (.awk _ _ _) => true
  | .act (.rm _) => true
  | .act (.sleep _) => true
  | .mktemp => true
  | _ => false

/-- Whether a command asks `gcloud` or `dig` something. -/
def ShellCommand.isQuery : ShellCommand → Bool
  | .act _ => false
  | .mktemp => false
  | _ => true

/-- The image that a command is about, if it is about one. -/
def ShellCommand.image? : ShellCommand → Option String
  | .act (.cosignVerify imageRef) => some imageRef
  | .act (.awk imageRef _ _) => some imageRef
  | _ => none

/-- The commands of a mode that only reads: it looks for its tools and asks, in a dry run not even
that. -/
def Fleet.MayRead (fleet : Fleet) (cmd : ShellCommand) : Prop :=
  (∃ name, cmd = .act (.commandV name)) ∨ fleet.dryRun = false ∧ cmd.isQuery = true

/-- A command that is local changes no VM. -/
theorem mutatesVm_of_isLocal {cmd : ShellCommand} (h : cmd.isLocal = true) :
    cmd.mutatesVm = false := by
  cases cmd with
  | act action => cases action <;> first | rfl | cases h
  | mktemp => rfl
  | _ => cases h

/-- Asking changes no VM. -/
theorem mutatesVm_of_isQuery {cmd : ShellCommand} (h : cmd.isQuery = true) :
    cmd.mutatesVm = false := by
  cases cmd with
  | act action => cases h
  | _ => rfl

/-- Asking is about no image. -/
theorem image?_of_isQuery {cmd : ShellCommand} (h : cmd.isQuery = true) : cmd.image? = none := by
  cases cmd with
  | act action => cases h
  | _ => rfl

/-- A mode that only reads changes no VM. -/
theorem Fleet.MayRead.mutatesVm {fleet : Fleet} {cmd : ShellCommand} (h : fleet.MayRead cmd) :
    cmd.mutatesVm = false := by
  rcases h with ⟨name, rfl⟩ | ⟨-, hquery⟩
  · rfl
  · exact mutatesVm_of_isQuery hquery

section Calls

open Script

variable {P : ShellCommand → Prop} {fleet : Fleet}

/-- An assignment calls what its substitution calls. -/
theorem calls_assign {α : Type} {body : Shell α} (h : Calls P body) : Calls P (assign body) := by
  refine h.subshell.bind fun value => ?_
  cases value with
  | ok value => exact trivial
  | error reason => exact trivial

/-- So does a substitution inside an argument. -/
theorem calls_substitute {body : Shell String} (h : Calls P body) : Calls P (substitute body) := by
  refine h.subshell.bind fun value => ?_
  cases value with
  | ok value => exact trivial
  | error reason => exact trivial

/-- A check calls nothing. -/
theorem calls_require (condition : Bool) (message : String) :
    Calls P (require condition message) := by
  unfold require
  split <;> exact trivial

/-- Nor does going on after a status. -/
theorem calls_errexit (status : ℕ) : Calls P (errexit status) := by
  unfold errexit
  split <;> exact trivial

namespace Fleet

/-- Looking for a tool is one call. -/
theorem calls_requireCmd {name : String} (h : P (.act (.commandV name))) :
    Calls P (requireCmd name) :=
  (calls_run h).bind fun _ => calls_require _ _

/-- A mode calls the tools it needs and then what is left of it. -/
theorem calls_requireTools {α : Type} {rest : Shell α}
    (htool : ∀ name, P (.act (.commandV name))) (h : Calls P rest) :
    Calls P (do
      requireCmd "gcloud"
      requireCmd "dig"
      rest) :=
  (calls_requireCmd (htool _)).bind fun _ => (calls_requireCmd (htool _)).bind fun _ => h

/-- The short digest is computed without calls. -/
theorem calls_digestShort : Calls P fleet.digestShort := by
  unfold digestShort
  split <;> exact trivial

/-- Calling back calls what the callback calls. -/
theorem calls_eachSelected {callback : Seeder → Shell Unit} (h : ∀ vm, Calls P (callback vm)) :
    Calls P (fleet.eachSelected callback) := by
  refine (calls_foldlM (fun count vm => ?_) _ _).bind fun _ => calls_require _ _
  by_cases hselected : fleet.selected vm.name vm.ns = true
  · rw [if_pos hselected]
    exact (h vm).bind fun _ => trivial
  · rw [if_neg hselected]
    exact trivial

/-- Reading a command calls it only outside of dry runs. -/
theorem calls_getCmd {cmd : ShellCommand} {nothing : cmd.Outcome} (h : cmd.isQuery = true) :
    Calls fleet.MayRead (fleet.getCmd cmd nothing) := by
  unfold getCmd
  cases hdry : fleet.dryRun with
  | true => exact trivial
  | false => exact calls_run (.inr ⟨hdry, h⟩)

/-- An address is looked up in a listing. -/
theorem calls_addr {name region : String} : Calls fleet.MayRead (fleet.addr name region) := by
  refine (calls_getCmd rfl).bind fun rows => ?_
  split <;> exact trivial

/-- A probe is one query, outside of dry runs. -/
theorem calls_digCount {ip domain : String} {tcp : Bool} :
    Calls fleet.MayRead (fleet.digCount ip domain tcp) := by
  unfold digCount
  by_cases hskip : ip = "" ∨ fleet.dryRun = true
  · rw [if_pos hskip]
    exact trivial
  · rw [if_neg hskip]
    have hwet : fleet.dryRun = false := by simpa using (not_or.mp hskip).2
    exact (calls_run (.inr ⟨hwet, rfl⟩)).bind fun _ => trivial

/-- So is counting a delegation. -/
theorem calls_delegationCount {domain : String} :
    Calls fleet.MayRead (fleet.delegationCount domain) := by
  unfold delegationCount
  cases hdry : fleet.dryRun with
  | true => exact trivial
  | false => exact (calls_run (.inr ⟨hdry, rfl⟩)).bind fun _ => trivial

/-- A row of the status reads. -/
theorem calls_statusRow {want : String} {vm : Seeder} :
    Calls fleet.MayRead (fleet.statusRow want vm) := by
  have hcount {ip domain : String} {tcp : Bool} :
      Calls fleet.MayRead (assign (fleet.digCount ip domain tcp)) := calls_assign calls_digCount
  refine (calls_getCmd rfl).bind fun fields => ?_
  exact hcount.bind fun _ => hcount.bind fun _ => hcount.bind fun _ => hcount.bind fun _ => trivial

/-- **`--status` only reads**, and a dry run reads nothing. -/
theorem calls_status : Calls fleet.MayRead fleet.status := by
  refine calls_requireTools (fun name => .inl ⟨name, rfl⟩) ?_
  refine (calls_assign calls_digestShort).bind fun want => ?_
  refine (calls_mapM (fun vm => calls_statusRow) _).bind fun rows => ?_
  refine (calls_substitute calls_delegationCount).bind fun mainnet => ?_
  exact (calls_substitute calls_delegationCount).bind fun testnet => trivial

/-- **`--dns` only reads**, and a dry run reads nothing. -/
theorem calls_dns : Calls fleet.MayRead fleet.dns := by
  refine calls_requireTools (fun name => .inl ⟨name, rfl⟩) ?_
  refine (calls_mapM (fun vm => ?_) _).bind fun lines => trivial
  exact (calls_assign calls_addr).bind fun ip => trivial

/-- The checks of an audit, whatever they say when they fail. -/
theorem calls_infraChecks {c₁ c₂ c₃ c₄ c₅ : Bool} {m₁ m₂ m₃ m₄ m₅ : String} {rest : Shell Unit}
    (h : Calls P rest) :
    Calls P (do
      require c₁ m₁
      require c₂ m₂
      require c₃ m₃
      require c₄ m₄
      require c₅ m₅
      rest) :=
  (calls_require _ _).bind fun _ => (calls_require _ _).bind fun _ => (calls_require _ _).bind fun _ =>
    (calls_require _ _).bind fun _ => (calls_require _ _).bind fun _ => h

/-- Auditing a VM reads. -/
theorem calls_auditVm {scope : AuditScope} {vm : Seeder} :
    Calls fleet.MayRead (fleet.auditVm scope vm) := by
  refine (calls_getCmd rfl).bind fun fields => (calls_assign calls_addr).bind fun reserved => ?_
  cases scope with
  | infra =>
      refine Calls.bind trivial fun image => ?_
      split
      · exact trivial
      · refine calls_infraChecks ?_
        split
        · exact trivial
        · exact (calls_require _ _).bind fun _ => calls_require _ _
  | full =>
      refine (calls_assign calls_digestShort).bind fun want => ?_
      refine (calls_assign (calls_getCmd rfl)).bind fun konlet => Calls.bind trivial fun image => ?_
      split
      · exact trivial
      · refine calls_infraChecks ?_
        split
        · exact trivial
        · exact (calls_require _ _).bind fun _ => calls_require _ _

/-- So does the firewall check. -/
theorem calls_firewallOk : Calls fleet.MayRead fleet.firewallOk := by
  unfold firewallOk
  cases hdry : fleet.dryRun with
  | true => exact trivial
  | false => exact (calls_run (.inr ⟨hdry, rfl⟩)).bind fun _ => trivial

/-- Both audits only read, and a dry run reads nothing. -/
theorem calls_auditAll {scope : AuditScope} : Calls fleet.MayRead (fleet.auditAll scope) :=
  (calls_eachSelected fun _ => calls_auditVm).bind fun _ =>
    calls_firewallOk.bind fun _ => calls_require _ _

/-- **`--audit` only reads**, and a dry run reads nothing. -/
theorem calls_audit : Calls fleet.MayRead fleet.audit :=
  calls_requireTools (fun name => .inl ⟨name, rfl⟩) calls_auditAll

end Fleet

end Calls

/-! ## The reports after a clean audit -/

section Eval

open Script

variable {answer : (cmd : ShellCommand) → cmd.Outcome} {fleet : Fleet}

/-- An assignment ends as its substitution does. -/
theorem eval_assign {α : Type} {body : Shell α} : eval answer (assign body) = eval answer body := by
  rw [assign, eval_bind_ok (eval_subshell answer)]
  cases eval answer body <;> rfl

/-- A substitution that prints something ends with it. -/
theorem eval_substitute {body : Shell String} {printed : String}
    (h : eval answer body = .ok printed) : eval answer (substitute body) = .ok printed := by
  rw [substitute, eval_bind_ok (eval_subshell answer), h]
  rfl

/-- A mode that ended had its tools; with them any mode goes on to the rest of it. -/
theorem eval_requireTools {α β : Type} {rest : Shell α} {other : Shell β} {value : α}
    (h : eval answer (do Fleet.requireCmd "gcloud"; Fleet.requireCmd "dig"; rest) = .ok value) :
    eval answer (do Fleet.requireCmd "gcloud"; Fleet.requireCmd "dig"; other)
      = eval answer other := by
  have hgcloud : eval answer (Fleet.requireCmd "gcloud") = .ok () := by
    rw [eval_bind] at h
    cases hcmd : eval answer (Fleet.requireCmd "gcloud") with
    | ok done => rfl
    | error reason => rw [hcmd] at h; cases h
  have hdig : eval answer (Fleet.requireCmd "dig") = .ok () := by
    rw [eval_bind_ok hgcloud, eval_bind] at h
    cases hcmd : eval answer (Fleet.requireCmd "dig") with
    | ok done => rfl
    | error reason => rw [hcmd] at h; cases h
  rw [eval_bind_ok hgcloud, eval_bind_ok hdig]

namespace Fleet

/-- A pinned digest is found. -/
theorem eval_digestShort {want : String} (h : digestShort? fleet.imageRef = some want) :
    eval answer fleet.digestShort = .ok want := by
  unfold digestShort
  split
  · next digest hdigest =>
      rw [Option.some.inj (hdigest.symm.trans h)]
      rfl
  · next hnone => cases hnone.symm.trans h

section Wet

variable (hwet : fleet.dryRun = false)
include hwet

/-- Outside of dry runs a read ends with what is answered. -/
theorem eval_getCmd {cmd : ShellCommand} {nothing : cmd.Outcome} :
    eval answer (fleet.getCmd cmd nothing) = .ok (answer cmd) := by
  rw [getCmd, hwet]
  rfl

/-- An address that is reserved is found. -/
theorem eval_addr {name region ip : String}
    (h : reservedAddress name region (answer .listAddresses) = .ok ip) :
    eval answer (fleet.addr name region) = .ok ip := by
  rw [addr, eval_bind_ok (eval_getCmd hwet), h]
  rfl

end Wet

/-- A probe always ends, with a count or without. -/
theorem exists_eval_digCount (ip domain : String) (tcp : Bool) :
    ∃ count, eval answer (assign (fleet.digCount ip domain tcp)) = .ok count := by
  rw [eval_assign, digCount]
  by_cases hskip : ip = "" ∨ fleet.dryRun = true
  · rw [if_pos hskip]
    exact ⟨none, rfl⟩
  · rw [if_neg hskip]
    exact ⟨_, rfl⟩

/-- Counting a delegation always ends. -/
theorem exists_eval_delegationCount (domain : String) :
    ∃ count, eval answer (substitute (fleet.delegationCount domain)) = .ok count := by
  unfold delegationCount
  cases fleet.dryRun with
  | true => exact ⟨_, eval_substitute rfl⟩
  | false => exact ⟨_, eval_substitute rfl⟩

/-- What a VM looks like through a project that answers alike, when it passes the full audit. -/
structure CleanVm (answer : (cmd : ShellCommand) → cmd.Outcome) (want : String) (vm : Seeder)
    (fields : InstanceFields) : Prop where
  /-- What the project says of it. -/
  described : answer (.describeInstance vm.name vm.zone) = fields
  /-- It runs. -/
  running : fields.status = "RUNNING"
  /-- It uses the address that is reserved for it. -/
  reserved : reservedAddress vm.name vm.region (answer .listAddresses) = .ok fields.natIp
  /-- There is one. -/
  hasAddress : fields.natIp ≠ ""
  /-- It carries the pinned digest. -/
  labelled : fields.label = want

/-- **What a full audit has seen** of a VM, while the project answers alike. -/
theorem FullAudited.cleanVm {trace : List FleetEvent} {vm : Seeder} {want : String}
    (h : fleet.FullAudited trace vm) (hanswers : AnsweredBy answer trace)
    (hwant : digestShort? fleet.imageRef = some want) : ∃ fields, CleanVm answer want vm fields := by
  obtain ⟨fields, rows, reserved, hsegment, hreserved, hpasses, hlabel⟩ := h
  have hfields : fields = answer (.describeInstance vm.name vm.zone) :=
    hanswers ⟨.describeInstance vm.name vm.zone, fields⟩ (hsegment.subset (by simp))
  have hrows : rows = answer .listAddresses :=
    hanswers ⟨.listAddresses, rows⟩ (hsegment.subset (by simp))
  refine ⟨fields, ⟨hfields.symm, hpasses.running, ?_, ?_, ?_⟩⟩
  · rw [← hrows, hreserved, hpasses.usesAddress]
  · rw [hpasses.usesAddress]
    exact hpasses.hasAddress
  · exact (Option.some.inj (hwant.symm.trans hlabel)).symm

/-- A row of the status table that shows a clean VM. -/
structure CleanRow (want : String) (vm : Seeder) (natIp : String) (row : StatusRow) : Prop where
  /-- It is about this VM. -/
  seeder : row.seeder = s!"{vm.name}({vm.ns})"
  /-- It shows the VM's address. -/
  ip : row.ip = natIp
  /-- It shows that the VM runs. -/
  vm : row.vm = "RUNNING"
  /-- It shows the pinned digest as a match. -/
  digest : row.digest = s!"{want}/{want} match"

/-- A short digest is not empty. -/
theorem digestShort?_ne_empty {imageRef want : String} (h : digestShort? imageRef = some want) :
    want ≠ "" := by
  obtain ⟨digest, hdigest, rfl⟩ := Option.map_eq_some_iff.mp h
  intro hempty
  unfold imageDigest at hdigest
  dsimp only at hdigest
  split at hdigest
  · next hpins =>
      -- twelve of sixty-four digits are left
      have hdigits := hpins.2.1
      have hlength := congrArg (fun text => text.toList.length) hempty
      rw [← Option.some.inj hdigest] at hlength
      simp only [String.toList_ofList, List.length_take, List.length_drop] at hdigits hlength
      rw [hdigits] at hlength
      cases hlength
  · cases hdigest

/-- The row of a clean VM. -/
theorem CleanVm.eval_statusRow {want : String} {vm : Seeder} {fields : InstanceFields}
    (h : CleanVm answer want vm fields) (hwet : fleet.dryRun = false) :
    ∃ counts, eval answer (fleet.statusRow want vm) = .ok (.print want vm fields counts) := by
  have hcount (domain : String) (tcp : Bool) :
      ∃ count, eval answer (assign (fleet.digCount fields.natIp domain tcp)) = .ok count :=
    exists_eval_digCount fields.natIp domain tcp
  obtain ⟨mainUdp, hmainUdp⟩ := hcount fleet.mainnetDomain false
  obtain ⟨mainTcp, hmainTcp⟩ := hcount fleet.mainnetDomain true
  obtain ⟨testUdp, htestUdp⟩ := hcount fleet.testnetDomain false
  obtain ⟨testTcp, htestTcp⟩ := hcount fleet.testnetDomain true
  refine ⟨⟨mainUdp, mainTcp, testUdp, testTcp⟩, ?_⟩
  rw [statusRow, eval_bind_ok (eval_getCmd hwet), h.described, eval_bind_ok hmainUdp,
    eval_bind_ok hmainTcp, eval_bind_ok htestUdp, eval_bind_ok htestTcp]
  rfl

/-- It shows the VM as clean. -/
theorem CleanVm.cleanRow {want : String} {vm : Seeder} {fields : InstanceFields}
    (h : CleanVm answer want vm fields) (hwant : want ≠ "") (counts : GateCounts) :
    CleanRow want vm fields.natIp (.print want vm fields counts) where
  seeder := rfl
  ip := if_neg h.hasAddress
  vm := by
    show orNotAvailable fields.status = _
    rw [h.running]
    rfl
  digest := by
    show digestColumn fields.label want = _
    rw [digestColumn, h.labelled, orNone, if_neg hwant, if_pos rfl]
    show want ++ "/" ++ want ++ " " ++ "match" = _
    rw [String.append_assoc]
    rfl

/-- What `--status` ends with, when every VM is clean. -/
theorem exists_eval_showStatus {want : String} (hwet : fleet.dryRun = false)
    (hwant : digestShort? fleet.imageRef = some want)
    (hclean : ∀ vm ∈ fleet.seeders, ∃ fields, CleanVm answer want vm fields) :
    ∃ report, eval answer fleet.showStatus = .ok report ∧ List.Forall₂ (fun vm row =>
      CleanRow want vm (answer (.describeInstance vm.name vm.zone)).natIp row)
      fleet.seeders report.rows := by
  have hrow (vm : Seeder) (hvm : vm ∈ fleet.seeders) :
      ∃ row, eval answer (fleet.statusRow want vm) = .ok row ∧
        CleanRow want vm (answer (.describeInstance vm.name vm.zone)).natIp row := by
    obtain ⟨fields, hfields⟩ := hclean vm hvm
    obtain ⟨counts, hcounts⟩ := hfields.eval_statusRow hwet
    refine ⟨_, hcounts, ?_⟩
    rw [hfields.described]
    exact hfields.cleanRow (digestShort?_ne_empty hwant) counts
  obtain ⟨rows, hrows, hcleanRows⟩ := exists_eval_mapM answer hrow
  have hdelegation (domain : String) :
      ∃ count, eval answer (substitute (fleet.delegationCount domain)) = .ok count :=
    exists_eval_delegationCount domain
  obtain ⟨mainnet, hmainnet⟩ := hdelegation fleet.mainnetDomain
  obtain ⟨testnet, htestnet⟩ := hdelegation fleet.testnetDomain
  refine ⟨⟨rows, mainnet, testnet⟩, ?_, hcleanRows⟩
  rw [showStatus, eval_bind_ok (eval_assign.trans (eval_digestShort hwant)), eval_bind_ok hrows,
    eval_bind_ok hmainnet, eval_bind_ok htestnet]
  rfl

/-- What `--dns` ends with, when every VM is clean. -/
theorem eval_printDns {want : String} (hwet : fleet.dryRun = false)
    (hclean : ∀ vm ∈ fleet.seeders, ∃ fields, CleanVm answer want vm fields) :
    eval answer fleet.printDns = .ok ((fleet.seeders.map fun vm =>
      dnsLine vm (answer (.describeInstance vm.name vm.zone)).natIp) ++ [fleet.delegateLine]) := by
  have hline (vm : Seeder) (hvm : vm ∈ fleet.seeders) :
      ∃ line, eval answer (do
          let ip ← assign (fleet.addr vm.name vm.region)
          pure (dnsLine vm ip)) = .ok line ∧
        dnsLine vm (answer (.describeInstance vm.name vm.zone)).natIp = line := by
    obtain ⟨fields, hfields⟩ := hclean vm hvm
    refine ⟨_, ?_, rfl⟩
    rw [eval_bind_ok (eval_assign.trans (eval_addr hwet hfields.reserved)), hfields.described]
    rfl
  obtain ⟨lines, hlines, heq⟩ := exists_eval_mapM answer hline
  have hmap := List.forall₂_map_left_iff.mpr heq
  rw [List.forall₂_eq_eq_eq] at hmap
  rw [printDns, eval_bind_ok hlines, ← hmap]
  rfl

/-- Calling back needs a VM to call back for. -/
theorem seeders_ne_nil_of_eval {callback : Seeder → Shell Unit}
    (h : eval answer (fleet.eachSelected callback) = .ok ()) : fleet.seeders ≠ [] := by
  intro hnil
  rw [eachSelected, hnil] at h
  cases h

/-- **The reports agree with a clean audit.** Suppose that a full audit over the whole inventory exits
successfully, and that the project goes on to answer as it did. Then an image is pinned, every VM uses
the address that is reserved for it, and every `--status` and `--dns` that has stopped has ended: the
one shows each VM, in order, as running at its address with the pinned digest, the other prints its
address record. -/
theorem cleanAudit_reports (fleet : Fleet) (answer : (cmd : ShellCommand) → cmd.Outcome)
    (hwet : fleet.dryRun = false) (hall : fleet.only = "") {audited : List FleetEvent}
    (haudit : Reaches fleet.audit audited (.done ())) (hanswers : AnsweredBy answer audited) :
    ∃ want, digestShort? fleet.imageRef = some want ∧
      (∀ vm ∈ fleet.seeders, reservedAddress vm.name vm.region (answer .listAddresses)
        = .ok (answer (.describeInstance vm.name vm.zone)).natIp) ∧
      (∀ trace rest, Reaches fleet.status trace rest → AnsweredBy answer trace → rest.Stopped →
        ∃ report, rest = .done report ∧ List.Forall₂ (fun vm row =>
          CleanRow want vm (answer (.describeInstance vm.name vm.zone)).natIp row)
          fleet.seeders report.rows) ∧
      ∀ trace rest, Reaches fleet.dns trace rest → AnsweredBy answer trace → rest.Stopped →
        rest = .done ((fleet.seeders.map fun vm =>
          dnsLine vm (answer (.describeInstance vm.name vm.zone)).natIp) ++ [fleet.delegateLine]) := by
  have heval : eval answer fleet.audit = .ok () := (eval_of_reaches haudit hanswers).symm
  have hselected : fleet.selectedSeeders = fleet.seeders :=
    List.filter_eq_self.mpr fun vm _ => by simp [selected, hall]
  obtain ⟨haudited, -⟩ := fullAudited_of_reaches hwet haudit
  rw [hselected] at haudited
  -- the audit called back at least once, and then it read the digest
  have hne : fleet.seeders ≠ [] := by
    have hchecks : eval answer (fleet.auditAll .full) = .ok () :=
      (eval_requireTools heval).symm.trans heval
    rw [auditAll, eval_bind] at hchecks
    cases heach : eval answer (fleet.eachSelected (fleet.auditVm .full)) with
    | ok done => exact seeders_ne_nil_of_eval heach
    | error reason => rw [heach] at hchecks; cases hchecks
  obtain ⟨vm, hvm⟩ := List.exists_mem_of_ne_nil _ hne
  obtain ⟨fields, -, -, -, -, -, hwant⟩ := haudited vm hvm
  have hclean (vm : Seeder) (hvm : vm ∈ fleet.seeders) : ∃ seen, CleanVm answer fields.label vm seen :=
    (haudited vm hvm).cleanVm hanswers hwant
  refine ⟨_, hwant, fun vm hvm => ?_, fun trace rest hreaches hanswers hstopped => ?_,
    fun trace rest hreaches hanswers hstopped => ?_⟩
  · obtain ⟨fields, hfields⟩ := hclean vm hvm
    rw [hfields.described]
    exact hfields.reserved
  · obtain ⟨report, hreport, hrows⟩ := exists_eval_showStatus hwet hwant hclean
    have hstatus : eval answer fleet.status = .ok report := (eval_requireTools heval).trans hreport
    exact ⟨report, eq_done_of_reaches hreaches hanswers hstopped hstatus, hrows⟩
  · have hdns : eval answer fleet.dns = _ := (eval_requireTools heval).trans (eval_printDns hwet hclean)
    exact eq_done_of_reaches hreaches hanswers hstopped hdns

/-- The two VMs of the example are clean, so `--dns` prints the addresses that they use. -/
theorem cleanAudit_reports_exampleAudit :
    (follow exampleAuditAnswer 20 [] exampleFleet.dns).2 = .done
      ["ns2.zfnd.org. IN A 192.0.2.2", "ns1.zfnd.org. IN A 192.0.2.1",
        "; Delegate mainnet.seeder and testnet.seeder to ns1.zfnd.org through ns6.zfnd.org."] := by
  obtain ⟨want, -, -, -, hdns⟩ := cleanAudit_reports exampleFleet exampleAuditAnswer rfl rfl
    exampleAudit_done (answeredBy_follow 20 exampleFleet.audit)
  exact hdns _ _ (Reaches.start.follow exampleAuditAnswer 20)
    (answeredBy_follow 20 exampleFleet.dns) (by decide +kernel)

end Fleet

end Eval

end Zeeder.Deploy
