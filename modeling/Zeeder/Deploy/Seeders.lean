import Mathlib.Data.Int.Notation
import Mathlib.Data.List.Infix
import Zeeder.Foundation.Script
import Zeeder.Foundation.Text

/-! # The fleet script

`deploy/gcp/seeders.sh` audits the fleet, rolls a new image over it and creates its VMs. The script
runs under `set -e`: a plain command that fails stops it, a command in a condition or before `|| true`
does not, and a command substitution runs in a subshell without `-e` whose failure fails an assignment,
but not a command it is an argument of. What
`gcloud`, `cosign`, `dig` and the small tools answer is up to the environment; outputs are read as
records of their fields, and a failing listing prints whatever it prints. -/

namespace Zeeder.Deploy

open Foundation

/-! ## Commands -/

/-- The options of a new instance that are not the same for every fleet. -/
structure InstanceOptions where
  /-- `--machine-type`. -/
  machineType : String
  /-- `--image-family`. -/
  imageFamily : String
  /-- `--image-project`. -/
  imageProject : String
  /-- `--network-interface`. -/
  networkInterface : String
  /-- `--metadata-from-file`, the rendered startup script. -/
  startupScript : String
  /-- `--tags`. -/
  tags : String
  /-- `--service-account`. -/
  serviceAccount : String
  /-- `--boot-disk-size`. -/
  bootDiskSize : String
  /-- `--labels`. -/
  labels : String
  deriving DecidableEq

/-- Commands that are run for their effect and answer with an exit status. -/
inductive Action where
  /-- `command -v`. -/
  | commandV (name : String)
  /-- `cosign verify`. -/
  | cosignVerify (imageRef : String)
  /-- `awk` over the template, into a file. -/
  | awk (imageRef template rendered : String)
  /-- `gcloud compute instances add-metadata`, from the rendered startup script. -/
  | addMetadata (name zone startupScript : String)
  /-- `gcloud compute instances remove-metadata`. -/
  | removeMetadata (name zone keys : String)
  /-- `gcloud compute instances reset`. -/
  | reset (name zone : String)
  /-- `gcloud compute instances add-labels`. -/
  | addLabels (name zone labels : String)
  /-- `gcloud compute instances create`. -/
  | create (name zone : String) (options : InstanceOptions)
  /-- `rm -f`. -/
  | rm (file : String)
  /-- `sleep`. -/
  | sleep (time : String)
  deriving DecidableEq

/-- The commands that the script calls. -/
inductive ShellCommand where
  /-- A command run for its effect. -/
  | act (action : Action)
  /-- `gcloud compute instances describe`, in the audit's format. -/
  | describeInstance (name zone : String)
  /-- `gcloud compute instances describe`, one metadata key. -/
  | describeMetadata (name zone key : String)
  /-- `gcloud compute instances describe`, the status alone. -/
  | describeStatus (name zone : String)
  /-- `gcloud compute addresses list`. -/
  | listAddresses
  /-- `gcloud compute firewall-rules list`. -/
  | listFirewallRules
  /-- `mktemp`. -/
  | mktemp
  /-- `dig +short`, over UDP or TCP, for `A` records. -/
  | dig (server domain : String) (tcp : Bool)
  deriving DecidableEq

/-- What the audit reads of an instance. -/
structure InstanceFields where
  /-- `status`. -/
  status : String
  /-- The NAT address. -/
  natIp : String
  /-- The service account's email. -/
  serviceAccount : String
  /-- `deletionProtection`. -/
  deletionProtection : String
  /-- The `zeeder-digest` label. -/
  label : String
  deriving DecidableEq

/-- The fields of an instance that was not described. -/
def InstanceFields.empty : InstanceFields := ⟨"", "", "", "", ""⟩

/-- One reserved address. -/
structure AddressRow where
  /-- The address's name. -/
  name : String
  /-- The address. -/
  ip : String
  /-- Its region. -/
  region : String
  /-- Its users, joined by commas. -/
  users : String
  deriving DecidableEq

/-- One firewall rule. -/
structure FirewallRule where
  /-- `disabled`. -/
  disabled : String
  /-- `direction`. -/
  direction : String
  /-- The source ranges, joined by commas. -/
  sources : String
  /-- The target tags, joined by commas. -/
  tags : String
  /-- The allowed protocols and ports, joined by commas. -/
  allowed : String
  deriving DecidableEq

/-- What a command answers: an exit status, or what it prints. -/
abbrev ShellCommand.Outcome : ShellCommand → Type
  | .act _ => ℕ
  | .describeInstance _ _ => InstanceFields
  | .describeMetadata _ _ _ => String
  | .describeStatus _ _ => String
  | .listAddresses => List AddressRow
  | .listFirewallRules => List FirewallRule
  | .mktemp => String
  | .dig _ _ _ => List String

/-- Whether a command creates, resets or relabels a VM or changes its metadata. -/
def ShellCommand.mutatesVm : ShellCommand → Bool
  | .act (.addMetadata _ _ _) => true
  | .act (.removeMetadata _ _ _) => true
  | .act (.reset _ _) => true
  | .act (.addLabels _ _ _) => true
  | .act (.create _ _ _) => true
  | _ => false

/-- A command with what it answered. -/
abbrev FleetEvent := Sigma ShellCommand.Outcome

/-- Why the script stops early. -/
inductive Abort where
  /-- `die`. -/
  | die (message : String)
  /-- A plain command failed. -/
  | failed (status : ℕ)
  deriving DecidableEq

/-- A part of the script. -/
abbrev Shell (α : Type) := Script ShellCommand.Outcome Abort α

/-- Run a command for what it answers. -/
def command (cmd : ShellCommand) : Shell cmd.Outcome := .run cmd

/-- Run a command for its exit status. -/
def act (action : Action) : Shell ℕ := command (.act action)

/-- Stop with an error message. -/
def die {α : Type} (message : String) : Shell α := .exit (.die message)

/-- A plain command: under `set -e` its failure stops the script. -/
def errexit (status : ℕ) : Shell Unit := if status = 0 then pure () else .exit (.failed status)

/-- `[ … ] || die "…"`. -/
def require (condition : Bool) (message : String) : Shell Unit :=
  if condition then pure () else die message

/-- `variable="$(…)"`: a subshell that fails fails the assignment. -/
def assign {α : Type} (body : Shell α) : Shell α := do
  match ← body.subshell with
  | .ok value => pure value
  | .error reason => .exit reason

/-- `"$(…)"` in an argument: what it prints; whether it failed is lost. -/
def substitute (body : Shell String) : Shell String := do
  match ← body.subshell with
  | .ok printed => pure printed
  | .error _ => pure ""

/-! ## The inventory -/

/-- One row of the inventory. -/
structure Seeder where
  /-- The VM's name. -/
  name : String
  /-- Its zone. -/
  zone : String
  /-- Its region. -/
  region : String
  /-- The label of its nameserver. -/
  ns : String
  deriving DecidableEq

/-- The inventory, the settings and the options of one invocation. -/
structure Fleet where
  /-- The rows, in rolling order. -/
  seeders : List Seeder
  /-- The tag that the firewall rule has to target. -/
  networkTag : String
  /-- The account that every VM has to run as. -/
  serviceAccount : String
  /-- How often the gate tries. -/
  gateTries : ℤ
  /-- How long the gate waits between tries. -/
  gateSleep : String
  /-- The mainnet seed domain. -/
  mainnetDomain : String
  /-- The testnet seed domain. -/
  testnetDomain : String
  /-- The pinned image. -/
  imageRef : String
  /-- The startup script's template. -/
  template : String
  /-- The `--only` filter, empty without one. -/
  only : String
  /-- `--dry-run`. -/
  dryRun : Bool

/-- The settings that only new VMs need. -/
structure CreateSettings where
  /-- The project. -/
  project : String
  /-- The machine type. -/
  machineType : String
  /-- The boot image's family. -/
  imageFamily : String
  /-- The boot image's project. -/
  imageProject : String
  /-- The size of the boot disk in GB. -/
  diskSize : String

/-- The modes that change VMs. -/
inductive Mode where
  /-- `--roll`. -/
  | roll
  /-- `--create`. -/
  | create
  deriving DecidableEq

/-- What an audit covers. -/
inductive AuditScope where
  /-- The infrastructure only, before a roll. -/
  | infra
  /-- The rolled image too. -/
  | full
  deriving DecidableEq

/-- Whether a comma-joined list holds an item. -/
def inCommaList (list item : String) : Bool :=
  decide (("," ++ item ++ ",").toList <:+: ("," ++ list ++ ",").toList)

/-- That is one of the texts between its commas. -/
theorem inCommaList_iff {list item : String} (hitem : ',' ∉ item.toList) :
    inCommaList list item = true ↔ item.toList ∈ list.toList.splitOn ',' := by
  have hwrapped (text : String) : ("," ++ text ++ ",").toList = ',' :: (text.toList ++ [',']) := by
    simp
  rw [inCommaList, decide_eq_true_iff, hwrapped, hwrapped, wrapped_infix_iff hitem]

/-- A field in a message. -/
def orMissing (field : String) : String := if field = "" then "missing" else field

/-- An address in the options of a new VM. -/
def orReservedIp (ip : String) : String := if ip = "" then "<reserved-ip>" else ip

def isLowerHex (c : Char) : Bool := c.isDigit || (decide ('a' ≤ c) && decide (c ≤ 'f'))

/-- The digest at the end of an image reference. -/
def imageDigest (imageRef : String) : Option String :=
  let tail := imageRef.toList.drop (imageRef.toList.length - 72)
  if tail.take 8 = "@sha256:".toList ∧ (tail.drop 8).length = 64 ∧ (tail.drop 8).all isLowerHex then
    some (.ofList (tail.drop 8))
  else none

/-- The first twelve digits of the pinned digest. -/
def digestShort? (imageRef : String) : Option String :=
  (imageDigest imageRef).map fun digest => .ofList (digest.toList.take 12)

/-- The address reserved for a VM: the one it uses, else the one of its name. -/
def reservedAddress (name region : String) (rows : List AddressRow) : Except String String :=
  let step (found : String × String) (row : AddressRow) : Except String (String × String) :=
    if row.region ≠ region then .ok found
    else
      let byName := if row.name = name then row.ip else found.2
      if inCommaList row.users name then
        if found.1 = "" then .ok (row.ip, byName)
        else .error s!"{name} has more than one reserved address in {region}"
      else .ok (found.1, byName)
  (rows.foldlM step ("", "")).map fun found => if found.1 = "" then found.2 else found.1

/-- Whether one firewall rule lets DNS queries from anywhere through to the fleet. -/
def FirewallRule.admitsDns (networkTag : String) (rule : FirewallRule) : Bool :=
  rule.disabled == "False" && rule.direction == "INGRESS" && inCommaList rule.sources "0.0.0.0/0"
    && inCommaList rule.tags networkTag && inCommaList rule.allowed "udp:53"
    && inCommaList rule.allowed "tcp:53"

/-- The rule is an enabled ingress rule, and its lists hold all sources, the fleet's tag and DNS over both
protocols. -/
theorem FirewallRule.admitsDns_iff {networkTag : String} (htag : ',' ∉ networkTag.toList)
    (rule : FirewallRule) :
    rule.admitsDns networkTag = true ↔ rule.disabled = "False" ∧ rule.direction = "INGRESS" ∧
      "0.0.0.0/0".toList ∈ rule.sources.toList.splitOn ',' ∧
      networkTag.toList ∈ rule.tags.toList.splitOn ',' ∧
      "udp:53".toList ∈ rule.allowed.toList.splitOn ',' ∧
      "tcp:53".toList ∈ rule.allowed.toList.splitOn ',' := by
  rw [admitsDns, ← inCommaList_iff (by decide), ← inCommaList_iff htag, ← inCommaList_iff (by decide),
    ← inCommaList_iff (by decide)]
  simp only [Bool.and_eq_true, beq_iff_eq, and_assoc]

/-- How many lines of an output start with a digit. -/
def countA (lines : List String) : ℕ :=
  lines.countP fun line => line.toList.head?.any Char.isDigit

/-- Some line is a digit and what follows it, as an address is and the name behind a `CNAME` is not
unless it starts with one. -/
theorem one_le_countA_iff {lines : List String} :
    1 ≤ countA lines ↔ ∃ line ∈ lines, ∃ digit rest, line.toList = digit :: rest ∧
      digit.isDigit = true := by
  have hstarts (line : String) : line.toList.head?.any Char.isDigit = true ↔
      ∃ digit rest, line.toList = digit :: rest ∧ digit.isDigit = true := by
    cases line.toList with
    | nil => simp
    | cons c rest => simp
  simp only [countA, Nat.one_le_iff_ne_zero, ← Nat.pos_iff_ne_zero, List.countP_pos_iff, hstarts]

/-- The counts of one try of the gate; `none` is printed as `-`. -/
structure GateCounts where
  /-- Mainnet over UDP. -/
  mainUdp : Option ℕ
  /-- Mainnet over TCP. -/
  mainTcp : Option ℕ
  /-- Testnet over UDP. -/
  testUdp : Option ℕ
  /-- Testnet over TCP. -/
  testTcp : Option ℕ

/-- `[ … -ge 1 ]`; comparing `-` is an error, which is not true. -/
def atLeastOne (count : Option ℕ) : Bool := count.any fun n => decide (1 ≤ n)

/-- `[ … -lt 1 ]`; comparing `-` is an error, which is not true. -/
def lessThanOne (count : Option ℕ) : Bool := count.any fun n => decide (n < 1)

/-- A count in a message. -/
def countText : Option ℕ → String
  | some n => toString n
  | none => "-"

namespace Fleet

variable (fleet : Fleet)

/-! ## The functions of the script -/

/-- Whether `--only` selects a VM. -/
def selected (name ns : String) : Bool := fleet.only == "" || fleet.only == name || fleet.only == ns

/-- The selected VMs, in rolling order. -/
def selectedSeeders : List Seeder := fleet.seeders.filter fun vm => fleet.selected vm.name vm.ns

/-- Run a command, unless this is a dry run. -/
def runCmd (action : Action) : Shell ℕ :=
  if fleet.dryRun then pure 0 else act action

/-- Read what a command prints, unless this is a dry run; its failure is ignored. -/
def getCmd (cmd : ShellCommand) (nothing : cmd.Outcome) : Shell cmd.Outcome :=
  if fleet.dryRun then pure nothing else command cmd

def requireCmd (name : String) : Shell Unit := do
  let status ← act (.commandV name)
  require (status == 0) s!"{name} not found on PATH"

def digestShort : Shell String :=
  match digestShort? fleet.imageRef with
  | some digest => pure digest
  | none => die "deploy/gcp/IMAGE must pin a sha256 digest"

/-- Call back for each selected VM; there has to be one. -/
def eachSelected (callback : Seeder → Shell Unit) : Shell Unit := do
  let count ← fleet.seeders.foldlM (fun count vm =>
    if fleet.selected vm.name vm.ns then do
      callback vm
      pure (count + 1)
    else pure count) 0
  require (decide (0 < count)) s!"no VM matched --only {fleet.only}"

/-- Render the startup script to a file. No failure in here reaches the assignment. -/
def renderStartupScript : Shell String := do
  let rendered : String ← command .mktemp
  let _ ← act (.awk fleet.imageRef fleet.template rendered)
  pure rendered

def addr (name region : String) : Shell String := do
  let rows : List AddressRow ← fleet.getCmd .listAddresses []
  match reservedAddress name region rows with
  | .ok ip => pure ip
  | .error message => die message

/-- Ask a server for `A` records and count them. -/
def digCount (ip domain : String) (tcp : Bool) : Shell (Option ℕ) :=
  if ip = "" ∨ fleet.dryRun = true then pure none
  else do
    let lines : List String ← command (.dig ip domain tcp)
    pure (some (countA lines))

/-- One try of the gate. -/
def gateTry (ip : String) : Shell (Unit ⊕ GateCounts) := do
  let mainUdp ← assign (fleet.digCount ip fleet.mainnetDomain false)
  let mainTcp ← assign (fleet.digCount ip fleet.mainnetDomain true)
  let testUdp ← assign (fleet.digCount ip fleet.testnetDomain false)
  let testTcp ← assign (fleet.digCount ip fleet.testnetDomain true)
  if atLeastOne mainUdp && atLeastOne mainTcp && atLeastOne testUdp && atLeastOne testTcp then
    pure (.inl ())
  else do
    errexit (← act (.sleep fleet.gateSleep))
    pure (.inr ⟨mainUdp, mainTcp, testUdp, testTcp⟩)

/-- Wait until a rolled VM serves; mainnet has to in the end, testnet need not. -/
def gate (ip : String) : Shell Unit :=
  if fleet.dryRun then pure ()
  else do
    require (ip != "") "gate failed: no IP to probe"
    match ← Script.retry (fun _ => fleet.gateTry ip) fleet.gateTries.toNat
      ⟨some 0, some 0, some 0, some 0⟩ with
    | .inl () => pure ()
    | .inr counts =>
        if lessThanOne counts.mainUdp || lessThanOne counts.mainTcp then
          die s!"gate failed for {ip}: mainnet udp={countText counts.mainUdp} tcp={countText counts.mainTcp} (testnet udp={countText counts.testUdp} tcp={countText counts.testTcp})"
        else pure ()

def verifyImage : Shell Unit :=
  if fleet.dryRun then pure ()
  else do
    requireCmd "cosign"
    errexit (← act (.cosignVerify fleet.imageRef))

/-- Whether a firewall rule admits DNS queries; without a listing there is none. -/
def firewallOk : Shell Bool :=
  if fleet.dryRun then pure true
  else do
    let rules : List FirewallRule ← command .listFirewallRules
    pure (rules.any (FirewallRule.admitsDns fleet.networkTag))

/-- Audit one VM. -/
def auditVm (scope : AuditScope) (vm : Seeder) : Shell Unit := do
  let fields : InstanceFields ← fleet.getCmd (.describeInstance vm.name vm.zone) .empty
  let reserved ← assign (fleet.addr vm.name vm.region)
  let image ← match scope with
    | .infra => pure none
    | .full => do
        let want ← assign fleet.digestShort
        let konlet : String ←
          assign (fleet.getCmd (.describeMetadata vm.name vm.zone "gce-container-declaration") "")
        pure (some (want, konlet))
  if fleet.dryRun then pure ()
  else do
    require (fields.status == "RUNNING") s!"{vm.name} ({vm.ns}) is not RUNNING"
    require (reserved != "") s!"{vm.name} has no reserved regional address in {vm.region}"
    require (fields.natIp == reserved)
      s!"{vm.name} NAT IP {orMissing fields.natIp} does not match reserved {reserved}"
    require (fields.serviceAccount == fleet.serviceAccount)
      s!"{vm.name} service account {orMissing fields.serviceAccount} does not match {fleet.serviceAccount}"
    require (fields.deletionProtection == "True" || fields.deletionProtection == "true")
      s!"{vm.name} deletion protection is not enabled"
    match image with
    | none => pure ()
    | some (want, konlet) => do
        require (konlet == "") s!"{vm.name} still has gce-container-declaration metadata"
        require (fields.label == want)
          s!"{vm.name} zeeder-digest label {orMissing fields.label} does not match {want}"

def auditAll (scope : AuditScope) : Shell Unit := do
  fleet.eachSelected (fleet.auditVm scope)
  let ok ← fleet.firewallOk
  require ok s!"no firewall rule allows udp+tcp :53 from 0.0.0.0/0 to tag {fleet.networkTag}"

/-- Roll one VM. -/
def rollVm (vm : Seeder) : Shell Unit := do
  let rendered ← assign fleet.renderStartupScript
  let ip ← assign (fleet.addr vm.name vm.region)
  let digest ← assign fleet.digestShort
  errexit (← fleet.runCmd (.addMetadata vm.name vm.zone rendered))
  -- `|| true`
  let _ ← fleet.runCmd (.removeMetadata vm.name vm.zone "gce-container-declaration")
  errexit (← fleet.runCmd (.reset vm.name vm.zone))
  errexit (← act (.rm rendered))
  fleet.gate ip
  errexit (← fleet.runCmd (.addLabels vm.name vm.zone s!"zeeder-digest={digest}"))

/-- Create one VM, unless it exists. -/
def createVm (settings : CreateSettings) (vm : Seeder) : Shell Unit := do
  let status : String ← assign (fleet.getCmd (.describeStatus vm.name vm.zone) "")
  if status ≠ "" ∧ fleet.dryRun = false then pure ()
  else do
    let ip ← assign (fleet.addr vm.name vm.region)
    require (ip != "" || fleet.dryRun) s!"missing static IP {vm.name} in {vm.region}; reserve it with: gcloud compute addresses create {vm.name} --project={settings.project} --region={vm.region} --network-tier=PREMIUM"
    let rendered ← assign fleet.renderStartupScript
    -- the substitution is an argument, so its failure does not stop the command
    let digest ← substitute fleet.digestShort
    errexit (← fleet.runCmd (.create vm.name vm.zone
      { machineType := settings.machineType
        imageFamily := settings.imageFamily
        imageProject := settings.imageProject
        networkInterface :=
          s!"network-tier=PREMIUM,address={orReservedIp ip},stack-type=IPV4_ONLY"
        startupScript := rendered
        tags := fleet.networkTag
        serviceAccount := fleet.serviceAccount
        bootDiskSize := s!"{settings.diskSize}GB"
        labels := s!"zeeder-digest={digest}" }))
    errexit (← act (.rm rendered))

/-- The script in the mode `roll`. -/
def roll : Shell Unit := do
  requireCmd "gcloud"
  requireCmd "dig"
  fleet.auditAll .infra
  fleet.verifyImage
  fleet.eachSelected fleet.rollVm

/-- The script in the mode `create`. -/
def create (settings : CreateSettings) : Shell Unit := do
  requireCmd "gcloud"
  requireCmd "dig"
  fleet.verifyImage
  fleet.eachSelected (fleet.createVm settings)

/-- The script in a mode that changes VMs. -/
def change (settings : CreateSettings) : Mode → Shell Unit
  | .roll => fleet.roll
  | .create => fleet.create settings

/-- The script in the mode `audit`. -/
def audit : Shell Unit := do
  requireCmd "gcloud"
  requireCmd "dig"
  fleet.auditAll .full

end Fleet

/-! ## Their preconditions -/

section Wp

open Script

variable {allowed : List FleetEvent → FleetEvent → Prop}
  {trace : List FleetEvent}

theorem wp_act {action : Action} {Q : ℕ → List FleetEvent → Prop}
    (hallowed : ∀ status : ℕ, allowed trace ⟨.act action, status⟩)
    (h : ∀ status : ℕ, Q status (trace ++ [⟨.act action, status⟩])) :
    wp allowed (act action) Q trace := fun status => ⟨hallowed status, h status⟩

theorem wp_command {cmd : ShellCommand}
    {Q : cmd.Outcome → List FleetEvent → Prop}
    (hallowed : ∀ outcome, allowed trace ⟨cmd, outcome⟩)
    (h : ∀ outcome, Q outcome (trace ++ [⟨cmd, outcome⟩])) :
    wp allowed (command cmd) Q trace := fun outcome => ⟨hallowed outcome, h outcome⟩

/-- A plain command goes on only if it succeeds. -/
theorem wp_errexit {status : ℕ} {Q : Unit → List FleetEvent → Prop}
    (h : status = 0 → Q () trace) : wp allowed (errexit status) Q trace := by
  unfold errexit
  split
  · next hzero => exact h hzero
  · exact trivial

/-- A required condition holds afterwards. -/
theorem wp_require {condition : Bool} {message : String}
    {Q : Unit → List FleetEvent → Prop} (h : condition = true → Q () trace) :
    wp allowed (require condition message) Q trace := by
  unfold require
  split
  · next hcondition => exact h hcondition
  · exact trivial

/-- An assignment has the value of its subshell. -/
theorem wp_assign {α : Type} {body : Shell α} {Q : α → List FleetEvent → Prop}
    (h : wp allowed body Q trace) : wp allowed (assign body) Q trace := by
  rw [assign, wp_bind]
  exact wp_subshell (fun _ _ => trivial) h

/-- A command that has to be installed. -/
theorem wp_requireCmd {name : String} {Q : Unit → List FleetEvent → Prop}
    (hallowed : ∀ status : ℕ, allowed trace ⟨.act (.commandV name), status⟩)
    (h : ∀ status : ℕ, Q () (trace ++ [⟨.act (.commandV name), status⟩])) :
    wp allowed (Fleet.requireCmd name) Q trace := by
  rw [Fleet.requireCmd, wp_bind]
  exact wp_act hallowed fun status => wp_require fun _ => h status

variable {fleet : Fleet}

/-- **The rule for calling back for each selected VM**, with an invariant over the VMs done. -/
theorem wp_eachSelected (J : List Seeder → List FleetEvent → Prop)
    {callback : Seeder → Shell Unit} {Q : Unit → List FleetEvent → Prop}
    (hstart : J [] trace)
    (hstep : ∀ before vm after trace, fleet.selectedSeeders = before ++ vm :: after →
      J before trace → wp allowed (callback vm) (fun _ => J (before ++ [vm])) trace)
    (hdone : ∀ trace, J fleet.selectedSeeders trace → Q () trace) :
    wp allowed (fleet.eachSelected callback) Q trace := by
  rw [Fleet.eachSelected, wp_bind]
  refine wp_mono (wp_foldlM (fun rows _ => J (rows.filter fun vm => fleet.selected vm.name vm.ns))
    hstart ?_) fun count trace h => wp_require fun _ => hdone trace h
  intro before vm after count trace hrows hbefore
  have hrest : fleet.selectedSeeders = (before.filter fun vm => fleet.selected vm.name vm.ns)
      ++ (vm :: after).filter fun vm => fleet.selected vm.name vm.ns := by
    rw [Fleet.selectedSeeders, hrows, List.filter_append]
  rw [List.filter_cons] at hrest
  rw [List.filter_append, List.filter_cons, List.filter_nil]
  by_cases hselected : fleet.selected vm.name vm.ns = true
  · rw [if_pos hselected] at hrest
    rw [if_pos hselected, if_pos hselected, wp_bind]
    exact wp_mono (hstep _ vm _ trace hrest hbefore) fun _ _ h => h
  · -- a row that is not selected is skipped
    rw [if_neg hselected, if_neg hselected, List.append_nil]
    exact hbefore

/-- The pinned digest, if the image pins one. -/
theorem wp_digestShort {Q : String → List FleetEvent → Prop}
    (h : ∀ digest, digestShort? fleet.imageRef = some digest → Q digest trace) :
    wp allowed fleet.digestShort Q trace := by
  unfold Fleet.digestShort
  split
  · next digest hdigest => exact h digest hdigest
  · exact trivial

/-- In an argument the script goes on with some digest, pinned or not. -/
theorem wp_substitute_digestShort {Q : String → List FleetEvent → Prop}
    (h : ∀ digest, Q digest trace) : wp allowed (substitute fleet.digestShort) Q trace := by
  rw [substitute, wp_bind]
  unfold Fleet.digestShort
  split
  · next digest _ => exact h digest
  · exact h ""

theorem wp_renderStartupScript {Q : String → List FleetEvent → Prop}
    (hmktemp : ∀ trace (rendered : String), allowed trace ⟨.mktemp, rendered⟩)
    (hawk : ∀ trace imageRef template rendered (status : ℕ),
      allowed trace ⟨.act (.awk imageRef template rendered), status⟩)
    (h : ∀ (rendered : String) (status : ℕ), Q rendered (trace ++ [⟨.mktemp, rendered⟩]
      ++ [⟨.act (.awk fleet.imageRef fleet.template rendered), status⟩])) :
    wp allowed fleet.renderStartupScript Q trace := by
  rw [Fleet.renderStartupScript, wp_bind]
  refine wp_command (hmktemp trace) fun rendered => ?_
  rw [wp_bind]
  exact wp_act (hawk _ _ _ _) fun status => h rendered status

section Wet

variable (hwet : fleet.dryRun = false)
include hwet

theorem wp_runCmd {action : Action} {Q : ℕ → List FleetEvent → Prop}
    (hallowed : ∀ status : ℕ, allowed trace ⟨.act action, status⟩)
    (h : ∀ status : ℕ, Q status (trace ++ [⟨.act action, status⟩])) :
    wp allowed (fleet.runCmd action) Q trace := by
  rw [Fleet.runCmd, hwet]
  exact wp_act hallowed h

theorem wp_getCmd {cmd : ShellCommand} {nothing : cmd.Outcome}
    {Q : cmd.Outcome → List FleetEvent → Prop}
    (hallowed : ∀ outcome, allowed trace ⟨cmd, outcome⟩)
    (h : ∀ outcome, Q outcome (trace ++ [⟨cmd, outcome⟩])) :
    wp allowed (fleet.getCmd cmd nothing) Q trace := by
  rw [Fleet.getCmd, hwet]
  exact wp_command hallowed h

/-- The address that the listing reserves for a VM. -/
theorem wp_addr {name region : String} {Q : String → List FleetEvent → Prop}
    (hallowed : ∀ rows : List AddressRow, allowed trace ⟨.listAddresses, rows⟩)
    (h : ∀ (rows : List AddressRow) ip, reservedAddress name region rows = .ok ip →
      Q ip (trace ++ [⟨.listAddresses, rows⟩])) :
    wp allowed (fleet.addr name region) Q trace := by
  rw [Fleet.addr, wp_bind]
  refine wp_getCmd hwet hallowed fun rows => ?_
  split
  · next ip hip => exact h rows ip hip
  · exact trivial

/-- The count of one probe of a server that is known. -/
theorem wp_digCount {ip domain : String} {tcp : Bool}
    {Q : Option ℕ → List FleetEvent → Prop} (hip : ip ≠ "")
    (hallowed : ∀ lines : List String, allowed trace ⟨.dig ip domain tcp, lines⟩)
    (h : ∀ lines : List String,
      Q (some (countA lines)) (trace ++ [⟨.dig ip domain tcp, lines⟩])) :
    wp allowed (fleet.digCount ip domain tcp) Q trace := by
  rw [Fleet.digCount, if_neg (by simp [hip, hwet]), wp_bind]
  exact wp_command hallowed fun lines => h lines

end Wet

end Wp

end Zeeder.Deploy
