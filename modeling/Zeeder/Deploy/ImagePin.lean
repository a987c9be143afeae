import Mathlib.Data.List.Infix
import Zeeder.Deploy.FleetAudit

/-! # An image without a digest and the VMs

Nothing checks that the image pins a digest but `digest_short`, wherever its value is needed. A roll
assigns it before the first change, so that an image without a digest stops the script there. Creating
a VM uses it inside an argument of `gcloud compute instances create`, where its failure leaves an empty
label and stops nothing: a VM that is looked up as missing is created from that image.

* **`digestShort?_eq_none_iff`** — which images pin no digest.
* **`wp_rollVm_of_unpinned`, `wp_createVm`** — what each mode does to one VM.
* **`unpinned_spares_vms`** — when an image without a digest stays away from the VMs. -/

namespace Zeeder.Deploy

open Foundation

/-- An image reference ends in `@sha256:` and 64 hexadecimal digits in lower case. -/
def PinsDigest (imageRef : String) : Prop :=
  ∃ digest : List Char, "@sha256:".toList ++ digest <:+ imageRef.toList ∧ digest.length = 64 ∧
    ∀ c ∈ digest, isLowerHex c = true

/-- An image that ends in a digest is read so. -/
theorem imageDigest_of_suffix {imageRef : String} {digest : List Char}
    (hsuffix : "@sha256:".toList ++ digest <:+ imageRef.toList) (hlength : digest.length = 64)
    (hhex : ∀ c ∈ digest, isLowerHex c = true) : imageDigest imageRef = some (.ofList digest) := by
  obtain ⟨before, himage⟩ := hsuffix
  have hat : "@sha256:".toList.length = 8 := by decide
  -- the last 72 characters are the suffix
  have htail : imageRef.toList.drop (imageRef.toList.length - 72) = "@sha256:".toList ++ digest := by
    rw [← himage, List.length_append, List.length_append, hat, hlength]
    simp
  unfold imageDigest
  rw [htail]
  dsimp only
  rw [List.take_left' hat, List.drop_left' hat, if_pos ⟨rfl, hlength, List.all_eq_true.mpr hhex⟩]

/-- **An image without a digest**, as the script finds out. -/
theorem digestShort?_eq_none_iff {imageRef : String} :
    digestShort? imageRef = none ↔ ¬ PinsDigest imageRef := by
  rw [digestShort?, Option.map_eq_none_iff]
  constructor
  · rintro hnone ⟨digest, hsuffix, hlength, hhex⟩
    rw [imageDigest_of_suffix hsuffix hlength hhex] at hnone
    cases hnone
  · intro hunpinned
    unfold imageDigest
    refine if_neg fun hpins => hunpinned ⟨_, ?_, hpins.2.1, List.all_eq_true.mp hpins.2.2⟩
    rw [← hpins.1, List.take_append_drop]
    exact List.drop_suffix _ _

namespace Fleet

variable (fleet : Fleet)

/-- A selected VM was looked up as missing, and the listing that followed reserves an address for it. -/
def FoundMissing (trace : List FleetEvent) : Prop :=
  ∃ vm ∈ fleet.selectedSeeders, ∃ rows ip,
    [⟨.describeStatus vm.name vm.zone, ("" : String)⟩, ⟨.listAddresses, rows⟩] <:+: trace ∧
      reservedAddress vm.name vm.region rows = .ok ip ∧ ip ≠ ""

/-- A run in which an image without a digest cannot reach a VM. -/
def Spared (mode : Mode) (trace : List FleetEvent) : Prop :=
  mode = .create → ¬ fleet.FoundMissing trace

section Wp

open Script

variable {fleet} {trace : List FleetEvent}

/-- What was found stays found. -/
theorem FoundMissing.append {more : List FleetEvent} (h : fleet.FoundMissing trace) :
    fleet.FoundMissing (trace ++ more) := by
  obtain ⟨vm, hvm, rows, ip, hfound, hip⟩ := h
  exact ⟨vm, hvm, rows, ip, hfound.trans (List.prefix_append _ _).isInfix, hip⟩

/-- Its status was empty. -/
theorem FoundMissing.status (h : fleet.FoundMissing trace) : ∃ vm ∈ fleet.selectedSeeders,
    ⟨.describeStatus vm.name vm.zone, ("" : String)⟩ ∈ trace := by
  obtain ⟨vm, hvm, rows, ip, hfound, -⟩ := h
  exact ⟨vm, hvm, hfound.subset (.head _)⟩

/-- A roll of an image without a digest may only read. -/
def OnlyReads (_ : List FleetEvent) (event : FleetEvent) : Prop := event.1.mutatesVm = false

/-- VMs may be created once one was found missing. -/
def CreatesMissing (fleet : Fleet) (trace : List FleetEvent) (event : FleetEvent) : Prop :=
  event.1.mutatesVm = true → fleet.FoundMissing trace

theorem allowsReads_onlyReads : AllowsReads OnlyReads := fun _ _ h => h

theorem allowsReads_createsMissing : AllowsReads fleet.CreatesMissing := by
  intro trace event hread hmutates
  rw [hread] at hmutates
  cases hmutates

/-- **Rolling one VM without a digest** stops before it changes anything. -/
theorem wp_rollVm_of_unpinned (hwet : fleet.dryRun = false)
    (hunpinned : digestShort? fleet.imageRef = none) {vm : Seeder}
    {Q : Unit → List FleetEvent → Prop} : wp OnlyReads (fleet.rollVm vm) Q trace := by
  refine wp_prepareVm allowsReads_onlyReads hwet fun reads rendered rows ip digest _ _ _ hdigest => ?_
  rw [hunpinned] at hdigest
  cases hdigest

/-- **A roll without a digest** only reads. -/
theorem wp_roll_of_unpinned (hwet : fleet.dryRun = false)
    (hunpinned : digestShort? fleet.imageRef = none) :
    wp OnlyReads fleet.roll (fun _ _ => True) [] := by
  refine wp_requireTools allowsReads_onlyReads fun gcloud dig => ?_
  rw [wp_bind]
  refine wp_auditAll allowsReads_onlyReads hwet fun reads _ _ _ => ?_
  rw [wp_bind]
  refine wp_verifyImage allowsReads_onlyReads hwet fun found => ?_
  exact wp_eachSelected (fun _ _ => True) trivial
    (fun _ _ _ _ _ _ => wp_rollVm_of_unpinned hwet hunpinned) fun _ _ => trivial

/-- No VM was looked up as missing, or a VM was changed. -/
def MissingCreated (trace : List FleetEvent) : Prop :=
  (∃ name zone, (⟨.describeStatus name zone, ("" : String)⟩ : FleetEvent) ∈ trace) →
    ¬ ReadsOnly trace

/-- **Creating one VM**: only if it was looked up as missing and has an address, whatever the digest. -/
theorem wp_createVm (hwet : fleet.dryRun = false) {settings : CreateSettings} {vm : Seeder}
    (hvm : vm ∈ fleet.selectedSeeders) (h : MissingCreated trace) :
    wp fleet.CreatesMissing (fleet.createVm settings vm) (fun _ => MissingCreated) trace := by
  have hreads : AllowsReads fleet.CreatesMissing := allowsReads_createsMissing
  rw [createVm, wp_bind]
  refine wp_assign (wp_getCmd hwet (fun _ => hreads _ _ rfl) fun status => ?_)
  by_cases hstatus : status = ""
  · subst hstatus
    rw [if_neg fun hexists => hexists.1 rfl, wp_bind]
    refine wp_assign (wp_addr hwet (fun _ => hreads _ _ rfl) fun rows ip hip => ?_)
    rw [wp_bind]
    refine wp_require fun hfound => ?_
    have hne : ip ≠ "" := by simpa [hwet] using hfound
    have hmissing : fleet.FoundMissing (trace ++ [⟨.describeStatus vm.name vm.zone, ("" : String)⟩]
        ++ [⟨.listAddresses, rows⟩]) := ⟨vm, hvm, rows, ip, ⟨trace, [], by simp⟩, hip, hne⟩
    rw [wp_bind]
    refine wp_assign (wp_renderStartupScript (fun _ _ => hreads _ _ rfl)
      (fun _ _ _ _ _ => hreads _ _ rfl) fun rendered status => ?_)
    rw [wp_bind]
    refine wp_substitute_digestShort fun digest => ?_
    rw [wp_bind]
    refine wp_runCmd hwet (fun _ _ => hmissing.append.append) fun created => ?_
    rw [wp_bind]
    refine wp_errexit fun _ => ?_
    rw [wp_bind]
    refine wp_act (fun _ => hreads _ _ rfl) fun removed => wp_errexit fun _ _ hreadsOnly => ?_
    cases hreadsOnly _ (List.mem_append_left _ (List.mem_append_right _ (List.mem_singleton_self _)))
  · -- a VM that exists is left alone
    rw [if_pos ⟨hstatus, hwet⟩]
    rintro ⟨name, zone, hmissing⟩ hreadsOnly
    rcases List.mem_append.mp hmissing with hmissing | hmissing
    · exact h ⟨name, zone, hmissing⟩ fun event hevent =>
        hreadsOnly event (List.mem_append_left _ hevent)
    · cases List.mem_singleton.mp hmissing
      exact hstatus rfl

/-- **Creating the fleet**. -/
theorem wp_create (hwet : fleet.dryRun = false) {settings : CreateSettings} :
    wp fleet.CreatesMissing (fleet.create settings) (fun _ => MissingCreated) [] := by
  have hreads : AllowsReads fleet.CreatesMissing := allowsReads_createsMissing
  refine wp_requireTools hreads fun gcloud dig => ?_
  rw [wp_bind]
  refine wp_verifyImage hreads hwet fun found => ?_
  refine wp_eachSelected (fun _ => MissingCreated) ?_ ?_ fun _ h => h
  · rintro ⟨name, zone, hmissing⟩
    simp [toolTrace, signatureTrace] at hmissing
  · intro before vm after trace hselected h
    exact wp_createVm hwet (hselected ▸ List.mem_append_right _ (.head _)) h

/-- **When an image without a digest stays away from the VMs.** For every inventory, `--only` filter
and answers, `cosign`'s among them: at every moment of a roll, and of a run that creates VMs in which
no selected VM was looked up as missing with an address reserved for it in the listing that followed,
no command has created, reset or relabelled a VM or changed its metadata. A run that exits successfully
has issued no such command only if it was one of these. -/
theorem unpinned_spares_vms (fleet : Fleet) (settings : CreateSettings) (mode : Mode)
    (hwet : fleet.dryRun = false) (hunpinned : ¬ PinsDigest fleet.imageRef)
    {trace : List FleetEvent} {rest : Shell Unit}
    (hreaches : Reaches (fleet.change settings mode) trace rest) :
    (fleet.Spared mode trace → ReadsOnly trace) ∧
      (rest = .done () → (ReadsOnly trace ↔ fleet.Spared mode trace)) := by
  have hnone := digestShort?_eq_none_iff.mpr hunpinned
  cases mode with
  | roll =>
      have hreadsOnly : ReadsOnly trace := by
        intro event hevent
        obtain ⟨before, after, htrace⟩ := List.append_of_mem hevent
        exact allowed_of_reaches (wp_roll_of_unpinned hwet hnone) hreaches htrace
      have hspared : fleet.Spared .roll trace := by rintro ⟨⟩
      exact ⟨fun _ => hreadsOnly, fun _ => iff_of_true hreadsOnly hspared⟩
  | create =>
      have hspares : fleet.Spared .create trace → ReadsOnly trace := by
        intro hspared event hevent
        obtain ⟨before, after, rfl⟩ := List.append_of_mem hevent
        have hallowed := allowed_of_reaches (wp_create hwet) hreaches rfl
        cases hmutates : event.1.mutatesVm with
        | false => rfl
        | true => exact absurd (hallowed hmutates).append (hspared rfl)
      refine ⟨hspares, ?_⟩
      rintro rfl
      refine ⟨fun hreadsOnly _ hmissing => ?_, hspares⟩
      obtain ⟨vm, -, hstatus⟩ := hmissing.status
      exact wp_of_reaches (wp_create hwet) hreaches ⟨_, _, hstatus⟩ hreadsOnly

end Wp

/-! ## Creating a fleet from a tag -/

/-- The fleet with an image that is named by a tag. -/
def taggedFleet : Fleet := { exampleFleet with imageRef := "dnsseeder:latest" }

/-- Settings for new VMs. -/
def exampleSettings : CreateSettings where
  project := "seeders"
  machineType := "e2-small"
  imageFamily := "cos-stable"
  imageProject := "cos-cloud"
  diskSize := "20"

/-- `cosign` accepts the tag, and no VM exists. -/
def exampleCreateAnswer : (cmd : ShellCommand) → cmd.Outcome
  | .describeStatus _ _ => ""
  | cmd => exampleAnswer cmd

/-- The run in that environment. -/
def exampleCreate : List FleetEvent :=
  (Script.follow exampleCreateAnswer 20 [] (taggedFleet.create exampleSettings)).1

theorem taggedFleet_unpinned : ¬ PinsDigest taggedFleet.imageRef :=
  digestShort?_eq_none_iff.mp (by decide)

/-- When every VM exists, none is found missing. -/
theorem not_foundMissing_exampleAnswer (n : ℕ) (script : Shell Unit) :
    ¬ taggedFleet.FoundMissing (Script.follow exampleAnswer n [] script).1 := by
  intro hmissing
  obtain ⟨vm, -, hstatus⟩ := hmissing.status
  -- every status is answered by a text that is not empty
  have hexists : ∀ cmd : ShellCommand, (⟨cmd, exampleAnswer cmd⟩ : FleetEvent)
      ≠ ⟨.describeStatus vm.name vm.zone, ("" : String)⟩ := by
    intro cmd heq
    obtain ⟨rfl, houtcome⟩ := Sigma.mk.inj heq
    have hempty : "RUNNING" = "" := eq_of_heq houtcome
    exact absurd hempty (by decide)
  exact Script.forall_mem_follow (P := fun event => event ≠ _) hexists n
    (fun _ hevent => absurd hevent List.not_mem_nil) _ hstatus rfl

/-- A roll of the tag changes nothing, and neither does creating the VMs that exist. -/
theorem unpinned_spares_vms_taggedFleet :
    ReadsOnly (Script.follow exampleAnswer 60 [] taggedFleet.roll).1 ∧
    Script.Reaches (taggedFleet.create exampleSettings)
      (Script.follow exampleAnswer 20 [] (taggedFleet.create exampleSettings)).1 (.done ()) ∧
    ReadsOnly (Script.follow exampleAnswer 20 [] (taggedFleet.create exampleSettings)).1 := by
  have hcreate : Script.Reaches (taggedFleet.create exampleSettings) _ _ :=
    Script.Reaches.start.follow exampleAnswer 20
  have hdone : (Script.follow exampleAnswer 20 [] (taggedFleet.create exampleSettings)).2 = .done () :=
    Script.eq_done_of_value? (by decide +kernel)
  rw [hdone] at hcreate
  refine ⟨(unpinned_spares_vms taggedFleet exampleSettings .roll rfl taggedFleet_unpinned
    (Script.Reaches.start.follow exampleAnswer 60)).1 nofun, hcreate, ?_⟩
  exact ((unpinned_spares_vms taggedFleet exampleSettings .create rfl taggedFleet_unpinned
    hcreate).2 rfl).mpr fun _ => not_foundMissing_exampleAnswer 20 _

/-- **A tag reaches new VMs**: the canary is created from it, with an empty digest label. -/
theorem taggedFleet_creates_canary : taggedFleet.dryRun = false ∧
    ¬ PinsDigest taggedFleet.imageRef ∧
    Script.Reaches (taggedFleet.create exampleSettings) exampleCreate (.done ()) ∧
    .act (.create "seeder-2" "us-east1-b"
      { machineType := "e2-small"
        imageFamily := "cos-stable"
        imageProject := "cos-cloud"
        networkInterface := "network-tier=PREMIUM,address=192.0.2.2,stack-type=IPV4_ONLY"
        startupScript := "/tmp/rendered"
        tags := "seeder"
        serviceAccount := "seeder-vms"
        bootDiskSize := "20GB"
        labels := "zeeder-digest=" }) ∈ exampleCreate.map Sigma.fst ∧
    ¬ ReadsOnly exampleCreate := by
  refine ⟨rfl, taggedFleet_unpinned, ?_, by decide +kernel, ?_⟩
  · have hfollow :
        (Script.follow exampleCreateAnswer 20 [] (taggedFleet.create exampleSettings)).2 = .done () :=
      Script.eq_done_of_value? (by decide +kernel)
    exact hfollow ▸ Script.Reaches.start.follow exampleCreateAnswer 20
  · unfold ReadsOnly
    decide +kernel

end Fleet

end Zeeder.Deploy
