import Zeeder.Deploy.CommandLine
import Zeeder.Deploy.HostBoot

/-! # What VMs boot during a roll

A roll writes a rendered startup script into a VM's metadata and resets the VM; the VM runs whatever
script its metadata hold whenever it boots, which may be at any time, and may be stopped at any point
of it. So what runs on the fleet is decided by the roll's commands and the boots in between, in any
order.

* **`wp_roll_renders`** — a roll writes into a VM's metadata only what it has rendered for the pinned
  image, and is over only when that was done for every selected VM.
* **`rolled_hosts_cleared`** — at every moment, whatever boots, as long as the startup script alone
  creates `zeeder` containers: a VM's `zeeder` container was there at first, is of the image of its
  first script, or is of the pinned image; and then the roll had audited the fleet and verified the
  image, and every earlier VM had passed its gate.
* **`finished_roll_boots_pinned`** — once a roll is over, every selected VM that boots runs the pinned
  image. -/

namespace Zeeder.Deploy

open Foundation Foundation.StepSystem

/-! ## What is rendered and written -/

/-- What a file on the machine that rolls holds after a command: the startup script rendered for an
image, or something else. -/
def renderedAfter (file : String) (content : Option String) : FleetEvent → Option String
  | ⟨.mktemp, made⟩ => if made = file then none else content
  | ⟨.act (.awk imageRef _ rendered), (status : ℕ)⟩ =>
      if rendered = file then (if status = 0 then some imageRef else none) else content
  | ⟨.act (.rm removed), _⟩ => if removed = file then none else content
  | _ => content

/-- What the file holds after some commands. -/
def renderedIn (trace : List FleetEvent) (file : String) : Option String :=
  trace.foldl (renderedAfter file) none

/-- The VM whose startup script is written from a file, the file, and the exit status. -/
def writtenScript? : FleetEvent → Option (VmId × String × ℕ)
  | ⟨.act (.addMetadata name zone file), (status : ℕ)⟩ => some ((name, zone), file, status)
  | _ => none

/-- A command that renders a script worked. -/
def RenderingWorked : FleetEvent → Prop
  | ⟨.act (.awk _ _ _), (status : ℕ)⟩ => status = 0
  | _ => True

/-- All rendering of a trace worked. -/
def Rendering (trace : List FleetEvent) : Prop := ∀ event ∈ trace, RenderingWorked event

/-- Some command of a trace has written a VM's startup script. -/
def Written (trace : List FleetEvent) (id : VmId) : Prop :=
  ∃ event ∈ trace, ∃ file, writtenScript? event = some (id, file, 0)

/-- What a roll may write: a file that holds the script rendered for the pinned image, if rendering
works at all. -/
def Fleet.Renders (fleet : Fleet) (trace : List FleetEvent) (event : FleetEvent) : Prop :=
  ∀ id file status, writtenScript? event = some (id, file, status) → Rendering trace →
    renderedIn trace file = some fleet.imageRef

section Trace

variable {trace more : List FleetEvent} {id : VmId}

theorem Rendering.left (h : Rendering (trace ++ more)) : Rendering trace :=
  fun event hmem => h event (List.mem_append_left _ hmem)

theorem Written.append (h : Written trace id) : Written (trace ++ more) id := by
  obtain ⟨event, hmem, hfile⟩ := h
  exact ⟨event, List.mem_append_left _ hmem, hfile⟩

/-- A command that changes no VM writes no script. -/
theorem writtenScript?_of_mutatesVm {event : FleetEvent} (h : event.1.mutatesVm = false) :
    writtenScript? event = none := by
  unfold writtenScript?
  split
  · cases h
  · rfl

/-- The command that writes a script. -/
theorem changedVm?_of_writtenScript? {event : FleetEvent} {file : String} {status : ℕ}
    (h : writtenScript? event = some (id, file, status)) : changedVm? event = some id := by
  unfold writtenScript? at h
  split at h
  · cases h
    rfl
  · cases h

end Trace

/-! ## The roll writes what it has rendered -/

section Roll

open Script Fleet

variable {fleet : Fleet} {trace : List FleetEvent}

/-- What writes no script may be called. -/
theorem renders_of_none {event : FleetEvent} (h : writtenScript? event = none) :
    fleet.Renders trace event := by
  intro id file status hwritten
  rw [h] at hwritten
  cases hwritten

/-- A roll may read. -/
theorem allowsReads_renders : AllowsReads fleet.Renders :=
  fun _ _ hread => renders_of_none (writtenScript?_of_mutatesVm hread)

/-- The scripts of some VMs are written. -/
def AllWritten (vms : List Seeder) (trace : List FleetEvent) : Prop :=
  ∀ vm ∈ vms, Written trace vm.vmId

theorem AllWritten.append {vms : List Seeder} {more : List FleetEvent} (h : AllWritten vms trace) :
    AllWritten vms (trace ++ more) := fun vm hvm => (h vm hvm).append

/-- Waiting at the gate writes nothing. -/
theorem wp_gate_renders {vms : List Seeder} {ip : String} {Q : Unit → List FleetEvent → Prop}
    (h : AllWritten vms trace) (hQ : ∀ trace, AllWritten vms trace → Q () trace) :
    wp fleet.Renders (fleet.gate ip) Q trace := by
  refine wp_of_calls calls_gate ?_ h fun _ => hQ
  rintro trace cmd outcome hwaits hwritten
  refine ⟨renders_of_none (writtenScript?_of_mutatesVm ?_), hwritten.append⟩
  rcases hwaits with hread | ⟨time, rfl⟩
  · exact hread.mutatesVm
  · rfl

/-- **Rolling one VM** writes what was rendered just before, and then the VM's script is written. -/
theorem wp_rollVm_renders (hwet : fleet.dryRun = false) {before : List Seeder} {vm : Seeder}
    (h : AllWritten before trace) :
    wp fleet.Renders (fleet.rollVm vm) (fun _ => AllWritten (before ++ [vm])) trace := by
  rw [rollVm, wp_bind]
  refine wp_assign (wp_renderStartupScript (fun _ _ => renders_of_none rfl)
    (fun _ _ _ _ _ => renders_of_none rfl) fun rendered status => ?_)
  rw [wp_bind]
  refine wp_assign (wp_addr hwet (fun _ => renders_of_none rfl) fun rows ip _ => ?_)
  rw [wp_bind]
  refine wp_assign (wp_digestShort fun digest _ => ?_)
  rw [wp_bind]
  refine wp_runCmd hwet ?_ fun added => ?_
  · rintro added id file code hwritten hrendering
    cases hwritten
    have hworked : status = 0 :=
      hrendering ⟨.act (.awk fleet.imageRef fleet.template rendered), status⟩ (by simp)
    simp [renderedIn, List.foldl_append, renderedAfter, hworked]
  rw [wp_bind]
  refine wp_errexit fun hadded => ?_
  subst hadded
  have hwritten : AllWritten (before ++ [vm]) (trace ++ [⟨.mktemp, rendered⟩]
      ++ [⟨.act (.awk fleet.imageRef fleet.template rendered), status⟩] ++ [⟨.listAddresses, rows⟩]
      ++ [⟨.act (.addMetadata vm.name vm.zone rendered), (0 : ℕ)⟩]) := by
    intro other hother
    rcases List.mem_append.mp hother with hother | hlast
    · exact (h other hother).append.append.append.append
    · rw [List.mem_singleton.mp hlast]
      exact ⟨_, List.mem_append_right _ (List.mem_singleton_self _), rendered, rfl⟩
  rw [wp_bind]
  refine wp_runCmd hwet (fun _ => renders_of_none rfl) fun removed => ?_
  rw [wp_bind]
  refine wp_runCmd hwet (fun _ => renders_of_none rfl) fun reset => ?_
  rw [wp_bind]
  refine wp_errexit fun _ => ?_
  rw [wp_bind]
  refine wp_act (fun _ => renders_of_none rfl) fun cleaned => ?_
  rw [wp_bind]
  refine wp_errexit fun _ => ?_
  rw [wp_bind]
  refine wp_gate_renders hwritten.append.append.append fun trace hdone => ?_
  rw [wp_bind]
  exact wp_runCmd hwet (fun _ => renders_of_none rfl) fun _ => wp_errexit fun _ => hdone.append

/-- **A roll writes only what it has rendered**, and is over only when every selected VM's script is
written. The invariant is the VMs done. -/
theorem wp_roll_renders (hwet : fleet.dryRun = false) :
    wp fleet.Renders fleet.roll (fun _ => AllWritten fleet.selectedSeeders) [] := by
  refine wp_requireTools allowsReads_renders fun gcloud dig => ?_
  rw [wp_bind]
  refine wp_auditAll allowsReads_renders hwet fun reads _ _ _ => ?_
  rw [wp_bind]
  refine wp_verifyImage allowsReads_renders hwet fun found => ?_
  refine wp_eachSelected AllWritten (fun _ hvm => absurd hvm List.not_mem_nil) ?_ fun _ h => h
  intro before vm after trace _ hwritten
  exact wp_rollVm_renders hwet hwritten

end Roll

/-! ## Rolls and boots, interleaved -/

/-- A VM of the project. -/
structure Vm where
  /-- The image that its startup script was rendered for, if it is this script. -/
  script : Option String
  /-- Its host. -/
  host : Host

/-- A roll at some moment, and the VMs of the project. -/
structure RollingFleet where
  /-- The commands that were called. -/
  trace : List FleetEvent
  /-- What is left of the roll. -/
  rest : Shell Unit
  /-- The VMs. -/
  vms : VmId → Vm

/-- Something changes on a VM's host. -/
def RollingFleet.setHost (s : RollingFleet) (id : VmId) (host : Host) : RollingFleet :=
  { s with vms := Function.update s.vms id { s.vms id with host := host } }

/-- The VMs after a command: a script that is written is what the file holds. -/
def vmsAfter (trace : List FleetEvent) (vms : VmId → Vm) (event : FleetEvent) (applied : Bool) :
    VmId → Vm :=
  match writtenScript? event with
  | some (id, file, _) =>
      if applied then Function.update vms id { vms id with script := renderedIn trace file } else vms
  | none => vms

/-- What happens during a roll. -/
inductive RollEvent where
  /-- The roll's next command is answered; a command that fails may have been applied. -/
  | call (event : FleetEvent) (applied : Bool)
  /-- A VM boots. -/
  | boot (id : VmId) (boot : Boot)
  /-- Something else happens on a VM. -/
  | other (id : VmId) (host : Host)

/-- The steps; `others` says what else may happen on the host of a VM. -/
inductive RollStep (others : Vm → Host → Prop) : RollingFleet → RollEvent → RollingFleet → Prop
  /-- The roll goes on. -/
  | call {trace : List FleetEvent} {cmd : ShellCommand} {next : cmd.Outcome → Shell Unit}
      {vms : VmId → Vm} (outcome : cmd.Outcome) (applied : Bool)
      (happlied : ∀ id file, writtenScript? ⟨cmd, outcome⟩ = some (id, file, 0) → applied = true) :
      RollStep others ⟨trace, .call cmd next, vms⟩ (.call ⟨cmd, outcome⟩ applied)
        ⟨trace ++ [⟨cmd, outcome⟩], next outcome, vmsAfter trace vms ⟨cmd, outcome⟩ applied⟩
  /-- A VM boots, and runs the script that its metadata hold. -/
  | boot {s : RollingFleet} {id : VmId} {boot : Boot} {host : Host}
      (hscript : (s.vms id).script = some boot.image)
      (hboot : bootSystem.Step (s.vms id).host boot host) :
      RollStep others s (.boot id boot) (s.setHost id host)
  /-- Something else happens on its host. -/
  | other {s : RollingFleet} {id : VmId} {host : Host} (hother : others (s.vms id) host) :
      RollStep others s (.other id host) (s.setHost id host)

/-- A roll of a project with some VMs. -/
def rollSystem (others : Vm → Host → Prop) (fleet : Fleet) (vms : VmId → Vm) :
    StepSystem RollingFleet RollEvent where
  Init s := s = ⟨[], fleet.roll, vms⟩
  Step := RollStep others

/-- No `zeeder` container is created on a VM that has this startup script, so that the script alone
creates them. -/
def SparesZeeder (vm : Vm) (host : Host) : Prop :=
  vm.script = none ∨ ∀ container ∈ host.containers, container.spec.name = zeederContainer →
    ∃ old ∈ vm.host.containers, old.spec = container.spec

namespace Fleet

variable (fleet : Fleet)

/-- A VM may have got the pinned image: the fleet is audited, the image is verified, and every VM
before it has passed its gate. -/
structure Cleared (trace : List FleetEvent) (id : VmId) : Prop where
  /-- Everything is checked. -/
  preflight : fleet.Preflight trace
  /-- Every VM before it passed its gate. -/
  gates : ∃ k, (fleet.selectedSeeders.map Seeder.vmId)[k]? = some id ∧
    ∀ j < k, fleet.GatePassed trace j

/-- **What may run on a VM** that had the script for some image at first. -/
structure VmKept (trace : List FleetEvent) (id : VmId) (image : String) (first vm : Vm) : Prop where
  /-- Its script is the first one, or that of the pinned image. -/
  script : vm.script = some image ∨ vm.script = some fleet.imageRef ∧ fleet.Cleared trace id
  /-- Its `zeeder` container was there at first, or is of the image of one of these scripts. -/
  containers : ∀ container ∈ vm.host.containers, container.spec.name = zeederContainer →
    (∃ old ∈ first.host.containers, old.spec = container.spec) ∨
      container.spec = zeederSpec image ∨
      container.spec = zeederSpec fleet.imageRef ∧ fleet.Cleared trace id

variable {fleet} {trace more : List FleetEvent} {id : VmId} {image : String} {first vm : Vm}

theorem Cleared.append (h : fleet.Cleared trace id) : fleet.Cleared (trace ++ more) id where
  preflight := h.preflight.append
  gates := by
    obtain ⟨k, hk, hgates⟩ := h.gates
    exact ⟨k, hk, fun j hj => (hgates j hj).append⟩

theorem MayChange.cleared (h : fleet.MayChange trace id) : fleet.Cleared trace id :=
  ⟨h.preflight, _, h.turn, h.gates⟩

theorem VmKept.append (h : fleet.VmKept trace id image first vm) :
    fleet.VmKept (trace ++ more) id image first vm where
  script := h.script.imp_right fun ⟨hscript, hcleared⟩ => ⟨hscript, hcleared.append⟩
  containers container hmem hname := by
    rcases h.containers container hmem hname with hold | himage | ⟨hpinned, hcleared⟩
    · exact .inl hold
    · exact .inr (.inl himage)
    · exact .inr (.inr ⟨hpinned, hcleared.append⟩)

/-- A VM that is cleared gets the script of the pinned image. -/
theorem VmKept.write (h : fleet.VmKept trace id image first vm) (hcleared : fleet.Cleared trace id) :
    fleet.VmKept trace id image first { vm with script := some fleet.imageRef } where
  script := .inr ⟨rfl, hcleared⟩
  containers := h.containers

/-- A boot creates a container of the image of the VM's script. -/
theorem VmKept.boot {boot : Boot} {host : Host} (h : fleet.VmKept trace id image first vm)
    (hscript : vm.script = some boot.image) (hboot : bootSystem.Step vm.host boot host) :
    fleet.VmKept trace id image first { vm with host := host } where
  script := h.script
  containers container hmem hname := by
    rcases (leftBehind_of_step hboot).2.zeeder container hmem hname with hold | ⟨other, hother, hspec⟩
    · exact h.containers container hold hname
    · obtain rfl := List.mem_singleton.mp hother
      rcases h.script with hfirst | ⟨hpinned, hcleared⟩
      · obtain rfl : boot.image = image := Option.some.inj (hscript.symm.trans hfirst)
        exact .inr (.inl hspec)
      · have himage : boot.image = fleet.imageRef := Option.some.inj (hscript.symm.trans hpinned)
        exact .inr (.inr ⟨himage ▸ hspec, hcleared⟩)

/-- Whatever else happens creates none. -/
theorem VmKept.other {host : Host} (h : fleet.VmKept trace id image first vm)
    (hspares : SparesZeeder vm host) :
    fleet.VmKept trace id image first { vm with host := host } where
  script := h.script
  containers container hmem hname := by
    rcases hspares with hnone | hzeeder
    · rcases h.script with hscript | ⟨hscript, -⟩ <;> rw [hnone] at hscript <;> cases hscript
    · obtain ⟨old, hold, hspec⟩ := hzeeder container hmem hname
      have hkept := h.containers old hold (hspec ▸ hname)
      rwa [hspec] at hkept

end Fleet

/-- **The invariant** of a roll and the boots during it. -/
structure RollInv (others : Vm → Host → Prop) (fleet : Fleet) (vms : VmId → Vm) (s : RollingFleet) :
    Prop where
  /-- The roll is under way. -/
  reaches : Script.Reaches fleet.roll s.trace s.rest
  /-- What may run on each VM, if the startup script alone creates `zeeder` containers. -/
  kept : (∀ vm host, others vm host → SparesZeeder vm host) → Rendering s.trace →
    ∀ id image, (vms id).script = some image →
      fleet.VmKept s.trace id image (vms id) (s.vms id)
  /-- A script that was written is that of the pinned image. -/
  written : Rendering s.trace → ∀ id, Written s.trace id → (s.vms id).script = some fleet.imageRef

section Inv

variable {others : Vm → Host → Prop} {fleet : Fleet} {vms : VmId → Vm} {s t : RollingFleet}

/-- Only the host of one VM changes. -/
theorem RollInv.setHost {id : VmId} {host : Host} (h : RollInv others fleet vms s)
    (hkept : (∀ vm host, others vm host → SparesZeeder vm host) →
      ∀ image, fleet.VmKept s.trace id image (vms id) (s.vms id) →
        fleet.VmKept s.trace id image (vms id) { s.vms id with host := host }) :
    RollInv others fleet vms (s.setHost id host) where
  reaches := h.reaches
  kept hspares hrendering other image hscript := by
    have hother := h.kept hspares hrendering other image hscript
    unfold RollingFleet.setHost
    dsimp only
    by_cases heq : other = id
    · subst heq
      rw [Function.update_self]
      exact hkept hspares image hother
    · rwa [Function.update_of_ne heq]
  written hrendering other hwritten := by
    have hother := h.written hrendering other hwritten
    unfold RollingFleet.setHost
    dsimp only
    by_cases heq : other = id
    · subst heq
      rwa [Function.update_self]
    · rwa [Function.update_of_ne heq]

/-- The roll goes on: what it writes is the script of the pinned image, for a VM that is cleared. -/
theorem RollInv.call (hwet : fleet.dryRun = false) {trace : List FleetEvent} {cmd : ShellCommand}
    {next : cmd.Outcome → Shell Unit} {now : VmId → Vm} {outcome : cmd.Outcome} {applied : Bool}
    (happlied : ∀ id file, writtenScript? ⟨cmd, outcome⟩ = some (id, file, 0) → applied = true)
    (h : RollInv others fleet vms ⟨trace, .call cmd next, now⟩) :
    RollInv others fleet vms
      ⟨trace ++ [⟨cmd, outcome⟩], next outcome, vmsAfter trace now ⟨cmd, outcome⟩ applied⟩ := by
  have hreaches := h.reaches.step outcome
  have hallowed : fleet.Allowed trace ⟨cmd, outcome⟩ :=
    Script.allowed_of_reaches (Fleet.wp_roll hwet) hreaches rfl
  have hrenders : fleet.Renders trace ⟨cmd, outcome⟩ :=
    Script.allowed_of_reaches (wp_roll_renders hwet) hreaches rfl
  have hbefore {id : VmId} (hwritten : Written (trace ++ [⟨cmd, outcome⟩]) id) :
      Written trace id ∨ ∃ file, writtenScript? ⟨cmd, outcome⟩ = some (id, file, 0) := by
    obtain ⟨event, hmem, file, hevent⟩ := hwritten
    rcases List.mem_append.mp hmem with hmem | hlast
    · exact .inl ⟨event, hmem, file, hevent⟩
    · obtain rfl := List.mem_singleton.mp hlast
      exact .inr ⟨file, hevent⟩
  unfold vmsAfter
  cases hevent : writtenScript? ⟨cmd, outcome⟩ with
  | none =>
      refine ⟨hreaches, fun hspares hrendering id image hscript => ?_, fun hrendering id hwritten => ?_⟩
      · exact (h.kept hspares hrendering.left id image hscript).append
      · rcases hbefore hwritten with hwritten | ⟨file, hfile⟩
        · exact h.written hrendering.left id hwritten
        · rw [hevent] at hfile
          cases hfile
  | some write =>
      obtain ⟨target, file, status⟩ := write
      have hcleared := (hallowed.change target (changedVm?_of_writtenScript? hevent)).cleared
      cases applied with
      | false =>
          refine ⟨hreaches, fun hspares hrendering id image hscript => ?_,
            fun hrendering id hwritten => ?_⟩
          · exact (h.kept hspares hrendering.left id image hscript).append
          · rcases hbefore hwritten with hwritten | ⟨file, hfile⟩
            · exact h.written hrendering.left id hwritten
            · cases happlied id file hfile
      | true =>
          have hpinned (hrendering : Rendering (trace ++ [⟨cmd, outcome⟩])) :
              renderedIn trace file = some fleet.imageRef :=
            hrenders target file status hevent hrendering.left
          refine ⟨hreaches, fun hspares hrendering id image hscript => ?_,
            fun hrendering id hwritten => ?_⟩
          · have hkept := h.kept hspares hrendering.left id image hscript
            dsimp only
            rw [if_pos rfl]
            by_cases heq : id = target
            · subst heq
              rw [Function.update_self, hpinned hrendering]
              exact (hkept.write hcleared).append
            · rw [Function.update_of_ne heq]
              exact hkept.append
          · dsimp only
            rw [if_pos rfl]
            by_cases heq : id = target
            · subst heq
              rw [Function.update_self, hpinned hrendering]
            · rw [Function.update_of_ne heq]
              rcases hbefore hwritten with hwritten | ⟨other, hother⟩
              · exact h.written hrendering.left id hwritten
              · rw [hevent] at hother
                cases hother
                exact absurd rfl heq

/-- **One step keeps the invariant.** -/
theorem RollInv.step (hwet : fleet.dryRun = false) {event : RollEvent} (h : RollInv others fleet vms s)
    (hstep : RollStep others s event t) : RollInv others fleet vms t := by
  cases hstep with
  | call outcome applied happlied => exact h.call hwet happlied
  | boot hscript hboot => exact h.setHost fun _ image hkept => hkept.boot hscript hboot
  | other hother => exact h.setHost fun hspares image hkept => hkept.other (hspares _ _ hother)

/-- **Every run keeps it.** -/
theorem rollInv_of_reachable (hwet : fleet.dryRun = false)
    (hreachable : (rollSystem others fleet vms).Reachable s) : RollInv others fleet vms s := by
  refine hreachable.invariant ?_ fun s event t _ h hstep => h.step hwet hstep
  rintro s rfl
  refine ⟨.start, fun _ _ id image hscript => ?_, fun _ id hwritten => ?_⟩
  · exact ⟨.inl hscript, fun container hmem _ => .inl ⟨container, hmem, rfl⟩⟩
  · obtain ⟨event, hmem, -⟩ := hwritten
    exact absurd hmem List.not_mem_nil

end Inv

/-! ## A roll over two VMs, and a boot -/

/-- At most `n` more commands of a roll, each answered in a fixed way and applied. -/
def answered (answer : (cmd : ShellCommand) → cmd.Outcome) : ℕ → RollingFleet → RollingFleet
  | n + 1, ⟨trace, .call cmd next, vms⟩ =>
      answered answer n ⟨trace ++ [⟨cmd, answer cmd⟩], next (answer cmd),
        vmsAfter trace vms ⟨cmd, answer cmd⟩ true⟩
  | _, s => s

/-- They are steps, and their answers are those. -/
theorem reachable_answered {others : Vm → Host → Prop} {fleet : Fleet} {vms : VmId → Vm}
    {answer : (cmd : ShellCommand) → cmd.Outcome} {P : FleetEvent → Prop}
    (hanswer : ∀ cmd, P ⟨cmd, answer cmd⟩) (n : ℕ) {s : RollingFleet}
    (hreachable : (rollSystem others fleet vms).Reachable s) (htrace : ∀ event ∈ s.trace, P event) :
    (rollSystem others fleet vms).Reachable (answered answer n s) ∧
      ∀ event ∈ (answered answer n s).trace, P event := by
  induction n generalizing s with
  | zero => exact ⟨hreachable, htrace⟩
  | succ n ih =>
      obtain ⟨trace, rest, now⟩ := s
      cases rest with
      | done value => exact ⟨hreachable, htrace⟩
      | exit reason => exact ⟨hreachable, htrace⟩
      | call cmd next =>
          refine ih (hreachable.run (.single (.call (answer cmd) true fun _ _ _ => rfl))) ?_
          intro event hmem
          rcases List.mem_append.mp hmem with hmem | hlast
          · exact htrace event hmem
          · exact List.mem_singleton.mp hlast ▸ hanswer cmd

/-- VMs that have the script for an older image. -/
def exampleVms (_ : VmId) : Vm := ⟨some "zeeder:1", exampleHost⟩

/-- The last VM of the roll. -/
def lastVm : VmId := ("seeder-1", "us-central1-a")

/-- The roll of these VMs. -/
def exampleRolledFleet : RollingFleet :=
  answered Fleet.exampleAnswer 60 ⟨[], Fleet.exampleFleet.roll, exampleVms⟩

/-- And then its last VM has booted. -/
def exampleBootedFleet : RollingFleet :=
  exampleRolledFleet.setHost lastVm
    (bootOf true Fleet.exampleFleet.imageRef (exampleRolledFleet.vms lastVm).host).2

/-- Everything worked in this roll. -/
theorem exampleRolledFleet_reachable (others : Vm → Host → Prop) :
    (rollSystem others Fleet.exampleFleet exampleVms).Reachable exampleRolledFleet ∧
      Rendering exampleRolledFleet.trace := by
  have hworked (cmd : ShellCommand) : RenderingWorked ⟨cmd, Fleet.exampleAnswer cmd⟩ := by
    cases cmd with
    | act action => cases action <;> first | rfl | exact trivial
    | _ => exact trivial
  exact reachable_answered hworked 60 ⟨_, [], rfl, .nil⟩ fun _ hmem => absurd hmem List.not_mem_nil

/-- The boot of its last VM. -/
theorem exampleBootedFleet_step (others : Vm → Host → Prop) : ∃ boot, boot.ending = .done ∧
    RollStep others exampleRolledFleet (.boot lastVm boot) exampleBootedFleet := by
  have hdone : (bootOf true Fleet.exampleFleet.imageRef
      (exampleRolledFleet.vms lastVm).host).1 = .done := by decide +kernel
  have hscript : (exampleRolledFleet.vms lastVm).script = some Fleet.exampleFleet.imageRef := by
    decide +kernel
  have hboot := (exec_bootOf true Fleet.exampleFleet.imageRef
    (exampleRolledFleet.vms lastVm).host).mono fun _ _ _ _ hstep => hstep.1
  exact ⟨⟨true, false, Fleet.exampleFleet.imageRef, _⟩, hdone, .boot hscript hboot⟩

/-- **No VM runs an image before its turn.** At every moment of a roll that is no dry run, whatever
boots and wherever boots are stopped, as long as rendering works and the startup script alone creates
`zeeder` containers, on a VM that had the script for some image at first: a `zeeder` container of a VM was
there at first, is of the image of the VM's first script, or is of the pinned image; and then every
selected VM passed the audit, the image was verified, and every VM before it has passed its gate. -/
theorem rolled_hosts_cleared (fleet : Fleet) (hwet : fleet.dryRun = false) (vms : VmId → Vm)
    {s : RollingFleet} (hreachable : (rollSystem SparesZeeder fleet vms).Reachable s)
    (hrendering : Rendering s.trace) {id : VmId} {image : String}
    (hscript : (vms id).script = some image) {container : Container}
    (hmem : container ∈ (s.vms id).host.containers) (hname : container.spec.name = zeederContainer) :
    (∃ old ∈ (vms id).host.containers, old.spec = container.spec) ∨
      container.spec = zeederSpec image ∨
      container.spec = zeederSpec fleet.imageRef ∧ fleet.Cleared s.trace id :=
  ((rollInv_of_reachable hwet hreachable).kept (fun _ _ h => h) hrendering id image hscript).containers
    container hmem hname

/-- The last VM runs the pinned image, so the one before it has passed its gate. -/
theorem rolled_hosts_cleared_exampleFleet :
    Fleet.exampleFleet.Cleared exampleBootedFleet.trace lastVm := by
  obtain ⟨boot, -, hstep⟩ := exampleBootedFleet_step SparesZeeder
  obtain ⟨hreachable, hrendering⟩ := exampleRolledFleet_reachable SparesZeeder
  have hmem : ⟨zeederSpec Fleet.exampleFleet.imageRef, true⟩
      ∈ (exampleBootedFleet.vms lastVm).host.containers := by decide +kernel
  rcases rolled_hosts_cleared Fleet.exampleFleet rfl exampleVms (hreachable.run (.single hstep))
    hrendering rfl hmem rfl with ⟨old, hold, hspec⟩ | himage | ⟨-, hcleared⟩
  · have hother : ∀ old ∈ exampleHost.containers,
        old.spec ≠ zeederSpec Fleet.exampleFleet.imageRef := by decide +kernel
    exact absurd hspec (hother old hold)
  · have hother : zeederSpec Fleet.exampleFleet.imageRef ≠ zeederSpec "zeeder:1" := by
      decide +kernel
    exact absurd himage hother
  · exact hcleared

/-- **A finished roll reaches every selected VM.** Once a roll is over, whatever boots and whatever else
happens on the hosts: a selected VM that boots boots for the pinned image, and when the boot is over it
serves that image. -/
theorem finished_roll_boots_pinned (others : Vm → Host → Prop) (fleet : Fleet)
    (hwet : fleet.dryRun = false) (vms : VmId → Vm) {s t : RollingFleet}
    (hreachable : (rollSystem others fleet vms).Reachable s)
    (hrendering : Rendering s.trace) (hdone : s.rest = .done ()) {vm : Seeder}
    (hvm : vm ∈ fleet.selectedSeeders) {boot : Boot} (hboot : RollStep others s (.boot vm.vmId boot) t) :
    boot.image = fleet.imageRef ∧
      (boot.ending = .done → Serves fleet.imageRef (t.vms vm.vmId).host) := by
  have hinv := rollInv_of_reachable hwet hreachable
  have hwritten : AllWritten fleet.selectedSeeders s.trace := by
    have hpost := Script.wp_of_reaches (wp_roll_renders hwet) hinv.reaches
    rw [hdone] at hpost
    exact hpost
  have hpinned := hinv.written hrendering vm.vmId (hwritten vm hvm)
  cases hboot with
  | boot hscript hstep =>
      have himage : boot.image = fleet.imageRef := Option.some.inj (hscript.symm.trans hpinned)
      refine ⟨himage, fun hended => ?_⟩
      unfold RollingFleet.setHost
      dsimp only
      rw [Function.update_self, ← himage]
      exact (booted_of_step hstep hended).serves

/-- Its last VM serves the pinned image. -/
theorem finished_roll_boots_pinned_exampleFleet :
    Serves Fleet.exampleFleet.imageRef (exampleBootedFleet.vms lastVm).host := by
  obtain ⟨boot, hended, hstep⟩ := exampleBootedFleet_step fun _ _ => True
  obtain ⟨hreachable, hrendering⟩ := exampleRolledFleet_reachable fun _ _ => True
  have hrest : exampleRolledFleet.rest = .done () := Script.eq_done_of_value? (by decide +kernel)
  have hvm : ⟨"seeder-1", "us-central1-a", "us-central1", "ns1"⟩
      ∈ Fleet.exampleFleet.selectedSeeders := by decide +kernel
  exact (finished_roll_boots_pinned _ Fleet.exampleFleet rfl exampleVms hreachable hrendering hrest hvm
    hstep).2 hended

end Zeeder.Deploy
