import Zeeder.Foundation.StepSystem
import Zeeder.Crawl.ActivationGate
import Zeeder.Crawl.ActivationRecord

/-! # Durable before raised

The memory, the disk and the control point of one network's seeder, as a step system: a process
starts (reading the record, then creating the tip), sweeps, persists, confirms and may crash between
any two steps; an operator may attest at any time. `persist_confirmation` takes two steps, so that a
crash can fall between the rename and the return; `confirm_activation` takes two, so that clones of
the tip can interleave their checks and replacements. The observer calls it only after its own
`persist_confirmation` returned `Ok`, and no other code calls it, so the check is enabled in a
process that persisted (or loaded) the record, for any clone and any number of times.

* **`Inv`** — the invariant: whoever may raise the tip, or has, finds the record on disk.
* **`raised_holdsRecord`** — a tip at the activation height has its record on disk.
* **`height_le_of_run`** — the tip height does not drop within a process, nor across restarts whose
  read of the record succeeds.
* **`durableBeforeRaised`** — these and the case in which nothing is ever written, assembled. -/

namespace Zeeder.Crawl

open Foundation Foundation.StepSystem

/-- The observer's control point. -/
inductive ObserverPhase where
  /-- Waiting for or running a sweep. -/
  | observing
  /-- `persist_confirmation` was called and has not yet touched the file. -/
  | writing
  /-- `atomic_write` is over; `persist_confirmation` is about to return this result. -/
  | returning (result : Except IoError Unit)
  /-- `persist_confirmation` returned `Ok`. -/
  | confirming
  /-- The loop is over. -/
  | finished

/-- A running seeder process, as far as one network's activation is concerned. -/
structure Process where
  /-- The shared chain tip. -/
  tip : SeederChainTip
  /-- The observer's gate. -/
  gate : ActivationGate
  /-- The observer's control point. -/
  phase : ObserverPhase
  /-- Whether this process loaded the record or had `persist_confirmation` return `Ok`. -/
  durable : Bool
  /-- How many clones are past `confirm_activation`'s check and not yet past its replacement. -/
  pendingRaises : ℕ

/-- The life of the process. -/
inductive ProcessState where
  /-- No process is running. -/
  | down
  /-- Starting: `load_confirmation` has answered. -/
  | loaded (confirmed : Bool)
  /-- Running. -/
  | up (process : Process)

/-- The files and the process. -/
structure DurabilityState where
  /-- The files. -/
  fs : FileSystem
  /-- The process. -/
  process : ProcessState

/-- The steps of the system. -/
inductive DurabilityLabel where
  /-- A process starts and calls `load_confirmation`; the read may fail. -/
  | load (fault : Option IoError)
  /-- `SeederChainTip::new`, and the observer task starts. -/
  | boot
  /-- The observer completes a sweep. -/
  | sweep (evidence : SweepEvidence)
  /-- `atomic_write` runs to its end inside `persist_confirmation`. -/
  | write (outcome : WriteOutcome)
  /-- `persist_confirmation` returns. -/
  | writeReturn
  /-- Some clone of the tip enters `confirm_activation` and checks the height. -/
  | confirmCheck
  /-- Some clone past the check replaces the height. -/
  | confirmReplace
  /-- The observer leaves its loop. -/
  | leave
  /-- Another process attests. -/
  | attest (cacheDir : CacheDir) (activationHeight confirmationHeight minimumVersion : UInt32)
      (outcome : WriteOutcome)
  /-- The process dies. -/
  | crash

/-- The step reads the record without an I/O error, if it reads at all. -/
def DurabilityLabel.ReadsFaultlessly : DurabilityLabel → Prop
  | .load fault => fault = none
  | _ => True

/-- The step does not replace a file. -/
def DurabilityLabel.InstallsNothing : DurabilityLabel → Prop
  | .write outcome => outcome.installs = false
  | .attest _ _ _ _ outcome => outcome.installs = false
  | _ => True

/-- The step reports an error, if it writes at all. -/
def DurabilityLabel.ReportsFailure : DurabilityLabel → Prop
  | .write outcome => outcome.result ≠ .ok ()
  | .attest _ _ _ _ outcome => outcome.result ≠ .ok ()
  | _ => True

section System

variable (network : Network) (cacheDir : CacheDir)

/-- A process that has just started its observer on the given tip. -/
def bootProcess (confirmed : Bool) : Process :=
  let tip := SeederChainTip.new (.latest network) confirmed
  { tip := tip
    gate := .default
    phase := if tip.isActivationConfirmed then .finished else .observing
    durable := confirmed
    pendingRaises := 0 }

/-- The process after a completed sweep: a confirming gate leads to `persist_confirmation`. -/
def afterSweep (process : Process) (evidence : SweepEvidence) : Process :=
  let (gate, confirmed) := process.gate.observe evidence
  { process with gate := gate, phase := if confirmed then .writing else .observing }

/-- The process once its write is over. -/
def afterWrite (process : Process) (result : Except IoError Unit) : Process :=
  { process with phase := .returning result }

/-- The process after `persist_confirmation` returned. -/
def afterReturn (process : Process) : Except IoError Unit → Process
  | .ok () => { process with phase := .confirming, durable := true }
  | .error _ => { process with phase := .observing }

/-- The process after some clone's check in `confirm_activation`. -/
def afterCheck (process : Process) : Process :=
  { process with
    pendingRaises := process.pendingRaises + if process.tip.needsRaise then 1 else 0 }

/-- The process after some clone's replacement in `confirm_activation`. -/
def afterReplace (process : Process) : Process :=
  { process with tip := process.tip.raise, pendingRaises := process.pendingRaises - 1 }

/-- The process once the observer left its loop. -/
def afterLeave (process : Process) : Process := { process with phase := .finished }

/-- One step of the system. -/
inductive DurabilityStep : DurabilityState → DurabilityLabel → DurabilityState → Prop
  /-- `load_confirmation` in a starting process. -/
  | load (fs : FileSystem) (fault : Option IoError) :
      DurabilityStep ⟨fs, .down⟩ (.load fault)
        ⟨fs, .loaded (loadConfirmation fs (confirmationPath cacheDir network) (.latest network) fault)⟩
  /-- The tip is created from what was loaded. -/
  | boot (fs : FileSystem) (confirmed : Bool) :
      DurabilityStep ⟨fs, .loaded confirmed⟩ .boot ⟨fs, .up (bootProcess network confirmed)⟩
  /-- A sweep feeds the gate. -/
  | sweep (fs : FileSystem) (process : Process) (evidence : SweepEvidence)
      (hphase : process.phase = .observing) :
      DurabilityStep ⟨fs, .up process⟩ (.sweep evidence) ⟨fs, .up (afterSweep process evidence)⟩
  /-- The write happens, or fails, inside `persist_confirmation`. -/
  | write (fs : FileSystem) (process : Process) (outcome : WriteOutcome)
      (hphase : process.phase = .writing) :
      DurabilityStep ⟨fs, .up process⟩ (.write outcome)
        ⟨(persistConfirmation fs (confirmationPath cacheDir network) (.latest network) outcome).1,
          .up (afterWrite process (persistConfirmation fs (confirmationPath cacheDir network)
            (.latest network) outcome).2)⟩
  /-- `persist_confirmation` returns its result to the loop. -/
  | writeReturn (fs : FileSystem) (process : Process) (result : Except IoError Unit)
      (hphase : process.phase = .returning result) :
      DurabilityStep ⟨fs, .up process⟩ .writeReturn ⟨fs, .up (afterReturn process result)⟩
  /-- A clone checks whether the tip needs raising. -/
  | confirmCheck (fs : FileSystem) (process : Process) (hdurable : process.durable = true) :
      DurabilityStep ⟨fs, .up process⟩ .confirmCheck ⟨fs, .up (afterCheck process)⟩
  /-- A clone past the check raises the tip. -/
  | confirmReplace (fs : FileSystem) (process : Process) (hpending : 0 < process.pendingRaises) :
      DurabilityStep ⟨fs, .up process⟩ .confirmReplace ⟨fs, .up (afterReplace process)⟩
  /-- The loop ends after its confirmation. -/
  | leave (fs : FileSystem) (process : Process) (hphase : process.phase = .confirming) :
      DurabilityStep ⟨fs, .up process⟩ .leave ⟨fs, .up (afterLeave process)⟩
  /-- An operator attests, whether or not a seeder is running. -/
  | attest (s : DurabilityState) (dir : CacheDir)
      (activationHeight confirmationHeight minimumVersion : UInt32) (outcome : WriteOutcome) :
      DurabilityStep s
        (.attest dir activationHeight confirmationHeight minimumVersion outcome)
        ⟨(attestConfirmation s.fs dir network activationHeight confirmationHeight minimumVersion
          outcome).1, s.process⟩
  /-- The process dies wherever it is. -/
  | crash (s : DurabilityState) : DurabilityStep s .crash ⟨s.fs, .down⟩

/-- The system starts with any files and no process. -/
def durabilitySystem : StepSystem DurabilityState DurabilityLabel where
  Init s := s.process = .down
  Step := DurabilityStep network cacheDir

/-- The record file of the system holds the compiled target's record. -/
def RecordOnDisk (s : DurabilityState) : Prop :=
  HoldsRecord s.fs (confirmationPath cacheDir network) (.latest network)

end System

/-! ## What a step does to the record -/

section Invariant

variable {network : Network} {cacheDir : CacheDir}

/-- A persist, whatever its outcome, keeps a record that is already on disk. -/
theorem HoldsRecord.persistConfirmation {fs : FileSystem} {path : Option PathBuf}
    {target : ActivationTarget} (h : HoldsRecord fs path target) (outcome : WriteOutcome) :
    HoldsRecord (persistConfirmation fs path target outcome).1 path target := by
  cases path with
  | none => exact h
  | some file => exact h.atomicWrite file outcome

/-- An attestation of the same target, to whatever directory, keeps the record. -/
theorem HoldsRecord.attestConfirmation {fs : FileSystem} {path : Option PathBuf}
    (h : HoldsRecord fs path (.latest network)) (dir : CacheDir)
    (activationHeight confirmationHeight minimumVersion : UInt32) (outcome : WriteOutcome) :
    HoldsRecord (attestConfirmation fs dir network activationHeight confirmationHeight
      minimumVersion outcome).1 path (.latest network) := by
  rcases attestConfirmation_fs fs dir network activationHeight confirmationHeight minimumVersion
    outcome with heq | ⟨file, -, heq⟩
  · rw [heq]; exact h
  · rw [heq]; exact h.atomicWrite file outcome

/-- **The record is never lost**: no step removes it. -/
theorem recordOnDisk_step {s t : DurabilityState} {l : DurabilityLabel}
    (hstep : (durabilitySystem network cacheDir).Step s l t) (h : RecordOnDisk network cacheDir s) :
    RecordOnDisk network cacheDir t := by
  cases hstep with
  | write fs process outcome _ => exact HoldsRecord.persistConfirmation h outcome
  | attest s dir a c v outcome => exact HoldsRecord.attestConfirmation h dir a c v outcome
  | _ => exact h

/-- A step that installs nothing leaves the files as they are. -/
theorem fs_step_of_installsNothing {s t : DurabilityState} {l : DurabilityLabel}
    (hstep : (durabilitySystem network cacheDir).Step s l t) (hl : l.InstallsNothing) :
    t.fs = s.fs := by
  cases hstep with
  | write fs process outcome _ =>
      cases hpath : confirmationPath cacheDir network with
      | none => rfl
      | some file => exact if_neg (Bool.eq_false_iff.mp hl)
  | attest s dir a c v outcome =>
      rcases attestConfirmation_fs s.fs dir network a c v outcome with heq | ⟨file, -, heq⟩
      · exact heq
      · exact heq.trans (if_neg (Bool.eq_false_iff.mp hl))
  | _ => rfl

/-! ## The invariant -/

/-- The invariant of a running process: its tip is at one of the two compiled heights, and whoever
may raise the tip, or has, finds the record on disk. -/
structure ProcessInv (network : Network) (onDisk : Prop) (process : Process) : Prop where
  /-- The tip is the compiled target's. -/
  activationHeight : process.tip.activationHeight = (ActivationTarget.latest network).activationHeight
  /-- The tip is at the pre-activation height or at the activation height. -/
  height : process.tip.height = (ActivationTarget.latest network).preActivationHeight ∨
    process.tip.height = (ActivationTarget.latest network).activationHeight
  /-- What the process takes to be durable is on disk. -/
  durable : process.durable = true → onDisk
  /-- A successful write is on disk before it is reported. -/
  returning : process.phase = .returning (.ok ()) → onDisk
  /-- Only a durable record lets a clone past the check. -/
  pending : 0 < process.pendingRaises → process.durable = true
  /-- Only a durable record raises the tip. -/
  raised : (ActivationTarget.latest network).activationHeight ≤ process.tip.height →
    process.durable = true

/-- The invariant of the system. -/
def Inv (network : Network) (cacheDir : CacheDir) (s : DurabilityState) : Prop :=
  match s.process with
  | .down => True
  | .loaded confirmed => confirmed = true → RecordOnDisk network cacheDir s
  | .up process => ProcessInv network (RecordOnDisk network cacheDir s) process

/-- The invariant of a process survives any change of the files that keeps the record. -/
theorem ProcessInv.mono {onDisk onDisk' : Prop} {process : Process}
    (h : ProcessInv network onDisk process) (himp : onDisk → onDisk') :
    ProcessInv network onDisk' process :=
  { h with
    durable := fun hd => himp (h.durable hd)
    returning := fun hr => himp (h.returning hr) }

/-- A freshly booted process satisfies the invariant. -/
theorem processInv_boot {onDisk : Prop} {confirmed : Bool}
    (hpos : 0 < network.latestActivationHeight.val.toNat) (h : confirmed = true → onDisk) :
    ProcessInv network onDisk (bootProcess network confirmed) where
  activationHeight := rfl
  height := by cases confirmed; exacts [Or.inl rfl, Or.inr rfl]
  durable := h
  returning hphase := by
    simp only [bootProcess] at hphase
    split at hphase <;> cases hphase
  pending hpending := absurd hpending (lt_irrefl 0)
  raised hraised := by
    cases confirmed with
    | true => rfl
    | false =>
        -- an unconfirmed start is strictly below the activation
        exact absurd hraised (not_le.mpr (latest_preActivation_lt network hpos))

/-- A sweep changes nothing the invariant speaks about. -/
theorem processInv_afterSweep {onDisk : Prop} {process : Process}
    (h : ProcessInv network onDisk process) (evidence : SweepEvidence) :
    ProcessInv network onDisk (afterSweep process evidence) where
  activationHeight := h.activationHeight
  height := h.height
  durable := h.durable
  returning hphase := by
    simp only [afterSweep] at hphase
    split at hphase <;> cases hphase
  pending := h.pending
  raised := h.raised

/-- A write keeps the invariant when reporting `Ok` means that the record is on disk. -/
theorem processInv_afterWrite {onDisk : Prop} {process : Process} {result : Except IoError Unit}
    (h : ProcessInv network onDisk process) (hresult : result = .ok () → onDisk) :
    ProcessInv network onDisk (afterWrite process result) :=
  { h with returning := fun hphase => hresult (ObserverPhase.returning.inj hphase) }

/-- Replacing the height keeps the invariant: the clone's check was made on a durable record. -/
theorem processInv_afterReplace {onDisk : Prop} {process : Process}
    (h : ProcessInv network onDisk process) (hpending : 0 < process.pendingRaises) :
    ProcessInv network onDisk (afterReplace process) :=
  { h with
    height := Or.inr h.activationHeight
    pending := fun _ => h.pending hpending
    raised := fun _ => h.pending hpending }

/-- Returning from `persist_confirmation` keeps the invariant: `Ok` is reported only once the file
holds the record. -/
theorem processInv_afterReturn {onDisk : Prop} {process : Process} {result : Except IoError Unit}
    (h : ProcessInv network onDisk process) (hphase : process.phase = .returning result) :
    ProcessInv network onDisk (afterReturn process result) := by
  match result with
  | .ok () =>
      exact
        { activationHeight := h.activationHeight
          height := h.height
          durable := fun _ => h.returning hphase
          returning := by rintro ⟨⟩
          pending := fun _ => rfl
          raised := fun _ => rfl }
  | .error _ =>
      exact { h with returning := by rintro ⟨⟩ }

/-- **Every step keeps the invariant.** -/
theorem inv_step (hpos : 0 < network.latestActivationHeight.val.toNat) {s t : DurabilityState}
    {l : DurabilityLabel} (h : Inv network cacheDir s)
    (hstep : (durabilitySystem network cacheDir).Step s l t) : Inv network cacheDir t := by
  have hkeep := recordOnDisk_step hstep
  cases hstep with
  | load fs fault => exact fun hconfirmed => holdsRecord_of_loadConfirmation hconfirmed
  | boot fs confirmed => exact processInv_boot hpos h
  | sweep fs process evidence hphase => exact processInv_afterSweep h evidence
  | write fs process outcome hphase =>
      -- a result of `Ok` is reported only by a write that was installed
      exact processInv_afterWrite (h.mono hkeep) fun hok => holdsRecord_persistConfirmation hok
  | writeReturn fs process result hphase => exact processInv_afterReturn h hphase
  | confirmCheck fs process hdurable => exact { h with pending := fun _ => hdurable }
  | confirmReplace fs process hpending => exact processInv_afterReplace h hpending
  | leave fs process hphase => exact { h with returning := by rintro ⟨⟩ }
  | attest s dir a c v outcome =>
      -- another process writes, and writes the same record or nothing
      unfold Inv at h ⊢
      dsimp only
      split
      · trivial
      · next hloaded => rw [hloaded] at h; exact fun hc => hkeep (h hc)
      · next hup => rw [hup] at h; exact h.mono hkeep
  | crash s => trivial

/-- The invariant holds in every reachable state. -/
theorem inv_of_reachable (hpos : 0 < network.latestActivationHeight.val.toNat)
    {s : DurabilityState} (h : (durabilitySystem network cacheDir).Reachable s) :
    Inv network cacheDir s := by
  refine Reachable.invariant (fun s hinit => ?_) (fun s l t _ hs hstep => inv_step hpos hs hstep) h
  have hdown : s.process = .down := hinit
  unfold Inv
  rw [hdown]
  trivial

/-! ## Consequences -/

/-- The invariant of a running process in a reachable state. -/
theorem processInv_of_reachable (hpos : 0 < network.latestActivationHeight.val.toNat)
    {s : DurabilityState} {process : Process}
    (h : (durabilitySystem network cacheDir).Reachable s) (hup : s.process = .up process) :
    ProcessInv network (RecordOnDisk network cacheDir s) process := by
  have hinv := inv_of_reachable hpos h
  unfold Inv at hinv
  rwa [hup] at hinv

/-- **Durable before raised**: a tip at or above the activation height has its record on disk. -/
theorem raised_holdsRecord (hpos : 0 < network.latestActivationHeight.val.toNat)
    {s : DurabilityState} {process : Process}
    (h : (durabilitySystem network cacheDir).Reachable s) (hup : s.process = .up process)
    (hraised : (ActivationTarget.latest network).activationHeight ≤ process.tip.height) :
    RecordOnDisk network cacheDir s := by
  have hinv := processInv_of_reachable hpos h hup
  exact hinv.durable (hinv.raised hraised)

/-- Every running process is at least at the pre-activation height. -/
theorem preActivation_le_height (hpos : 0 < network.latestActivationHeight.val.toNat)
    {s : DurabilityState} {process : Process}
    (h : (durabilitySystem network cacheDir).Reachable s) (hup : s.process = .up process) :
    (ActivationTarget.latest network).preActivationHeight ≤ process.tip.height := by
  rcases (processInv_of_reachable hpos h hup).height with heq | heq
  · exact heq.ge
  · exact heq ▸ (latest_preActivation_lt network hpos).le

/-- A raised tip stays raised: the record is on disk, and so is every later start's answer. -/
def StaysRaised (network : Network) (cacheDir : CacheDir) (s : DurabilityState) : Prop :=
  RecordOnDisk network cacheDir s ∧
    match s.process with
    | .down => True
    | .loaded confirmed => confirmed = true
    | .up process =>
        process.tip.activationHeight = (ActivationTarget.latest network).activationHeight ∧
          (ActivationTarget.latest network).activationHeight ≤ process.tip.height

/-- Every step whose read, if any, succeeds keeps a raised tip raised. -/
theorem staysRaised_step {s t : DurabilityState} {l : DurabilityLabel}
    (hl : l.ReadsFaultlessly) (h : StaysRaised network cacheDir s)
    (hstep : (durabilitySystem network cacheDir).Step s l t) : StaysRaised network cacheDir t := by
  refine ⟨recordOnDisk_step hstep h.1, ?_⟩
  cases hstep with
  | load fs fault =>
      -- the read succeeds and finds the record
      obtain rfl : fault = none := hl
      exact (loadConfirmation_eq_true_iff _ _ _).mpr h.1
  | boot fs confirmed =>
      obtain rfl : confirmed = true := h.2
      exact ⟨rfl, le_rfl⟩
  | writeReturn fs process result _ =>
      match result with
      | .ok () => exact h.2
      | .error _ => exact h.2
  | confirmReplace fs process _ => exact ⟨h.2.1, h.2.1.ge⟩
  | crash s => trivial
  | _ => exact h.2

/-- **The tip height does not drop** between two running states of a run, be it one process or
several, provided every read of the record in between succeeds. -/
theorem height_le_of_run (hpos : 0 < network.latestActivationHeight.val.toNat)
    {s t : DurabilityState} {ls : List DurabilityLabel} {p q : Process}
    (hs : (durabilitySystem network cacheDir).Reachable s)
    (hrun : (durabilitySystem network cacheDir).Run s ls t)
    (hls : ∀ l ∈ ls, l.ReadsFaultlessly) (hp : s.process = .up p) (hq : t.process = .up q) :
    p.tip.height ≤ q.tip.height := by
  have hinv := processInv_of_reachable hpos hs hp
  rcases hinv.height with hpre | hact
  · -- not raised yet: nothing is below the pre-activation height
    rw [hpre]
    exact preActivation_le_height hpos (hs.run hrun) hq
  · -- raised: the record is on disk, so every restart finds it
    have hraised : StaysRaised network cacheDir s := by
      refine ⟨raised_holdsRecord hpos hs hp hact.ge, ?_⟩
      rw [hp]
      exact ⟨hinv.activationHeight, hact.ge⟩
    have hend := hrun.preserves (fun _ _ _ hl h hstep => staysRaised_step hl h hstep) hls hraised
    have hend := hend.2
    rw [hq] at hend
    rw [hact]
    exact hend.2

/-- A run without a crash, from a running process, stays in that process. -/
theorem up_of_run_without_crash {s t : DurabilityState} {ls : List DurabilityLabel} {p : Process}
    (hrun : (durabilitySystem network cacheDir).Run s ls t) (hls : .crash ∉ ls)
    (hp : s.process = .up p) : (∀ l ∈ ls, l.ReadsFaultlessly) ∧ ∃ q, t.process = .up q := by
  induction hrun with
  | nil => exact ⟨by simp, p, hp⟩
  | @snoc t u ls l hprev hstep ih =>
      rw [List.mem_append, not_or] at hls
      obtain ⟨hreads, q, hq⟩ := ih hls.1
      have hcrash : l ≠ .crash := fun h => hls.2 (h ▸ List.mem_singleton_self _)
      have key : l.ReadsFaultlessly ∧ ∃ q, u.process = .up q := by
        -- only a crash leaves the running process, so no step starts a new one
        cases hstep with
        | load fs fault => cases hq
        | boot fs confirmed => cases hq
        | crash s => exact absurd rfl hcrash
        | attest s dir a c v outcome => exact ⟨trivial, q, hq⟩
        | _ => exact ⟨trivial, _, rfl⟩
      refine ⟨fun l' hl' => ?_, key.2⟩
      rcases List.mem_append.mp hl' with hl' | hl'
      · exact hreads l' hl'
      · rw [List.mem_singleton.mp hl']; exact key.1

/-- With no record on disk a running process is at the pre-activation height. -/
theorem height_eq_of_not_recordOnDisk (hpos : 0 < network.latestActivationHeight.val.toNat)
    {s : DurabilityState} {process : Process}
    (h : (durabilitySystem network cacheDir).Reachable s) (hup : s.process = .up process)
    (hnone : ¬ RecordOnDisk network cacheDir s) :
    process.tip.height = (ActivationTarget.latest network).preActivationHeight := by
  rcases (processInv_of_reachable hpos h hup).height with heq | heq
  · exact heq
  · exact absurd (raised_holdsRecord hpos h hup heq.ge) hnone

end Invariant

/-- **Durable before raised, and monotone across restarts.** For an activation height of at least
`1`: a tip at or above it has exactly its record on disk; the tip height does not drop within a
process, nor across restarts whose read of the record does not fail with an I/O error; a record on
disk is never lost; and a run that begins without the record and in which the cache is disabled or
nothing is ever installed keeps every process at the pre-activation height. -/
theorem durableBeforeRaised (network : Network) (cacheDir : CacheDir)
    (hpos : 0 < network.latestActivationHeight.val.toNat) :
    (∀ s p, (durabilitySystem network cacheDir).Reachable s → s.process = .up p →
      (ActivationTarget.latest network).activationHeight ≤ p.tip.height →
      RecordOnDisk network cacheDir s) ∧
    (∀ s t ls p q, (durabilitySystem network cacheDir).Reachable s →
      (durabilitySystem network cacheDir).Run s ls t → .crash ∉ ls →
      s.process = .up p → t.process = .up q → p.tip.height ≤ q.tip.height) ∧
    (∀ s t ls p q, (durabilitySystem network cacheDir).Reachable s →
      (durabilitySystem network cacheDir).Run s ls t → (∀ l ∈ ls, l.ReadsFaultlessly) →
      s.process = .up p → t.process = .up q → p.tip.height ≤ q.tip.height) ∧
    (∀ s t ls, (durabilitySystem network cacheDir).Run s ls t →
      RecordOnDisk network cacheDir s → RecordOnDisk network cacheDir t) ∧
    (∀ s t ls p, (durabilitySystem network cacheDir).Init s →
      (durabilitySystem network cacheDir).Run s ls t → ¬ RecordOnDisk network cacheDir s →
      (cacheDir.cacheDir = none ∨ ∀ l ∈ ls, l.InstallsNothing) → t.process = .up p →
      p.tip.height = (ActivationTarget.latest network).preActivationHeight) := by
  refine ⟨fun s p hs hp h => raised_holdsRecord hpos hs hp h, ?_, ?_, ?_, ?_⟩
  · intro s t ls p q hs hrun hcrash hp hq
    exact height_le_of_run hpos hs hrun (up_of_run_without_crash hrun hcrash hp).1 hp hq
  · intro s t ls p q hs hrun hls hp hq
    exact height_le_of_run hpos hs hrun hls hp hq
  · intro s t ls hrun h
    exact hrun.preserves (A := fun _ => True) (fun _ _ _ _ h hstep => recordOnDisk_step hstep h)
      (fun _ _ => trivial) h
  · intro s t ls p hinit hrun hnone hquiet hp
    refine height_eq_of_not_recordOnDisk hpos ⟨s, ls, hinit, hrun⟩ hp ?_
    rcases hquiet with hdisabled | hls
    · -- a disabled cache has no record file at all
      rintro ⟨file, hfile, -⟩
      rw [confirmationPath, hdisabled] at hfile
      cases hfile
    · have hfs : t.fs = s.fs := hrun.preserves (P := fun u => u.fs = s.fs)
        (fun _ _ _ hl h hstep => (fs_step_of_installsNothing hstep hl).trans h) hls rfl
      unfold RecordOnDisk at hnone ⊢
      rwa [hfs]

/-! ## Example runs -/

/-- The example network's seeder with its cache at `cache`. -/
abbrev exampleSystem : StepSystem DurabilityState DurabilityLabel :=
  durabilitySystem exampleNetwork ⟨some ["cache"]⟩

/-- The files of a disk that already holds the example network's record. -/
def recordedFs : FileSystem :=
  Function.update (fun _ => none) ["cache", "network", "mainnet.activation"]
    (some (ActivationTarget.latest exampleNetwork).recordBytes)

/-- A process that starts on a recorded disk is up at the activation height. -/
theorem run_recordedFs_up :
    exampleSystem.Run ⟨recordedFs, .down⟩ [.load none, .boot]
      ⟨recordedFs, .up (bootProcess exampleNetwork true)⟩ := by
  have hload : loadConfirmation recordedFs (confirmationPath ⟨some ["cache"]⟩ exampleNetwork)
      (.latest exampleNetwork) none = true :=
    (loadConfirmation_eq_true_iff _ _ _).mpr ⟨_, rfl, Function.update_self ..⟩
  have h := Run.snoc (M := exampleSystem) (Run.single (DurabilityStep.load recordedFs none))
    (DurabilityStep.boot _ _)
  rwa [hload] at h

/-- A crash of that process and a restart whose read fails bring the tip back below. -/
theorem run_failed_read :
    exampleSystem.Run ⟨recordedFs, .up (bootProcess exampleNetwork true)⟩
      [.crash, .load (some ⟨.other, "Input/output error"⟩), .boot]
      ⟨recordedFs, .up (bootProcess exampleNetwork false)⟩ :=
  Run.snoc (M := exampleSystem)
    (Run.snoc (Run.single (DurabilityStep.crash ⟨recordedFs, .up (bootProcess exampleNetwork true)⟩))
      (DurabilityStep.load recordedFs _))
    (DurabilityStep.boot _ _)

/-- **A failed read at a restart lowers the tip**: without a condition on the reads, the tip height
is not monotone across restarts. -/
theorem height_drops_after_failed_read :
    ¬ ∀ s t ls p q, exampleSystem.Reachable s → exampleSystem.Run s ls t →
      s.process = .up p → t.process = .up q → p.tip.height ≤ q.tip.height := by
  intro h
  have hreach : exampleSystem.Reachable ⟨recordedFs, .up (bootProcess exampleNetwork true)⟩ :=
    ⟨⟨recordedFs, .down⟩, _, rfl, run_recordedFs_up⟩
  have hle := h _ _ _ _ _ hreach run_failed_read rfl rfl
  exact absurd hle (by decide +kernel)

/-- A process whose write installs the record and is reported as failed crashes. -/
theorem run_reported_failure : ∃ ls, exampleSystem.Run ⟨fun _ => none, .down⟩ ls ⟨recordedFs, .down⟩ ∧
    ∀ l ∈ ls, l.ReportsFailure := by
  have hup := Run.snoc (M := exampleSystem)
    (Run.single (DurabilityStep.load (fun _ => none) none)) (DurabilityStep.boot _ _)
  have hswept := ((hup.snoc (.sweep _ _ ⟨12, 9⟩ rfl)).snoc (.sweep _ _ ⟨12, 9⟩ rfl)).snoc
    (.sweep _ _ ⟨12, 9⟩ rfl)
  have hwritten := hswept.snoc (.write _ _ (.taskFailed "task panicked" true) rfl)
  refine ⟨_, (hwritten.snoc (.writeReturn _ _ _ rfl)).snoc (.crash _), ?_⟩
  intro l hl
  simp only [List.mem_append, List.mem_cons, List.not_mem_nil, or_false] at hl
  rcases hl with ((((((rfl | rfl) | rfl) | rfl) | rfl) | rfl) | rfl) | rfl
  case inl.inl.inr => nofun
  all_goals exact trivial

/-- **A failure that is only reported raises the tip after a restart**: that every write reports an error
does not keep the tip down, since the record may have been installed all the same. -/
theorem tip_raised_after_reported_failure :
    ¬ ∀ s t ls p, exampleSystem.Init s → exampleSystem.Run s ls t →
      ¬ RecordOnDisk exampleNetwork ⟨some ["cache"]⟩ s → (∀ l ∈ ls, l.ReportsFailure) →
      t.process = .up p →
      p.tip.height = (ActivationTarget.latest exampleNetwork).preActivationHeight := by
  intro h
  obtain ⟨ls, hrun, hls⟩ := run_reported_failure
  have hempty : ¬ RecordOnDisk exampleNetwork ⟨some ["cache"]⟩ ⟨fun _ => none, .down⟩ := by
    rintro ⟨file, -, hfile⟩
    cases hfile
  have hrestart : ∀ l ∈ ls ++ [.load none, .boot], l.ReportsFailure := by
    intro l hl
    simp only [List.mem_append, List.mem_cons, List.not_mem_nil, or_false] at hl
    rcases hl with hl | rfl | rfl
    · exact hls l hl
    · exact trivial
    · exact trivial
  have hheight := h ⟨fun _ => none, .down⟩ _ _ _ rfl (hrun.append run_recordedFs_up) hempty hrestart rfl
  exact absurd hheight (by decide +kernel)

/-- A process that observes three full sweeps, persists and confirms. -/
theorem run_confirms :
    ∃ ls s p, exampleSystem.Run ⟨fun _ => none, .down⟩ ls s ∧ s.process = .up p ∧
      p.tip.height = ⟨100⟩ := by
  have hup := Run.snoc (M := exampleSystem)
    (Run.single (DurabilityStep.load (fun _ => none) none)) (DurabilityStep.boot _ _)
  have hswept := ((hup.snoc (.sweep _ _ ⟨12, 9⟩ rfl)).snoc (.sweep _ _ ⟨12, 9⟩ rfl)).snoc
    (.sweep _ _ ⟨12, 9⟩ rfl)
  have hpersisted := (hswept.snoc (.write _ _ .installed rfl)).snoc (.writeReturn _ _ (.ok ()) rfl)
  exact ⟨_, _, _, (hpersisted.snoc (.confirmCheck _ _ rfl)).snoc
    (.confirmReplace _ _ (by decide +kernel)), rfl, rfl⟩

/-- In the example run that confirms, the raised tip has its record on disk. -/
theorem durableBeforeRaised_example :
    ∃ s p, exampleSystem.Reachable s ∧ s.process = .up p ∧ p.tip.height = ⟨100⟩ ∧
      RecordOnDisk exampleNetwork ⟨some ["cache"]⟩ s := by
  obtain ⟨ls, s, p, hrun, hp, hheight⟩ := run_confirms
  have hreach : exampleSystem.Reachable s := ⟨⟨fun _ => none, .down⟩, ls, rfl, hrun⟩
  refine ⟨s, p, hreach, hp, hheight, ?_⟩
  exact (durableBeforeRaised exampleNetwork ⟨some ["cache"]⟩ (by decide +kernel)).1 s p hreach hp
    (by rw [hheight]; decide +kernel)

end Zeeder.Crawl
