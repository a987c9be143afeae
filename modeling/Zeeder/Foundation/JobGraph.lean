import Mathlib.Logic.Function.Basic
import Mathlib.Logic.Relation
import Zeeder.Foundation.StepSystem

/-! # Workflows of jobs

A workflow is a graph of jobs. A job starts when every job that it needs has succeeded and its
condition holds, else it is skipped; it ends with an output that depends on what the jobs it needs have
put out, or it fails. When nothing runs any more, jobs may be run again, together with everything that
needs them.

* **`Sound`** — every job that got to run has what it needs, its output is one that it may have, and no
  job was skipped that could have run.
* **`sound_of_reachable`** — however jobs are scheduled, fail and are run again, that holds.
* **`Sound.ancestor`** — a job that got to run has all its ancestors behind it.
* **`Sound.output_iff`** — at rest, unless a job failed, exactly those have succeeded that could. -/

namespace Zeeder.Foundation

/-- How a job stands. -/
inductive JobStatus (Output : Type*) where
  /-- It has not been started. -/
  | waiting
  /-- It runs. -/
  | running
  /-- It has ended with an output. -/
  | succeeded (output : Output)
  /-- It has failed, or was cancelled. -/
  | failed
  /-- It is not run. -/
  | skipped

namespace JobStatus

variable {Output : Type*}

/-- The output of a job that succeeded. -/
def output? : JobStatus Output → Option Output
  | succeeded output => some output
  | _ => none

/-- The job got to run. -/
def Ran : JobStatus Output → Prop
  | waiting => False
  | skipped => False
  | _ => True

/-- Nothing more happens to the job by itself. -/
def Settled : JobStatus Output → Prop
  | waiting => False
  | running => False
  | _ => True

instance (status : JobStatus Output) : Decidable status.Ran :=
  match status with
  | waiting | skipped => isFalse id
  | running | succeeded _ | failed => isTrue trivial

@[simp] theorem output?_succeeded (output : Output) : (succeeded output).output? = some output := rfl

/-- Who has put something out got to run. -/
theorem ran_of_output? {status : JobStatus Output} (h : status.output? ≠ none) : status.Ran := by
  cases status with
  | succeeded output => exact trivial
  | _ => exact absurd rfl h

theorem eq_succeeded {status : JobStatus Output} {output : Output} (h : status.output? = some output) :
    status = succeeded output := by
  cases status with
  | succeeded other => rw [Option.some.inj h]
  | _ => cases h

/-- A job to which something may still happen has put nothing out. -/
theorem output?_of_not_settled {status : JobStatus Output} (h : ¬ status.Settled) :
    status.output? = none := by
  cases status with
  | succeeded output => exact absurd trivial h
  | _ => rfl

/-- Nothing more happens to a job that has put something out, and it has not failed. -/
theorem settled_of_isSome {status : JobStatus Output} (h : status.output?.isSome = true) :
    status.Settled ∧ status ≠ failed := by
  cases status with
  | succeeded output => exact ⟨trivial, nofun⟩
  | _ => cases h

/-- What is settled, has not failed and has put nothing out was skipped. -/
theorem eq_skipped {status : JobStatus Output} (hsettled : status.Settled) (hfailed : status ≠ failed)
    (hnone : status.output? = none) : status = skipped := by
  cases status with
  | waiting => exact hsettled.elim
  | running => exact hsettled.elim
  | succeeded output => cases hnone
  | failed => exact absurd rfl hfailed
  | skipped => rfl

end JobStatus

/-- A workflow. -/
structure Workflow (Job : Type*) (Output : Job → Type*) where
  /-- The jobs that a job needs. -/
  needs : Job → List Job
  /-- Its condition. -/
  enabled : Job → Prop
  /-- The outputs that it may have, with those of all jobs. -/
  Yields : (job : Job) → ((other : Job) → Option (Output other)) → Output job → Prop
  /-- They depend on the jobs that it needs alone. -/
  yields_congr : ∀ {job outputs outputs' output},
    (∀ other ∈ needs job, outputs other = outputs' other) →
      Yields job outputs output → Yields job outputs' output

/-- What happens in a run of a workflow. -/
inductive JobEvent {Job : Type*} (Output : Job → Type*) where
  /-- A job starts. -/
  | start (job : Job)
  /-- A job is skipped. -/
  | skip (job : Job)
  /-- A job succeeds. -/
  | finish (job : Job) (output : Output job)
  /-- A job fails. -/
  | fail (job : Job)
  /-- Jobs are to be run again. -/
  | rerun (jobs : Job → Prop)

namespace Workflow

variable {Job : Type*} {Output : Job → Type*}

/-- How all jobs stand. -/
abbrev Statuses (Output : Job → Type*) := (job : Job) → JobStatus (Output job)

/-- What all jobs have put out. -/
def outputs (s : Statuses Output) (job : Job) : Option (Output job) := (s job).output?

variable [DecidableEq Job] (W : Workflow Job Output)

/-- A job that cannot run: its condition does not hold, or something that it needs is missing for good. -/
def Hopeless (s : Statuses Output) (job : Job) : Prop :=
  (∀ other ∈ W.needs job, (s other).Settled) ∧
    (¬ W.enabled job ∨ ∃ other ∈ W.needs job, outputs s other = none)

/-- The steps of a run. -/
inductive Step (s : Statuses Output) : JobEvent Output → Statuses Output → Prop
  /-- A job starts, with all that it needs. -/
  | start {job : Job} (hwaiting : s job = .waiting) (henabled : W.enabled job)
      (hneeds : ∀ other ∈ W.needs job, outputs s other ≠ none) :
      Step s (.start job) (Function.update s job .running)
  /-- A job is skipped. -/
  | skip {job : Job} (hwaiting : s job = .waiting) (hskip : W.Hopeless s job) :
      Step s (.skip job) (Function.update s job .skipped)
  /-- A job succeeds. -/
  | finish {job : Job} {output : Output job} (hrunning : s job = .running)
      (hyields : W.Yields job (outputs s) output) :
      Step s (.finish job output) (Function.update s job (.succeeded output))
  /-- A job fails. -/
  | fail {job : Job} (hrunning : s job = .running) :
      Step s (.fail job) (Function.update s job .failed)
  /-- Jobs are run again, with everything that needs them. -/
  | rerun {jobs : Job → Prop} {t : Statuses Output} (hsettled : ∀ job, (s job).Settled)
      (hclosed : ∀ job, ∀ other ∈ W.needs job, jobs other → jobs job)
      (hagain : ∀ job, jobs job → t job = .waiting) (hkept : ∀ job, ¬ jobs job → t job = s job) :
      Step s (.rerun jobs) t

/-- A run of the workflow. -/
def system : StepSystem (Statuses Output) (JobEvent Output) where
  Init s := s = fun _ => .waiting
  Step := W.Step

/-- **Every job that got to run has what it needs**, has put out what it may, and no other was skipped
without a reason. -/
structure Sound (s : Statuses Output) : Prop where
  /-- Its condition holds. -/
  enabled : ∀ job, (s job).Ran → W.enabled job
  /-- What it needs has succeeded. -/
  needs : ∀ job, (s job).Ran → ∀ other ∈ W.needs job, outputs s other ≠ none
  /-- Its output. -/
  yields : ∀ job output, s job = .succeeded output → W.Yields job (outputs s) output
  /-- Why it was skipped. -/
  skipped : ∀ job, s job = .skipped → W.Hopeless s job

variable {W} {s t : Statuses Output} {event : JobEvent Output}

/-- A job changes to which something may still happen: no job that got to run needs it, and none that
was skipped. -/
theorem Sound.update {job : Job} {status : JobStatus (Output job)} (h : W.Sound s)
    (hopen : ¬ (s job).Settled) (henabled : status.Ran → W.enabled job)
    (hneeds : status.Ran → ∀ other ∈ W.needs job, outputs s other ≠ none)
    (hyields : ∀ output, status = .succeeded output → W.Yields job (outputs s) output)
    (hskipped : status = .skipped → W.Hopeless s job) :
    W.Sound (Function.update s job status) := by
  -- whatever is settled is another job, and keeps its output
  have hne {other : Job} (hother : (s other).Settled) : other ≠ job :=
    fun heq => hopen (heq ▸ hother)
  have hkept {other : Job} (hother : outputs s other ≠ none) :
      outputs (Function.update s job status) other = outputs s other := by
    have hsettled : (s other).Settled := by
      by_contra hnot
      exact hother (JobStatus.output?_of_not_settled hnot)
    unfold outputs
    rw [Function.update_of_ne (hne hsettled)]
  have hhopeless {other : Job} (hother : W.Hopeless s other) :
      W.Hopeless (Function.update s job status) other := by
    refine ⟨fun need hneed => ?_, hother.2.imp_right ?_⟩
    · rw [Function.update_of_ne (hne (hother.1 need hneed))]
      exact hother.1 need hneed
    · rintro ⟨need, hneed, hnone⟩
      refine ⟨need, hneed, ?_⟩
      unfold outputs
      rw [Function.update_of_ne (hne (hother.1 need hneed))]
      exact hnone
  refine ⟨fun other => ?_, fun other hran need hneed => ?_, fun other output hother => ?_,
    fun other hother => ?_⟩
  · by_cases heq : other = job
    · subst heq
      rw [Function.update_self]
      exact henabled
    · rw [Function.update_of_ne heq]
      exact h.enabled other
  · have hthere : outputs s need ≠ none := by
      by_cases heq : other = job
      · subst heq
        rw [Function.update_self] at hran
        exact hneeds hran need hneed
      · rw [Function.update_of_ne heq] at hran
        exact h.needs other hran need hneed
    rwa [hkept hthere]
  · by_cases heq : other = job
    · subst heq
      rw [Function.update_self] at hother
      have hran : status.Ran := by
        rw [hother]
        exact trivial
      exact W.yields_congr (fun need hneed => (hkept (hneeds hran need hneed)).symm)
        (hyields output hother)
    · rw [Function.update_of_ne heq] at hother
      have hran : (s other).Ran := by
        rw [hother]
        exact trivial
      exact W.yields_congr (fun need hneed => (hkept (h.needs other hran need hneed)).symm)
        (h.yields other output hother)
  · by_cases heq : other = job
    · subst heq
      rw [Function.update_self] at hother
      exact hhopeless (hskipped hother)
    · rw [Function.update_of_ne heq] at hother
      exact hhopeless (h.skipped other hother)

omit [DecidableEq Job] in
/-- **Jobs are run again**: what is kept needs nothing that is run again. -/
theorem Sound.rerun {jobs : Job → Prop} (h : W.Sound s)
    (hclosed : ∀ job, ∀ other ∈ W.needs job, jobs other → jobs job)
    (hagain : ∀ job, jobs job → t job = .waiting) (hkept : ∀ job, ¬ jobs job → t job = s job) :
    W.Sound t := by
  -- a job that does not wait again was kept, and so was all that it needs
  have hnot {job : Job} (hjob : t job ≠ .waiting) : ¬ jobs job := fun hjobs => hjob (hagain job hjobs)
  have hsame {job need : Job} (hjob : t job ≠ .waiting) (hneed : need ∈ W.needs job) :
      t need = s need := hkept need fun hjobs => hnot hjob (hclosed job need hneed hjobs)
  have hran {job : Job} (hjob : (t job).Ran) : t job ≠ .waiting := by
    intro hwaiting
    rw [hwaiting] at hjob
    exact hjob
  refine ⟨fun job hjob => ?_, fun job hjob need hneed => ?_, fun job output hjob => ?_,
    fun job hjob => ?_⟩
  · rw [hkept job (hnot (hran hjob))] at hjob
    exact h.enabled job hjob
  · unfold outputs
    rw [hsame (hran hjob) hneed]
    rw [hkept job (hnot (hran hjob))] at hjob
    exact h.needs job hjob need hneed
  · have hwaiting : t job ≠ .waiting := by
      rw [hjob]
      nofun
    rw [hkept job (hnot hwaiting)] at hjob
    refine W.yields_congr (fun need hneed => ?_) (h.yields job output hjob)
    unfold outputs
    rw [hsame hwaiting hneed]
  · have hwaiting : t job ≠ .waiting := by
      rw [hjob]
      nofun
    rw [hkept job (hnot hwaiting)] at hjob
    obtain ⟨hsettled, hwhy⟩ := h.skipped job hjob
    refine ⟨fun need hneed => ?_, hwhy.imp_right ?_⟩
    · rw [hsame hwaiting hneed]
      exact hsettled need hneed
    · rintro ⟨need, hneed, hnone⟩
      refine ⟨need, hneed, ?_⟩
      unfold outputs
      rw [hsame hwaiting hneed]
      exact hnone

/-- **One step keeps a run sound.** -/
theorem Sound.step (h : W.Sound s) (hstep : W.Step s event t) : W.Sound t := by
  have hopen {job : Job} (hjob : s job = .waiting ∨ s job = .running) : ¬ (s job).Settled := by
    rcases hjob with hjob | hjob <;> rw [hjob] <;> exact id
  have hran {job : Job} (hrunning : s job = .running) : (s job).Ran := by
    rw [hrunning]
    exact trivial
  cases hstep with
  | @start job hwaiting henabled hneeds =>
      exact h.update (hopen (.inl hwaiting)) (fun _ => henabled) (fun _ => hneeds) nofun nofun
  | @skip job hwaiting hskip =>
      exact h.update (hopen (.inl hwaiting)) False.elim False.elim nofun fun _ => hskip
  | @finish job output hrunning hyields =>
      refine h.update (hopen (.inr hrunning)) (fun _ => h.enabled job (hran hrunning))
        (fun _ => h.needs job (hran hrunning)) (fun other hother => ?_) nofun
      cases hother
      exact hyields
  | @fail job hrunning =>
      exact h.update (hopen (.inr hrunning)) (fun _ => h.enabled job (hran hrunning))
        (fun _ => h.needs job (hran hrunning)) nofun nofun
  | rerun hsettled hclosed hagain hkept => exact h.rerun hclosed hagain hkept

/-- **Every run is sound**, however jobs are scheduled, fail and are run again. -/
theorem sound_of_reachable (h : W.system.Reachable s) : W.Sound s := by
  refine h.invariant ?_ fun s event t _ hs hstep => hs.step hstep
  rintro s rfl
  exact ⟨fun _ => False.elim, fun _ hran => False.elim hran, nofun, nofun⟩

omit [DecidableEq Job] in
/-- **All ancestors of a job that got to run have succeeded.** Induction on the path to them. -/
theorem Sound.ancestor (h : W.Sound s) {job other : Job} (hran : (s job).Ran)
    (hpath : Relation.TransGen (fun job need => need ∈ W.needs job) job other) :
    outputs s other ≠ none := by
  induction hpath with
  | single hneed => exact h.needs _ hran _ hneed
  | tail _ hneed ih => exact h.needs _ (JobStatus.ran_of_output? ih) _ hneed

omit [DecidableEq Job] in
/-- An ancestor of a job that got to run was to run, and has put out what it may. -/
theorem Sound.exists_output (h : W.Sound s) {job other : Job} (hran : (s job).Ran)
    (hpath : Relation.TransGen (fun job need => need ∈ W.needs job) job other) :
    W.enabled other ∧ ∃ output, s other = .succeeded output ∧ W.Yields other (outputs s) output := by
  have hthere := h.ancestor hran hpath
  obtain ⟨output, houtput⟩ := Option.ne_none_iff_exists'.mp hthere
  have hother := JobStatus.eq_succeeded houtput
  exact ⟨h.enabled other (JobStatus.ran_of_output? hthere), output, hother, h.yields other output hother⟩

omit [DecidableEq Job] in
/-- **At rest, unless a job has failed**, a job has succeeded if and only if it could run. -/
theorem Sound.output_iff (h : W.Sound s) (hsettled : ∀ job, (s job).Settled)
    (hfailed : ∀ job, s job ≠ .failed) (job : Job) :
    outputs s job ≠ none ↔ W.enabled job ∧ ∀ other ∈ W.needs job, outputs s other ≠ none := by
  constructor
  · intro hjob
    have hran := JobStatus.ran_of_output? hjob
    exact ⟨h.enabled job hran, h.needs job hran⟩
  · rintro ⟨henabled, hneeds⟩ hnone
    have hskipped := JobStatus.eq_skipped (hsettled job) (hfailed job) hnone
    rcases (h.skipped job hskipped).2 with hnot | ⟨other, hother, hmissing⟩
    · exact hnot henabled
    · exact hneeds other hother hmissing

/-! ## Runs that are computed -/

section Next

variable (W)
variable [∀ job, Decidable (W.enabled job)]
  [∀ job outputs output, Decidable (W.Yields job outputs output)]

/-- A job starts or succeeds, if it can. -/
def next (s : Statuses Output) : JobEvent Output → Option (Statuses Output)
  | .start job =>
      match s job with
      | .waiting =>
          if W.enabled job ∧ ∀ other ∈ W.needs job, (outputs s other).isSome = true then
            some (Function.update s job .running)
          else none
      | _ => none
  | .finish job output =>
      match s job with
      | .running =>
          if W.Yields job (outputs s) output then some (Function.update s job (.succeeded output))
          else none
      | _ => none
  | _ => none

variable {W}

/-- That is a step. -/
theorem step_of_next (h : W.next s event = some t) : W.Step s event t := by
  cases event with
  | start job =>
      rw [next] at h
      split at h
      · next hwaiting =>
          split at h
          · next hready =>
              cases h
              exact .start hwaiting hready.1 fun other hother =>
                Option.isSome_iff_ne_none.mp (hready.2 other hother)
          · cases h
      · cases h
  | finish job output =>
      rw [next] at h
      split at h
      · next hrunning =>
          split at h
          · next hyields =>
              cases h
              exact .finish hrunning hyields
          · cases h
      · cases h
  | _ => cases h

/-- Where such steps lead is reachable. -/
theorem exists_reachable {events : List (JobEvent Output)} {P : Statuses Output → Bool}
    (h : (events.foldlM W.next fun _ => .waiting).any P = true) :
    ∃ s, W.system.Reachable s ∧ P s = true := by
  obtain ⟨s, hs, hP⟩ := (Option.any_eq_true _ _).mp h
  exact ⟨s, ⟨_, events, rfl, StepSystem.run_of_foldlM (fun _ _ _ => step_of_next) hs⟩, hP⟩

end Next

end Workflow

end Zeeder.Foundation
