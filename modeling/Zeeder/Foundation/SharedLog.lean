import Mathlib.Data.List.Infix
import Mathlib.Logic.Function.Basic
import Mathlib.Logic.Relation
import Zeeder.Foundation.Script
import Zeeder.Foundation.StepSystem

/-! # Scripts that share a log

Several scripts work on one shared log, newest entry first. A script can fetch the log, and push a log
of its own in its place, which is accepted only if that extends the log as it then is. Between two
commands of a script the others go on, and so does whoever else extends the log; a push that was
accepted may still be reported as failed, and any script may be started again.

* **`Safe`** — what a script may rely on and has to guarantee: the log only grows under it, and every
  push of it that is accepted is a good one.
* **`Safe.bind`, `safe_retry`** — the rules for sequences and retry loops.
* **`allSafe_of_reachable`** — soundness: in every interleaving every script stays safe.
* **`log_suffix_of_run`, `good_of_run`** — the log only grows, and by good pushes. -/

namespace Zeeder.Foundation

/-- What a script can do with the shared log. -/
inductive LogCmd (Entry : Type) where
  /-- Read the log. -/
  | fetch
  /-- Put a log in its place. -/
  | push (log : List Entry)

/-- What a command answers: the log, unless the call failed, or whether the push is reported as
accepted. -/
abbrev LogCmd.Outcome {Entry : Type} : LogCmd Entry → Type
  | .fetch => Option (List Entry)
  | .push _ => Bool

/-- A script that works on a shared log. -/
abbrev LogScript (Entry Exit α : Type) := Script (@LogCmd.Outcome Entry) Exit α

variable {ι Entry Exit α β σ ρ : Type}

/-- Read the log. -/
def Script.fetch : LogScript Entry Exit (Option (List Entry)) := Script.run LogCmd.fetch

/-- Put a log in the place of the log. -/
def Script.push (log : List Entry) : LogScript Entry Exit Bool := Script.run (LogCmd.push log)

/-! ## The interleaving -/

/-- The log and what is left of every script. -/
structure LogSystem (ι Entry Exit α : Type) where
  /-- The log, newest entry first. -/
  log : List Entry
  /-- The scripts. -/
  scripts : ι → LogScript Entry Exit α

/-- Who takes a step. -/
inductive LogLabel (ι : Type) where
  /-- Someone else extends the log. -/
  | others
  /-- A script fetches. -/
  | fetch (i : ι)
  /-- A script pushes. -/
  | push (i : ι)
  /-- A script is started again. -/
  | restart (i : ι)

/-- One step of the scripts, from their beginnings. -/
inductive LogStep [DecidableEq ι] (start : ι → LogScript Entry Exit α) :
    LogSystem ι Entry Exit α → LogLabel ι → LogSystem ι Entry Exit α → Prop
  /-- Someone else extends the log. -/
  | others {log new : List Entry} {scripts : ι → LogScript Entry Exit α} (hnew : log <:+ new) :
      LogStep start ⟨log, scripts⟩ .others ⟨new, scripts⟩
  /-- A fetch reads the log. -/
  | fetched {log : List Entry} {scripts : ι → LogScript Entry Exit α} {i : ι}
      {next : Option (List Entry) → LogScript Entry Exit α} (hcall : scripts i = .call .fetch next) :
      LogStep start ⟨log, scripts⟩ (.fetch i)
        ⟨log, Function.update scripts i (next (some log))⟩
  /-- A fetch fails. -/
  | unfetched {log : List Entry} {scripts : ι → LogScript Entry Exit α} {i : ι}
      {next : Option (List Entry) → LogScript Entry Exit α} (hcall : scripts i = .call .fetch next) :
      LogStep start ⟨log, scripts⟩ (.fetch i) ⟨log, Function.update scripts i (next none)⟩
  /-- A push that extends the log is accepted, whatever is reported of it. -/
  | accepted {log new : List Entry} {scripts : ι → LogScript Entry Exit α} {i : ι}
      {next : Bool → LogScript Entry Exit α} (hcall : scripts i = .call (.push new) next)
      (hnew : log <:+ new) (reported : Bool) :
      LogStep start ⟨log, scripts⟩ (.push i) ⟨new, Function.update scripts i (next reported)⟩
  /-- A push is rejected. -/
  | rejected {log new : List Entry} {scripts : ι → LogScript Entry Exit α} {i : ι}
      {next : Bool → LogScript Entry Exit α} (hcall : scripts i = .call (.push new) next) :
      LogStep start ⟨log, scripts⟩ (.push i) ⟨log, Function.update scripts i (next false)⟩
  /-- A script is started again. -/
  | restarted {log : List Entry} {scripts : ι → LogScript Entry Exit α} (i : ι) :
      LogStep start ⟨log, scripts⟩ (.restart i) ⟨log, Function.update scripts i (start i)⟩

/-- Scripts that share a log, which may hold anything at first. -/
def sharedLog [DecidableEq ι] (start : ι → LogScript Entry Exit α) :
    StepSystem (LogSystem ι Entry Exit α) (LogLabel ι) where
  Init s := s.scripts = start
  Step := LogStep start

/-! ## What a script relies on and guarantees -/

namespace Script

variable (good : List Entry → List Entry → Prop)

/-- From a log on, which others may extend at any time: every push that is accepted is a good one, and
if the script ends with a value, then the postcondition holds from then on. -/
def Safe : LogScript Entry Exit α → (α → List Entry → Prop) → List Entry → Prop
  | .done value, Q, log => ∀ now, log <:+ now → Q value now
  | .exit _, _, _ => True
  | .call .fetch next, Q, log => ∀ now, log <:+ now →
      (next (some now)).Safe Q now ∧ (next none).Safe Q now
  | .call (.push new) next, Q, log => ∀ now, log <:+ now → (next false).Safe Q now ∧
      (now <:+ new → good now new ∧ ∀ reported, (next reported).Safe Q new)

variable {good} {Q R : α → List Entry → Prop} {log : List Entry}

/-- What is safe from a log on is safe from any longer log on. -/
theorem Safe.grow {script : LogScript Entry Exit α} (h : Safe good script Q log) {now : List Entry}
    (hnow : log <:+ now) : Safe good script Q now := by
  cases script with
  | done value => exact fun later hlater => h later (hnow.trans hlater)
  | exit reason => exact trivial
  | call cmd next =>
      cases cmd with
      | fetch => exact fun later hlater => h later (hnow.trans hlater)
      | push new => exact fun later hlater => h later (hnow.trans hlater)

theorem safe_done {value : α} (h : ∀ now, log <:+ now → Q value now) :
    Safe good (.done value : LogScript Entry Exit α) Q log := h

/-- **The rule for fetching.** -/
theorem safe_fetch {next : Option (List Entry) → LogScript Entry Exit α}
    (hsome : ∀ now, log <:+ now → Safe good (next (some now)) Q now)
    (hnone : ∀ now, log <:+ now → Safe good (next none) Q now) :
    Safe good (fetch >>= next) Q log :=
  fun now hnow => ⟨hsome now hnow, hnone now hnow⟩

/-- **The rule for pushing.** -/
theorem safe_push {new : List Entry} {next : Bool → LogScript Entry Exit α}
    (hrejected : ∀ now, log <:+ now → Safe good (next false) Q now)
    (haccepted : ∀ now, log <:+ now → now <:+ new →
      good now new ∧ ∀ reported, Safe good (next reported) Q new) :
    Safe good (push new >>= next) Q log :=
  fun now hnow => ⟨hrejected now hnow, haccepted now hnow⟩

/-- **The rule for sequences.** -/
theorem Safe.bind {script : LogScript Entry Exit β} {f : β → LogScript Entry Exit α}
    {R : β → List Entry → Prop} (h : Safe good script R log)
    (hf : ∀ value now, R value now → Safe good (f value) Q now) : Safe good (script >>= f) Q log := by
  show Safe good (script.bind f) Q log
  induction script generalizing log with
  | done value => exact hf value log (h log List.suffix_rfl)
  | exit reason => exact trivial
  | call cmd next ih =>
      cases cmd with
      | fetch => exact fun now hnow => ⟨ih _ (h now hnow).1, ih _ (h now hnow).2⟩
      | push new =>
          refine fun now hnow => ⟨ih _ (h now hnow).1, fun hnew => ?_⟩
          obtain ⟨hgood, hnext⟩ := (h now hnow).2 hnew
          exact ⟨hgood, fun reported => ih _ (hnext reported)⟩

/-- What a try has to end with: a result with the postcondition, or anything for the next try. -/
def Tried (R : ρ → List Entry → Prop) : ρ ⊕ σ → List Entry → Prop
  | .inl result, log => R result log
  | .inr _, _ => True

/-- **The rule for retry loops**: each try starts from whatever the log is by then. -/
theorem safe_retry {body : σ → LogScript Entry Exit (ρ ⊕ σ)} {R : ρ → List Entry → Prop}
    (hstable : ∀ result log now, log <:+ now → R result log → R result now)
    (hbody : ∀ state log, Safe good (body state) (Tried R) log) (n : ℕ) (state : σ)
    (log : List Entry) : Safe good (retry body n state) (Tried R) log := by
  induction n generalizing state log with
  | zero => exact safe_done fun _ _ => trivial
  | succ n ih =>
      refine (hbody state log).bind fun value now hvalue => ?_
      cases value with
      | inl result => exact safe_done fun later hlater => hstable result now later hlater hvalue
      | inr state => exact ih state now

end Script

/-! ## Soundness -/

section Soundness

open Script

variable [DecidableEq ι] {start : ι → LogScript Entry Exit α}
  {good : ι → List Entry → List Entry → Prop} {Q : ι → α → List Entry → Prop}
  {s t : LogSystem ι Entry Exit α} {label : LogLabel ι} {labels : List (LogLabel ι)}

/-- Every script is safe from here on. -/
def AllSafe (good : ι → List Entry → List Entry → Prop) (Q : ι → α → List Entry → Prop)
    (s : LogSystem ι Entry Exit α) : Prop :=
  ∀ i, Safe (good i) (s.scripts i) (Q i) s.log

/-- **One step** grows the log at most. -/
theorem log_suffix_of_step (hstep : LogStep start s label t) : s.log <:+ t.log := by
  cases hstep with
  | others hnew => exact hnew
  | fetched hcall => exact List.suffix_rfl
  | unfetched hcall => exact List.suffix_rfl
  | accepted hcall hnew reported => exact hnew
  | rejected hcall => exact List.suffix_rfl
  | restarted i => exact List.suffix_rfl

/-- Where one script is replaced by a safe one and the log grows, all stay safe. -/
theorem AllSafe.update {log now : List Entry} {scripts : ι → LogScript Entry Exit α}
    (h : AllSafe good Q ⟨log, scripts⟩) (hnow : log <:+ now) {i : ι}
    {script : LogScript Entry Exit α} (hscript : Safe (good i) script (Q i) now) :
    AllSafe good Q ⟨now, Function.update scripts i script⟩ := by
  intro j
  show Safe (good j) (Function.update scripts i script j) (Q j) now
  by_cases hj : j = i
  · subst hj
    rw [Function.update_self]
    exact hscript
  · rw [Function.update_of_ne hj]
    exact (h j).grow hnow

omit [DecidableEq ι] in
/-- The call that a script is at is safe. -/
theorem AllSafe.at {log : List Entry} {scripts : ι → LogScript Entry Exit α} {i : ι}
    {script : LogScript Entry Exit α} (h : AllSafe good Q ⟨log, scripts⟩)
    (hcall : scripts i = script) : Safe (good i) script (Q i) log := hcall ▸ h i

/-- **One step** keeps every script safe. -/
theorem AllSafe.step (hstart : ∀ i log, Safe (good i) (start i) (Q i) log) (h : AllSafe good Q s)
    (hstep : LogStep start s label t) : AllSafe good Q t := by
  cases hstep with
  | others hnew => exact fun i => (h i).grow hnew
  | fetched hcall => exact h.update List.suffix_rfl ((h.at hcall) _ List.suffix_rfl).1
  | unfetched hcall => exact h.update List.suffix_rfl ((h.at hcall) _ List.suffix_rfl).2
  | accepted hcall hnew reported =>
      exact h.update hnew ((((h.at hcall) _ List.suffix_rfl).2 hnew).2 reported)
  | rejected hcall => exact h.update List.suffix_rfl ((h.at hcall) _ List.suffix_rfl).1
  | restarted i => exact h.update List.suffix_rfl (hstart i _)

/-- **Soundness.** In every interleaving every script stays safe. -/
theorem allSafe_of_reachable (hstart : ∀ i log, Safe (good i) (start i) (Q i) log)
    (hreach : (sharedLog start).Reachable s) : AllSafe good Q s := by
  refine hreach.invariant (fun s hinit i => ?_) fun s label t _ h hstep => h.step hstart hstep
  rw [show s.scripts = start from hinit]
  exact hstart i s.log

/-- A script that has ended has its postcondition. -/
theorem post_of_reachable (hstart : ∀ i log, Safe (good i) (start i) (Q i) log)
    (hreach : (sharedLog start).Reachable s) {i : ι} {value : α} (hdone : s.scripts i = .done value) :
    Q i value s.log :=
  (allSafe_of_reachable hstart hreach).at hdone s.log List.suffix_rfl

/-- **The log only grows**: nothing that anyone has put on it is lost. -/
theorem log_suffix_of_run (hrun : (sharedLog start).Run s labels t) : s.log <:+ t.log :=
  hrun.preserves (P := fun t => s.log <:+ t.log) (A := fun _ => True)
    (fun _ _ _ _ h hstep => h.trans (log_suffix_of_step hstep)) (fun _ _ => trivial) List.suffix_rfl

/-- **One step** of a script changes the log by a good push at most. -/
theorem AllSafe.log_of_step (h : AllSafe good Q s) (hstep : LogStep start s label t)
    (hlabel : label ≠ .others) : t.log = s.log ∨ ∃ i, good i s.log t.log := by
  cases hstep with
  | others hnew => exact absurd rfl hlabel
  | fetched hcall => exact .inl rfl
  | unfetched hcall => exact .inl rfl
  | @accepted log new scripts i next hcall hnew reported =>
      exact .inr ⟨i, (((h.at hcall) _ List.suffix_rfl).2 hnew).1⟩
  | rejected hcall => exact .inl rfl
  | restarted i => exact .inl rfl

/-- **While nobody else extends it, the log changes by good pushes only.** -/
theorem good_of_run (hstart : ∀ i log, Safe (good i) (start i) (Q i) log)
    (hreach : (sharedLog start).Reachable s) (hrun : (sharedLog start).Run s labels t)
    (hlabels : ∀ label ∈ labels, label ≠ .others) :
    Relation.ReflTransGen (fun old new => ∃ i, good i old new) s.log t.log := by
  refine (hrun.preserves (A := fun label => label ≠ .others)
    (P := fun t => AllSafe good Q t ∧
      Relation.ReflTransGen (fun old new => ∃ i, good i old new) s.log t.log)
    ?_ hlabels ⟨allSafe_of_reachable hstart hreach, .refl⟩).2
  rintro u label v hlabel ⟨hsafe, hgood⟩ hstep
  refine ⟨hsafe.step hstart hstep, ?_⟩
  rcases hsafe.log_of_step hstep hlabel with hlog | hpush
  · rw [hlog]
    exact hgood
  · exact hgood.tail hpush

end Soundness

end Zeeder.Foundation
