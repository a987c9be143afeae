import Mathlib.Order.Basic
import Mathlib.Data.List.Basic

/-! # Scripts under errexit

A script of the shell under `set -e` runs commands on a machine, each of which succeeds or fails and
leaves the machine in some state. A failure ends the script, but for a command that is tested: the
condition of a loop, or the left side of `||`. The script may also be killed between any two commands,
and what it leaves behind counts.

* **`Triple`** — from a state with the precondition, a script that ends leaves the postcondition, and
  one that is stopped leaves what may be left by that stop; with a rule for every construct.
* **`Exec.keeps`** — what every command keeps is kept by every script, stopped or not.
* **`Halts`** — no execution goes on forever; **`halts_whileDo`** — a loop halts when every turn makes
  some number smaller.
* **`exec_of_eval`** — what a machine whose commands are computed does is an execution. -/

namespace Zeeder.Foundation

/-- A script under errexit. -/
inductive Errexit (Cmd : Type*) where
  /-- Do nothing. -/
  | skip
  /-- Run a command; its failure ends the script. -/
  | run (cmd : Cmd)
  /-- One after the other. -/
  | seq (first second : Errexit Cmd)
  /-- `cmd || alternative`. -/
  | orElse (cmd : Cmd) (alternative : Errexit Cmd)
  /-- `while cmd; do body; done`. -/
  | whileDo (cmd : Cmd) (body : Errexit Cmd)

/-- Why a script was stopped. -/
inductive Stop where
  /-- A command failed. -/
  | failed
  /-- The script was killed. -/
  | cut
  deriving DecidableEq

/-- How an execution ended. -/
inductive Ending where
  /-- The script is over. -/
  | done
  /-- It was stopped. -/
  | stopped (why : Stop)
  deriving DecidableEq

namespace Errexit

variable {Cmd σ α : Type*}

/-- `for a in items; do body; done`. -/
def forEach (items : List α) (body : α → Errexit Cmd) : Errexit Cmd :=
  items.foldr (fun a rest => .seq (body a) rest) .skip

/-- Commands and constructs one after another. -/
def inOrder (scripts : List (Errexit Cmd)) : Errexit Cmd := scripts.foldr .seq .skip

section Semantics

variable (act : Cmd → σ → Bool → σ → Prop)

/-- Executions: a command takes a state to another and succeeds or fails. -/
inductive Exec : Errexit Cmd → σ → Ending → σ → Prop
  /-- The script is killed. -/
  | cut (script : Errexit Cmd) (s : σ) : Exec script s (.stopped .cut) s
  /-- Nothing is done. -/
  | skip (s : σ) : Exec .skip s .done s
  /-- A command succeeds. -/
  | runDone {cmd : Cmd} {s t : σ} (h : act cmd s true t) : Exec (.run cmd) s .done t
  /-- A command fails. -/
  | runFailed {cmd : Cmd} {s t : σ} (h : act cmd s false t) : Exec (.run cmd) s (.stopped .failed) t
  /-- The first is over and the second goes on. -/
  | seqDone {a b : Errexit Cmd} {s t u : σ} {ending : Ending} (ha : Exec a s .done t)
      (hb : Exec b t ending u) : Exec (.seq a b) s ending u
  /-- The first is stopped. -/
  | seqStopped {a b : Errexit Cmd} {s t : σ} {why : Stop} (ha : Exec a s (.stopped why) t) :
      Exec (.seq a b) s (.stopped why) t
  /-- The tested command succeeds. -/
  | orElseDone {cmd : Cmd} {b : Errexit Cmd} {s t : σ} (h : act cmd s true t) :
      Exec (.orElse cmd b) s .done t
  /-- The tested command fails, and the alternative is taken. -/
  | orElseFailed {cmd : Cmd} {b : Errexit Cmd} {s t u : σ} {ending : Ending} (h : act cmd s false t)
      (hb : Exec b t ending u) : Exec (.orElse cmd b) s ending u
  /-- The loop is left. -/
  | whileEnd {cmd : Cmd} {body : Errexit Cmd} {s t : σ} (h : act cmd s false t) :
      Exec (.whileDo cmd body) s .done t
  /-- The loop takes a turn. -/
  | whileTurn {cmd : Cmd} {body : Errexit Cmd} {s t u v : σ} {ending : Ending}
      (h : act cmd s true t) (hbody : Exec body t .done u)
      (hrest : Exec (.whileDo cmd body) u ending v) : Exec (.whileDo cmd body) s ending v
  /-- The body is stopped. -/
  | whileStopped {cmd : Cmd} {body : Errexit Cmd} {s t u : σ} {why : Stop} (h : act cmd s true t)
      (hbody : Exec body t (.stopped why) u) : Exec (.whileDo cmd body) s (.stopped why) u

/-! ## Triples -/

/-- What an ending must leave: the postcondition, or what may be left by a stop. -/
def Ending.Leaves (Q : σ → Prop) (E : Stop → σ → Prop) : Ending → σ → Prop
  | .done, t => Q t
  | .stopped why, t => E why t

/-- **A triple**: precondition, script, postcondition and what may be left by a stop. -/
def Triple (P : σ → Prop) (script : Errexit Cmd) (Q : σ → Prop) (E : Stop → σ → Prop) : Prop :=
  ∀ s ending t, P s → Exec act script s ending t → Ending.Leaves Q E ending t

/-- No execution goes on forever. -/
inductive Halts : Errexit Cmd → σ → Prop
  /-- Nothing is done. -/
  | skip (s : σ) : Halts .skip s
  /-- Every command ends. -/
  | run (cmd : Cmd) (s : σ) : Halts (.run cmd) s
  /-- Both halt, the second wherever the first leads. -/
  | seq {a b : Errexit Cmd} {s : σ} (ha : Halts a s) (hb : ∀ t, Exec act a s .done t → Halts b t) :
      Halts (.seq a b) s
  /-- The alternative halts. -/
  | orElse {cmd : Cmd} {b : Errexit Cmd} {s : σ} (hb : ∀ t, act cmd s false t → Halts b t) :
      Halts (.orElse cmd b) s
  /-- Every turn halts, and so does the loop after it. -/
  | whileDo {cmd : Cmd} {body : Errexit Cmd} {s : σ} (hbody : ∀ t, act cmd s true t → Halts body t)
      (hrest : ∀ t u, act cmd s true t → Exec act body t .done u → Halts (.whileDo cmd body) u) :
      Halts (.whileDo cmd body) s

end Semantics

section Rules

variable {act : Cmd → σ → Bool → σ → Prop} {P Q R : σ → Prop} {E : Stop → σ → Prop} {cmd : Cmd}
  {a b body : Errexit Cmd}

/-- Where commands do less, scripts do less. Induction on the execution. -/
theorem Exec.mono {act' : Cmd → σ → Bool → σ → Prop}
    (hact : ∀ cmd s ok t, act cmd s ok t → act' cmd s ok t) {s t : σ} {ending : Ending}
    (hexec : Exec act a s ending t) : Exec act' a s ending t := by
  induction hexec with
  | cut script s => exact .cut script s
  | skip s => exact .skip s
  | runDone h => exact .runDone (hact _ _ _ _ h)
  | runFailed h => exact .runFailed (hact _ _ _ _ h)
  | seqDone _ _ iha ihb => exact .seqDone iha ihb
  | seqStopped _ iha => exact .seqStopped iha
  | orElseDone h => exact .orElseDone (hact _ _ _ _ h)
  | orElseFailed h _ ihb => exact .orElseFailed (hact _ _ _ _ h) ihb
  | whileEnd h => exact .whileEnd (hact _ _ _ _ h)
  | whileTurn h _ _ ihbody ihrest => exact .whileTurn (hact _ _ _ _ h) ihbody ihrest
  | whileStopped h _ ihbody => exact .whileStopped (hact _ _ _ _ h) ihbody

/-- **What every command keeps is kept by every script.** Induction on the execution. -/
theorem Exec.keeps (hact : ∀ cmd s ok t, P s → act cmd s ok t → P t) {s t : σ} {ending : Ending}
    (hexec : Exec act a s ending t) (hs : P s) : P t := by
  induction hexec with
  | cut => exact hs
  | skip => exact hs
  | runDone h => exact hact _ _ _ _ hs h
  | runFailed h => exact hact _ _ _ _ hs h
  | seqDone _ _ iha ihb => exact ihb (iha hs)
  | seqStopped _ iha => exact iha hs
  | orElseDone h => exact hact _ _ _ _ hs h
  | orElseFailed h _ ihb => exact ihb (hact _ _ _ _ hs h)
  | whileEnd h => exact hact _ _ _ _ hs h
  | whileTurn h _ _ ihbody ihrest => exact ihrest (ihbody (hact _ _ _ _ hs h))
  | whileStopped h _ ihbody => exact ihbody (hact _ _ _ _ hs h)

/-! ### The rules -/

theorem Triple.weaken {P' Q' : σ → Prop} {E' : Stop → σ → Prop} (h : Triple act P a Q E)
    (hpre : ∀ s, P' s → P s) (hpost : ∀ s, Q s → Q' s) (hstop : ∀ why s, E why s → E' why s) :
    Triple act P' a Q' E' := by
  intro s ending t hs hexec
  have hleft := h s ending t (hpre s hs) hexec
  cases ending with
  | done => exact hpost t hleft
  | stopped why => exact hstop why t hleft

theorem Triple.skip (hcut : ∀ s, P s → E .cut s) : Triple act P (.skip : Errexit Cmd) P E := by
  intro s ending t hs hexec
  cases hexec with
  | cut => exact hcut s hs
  | skip => exact hs

theorem Triple.run (hcut : ∀ s, P s → E .cut s) (hdone : ∀ s t, P s → act cmd s true t → Q t)
    (hfailed : ∀ s t, P s → act cmd s false t → E .failed t) : Triple act P (.run cmd) Q E := by
  intro s ending t hs hexec
  cases hexec with
  | cut => exact hcut s hs
  | runDone h => exact hdone s t hs h
  | runFailed h => exact hfailed s t hs h

theorem Triple.seq (ha : Triple act P a R E) (hb : Triple act R b Q E) :
    Triple act P (.seq a b) Q E := by
  intro s ending u hs hexec
  cases hexec with
  | cut => exact ha s _ s hs (.cut a s)
  | seqDone hfirst hsecond => exact hb _ ending u (ha s .done _ hs hfirst) hsecond
  | seqStopped hfirst => exact ha s _ u hs hfirst

theorem Triple.orElse (hcut : ∀ s, P s → E .cut s) (hdone : ∀ s t, P s → act cmd s true t → Q t)
    (hfailed : ∀ s t, P s → act cmd s false t → R t) (hb : Triple act R b Q E) :
    Triple act P (.orElse cmd b) Q E := by
  intro s ending u hs hexec
  cases hexec with
  | cut => exact hcut s hs
  | orElseDone h => exact hdone s u hs h
  | orElseFailed h halternative => exact hb _ ending u (hfailed s _ hs h) halternative

/-- `cmd || true`. -/
theorem Triple.orTrue (hcut : ∀ s, P s → E .cut s) (hafter : ∀ s, Q s → E .cut s)
    (hact : ∀ s ok t, P s → act cmd s ok t → Q t) : Triple act P (.orElse cmd .skip) Q E :=
  .orElse hcut (fun s t => hact s true t) (fun s t => hact s false t) (.skip hafter)

/-- **The rule for loops**: the precondition is the invariant. Induction on the execution, which takes
the loop apart turn by turn. -/
theorem Triple.whileDo (hcut : ∀ s, P s → E .cut s) (hturn : ∀ s t, P s → act cmd s true t → R t)
    (hbody : Triple act R body P E) (hend : ∀ s t, P s → act cmd s false t → Q t) :
    Triple act P (.whileDo cmd body) Q E := by
  intro s ending t hs hexec
  generalize hloop : Errexit.whileDo cmd body = script at hexec
  induction hexec with
  | cut script s =>
      exact hcut s hs
  | whileEnd h =>
      cases hloop
      exact hend _ _ hs h
  | whileTurn h hturned hrest _ ih =>
      cases hloop
      exact ih (hbody _ .done _ (hturn _ _ hs h) hturned) rfl
  | whileStopped h hstopped =>
      cases hloop
      exact hbody _ _ _ (hturn _ _ hs h) hstopped
  | _ => cases hloop

/-- **The rule for loops over a list**, with an invariant of the items done so far. Induction on the
items to come. -/
theorem Triple.forEach {items : List α} {body : α → Errexit Cmd} {I : List α → σ → Prop}
    (hcut : ∀ s, I items s → E .cut s)
    (hbody : ∀ before a after, items = before ++ a :: after →
      Triple act (I before) (body a) (I (before ++ [a])) E) :
    Triple act (I []) (Errexit.forEach items body) (I items) E := by
  have hrest : ∀ after before, items = before ++ after →
      Triple act (I before) (Errexit.forEach after body) (I items) E := by
    intro after
    induction after with
    | nil =>
        rintro before hsplit
        rw [List.append_nil] at hsplit
        subst hsplit
        exact .skip hcut
    | cons a after ih =>
        intro before hsplit
        exact (hbody before a after hsplit).seq (ih (before ++ [a]) (by simp [hsplit]))
  exact hrest items [] rfl

/-! ## Halting -/

/-- **A loop halts** when every turn makes some number smaller. -/
theorem halts_whileDo (size : σ → ℕ) (hbody : ∀ s t, act cmd s true t → Halts act body t)
    (hless : ∀ s t u, act cmd s true t → Exec act body t .done u → size u < size s) (s : σ) :
    Halts act (.whileDo cmd body) s := by
  induction hn : size s using Nat.strongRecOn generalizing s with
  | ind n ih =>
      refine .whileDo (hbody s) fun t u ht hu => ?_
      exact ih (size u) (hn ▸ hless s t u ht hu) u rfl

theorem halts_forEach {items : List α} {body : α → Errexit Cmd}
    (hbody : ∀ a ∈ items, ∀ s, Halts act (body a) s) (s : σ) : Halts act (forEach items body) s := by
  induction items generalizing s with
  | nil => exact .skip s
  | cons a items ih =>
      obtain ⟨ha, hitems⟩ := List.forall_mem_cons.mp hbody
      exact .seq (ha s) fun t _ => ih hitems t

end Rules

/-! ## Machines whose commands are computed -/

section Eval

variable (step : Cmd → σ → Bool × σ)

/-- At most `n` turns of a loop. -/
def turns (test : σ → Bool × σ) (body : σ → Option (Ending × σ)) : ℕ → σ → Option (Ending × σ)
  | 0, _ => none
  | n + 1, s =>
      if (test s).1 then
        match body (test s).2 with
        | some (.done, u) => turns test body n u
        | stopped => stopped
      else some (.done, (test s).2)

/-- Execute a script, with at most `n` turns of each loop. -/
def eval (n : ℕ) : Errexit Cmd → σ → Option (Ending × σ)
  | .skip, s => some (.done, s)
  | .run cmd, s => some (if (step cmd s).1 then .done else .stopped .failed, (step cmd s).2)
  | .seq a b, s =>
      match eval n a s with
      | some (.done, t) => eval n b t
      | stopped => stopped
  | .orElse cmd b, s => if (step cmd s).1 then some (.done, (step cmd s).2) else eval n b (step cmd s).2
  | .whileDo cmd body, s => turns (step cmd) (eval n body) n s

variable {step} {act : Cmd → σ → Bool → σ → Prop}

/-- **What such a machine does is an execution.** Induction on the script; a loop turn by turn. -/
theorem exec_of_eval (hact : ∀ cmd s, act cmd s (step cmd s).1 (step cmd s).2) {n : ℕ}
    {script : Errexit Cmd} {s t : σ} {ending : Ending}
    (h : eval step n script s = some (ending, t)) : Exec act script s ending t := by
  have hok {cmd : Cmd} {s : σ} {ok : Bool} (h : (step cmd s).1 = ok) :
      act cmd s ok (step cmd s).2 := h ▸ hact cmd s
  induction script generalizing s t ending with
  | skip =>
      cases h
      exact .skip _
  | run cmd =>
      rw [eval] at h
      cases hstep : (step cmd s).1 with
      | true =>
          rw [hstep, if_pos rfl] at h
          cases h
          exact .runDone (hok hstep)
      | false =>
          rw [hstep, if_neg Bool.false_ne_true] at h
          cases h
          exact .runFailed (hok hstep)
  | seq a b iha ihb =>
      rw [eval] at h
      split at h
      · next u ha => exact .seqDone (iha ha) (ihb h)
      · next ha hnot =>
          cases ending with
          | done => exact absurd h (hnot t)
          | stopped why => exact .seqStopped (iha h)
  | orElse cmd b ihb =>
      rw [eval] at h
      cases hstep : (step cmd s).1 with
      | true =>
          rw [hstep, if_pos rfl] at h
          cases h
          exact .orElseDone (hok hstep)
      | false =>
          rw [hstep, if_neg Bool.false_ne_true] at h
          exact .orElseFailed (hok hstep) (ihb h)
  | whileDo cmd body ihbody =>
      rw [eval] at h
      have hturns : ∀ k s, turns (step cmd) (eval step n body) k s = some (ending, t) →
          Exec act (.whileDo cmd body) s ending t := by
        intro k
        induction k with
        | zero => exact fun s h => by cases h
        | succ k ih =>
            intro s h
            rw [turns] at h
            cases hstep : (step cmd s).1 with
            | true =>
                rw [hstep, if_pos rfl] at h
                split at h
                · next u hu => exact .whileTurn (hok hstep) (ihbody hu) (ih u h)
                · next hu hnot =>
                    cases ending with
                    | done => exact absurd h (hnot t)
                    | stopped why => exact .whileStopped (hok hstep) (ihbody h)
            | false =>
                rw [hstep, if_neg Bool.false_ne_true] at h
                cases h
                exact .whileEnd (hok hstep)
      exact hturns n s h

end Eval

end Errexit

end Zeeder.Foundation
