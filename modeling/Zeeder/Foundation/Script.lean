import Mathlib.Data.List.Basic

/-! # Scripts that call external commands, and their weakest preconditions

A script computes, calls external commands and goes on with what they return, and ends with a value
or exits early. Commands are answered by the environment, which may answer anything; what a run has
done so far is the list of its commands with their outcomes. A run may also be cut off at any point,
so that a property of "every moment" of a run is a property of every trace a script can reach.

* **`wp`** — the weakest precondition for "every command is allowed when it is called, and if the
  script ends with a value then the postcondition holds of it and of the whole trace".
* **`wp_bind`, `wp_foldlM`, `wp_retry`** — the rules for sequences, loops over lists and retry loops.
* **`allowed_of_reaches`** — soundness: every command of every reachable trace was allowed.
* **`Calls`** — every command that a script can call is of one kind; **`Calls.of_reaches`** — then so
  is every command of every reachable trace; **`wp_of_calls`** — and what such commands keep is kept.
* **`eval`** — how a script ends in an environment that answers every command in a fixed way, with
  its rules for sequences, subshells and loops, and **`eval_of_reaches`**: every run there ends so. -/

namespace Zeeder.Foundation

/-- A script over commands with the given outcomes. -/
inductive Script {Cmd : Type} (Outcome : Cmd → Type) (Exit α : Type) : Type
  /-- The script ends with a value. -/
  | done (value : α)
  /-- The script stops, for a reason. -/
  | exit (reason : Exit)
  /-- The script calls a command and goes on with its outcome. -/
  | call (cmd : Cmd) (next : Outcome cmd → Script Outcome Exit α)

namespace Script

variable {Cmd : Type} {Outcome : Cmd → Type} {Exit α β σ ρ : Type}

/-- Go on with the value of a script. -/
def bind : Script Outcome Exit α → (α → Script Outcome Exit β) → Script Outcome Exit β
  | .done value, f => f value
  | .exit reason, _ => .exit reason
  | .call cmd next, f => .call cmd fun outcome => (next outcome).bind f

instance : Monad (Script Outcome Exit) where
  pure := .done
  bind := .bind

/-- Returning the value changes nothing. -/
theorem bind_done (script : Script Outcome Exit α) : script.bind .done = script := by
  induction script with
  | done value => rfl
  | exit reason => rfl
  | call cmd next ih => exact congrArg (Script.call cmd) (funext ih)

/-- Sequences associate. -/
theorem bind_assoc (script : Script Outcome Exit α) (f : α → Script Outcome Exit β)
    (g : β → Script Outcome Exit σ) :
    (script.bind f).bind g = script.bind fun value => (f value).bind g := by
  induction script with
  | done value => rfl
  | exit reason => rfl
  | call cmd next ih => exact congrArg (Script.call cmd) (funext ih)

instance : LawfulMonad (Script Outcome Exit) :=
  LawfulMonad.mk' _ bind_done (fun _ _ => rfl) bind_assoc

/-- Call a command for its outcome. -/
def run (cmd : Cmd) : Script Outcome Exit (Outcome cmd) := .call cmd .done

/-- Run a script in a subshell: leaving it is a value for the script around it. -/
def subshell : Script Outcome Exit α → Script Outcome Exit (Except Exit α)
  | .done value => .done (.ok value)
  | .exit reason => .done (.error reason)
  | .call cmd next => .call cmd fun outcome => (next outcome).subshell

/-- Try a body up to `n` times: it returns early with a result or leaves a state for the next try. -/
def retry (body : σ → Script Outcome Exit (ρ ⊕ σ)) : ℕ → σ → Script Outcome Exit (ρ ⊕ σ)
  | 0, state => .done (.inr state)
  | n + 1, state => (body state).bind fun
      | .inl result => .done (.inl result)
      | .inr state => retry body n state

/-- What a script has done, and what is left of it, at some moment of a run. -/
inductive Reaches (script : Script Outcome Exit α) :
    List (Sigma Outcome) → Script Outcome Exit α → Prop
  /-- Nothing has been called yet. -/
  | start : Reaches script [] script
  /-- One more command was called and answered. -/
  | step {trace : List (Sigma Outcome)} {cmd : Cmd} {next : Outcome cmd → Script Outcome Exit α} :
      Reaches script trace (.call cmd next) → (outcome : Outcome cmd) →
        Reaches script (trace ++ [⟨cmd, outcome⟩]) (next outcome)

/-- Run at most `n` more commands in an environment that answers every command in a fixed way. -/
def follow (answer : (cmd : Cmd) → Outcome cmd) :
    ℕ → List (Sigma Outcome) → Script Outcome Exit α → List (Sigma Outcome) × Script Outcome Exit α
  | n + 1, trace, .call cmd next =>
      follow answer n (trace ++ [⟨cmd, answer cmd⟩]) (next (answer cmd))
  | _, trace, script => (trace, script)

/-- A run may go on. -/
theorem Reaches.trans {script middle rest : Script Outcome Exit α} {trace more : List (Sigma Outcome)}
    (h : Reaches script trace middle) (hmore : Reaches middle more rest) :
    Reaches script (trace ++ more) rest := by
  induction hmore with
  | start => rwa [List.append_nil]
  | step _ outcome ih =>
      rw [← List.append_assoc]
      exact ih.step outcome

/-- The first part of a sequence runs as it does alone. -/
theorem Reaches.bind {script rest : Script Outcome Exit α} {trace : List (Sigma Outcome)}
    (h : Reaches script trace rest) (f : α → Script Outcome Exit β) :
    Reaches (script >>= f) trace (rest >>= f) := by
  induction h with
  | start => exact .start
  | step _ outcome ih => exact ih.step outcome

/-- A sequence runs one part after the other. -/
theorem Reaches.seq {script : Script Outcome Exit α} {f : α → Script Outcome Exit β}
    {rest : Script Outcome Exit β} {trace more : List (Sigma Outcome)} {value : α}
    (h : Reaches script trace (.done value)) (hmore : Reaches (f value) more rest) :
    Reaches (script >>= f) (trace ++ more) rest :=
  (h.bind f).trans hmore

/-- Following an environment is one way for a run to go on. -/
theorem Reaches.follow {script rest : Script Outcome Exit α} {trace : List (Sigma Outcome)}
    (h : Reaches script trace rest) (answer : (cmd : Cmd) → Outcome cmd) (n : ℕ) :
    Reaches script (follow answer n trace rest).1 (follow answer n trace rest).2 := by
  induction n generalizing trace rest with
  | zero => exact h
  | succ n ih =>
      cases rest with
      | done value => exact h
      | exit reason => exact h
      | call cmd next => exact ih (h.step (answer cmd))

/-- What all answers have, every event of the run has. -/
theorem forall_mem_follow {P : Sigma Outcome → Prop} {answer : (cmd : Cmd) → Outcome cmd}
    (hanswer : ∀ cmd, P ⟨cmd, answer cmd⟩) (n : ℕ) {trace : List (Sigma Outcome)}
    {script : Script Outcome Exit α} (htrace : ∀ event ∈ trace, P event) :
    ∀ event ∈ (follow answer n trace script).1, P event := by
  induction n generalizing trace script with
  | zero => exact htrace
  | succ n ih =>
      cases script with
      | done value => exact htrace
      | exit reason => exact htrace
      | call cmd next =>
          refine ih fun event hevent => ?_
          rcases List.mem_append.mp hevent with hevent | hevent
          · exact htrace event hevent
          · obtain rfl := List.mem_singleton.mp hevent
            exact hanswer cmd

/-- The value of a script that has ended with one. -/
def value? : Script Outcome Exit α → Option α
  | .done value => some value
  | _ => none

/-- A script with a value has ended with it. -/
theorem eq_done_of_value? {script : Script Outcome Exit α} {value : α}
    (h : script.value? = some value) : script = .done value := by
  cases script with
  | done other => rw [Option.some.inj h]
  | exit reason => cases h
  | call cmd next => cases h

section Wp

variable (allowed : List (Sigma Outcome) → Sigma Outcome → Prop)

/-- The weakest precondition, on the trace so far. -/
def wp : Script Outcome Exit α → (α → List (Sigma Outcome) → Prop) → List (Sigma Outcome) → Prop
  | .done value, Q, trace => Q value trace
  | .exit _, _, _ => True
  | .call cmd next, Q, trace => ∀ outcome,
      allowed trace ⟨cmd, outcome⟩ ∧ (next outcome).wp Q (trace ++ [⟨cmd, outcome⟩])

variable {allowed} {Q R : α → List (Sigma Outcome) → Prop} {trace : List (Sigma Outcome)}

/-- The rule for a script that has ended. -/
@[simp] theorem wp_done {value : α} :
    wp allowed (.done value : Script Outcome Exit α) Q trace ↔ Q value trace := Iff.rfl

/-- The rule for returning a value. -/
@[simp] theorem wp_pure {value : α} :
    wp allowed (pure value : Script Outcome Exit α) Q trace ↔ Q value trace := Iff.rfl

/-- The rule for leaving early: nothing is left to show. -/
@[simp] theorem wp_exit {reason : Exit} :
    wp allowed (.exit reason : Script Outcome Exit α) Q trace := trivial

/-- The rule for one command. -/
@[simp] theorem wp_run {cmd : Cmd} {Q : Outcome cmd → List (Sigma Outcome) → Prop} :
    wp allowed (run cmd : Script Outcome Exit _) Q trace ↔
      ∀ outcome, allowed trace ⟨cmd, outcome⟩ ∧ Q outcome (trace ++ [⟨cmd, outcome⟩]) := Iff.rfl

/-- A weaker postcondition is easier to reach. -/
theorem wp_mono {script : Script Outcome Exit α} (h : wp allowed script Q trace)
    (hQ : ∀ value trace, Q value trace → R value trace) : wp allowed script R trace := by
  induction script generalizing trace with
  | done value => exact hQ _ _ h
  | exit reason => exact trivial
  | call cmd next ih => exact fun outcome => ⟨(h outcome).1, ih outcome (h outcome).2⟩

/-- **The rule for sequences.** -/
@[simp] theorem wp_bind {script : Script Outcome Exit β} {f : β → Script Outcome Exit α} :
    wp allowed (script >>= f) Q trace ↔
      wp allowed script (fun value trace => wp allowed (f value) Q trace) trace := by
  show wp allowed (script.bind f) Q trace ↔ _
  induction script generalizing trace with
  | done value => exact Iff.rfl
  | exit reason => exact Iff.rfl
  | call cmd next ih => exact forall_congr' fun outcome => and_congr Iff.rfl (ih outcome)

/-- A subshell ends in every case. -/
theorem wp_subshell {script : Script Outcome Exit α}
    {Q : Except Exit α → List (Sigma Outcome) → Prop} (herror : ∀ reason trace, Q (.error reason) trace)
    (h : wp allowed script (fun value trace => Q (.ok value) trace) trace) :
    wp allowed script.subshell Q trace := by
  induction script generalizing trace with
  | done value => exact h
  | exit reason => exact herror _ _
  | call cmd next ih => exact fun outcome => ⟨(h outcome).1, ih outcome (h outcome).2⟩

/-- **The rule for loops over lists**, with an invariant over the elements already done. -/
theorem wp_foldlM (J : List β → σ → List (Sigma Outcome) → Prop)
    {body : σ → β → Script Outcome Exit σ} {list : List β} {state : σ} (hstart : J [] state trace)
    (hstep : ∀ before b after state trace, list = before ++ b :: after → J before state trace →
      wp allowed (body state b) (J (before ++ [b])) trace) :
    wp allowed (list.foldlM body state) (J list) trace := by
  -- the elements done move over to the left one by one
  have hgeneral : ∀ after before state trace, list = before ++ after → J before state trace →
      wp allowed (after.foldlM body state) (J list) trace := by
    intro after
    induction after with
    | nil =>
        rintro before state trace rfl hbefore
        rwa [List.append_nil]
    | cons b after ih =>
        intro before state trace hlist hbefore
        rw [List.foldlM_cons, wp_bind]
        refine wp_mono (hstep before b after state trace hlist hbefore) fun state trace hnext => ?_
        exact ih (before ++ [b]) state trace (by rw [hlist, List.append_assoc]; rfl) hnext
  exact hgeneral list [] state trace rfl hstart

/-- **The rule for retry loops**, with an invariant between the tries. -/
theorem wp_retry (J : σ → List (Sigma Outcome) → Prop)
    {body : σ → Script Outcome Exit (ρ ⊕ σ)} {Q : ρ ⊕ σ → List (Sigma Outcome) → Prop}
    (hbody : ∀ state trace, J state trace → wp allowed (body state)
      (fun
        | .inl result, trace => Q (.inl result) trace
        | .inr state, trace => J state trace) trace)
    (hlast : ∀ state trace, J state trace → Q (.inr state) trace)
    {n : ℕ} {state : σ} (hstart : J state trace) :
    wp allowed (retry body n state) Q trace := by
  induction n generalizing state trace with
  | zero => exact hlast _ _ hstart
  | succ n ih =>
      refine wp_bind.mpr (wp_mono (hbody _ _ hstart) fun value trace h => ?_)
      cases value with
      | inl result => exact h
      | inr state => exact ih h

/-- At every moment of a run, what is left has the precondition it needs. -/
theorem wp_of_reaches {script rest : Script Outcome Exit α} (h : wp allowed script Q [])
    (hreaches : Reaches script trace rest) : wp allowed rest Q trace := by
  induction hreaches with
  | start => exact h
  | step _ outcome ih => exact (ih outcome).2

/-- **Soundness.** Every command of every reachable trace was allowed when it was called. -/
theorem allowed_of_reaches {script rest : Script Outcome Exit α} (h : wp allowed script Q [])
    (hreaches : Reaches script trace rest) {before after : List (Sigma Outcome)}
    {event : Sigma Outcome} (htrace : trace = before ++ event :: after) : allowed before event := by
  induction hreaches generalizing after with
  | start => simp at htrace
  | step hprev outcome ih =>
      -- the event is the last one, or it was there before
      rcases List.eq_nil_or_concat after with rfl | ⟨init, last, rfl⟩
      · obtain ⟨rfl, hevent⟩ := List.append_inj' htrace rfl
        obtain rfl := (List.cons.inj hevent).1
        exact (wp_of_reaches h hprev outcome).1
      · rw [List.concat_eq_append, ← List.cons_append, ← List.append_assoc] at htrace
        exact ih (List.append_inj' htrace rfl).1

end Wp

/-! ## The commands that a script can call -/

section Calls

variable (P : Cmd → Prop)

/-- Every command that the script can call, whatever is answered, is of one kind. -/
def Calls : Script Outcome Exit α → Prop
  | .done _ => True
  | .exit _ => True
  | .call cmd next => P cmd ∧ ∀ outcome, (next outcome).Calls

variable {P}

/-- Returning a value calls nothing. -/
@[simp] theorem calls_pure {value : α} : Calls P (pure value : Script Outcome Exit α) := trivial

/-- Nor does leaving early. -/
@[simp] theorem calls_exit {reason : Exit} : Calls P (.exit reason : Script Outcome Exit α) := trivial

/-- One command is all that is called. -/
theorem calls_run {cmd : Cmd} (h : P cmd) : Calls P (run cmd : Script Outcome Exit _) :=
  ⟨h, fun _ => trivial⟩

/-- A wider kind of commands admits more scripts. -/
theorem Calls.mono {R : Cmd → Prop} {script : Script Outcome Exit α} (h : Calls P script)
    (hR : ∀ cmd, P cmd → R cmd) : Calls R script := by
  induction script with
  | done value => exact trivial
  | exit reason => exact trivial
  | call cmd next ih => exact ⟨hR cmd h.1, fun outcome => ih outcome (h.2 outcome)⟩

/-- A sequence calls what its parts call. -/
theorem Calls.bind {script : Script Outcome Exit α} {f : α → Script Outcome Exit β}
    (h : Calls P script) (hf : ∀ value, Calls P (f value)) : Calls P (script >>= f) := by
  show Calls P (script.bind f)
  induction script with
  | done value => exact hf value
  | exit reason => exact trivial
  | call cmd next ih => exact ⟨h.1, fun outcome => ih outcome (h.2 outcome)⟩

/-- A subshell calls what its script calls. -/
theorem Calls.subshell {script : Script Outcome Exit α} (h : Calls P script) :
    Calls P script.subshell := by
  induction script with
  | done value => exact trivial
  | exit reason => exact trivial
  | call cmd next ih => exact ⟨h.1, fun outcome => ih outcome (h.2 outcome)⟩

/-- A loop calls what its body calls. -/
theorem calls_foldlM {body : σ → β → Script Outcome Exit σ} (h : ∀ state b, Calls P (body state b))
    (list : List β) (state : σ) : Calls P (list.foldlM body state) := by
  induction list generalizing state with
  | nil => exact trivial
  | cons b list ih =>
      rw [List.foldlM_cons]
      exact (h state b).bind ih

/-- So does a loop that collects values. -/
theorem calls_mapM {body : β → Script Outcome Exit α} (h : ∀ b, Calls P (body b)) (list : List β) :
    Calls P (list.mapM body) := by
  induction list with
  | nil => exact trivial
  | cons b list ih =>
      rw [List.mapM_cons]
      exact (h b).bind fun value => ih.bind fun values => trivial

/-- So does a retry loop. -/
theorem calls_retry {body : σ → Script Outcome Exit (ρ ⊕ σ)} (h : ∀ state, Calls P (body state))
    (n : ℕ) (state : σ) : Calls P (retry body n state) := by
  induction n generalizing state with
  | zero => exact trivial
  | succ n ih =>
      refine (h state).bind fun value => ?_
      cases value with
      | inl result => exact trivial
      | inr state => exact ih state

/-- What is left of a script calls no other commands. -/
theorem Calls.rest {script rest : Script Outcome Exit α} {trace : List (Sigma Outcome)}
    (h : Calls P script) (hreaches : Reaches script trace rest) : Calls P rest := by
  induction hreaches with
  | start => exact h
  | step _ outcome ih => exact ih.2 outcome

/-- **Soundness.** At every moment of a run, every command that was called is of that kind. -/
theorem Calls.of_reaches {script rest : Script Outcome Exit α} {trace : List (Sigma Outcome)}
    (h : Calls P script) (hreaches : Reaches script trace rest) : ∀ event ∈ trace, P event.1 := by
  induction hreaches with
  | start => exact fun _ hevent => absurd hevent List.not_mem_nil
  | step hprev outcome ih =>
      intro event hevent
      rcases List.mem_append.mp hevent with hevent | hevent
      · exact ih event hevent
      · obtain rfl := List.mem_singleton.mp hevent
        exact (h.rest hprev).1

/-- **From calls to preconditions**: where such commands are allowed and keep an invariant of the trace,
the script keeps it. -/
theorem wp_of_calls {allowed : List (Sigma Outcome) → Sigma Outcome → Prop}
    {J : List (Sigma Outcome) → Prop} {Q : α → List (Sigma Outcome) → Prop}
    {script : Script Outcome Exit α} {trace : List (Sigma Outcome)} (h : Calls P script)
    (hallowed : ∀ trace cmd outcome, P cmd → J trace →
      allowed trace ⟨cmd, outcome⟩ ∧ J (trace ++ [⟨cmd, outcome⟩]))
    (hJ : J trace) (hQ : ∀ value trace, J trace → Q value trace) : wp allowed script Q trace := by
  induction script generalizing trace with
  | done value => exact hQ value trace hJ
  | exit reason => exact trivial
  | call cmd next ih =>
      intro outcome
      obtain ⟨hcmd, hnext⟩ := hallowed trace cmd outcome h.1 hJ
      exact ⟨hcmd, ih outcome (h.2 outcome) hnext⟩

end Calls

/-! ## Environments that answer in a fixed way -/

section Eval

variable (answer : (cmd : Cmd) → Outcome cmd)

/-- How a script ends when every command is answered in a fixed way. -/
def eval : Script Outcome Exit α → Except Exit α
  | .done value => .ok value
  | .exit reason => .error reason
  | .call cmd next => (next (answer cmd)).eval

/-- A script that has ended. -/
@[simp] theorem eval_done {value : α} :
    eval answer (.done value : Script Outcome Exit α) = .ok value := rfl

/-- Returning a value. -/
@[simp] theorem eval_pure {value : α} :
    eval answer (pure value : Script Outcome Exit α) = .ok value := rfl

/-- Leaving early. -/
@[simp] theorem eval_exit {reason : Exit} :
    eval answer (.exit reason : Script Outcome Exit α) = .error reason := rfl

/-- One command ends with its answer. -/
@[simp] theorem eval_run {cmd : Cmd} :
    eval answer (run cmd : Script Outcome Exit _) = .ok (answer cmd) := rfl

/-- A sequence ends as its second part does on the value of the first. -/
@[simp] theorem eval_bind {script : Script Outcome Exit β} {f : β → Script Outcome Exit α} :
    eval answer (script >>= f) = eval answer script >>= fun value => eval answer (f value) := by
  show eval answer (script.bind f) = _
  induction script with
  | done value => rfl
  | exit reason => rfl
  | call cmd next ih => exact ih (answer cmd)

variable {answer} in
/-- A sequence goes on with the value of its first part. -/
theorem eval_bind_ok {script : Script Outcome Exit β} {f : β → Script Outcome Exit α} {value : β}
    (h : eval answer script = .ok value) :
    eval answer (script >>= f) = eval answer (f value) := by
  rw [eval_bind, h]
  rfl

/-- A subshell always ends with a value. -/
@[simp] theorem eval_subshell {script : Script Outcome Exit α} :
    eval answer script.subshell = .ok (eval answer script) := by
  induction script with
  | done value => rfl
  | exit reason => rfl
  | call cmd next ih => exact ih (answer cmd)

/-- A collecting loop ends with what its body ends with for each element. -/
theorem exists_eval_mapM {R : β → α → Prop} {body : β → Script Outcome Exit α} {list : List β}
    (h : ∀ b ∈ list, ∃ value, eval answer (body b) = .ok value ∧ R b value) :
    ∃ values, eval answer (list.mapM body) = .ok values ∧ List.Forall₂ R list values := by
  induction list with
  | nil => exact ⟨[], rfl, .nil⟩
  | cons b list ih =>
      obtain ⟨value, hvalue, hR⟩ := h b List.mem_cons_self
      obtain ⟨values, hvalues, hRs⟩ := ih fun b hb => h b (List.mem_cons_of_mem _ hb)
      refine ⟨value :: values, ?_, .cons hR hRs⟩
      rw [List.mapM_cons, eval_bind_ok hvalue, eval_bind_ok hvalues]
      rfl

/-- A trace in which every command is answered in a fixed way. -/
def AnsweredBy (trace : List (Sigma Outcome)) : Prop := ∀ event ∈ trace, event.2 = answer event.1

variable {answer}

/-- What following an environment leads to was answered by it. -/
theorem answeredBy_follow (n : ℕ) (script : Script Outcome Exit α) :
    AnsweredBy answer (follow answer n [] script).1 :=
  forall_mem_follow (fun _ => rfl) n fun _ hevent => absurd hevent List.not_mem_nil

/-- At every moment of a run in that environment, what is left ends as the whole script does. -/
theorem eval_of_reaches {script rest : Script Outcome Exit α} {trace : List (Sigma Outcome)}
    (hreaches : Reaches script trace rest) (hanswers : AnsweredBy answer trace) :
    eval answer rest = eval answer script := by
  induction hreaches with
  | start => rfl
  | @step trace cmd next hprev outcome ih =>
      have hlast : outcome = answer cmd :=
        hanswers ⟨cmd, outcome⟩ (List.mem_append_right _ (List.mem_singleton_self _))
      have hcall := ih fun event hevent => hanswers event (List.mem_append_left _ hevent)
      rw [← hcall, hlast]
      rfl

/-- A script that has stopped, with a value or early. -/
def Stopped : Script Outcome Exit α → Prop
  | .call _ _ => False
  | _ => True

instance (script : Script Outcome Exit α) : Decidable script.Stopped :=
  match script with
  | .done _ => isTrue trivial
  | .exit _ => isTrue trivial
  | .call _ _ => isFalse id

/-- A script that has stopped, and ends with a value, has ended with it. -/
theorem Stopped.eq_done {script : Script Outcome Exit α} {value : α} (h : script.Stopped)
    (heval : eval answer script = .ok value) : script = .done value := by
  cases script with
  | done other =>
      cases heval
      rfl
  | exit reason => cases heval
  | call cmd next => cases h

/-- **A run that has stopped** ended with the value that the script has in its environment. -/
theorem eq_done_of_reaches {script rest : Script Outcome Exit α} {trace : List (Sigma Outcome)}
    {value : α} (hreaches : Reaches script trace rest) (hanswers : AnsweredBy answer trace)
    (hstopped : rest.Stopped) (heval : eval answer script = .ok value) : rest = .done value :=
  hstopped.eq_done ((eval_of_reaches hreaches hanswers).trans heval)

end Eval

end Script

end Zeeder.Foundation
