import Zeeder.Foundation.StepSystem
import Mathlib.Logic.Function.Basic

/-! # Interleaved components and their observers

The components of a family of step systems take turns: one step moves one component and leaves the
others where they are. Observers read the whole state between any two steps and change nothing.

* **`Run.component`** — the steps of one component, taken out of an interleaved run, are a run of
  that component alone. Every fact about runs of a component so holds in the interleaving.
* **`Run.interleave`** — a run of one component is a run of the interleaving. -/

namespace Zeeder.Foundation

universe u v w x

/-- A step of an interleaving: one component's step, or an observation. -/
inductive InterleavedLabel (ι : Type u) (Label : Type v) (Observation : Type w) where
  /-- Component `i` takes a step. -/
  | component (i : ι) (l : Label)
  /-- An observer reads the state. -/
  | observe (o : Observation)

variable {ι : Type u} {Label : Type v} {Observation : Type w} {State : Type x} [DecidableEq ι]

/-- The label as seen by one component. -/
def InterleavedLabel.at? (i : ι) : InterleavedLabel ι Label Observation → Option Label
  | .component j l => if j = i then some l else none
  | .observe _ => none

namespace StepSystem

/-- The steps of one component in a run, in order. -/
def labelsAt (i : ι) (ls : List (InterleavedLabel ι Label Observation)) : List Label :=
  ls.filterMap (InterleavedLabel.at? i)

/-- Of two runs, one after the other. -/
theorem labelsAt_append (i : ι) (ls ms : List (InterleavedLabel ι Label Observation)) :
    labelsAt i (ls ++ ms) = labelsAt i ls ++ labelsAt i ms := List.filterMap_append

/-- A step of the component itself. -/
theorem labelsAt_component_cons (i : ι) (l : Label)
    (ls : List (InterleavedLabel ι Label Observation)) :
    labelsAt i (.component i l :: ls) = l :: labelsAt i ls :=
  List.filterMap_cons_some (if_pos rfl)

/-- A step of another component. -/
theorem labelsAt_component_singleton_of_ne {i j : ι} (h : j ≠ i) (l : Label) :
    labelsAt i [(.component j l : InterleavedLabel ι Label Observation)] = [] :=
  List.filterMap_cons_none (if_neg h)

/-- An observation. -/
theorem labelsAt_observe_singleton (i : ι) (o : Observation) :
    labelsAt i [(.observe o : InterleavedLabel ι Label Observation)] = [] := rfl

/-- These are the steps of the component in the run. -/
theorem mem_labelsAt {i : ι} {l : Label} {ls : List (InterleavedLabel ι Label Observation)} :
    l ∈ labelsAt i ls ↔ .component i l ∈ ls := by
  rw [labelsAt, List.mem_filterMap]
  constructor
  · rintro ⟨label, hmem, hat⟩
    cases label with
    | component j m =>
        obtain ⟨rfl, hm⟩ := Option.ite_none_right_eq_some.mp hat
        rwa [← Option.some_inj.mp hm]
    | observe o => cases hat
  · intro hmem
    exact ⟨_, hmem, if_pos rfl⟩

/-- One step of an interleaving. -/
inductive InterleavedStep (M : ι → StepSystem State Label)
    (Observes : (ι → State) → Observation → Prop) :
    (ι → State) → InterleavedLabel ι Label Observation → (ι → State) → Prop
  /-- One component moves, the others stay. -/
  | component (s : ι → State) (i : ι) (l : Label) (t : State) (hstep : (M i).Step (s i) l t) :
      InterleavedStep M Observes s (.component i l) (Function.update s i t)
  /-- An observation changes nothing. -/
  | observe (s : ι → State) (o : Observation) (ho : Observes s o) :
      InterleavedStep M Observes s (.observe o) s

/-- The interleaving of a family of components under observation. -/
def interleaved (M : ι → StepSystem State Label) (Observes : (ι → State) → Observation → Prop) :
    StepSystem (ι → State) (InterleavedLabel ι Label Observation) where
  Init s := ∀ i, (M i).Init (s i)
  Step := InterleavedStep M Observes

/-- **One component's steps in an interleaved run are a run of that component.** -/
theorem Run.component {M : ι → StepSystem State Label}
    {Observes : (ι → State) → Observation → Prop} {s t : ι → State}
    {ls : List (InterleavedLabel ι Label Observation)}
    (hrun : (interleaved M Observes).Run s ls t) (i : ι) : (M i).Run (s i) (labelsAt i ls) (t i) := by
  induction hrun with
  | nil => exact .nil
  | snoc _ hstep ih =>
      rw [labelsAt_append]
      cases hstep with
      | component j l t hstep =>
          by_cases hj : j = i
          · -- the component itself moved: its label is kept
            subst hj
            rw [labelsAt_component_cons, Function.update_self]
            exact ih.snoc hstep
          · -- another component moved: neither the label nor the state is this one's
            rw [labelsAt_component_singleton_of_ne hj, List.append_nil,
              Function.update_of_ne (Ne.symm hj)]
            exact ih
      | observe o ho =>
          rw [labelsAt_observe_singleton, List.append_nil]
          exact ih

/-- A run of one component, the others at rest. -/
theorem Run.interleave {M : ι → StepSystem State Label}
    {Observes : (ι → State) → Observation → Prop} {s : ι → State} {i : ι} {t : State}
    {ls : List Label} (hrun : (M i).Run (s i) ls t) :
    (interleaved M Observes).Run s (ls.map (.component i)) (Function.update s i t) := by
  induction hrun with
  | nil =>
      rw [Function.update_eq_self]
      exact .nil
  | @snoc t u ls l _ hstep ih =>
      rw [List.map_append]
      have hnext : (M i).Step (Function.update s i t i) l u := by rwa [Function.update_self]
      have := ih.snoc (InterleavedStep.component _ i l u hnext)
      rwa [Function.update_idem] at this

end StepSystem

end Zeeder.Foundation
