import Mathlib.Order.Basic
import Mathlib.Data.List.Induction

/-! # Labelled step systems, their runs and the invariant rule

A step system is a predicate of initial states with a labelled step relation. A run records the
labels it took, oldest first, so that properties of the *order* of steps can be stated as well as
properties of the states reached.

* **`Run`** — finite runs with their labels; they compose (`Run.append`) and split (`Run.split`).
* **`run_of_foldlM`** — a system whose steps are computed runs wherever the computation leads.
* **`Reachable.invariant`** — what holds initially and is preserved by every step holds in every
  reachable state. The step premise may use that the state is reachable, so invariants stack.
* **`Run.preserves`** — what every admitted step preserves holds at the end of every run over admitted
  steps.
* **`Reachable.simulates`** — a system whose steps are runs of another one reaches what that reaches. -/

namespace Zeeder.Foundation

universe u v w x

/-- A labelled step system: initial states and a labelled step relation. -/
structure StepSystem (State : Type u) (Label : Type v) where
  /-- The states a run may start in. -/
  Init : State → Prop
  /-- `Step s l t`: label `l` takes state `s` to state `t`. -/
  Step : State → Label → State → Prop

namespace StepSystem

variable {State : Type u} {Label : Type v} (M : StepSystem State Label)

/-- Finite runs from one state to another, with the labels taken, oldest first. -/
inductive Run (s : State) : List Label → State → Prop
  /-- The empty run. -/
  | nil : Run s [] s
  /-- A run extended by one last step. -/
  | snoc {t u : State} {ls : List Label} {l : Label} :
      Run s ls t → M.Step t l u → Run s (ls ++ [l]) u

/-- A state is reachable when some run leads to it from an initial state. -/
def Reachable (s : State) : Prop := ∃ s₀ ls, M.Init s₀ ∧ M.Run s₀ ls s

variable {M}

/-- A single step is a run. -/
theorem Run.single {s t : State} {l : Label} (h : M.Step s l t) : M.Run s [l] t :=
  Run.snoc (Run.nil) h

/-- Runs compose, and their labels concatenate. -/
theorem Run.append {s t u : State} {ls ms : List Label} (h₁ : M.Run s ls t) (h₂ : M.Run t ms u) :
    M.Run s (ls ++ ms) u := by
  induction h₂ with
  | nil => simpa using h₁
  | snoc _ hstep ih => rw [← List.append_assoc]; exact Run.snoc ih hstep

/-- The empty run ends where it started. -/
@[simp] theorem run_nil_iff {s t : State} : M.Run s [] t ↔ s = t := by
  constructor
  · intro h
    generalize hls : ([] : List Label) = ls at h
    cases h with
    | nil => rfl
    | snoc _ _ => simp at hls
  · rintro rfl; exact Run.nil

/-- A run whose labels end in `l` ends with an `l` step. -/
theorem run_concat_iff {s u : State} {ls : List Label} {l : Label} :
    M.Run s (ls ++ [l]) u ↔ ∃ t, M.Run s ls t ∧ M.Step t l u := by
  constructor
  · intro h
    generalize hls : ls ++ [l] = ms at h
    cases h with
    | nil => simp at hls
    | snoc hrun hstep =>
        obtain ⟨rfl, hl⟩ := List.append_inj' hls rfl
        obtain rfl : l = _ := by simpa using hl
        exact ⟨_, hrun, hstep⟩
  · rintro ⟨t, hrun, hstep⟩; exact Run.snoc hrun hstep

/-- A run over concatenated labels splits at the seam. -/
theorem Run.split {s u : State} {ls ms : List Label} (h : M.Run s (ls ++ ms) u) :
    ∃ t, M.Run s ls t ∧ M.Run t ms u := by
  -- the second half is taken apart from its end, as runs are built
  induction ms using List.reverseRecOn generalizing u with
  | nil => exact ⟨u, by simpa using h, Run.nil⟩
  | append_singleton ms l ih =>
      rw [← List.append_assoc] at h
      obtain ⟨v, hrun, hstep⟩ := run_concat_iff.mp h
      obtain ⟨t, h₁, h₂⟩ := ih hrun
      exact ⟨t, h₁, Run.snoc h₂ hstep⟩

/-- A run whose labels start with `l` starts with an `l` step. -/
theorem Run.uncons {s u : State} {ls : List Label} {l : Label} (h : M.Run s (l :: ls) u) :
    ∃ t, M.Step s l t ∧ M.Run t ls u := by
  have h : M.Run s ([l] ++ ls) u := h
  obtain ⟨t, h₁, h₂⟩ := h.split
  obtain ⟨v, hnil, hstep⟩ := run_concat_iff.mp (show M.Run s ([] ++ [l]) t from h₁)
  rw [run_nil_iff] at hnil
  exact ⟨t, hnil ▸ hstep, h₂⟩

/-- Where a function leads from label to label, each time by a step, a run leads. -/
theorem run_of_foldlM {next : State → Label → Option State}
    (hstep : ∀ s l t, next s l = some t → M.Step s l t) {s t : State} {ls : List Label}
    (h : ls.foldlM next s = some t) : M.Run s ls t := by
  induction ls generalizing s with
  | nil =>
      cases h
      exact .nil
  | cons l ls ih =>
      rw [List.foldlM_cons] at h
      obtain ⟨u, hnext, hrest⟩ := Option.bind_eq_some_iff.mp h
      exact (Run.single (hstep s l u hnext)).append (ih hrest)

/-- Reachability is closed under runs. -/
theorem Reachable.run {s t : State} {ls : List Label} (h : M.Reachable s) (hrun : M.Run s ls t) :
    M.Reachable t := by
  obtain ⟨s₀, ms, hinit, hrun₀⟩ := h
  exact ⟨s₀, ms ++ ls, hinit, hrun₀.append hrun⟩

/-- **The run rule.** A property preserved by every step whose label is admitted holds at the end
of every run over admitted labels that starts with it. -/
theorem Run.preserves {P : State → Prop} {A : Label → Prop}
    (hstep : ∀ s l t, A l → P s → M.Step s l t → P t) {s t : State} {ls : List Label}
    (hrun : M.Run s ls t) (hls : ∀ l ∈ ls, A l) (hs : P s) : P t := by
  induction hrun with
  | nil => exact hs
  | snoc _ h ih =>
      have hlast := hls _ (List.mem_append_right _ (List.mem_singleton_self _))
      exact hstep _ _ _ hlast (ih fun l hl => hls l (List.mem_append_left _ hl)) h

/-- **The invariant rule.** What every initial state satisfies and every step from a reachable
state preserves holds in every reachable state. -/
theorem Reachable.invariant {P : State → Prop} (hinit : ∀ s, M.Init s → P s)
    (hstep : ∀ s l t, M.Reachable s → P s → M.Step s l t → P t) {s : State}
    (h : M.Reachable s) : P s := by
  obtain ⟨s₀, ls, h₀, hrun⟩ := h
  induction hrun with
  | nil => exact hinit _ h₀
  | snoc hprev hlast ih => exact hstep _ _ _ ⟨_, _, h₀, hprev⟩ ih hlast

/-- **The simulation rule.** If initial states are related to initial states of another system, and
every step between related states to a run of it, then every reachable state is related to a
reachable one. -/
theorem Reachable.simulates {State' : Type w} {Label' : Type x} {A : StepSystem State' Label'}
    {R : State → State' → Prop} (hinit : ∀ s, M.Init s → ∃ a, A.Init a ∧ R s a)
    (hstep : ∀ s l t a, R s a → M.Step s l t → ∃ ls b, A.Run a ls b ∧ R t b) {s : State}
    (h : M.Reachable s) : ∃ a, A.Reachable a ∧ R s a := by
  refine h.invariant (P := fun s => ∃ a, A.Reachable a ∧ R s a) ?_ ?_
  · intro s hs
    obtain ⟨a, ha, hrel⟩ := hinit s hs
    exact ⟨a, ⟨a, [], ha, .nil⟩, hrel⟩
  · rintro s l t - ⟨a, hreach, hrel⟩ hst
    obtain ⟨ls, b, hrun, hnext⟩ := hstep s l t a hrel hst
    exact ⟨b, hreach.run hrun, hnext⟩

end StepSystem

end Zeeder.Foundation
