import Mathlib.Data.List.Basic

/-! # Noninterference by unwinding

A machine moves on inputs and shows an output for each. One party sees some of the inputs, a view of
the state and the outputs of the inputs it sees. Two machines, or one machine twice, show the party the
same if inputs it does not see leave its view alone and inputs it sees act on the view in the same way.

* **`Unwinding.observed_eq`** — two runs on inputs that the party cannot tell apart, from states that
  it cannot tell apart, show it the same, whatever the other inputs are and wherever they fall. -/

namespace Zeeder.Foundation

variable {State Input Output View : Type*}

/-- A deterministic machine. -/
structure Machine (State Input Output : Type*) where
  /-- Where an input leads, if it can come now. -/
  next : State → Input → Option State
  /-- What an input shows. -/
  output : State → Input → Output

namespace Machine

variable (M : Machine State Input Output) (view : State → View) (sees : Input → Bool)

/-- What a run shows to a party: for each input that it sees, the output and the view afterwards.
`none` where some input cannot come. -/
def observed : State → List Input → Option (List (Output × View))
  | _, [] => some []
  | s, input :: inputs =>
      (M.next s input).bind fun t => (observed t inputs).map fun rest =>
        if sees input then (M.output s input, view t) :: rest else rest

variable {M view sees}

/-- A run that starts with an input goes on from where it leads. -/
theorem observed_cons {s : State} {input : Input} {inputs : List Input}
    {shown : List (Output × View)} (h : M.observed view sees s (input :: inputs) = some shown) :
    ∃ t rest, M.next s input = some t ∧ M.observed view sees t inputs = some rest ∧
      shown = if sees input then (M.output s input, view t) :: rest else rest := by
  obtain ⟨t, hnext, hshown⟩ := Option.bind_eq_some_iff.mp h
  obtain ⟨rest, hrest, heq⟩ := Option.map_eq_some_iff.mp hshown
  exact ⟨t, rest, hnext, hrest, heq.symm⟩

/-- Inputs that the party does not see leave its view alone. -/
def Unseen (M : Machine State Input Output) (view : State → View) (sees : Input → Bool) : Prop :=
  ∀ s input t, sees input = false → M.next s input = some t → view t = view s

/-- A run without inputs that the party sees shows nothing. -/
theorem observed_of_unseen {s : State} {inputs : List Input} {shown : List (Output × View)}
    (hinputs : inputs.filter sees = []) (h : M.observed view sees s inputs = some shown) :
    shown = [] := by
  induction inputs generalizing s shown with
  | nil => exact (Option.some.inj h).symm
  | cons input inputs ih =>
      obtain ⟨t, rest, -, hrest, rfl⟩ := observed_cons h
      have hsees : sees input = false := by
        rw [List.filter_cons] at hinputs
        split at hinputs
        · cases hinputs
        · next hnot => exact Bool.eq_false_iff.mpr hnot
      rw [List.filter_cons_of_neg (by simp [hsees])] at hinputs
      rw [hsees, if_neg Bool.false_ne_true]
      exact ih hinputs hrest

/-- A run shows nothing until the first input that the party sees, and its view is still the same
when that input comes. -/
theorem observed_of_seen (hunseen : M.Unseen view sees) {s : State} {inputs : List Input}
    {first : Input} {later : List Input} {shown : List (Output × View)}
    (hinputs : inputs.filter sees = first :: later)
    (h : M.observed view sees s inputs = some shown) :
    ∃ s' t inputs' rest, view s' = view s ∧ M.next s' first = some t ∧
      inputs'.filter sees = later ∧ M.observed view sees t inputs' = some rest ∧
      shown = (M.output s' first, view t) :: rest := by
  induction inputs generalizing s shown with
  | nil => cases hinputs
  | cons input inputs ih =>
      obtain ⟨t, rest, hnext, hrest, rfl⟩ := observed_cons h
      by_cases hsees : sees input = true
      · rw [List.filter_cons_of_pos hsees] at hinputs
        obtain ⟨rfl, hlater⟩ := List.cons.inj hinputs
        exact ⟨s, t, inputs, rest, rfl, hnext, hlater, hrest, if_pos hsees⟩
      · rw [List.filter_cons_of_neg hsees] at hinputs
        rw [if_neg hsees]
        obtain ⟨s', t', inputs', rest', hview, h⟩ := ih hinputs hrest
        exact ⟨s', t', inputs', rest',
          hview.trans (hunseen s input t (Bool.eq_false_iff.mpr hsees) hnext), h⟩

/-- **The unwinding conditions** for two machines. -/
structure Unwinding (M₁ M₂ : Machine State Input Output) (view₁ view₂ : State → View)
    (sees : Input → Bool) : Prop where
  /-- The first machine's unseen inputs leave the view alone. -/
  unseen₁ : M₁.Unseen view₁ sees
  /-- So do the second machine's. -/
  unseen₂ : M₂.Unseen view₂ sees
  /-- A seen input acts in the same way on states that look the same. -/
  seen : ∀ s₁ s₂ input t₁ t₂, sees input = true → view₁ s₁ = view₂ s₂ →
    M₁.next s₁ input = some t₁ → M₂.next s₂ input = some t₂ →
    M₁.output s₁ input = M₂.output s₂ input ∧ view₁ t₁ = view₂ t₂

/-- **Noninterference.** Runs on inputs that look the same, from states that look the same, look the
same. Induction on what the party sees: up to its next input both views stay as they are. -/
theorem Unwinding.observed_eq {M₁ M₂ : Machine State Input Output} {view₁ view₂ : State → View}
    (h : Unwinding M₁ M₂ view₁ view₂ sees) {s₁ s₂ : State} {inputs₁ inputs₂ : List Input}
    {shown₁ shown₂ : List (Output × View)} (hview : view₁ s₁ = view₂ s₂)
    (hinputs : inputs₁.filter sees = inputs₂.filter sees)
    (h₁ : M₁.observed view₁ sees s₁ inputs₁ = some shown₁)
    (h₂ : M₂.observed view₂ sees s₂ inputs₂ = some shown₂) : shown₁ = shown₂ := by
  generalize hseen : inputs₁.filter sees = seen at hinputs
  induction seen generalizing s₁ s₂ inputs₁ inputs₂ shown₁ shown₂ with
  | nil =>
      rw [observed_of_unseen hseen h₁, observed_of_unseen hinputs.symm h₂]
  | cons first later ih =>
      obtain ⟨s₁', t₁, inputs₁', rest₁, hs₁, hnext₁, hlater₁, hrest₁, rfl⟩ :=
        observed_of_seen h.unseen₁ hseen h₁
      obtain ⟨s₂', t₂, inputs₂', rest₂, hs₂, hnext₂, hlater₂, hrest₂, rfl⟩ :=
        observed_of_seen h.unseen₂ hinputs.symm h₂
      have hfirst : sees first = true := by
        have hmem : first ∈ inputs₁.filter sees := hseen ▸ List.mem_cons_self
        exact (List.mem_filter.mp hmem).2
      obtain ⟨houtput, hnext⟩ := h.seen s₁' s₂' first t₁ t₂ hfirst
        (hs₁.trans (hview.trans hs₂.symm)) hnext₁ hnext₂
      rw [houtput, hnext, ih hnext hrest₁ hrest₂ hlater₁ hlater₂.symm]

end Machine

end Zeeder.Foundation
