import Mathlib.Data.List.Forall2

/-! # Error reports

Fallible functions return a report: the texts a failure is reported with, the outermost context
first. -/

namespace Zeeder

/-- An error report. -/
structure Report where
  /-- The texts, the outermost context first. -/
  chain : List String
  deriving DecidableEq, Repr

/-- A result that is a value or a report. -/
abbrev Result (α : Type) := Except Report α

namespace Result

variable {α β : Type}

/-- Fail with a text. -/
def fail (text : String) : Result α := .error ⟨[text]⟩

/-- `ensure!`: go on if the condition holds, else fail with the text. -/
def ensure (condition : Bool) (text : String) : Result Unit :=
  if condition then .ok () else fail text

/-- `wrap_err_with` over a foreign error, given by its text. -/
def wrapErr (result : Except String α) (context : String) : Result α :=
  match result with
  | .ok a => .ok a
  | .error text => .error ⟨[context, text]⟩

@[simp] theorem ensure_ok_iff {condition : Bool} {text : String} {u : Unit} :
    ensure condition text = .ok u ↔ condition = true := by
  unfold ensure fail
  cases condition <;> simp

@[simp] theorem wrapErr_ok_iff {result : Except String α} {context : String} {a : α} :
    wrapErr result context = .ok a ↔ result = .ok a := by
  cases result <;> simp [wrapErr]

/-- A sequence of two computations succeeds when both do. -/
theorem bind_ok_iff {x : Result α} {f : α → Result β} {b : β} :
    (x >>= f) = .ok b ↔ ∃ a, x = .ok a ∧ f a = .ok b := by
  cases x with
  | ok a =>
      constructor
      · intro h
        exact ⟨a, rfl, h⟩
      · rintro ⟨a', ha, h⟩
        cases ha
        exact h
  | error report =>
      constructor
      · intro h
        cases h
      · rintro ⟨a, ha, -⟩
        cases ha

theorem bind_unit_ok_iff {x : Result Unit} {f : Unit → Result β} {b : β} :
    (x >>= f) = .ok b ↔ x = .ok () ∧ f () = .ok b := by
  rw [bind_ok_iff]
  exact ⟨fun ⟨_, hx, hf⟩ => ⟨hx, hf⟩, fun ⟨hx, hf⟩ => ⟨(), hx, hf⟩⟩

/-- A result that is no failure has a value. -/
theorem exists_ok_of_isOk {x : Result α} (h : x.isOk = true) : ∃ a, x = .ok a := by
  cases x with
  | ok a => exact ⟨a, rfl⟩
  | error report => cases h

/-- A loop over fallible steps succeeds when every step does. -/
theorem mapM_ok_iff {f : α → Result β} {l : List α} {bs : List β} :
    l.mapM f = .ok bs ↔ List.Forall₂ (fun a b => f a = .ok b) l bs := by
  induction l generalizing bs with
  | nil => cases bs <;> simp [pure, Except.pure]
  | cons a l ih =>
      rw [List.mapM_cons, bind_ok_iff]
      constructor
      · rintro ⟨b, hb, h⟩
        obtain ⟨rest, hrest, h⟩ := bind_ok_iff.mp h
        cases h
        exact .cons hb (ih.mp hrest)
      · intro h
        cases h with
        | cons hb hrest => exact ⟨_, hb, bind_ok_iff.mpr ⟨_, ih.mpr hrest, rfl⟩⟩

/-- A loop over fallible steps succeeds when every step can. -/
theorem exists_mapM_ok_iff {f : α → Result β} {l : List α} :
    (∃ bs, l.mapM f = .ok bs) ↔ ∀ a ∈ l, ∃ b, f a = .ok b := by
  simp only [mapM_ok_iff]
  induction l with
  | nil => simp
  | cons a l ih =>
      rw [List.forall_mem_cons, ← ih]
      constructor
      · rintro ⟨bs, h⟩
        cases h with
        | cons hb hrest => exact ⟨⟨_, hb⟩, ⟨_, hrest⟩⟩
      · rintro ⟨⟨b, hb⟩, ⟨bs, hrest⟩⟩
        exact ⟨b :: bs, .cons hb hrest⟩

end Result

end Zeeder
