import Mathlib.Data.List.Perm.Basic
import Mathlib.Data.List.Nodup

/-! # Shuffle outcomes

A random shuffle, and any other arbitrary reordering (the iteration order of a hash map, the order
in which concurrent tasks finish), is modelled by its outcome: a function on lists that returns a
permutation of its argument. A theorem about every `Shuffle` is a theorem about every outcome. -/

namespace Zeeder.Foundation

variable {α β : Type*}

/-- One outcome of reordering lists: a rearrangement of whatever list it is given. -/
structure Shuffle (α : Type*) where
  /-- The reordered list. -/
  apply : List α → List α
  /-- The reordered list is a permutation of the original. -/
  perm : ∀ l, (apply l).Perm l

namespace Shuffle

variable (σ : Shuffle α)

/-- The outcome that leaves every list as it is. -/
def refl : Shuffle α := ⟨id, fun l => List.Perm.refl l⟩

/-- The outcome that reverses every list. -/
def reversed : Shuffle α := ⟨List.reverse, List.reverse_perm⟩

/-- Shuffling keeps the length. -/
@[simp] theorem length_apply (l : List α) : (σ.apply l).length = l.length := (σ.perm l).length_eq

/-- Shuffling keeps the members. -/
@[simp] theorem mem_apply {l : List α} {a : α} : a ∈ σ.apply l ↔ a ∈ l := (σ.perm l).mem_iff

/-- Shuffling neither makes nor removes duplicates. -/
@[simp] theorem nodup_apply {l : List α} : (σ.apply l).Nodup ↔ l.Nodup := (σ.perm l).nodup_iff

/-- A truncated shuffle still has distinct images under `f` when the list had. -/
theorem nodup_map_take_apply {f : α → β} {l : List α} (h : (l.map f).Nodup) (k : ℕ) :
    (((σ.apply l).take k).map f).Nodup := by
  have hperm : ((σ.apply l).map f).Nodup := ((σ.perm l).map f).nodup_iff.mpr h
  rw [List.map_take]
  exact hperm.sublist (List.take_sublist k _)

/-- A truncated shuffle only holds members of the list. -/
theorem mem_of_mem_take_apply {l : List α} {k : ℕ} {a : α} (h : a ∈ (σ.apply l).take k) : a ∈ l :=
  σ.mem_apply.mp (List.mem_of_mem_take h)

/-- The length of a truncated shuffle. -/
@[simp] theorem length_take_apply (l : List α) (k : ℕ) :
    ((σ.apply l).take k).length = min k l.length := by simp

/-- Every permutation of a list is some outcome of shuffling it. -/
theorem exists_apply_eq {l order : List α} (h : order.Perm l) :
    ∃ σ : Shuffle α, σ.apply l = order := by
  classical
  refine ⟨⟨fun m => if m = l then order else m, fun m => ?_⟩, if_pos rfl⟩
  split
  · next heq => rw [heq]; exact h
  · exact List.Perm.refl m

end Shuffle

end Zeeder.Foundation
