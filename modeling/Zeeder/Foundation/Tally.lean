import Mathlib.Algebra.BigOperators.Group.Finset.Basic
import Mathlib.Algebra.Ring.Nat

/-! # Tallies

Counting the elements of a list class by class, over a list of classes that is complete and names no
class twice. -/

namespace Zeeder.Foundation

variable {α κ : Type*} [DecidableEq κ] {classes : List κ}

/-- **The tallies add up**: over all classes, the counts of a list sum to its length. -/
theorem sum_map_count_eq_length (hnodup : classes.Nodup) (hall : ∀ k, k ∈ classes) (l : List κ) :
    (classes.map fun k => l.count k).sum = l.length := by
  rw [← List.sum_toFinset _ hnodup]
  have hcard := Multiset.sum_count_eq_card (s := classes.toFinset) (m := (l : Multiset κ))
    fun k _ => List.mem_toFinset.mpr (hall k)
  simpa only [Multiset.coe_count, Multiset.coe_card] using hcard

/-- The tallies of the elements that have a class add up to their number. -/
theorem sum_map_countP_eq_countP (hnodup : classes.Nodup) (hall : ∀ k, k ∈ classes)
    (classOf : α → Option κ) (l : List α) :
    (classes.map fun k => l.countP fun a => classOf a == some k).sum
      = l.countP fun a => (classOf a).isSome := by
  rw [← List.length_filterMap_eq_countP, ← sum_map_count_eq_length hnodup hall]
  simp only [List.count_filterMap]

end Zeeder.Foundation
