import Mathlib.Data.List.DropRight
import Mathlib.Data.List.Induction
import Mathlib.Data.List.Range
import Mathlib.Order.Bounds.Defs

/-! # Streaks: the longest qualifying suffix of a history

A decision that needs several *consecutive* qualifying observations counts the current streak. This
file gives the streak of a history as the length of its longest suffix of qualifying entries, and
relates a capped counter that resets on failure to it.

* **`streak_concat`** — one more observation extends the streak or resets it.
* **`foldl_cappedCount`** — the counter that saturates at a cap holds `min cap (streak p l)`.
* **`isGreatest_streak`** — the streak is the greatest length of a qualifying suffix.
* **`three_le_streak_iff`** — a streak of at least three, read off the last three entries of an
  indexed history. -/

namespace Zeeder.Foundation

variable {α : Type*} (p : α → Bool)

/-- The length of the longest suffix of `l` all of whose entries satisfy `p`. -/
def streak (l : List α) : ℕ := (l.rtakeWhile p).length

/-- The empty history has no streak. -/
@[simp] theorem streak_nil : streak p [] = 0 := by simp [streak]

/-- One more entry extends the streak when it qualifies and resets it when it does not. -/
theorem streak_concat (l : List α) (a : α) :
    streak p (l ++ [a]) = if p a then streak p l + 1 else 0 := by
  unfold streak
  by_cases h : p a
  · rw [List.rtakeWhile_concat_pos _ _ _ h]; simp [h]
  · rw [List.rtakeWhile_concat_neg _ _ _ h]; simp [h]

/-- One update of a counter that grows up to `cap` on a qualifying entry and resets otherwise. -/
def cappedCount (cap : ℕ) (count : ℕ) (a : α) : ℕ := if p a then min cap (count + 1) else 0

/-- **The capped counter holds the streak, up to the cap.** Induction on the history from its end:
saturation loses nothing, because a saturated counter stays at the cap while the streak grows. -/
theorem foldl_cappedCount (cap : ℕ) (l : List α) :
    l.foldl (cappedCount p cap) 0 = min cap (streak p l) := by
  induction l using List.reverseRecOn with
  | nil => simp
  | append_singleton l a ih =>
      rw [List.foldl_append, List.foldl_cons, List.foldl_nil, ih, streak_concat, cappedCount]
      by_cases h : p a
      · -- `min cap (min cap n + 1)` is `min cap (n + 1)`
        rw [if_pos h, if_pos h]; omega
      · rw [if_neg h, if_neg h]; omega

/-- A qualifying suffix is no longer than the streak: induction on the suffix from its end. -/
theorem length_le_streak_append (front : List α) {back : List α} (h : ∀ a ∈ back, p a) :
    back.length ≤ streak p (front ++ back) := by
  induction back using List.reverseRecOn with
  | nil => exact Nat.zero_le _
  | append_singleton back a ih =>
      have ha : p a := h a (by simp)
      have hrest := ih fun b hb => h b (by simp [hb])
      rw [← List.append_assoc, streak_concat, if_pos ha, List.length_append, List.length_singleton]
      omega

/-- **The streak is the greatest length of a qualifying suffix.** -/
theorem isGreatest_streak (l : List α) :
    IsGreatest {n | ∃ back, back <:+ l ∧ (∀ a ∈ back, p a) ∧ back.length = n} (streak p l) := by
  constructor
  · exact ⟨l.rtakeWhile p, l.rtakeWhile_suffix p, fun _ => List.mem_rtakeWhile_imp, rfl⟩
  · rintro n ⟨back, ⟨front, rfl⟩, hback, rfl⟩
    exact length_le_streak_append p front hback

/-! ## Streaks of an indexed history -/

section Indexed

variable (entry : ℕ → α)

/-- The first `n` entries of an indexed history. -/
def firstEntries (n : ℕ) : List α := (List.range n).map entry

/-- Nothing has happened at index `0`. -/
@[simp] theorem firstEntries_zero : firstEntries entry 0 = [] := rfl

/-- The history grows at its end. -/
theorem firstEntries_succ (n : ℕ) :
    firstEntries entry (n + 1) = firstEntries entry n ++ [entry n] := by
  rw [firstEntries, List.range_succ, List.map_append, List.map_singleton, firstEntries]

/-- The streak of an indexed history obeys the counter's recurrence. -/
theorem streak_firstEntries_succ (n : ℕ) :
    streak p (firstEntries entry (n + 1))
      = if p (entry n) then streak p (firstEntries entry n) + 1 else 0 := by
  rw [firstEntries_succ, streak_concat]

/-- A streak reaching back over one more entry: the last entry qualifies and the streak before it
is one shorter. -/
theorem succ_le_streak_firstEntries_iff (k n : ℕ) :
    k + 1 ≤ streak p (firstEntries entry (n + 1))
      ↔ p (entry n) ∧ k ≤ streak p (firstEntries entry n) := by
  rw [streak_firstEntries_succ]
  by_cases h : p (entry n)
  · rw [if_pos h]; simp [h]
  · rw [if_neg h]; simp [h]

/-- **Three in a row.** After entry `n` the streak is at least three exactly when there are three
entries and the last three all qualify. -/
theorem three_le_streak_iff (n : ℕ) :
    3 ≤ streak p (firstEntries entry (n + 1))
      ↔ 2 ≤ n ∧ p (entry (n - 2)) ∧ p (entry (n - 1)) ∧ p (entry n) := by
  rw [succ_le_streak_firstEntries_iff]
  -- the history is too short for three entries at indices 0 and 1
  match n with
  | 0 => simp
  | 1 =>
      rw [succ_le_streak_firstEntries_iff]
      simp
  | n + 2 =>
      rw [succ_le_streak_firstEntries_iff, succ_le_streak_firstEntries_iff]
      simp only [Nat.zero_le, and_true, Nat.add_sub_cancel, Nat.le_add_left, true_and,
        show n + 2 - 1 = n + 1 from rfl]
      tauto

end Indexed

end Zeeder.Foundation
