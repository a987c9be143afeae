import Mathlib.Data.List.Induction
import Mathlib.Order.Lattice

/-! # Regions of a forest, and choosing the last maximum

Regions ordered by containment form a forest when any two regions that contain a common one are
comparable (directories, name suffixes, nested intervals). In a forest, checking regions pairwise is
the same as checking every point:

* **`pairwise_incomparable_iff`** — regions are pairwise incomparable exactly when no point lies in
  two of them.
* **`maxByKey`** — the element with the greatest key, the last one on a tie. -/

namespace Zeeder.Foundation

variable {α κ : Type*}

section Forest

variable {contains : α → α → Bool}

/-- **Pairwise incomparable regions are exactly the unambiguous ones**, in a forest. -/
theorem pairwise_incomparable_iff (hrefl : ∀ a, contains a a = true)
    (hforest : ∀ a b q, contains a q = true → contains b q = true →
      contains a b = true ∨ contains b a = true) (l : List α) :
    l.Pairwise (fun a b => contains a b = false ∧ contains b a = false) ↔
      ∀ q, l.countP (contains · q) ≤ 1 := by
  induction l with
  | nil => simp
  | cons a l ih =>
      rw [List.pairwise_cons, ih]
      constructor
      · rintro ⟨hhead, htail⟩ q
        rw [List.countP_cons]
        by_cases ha : contains a q = true
        · -- whoever else contains `q` would be comparable with `a`
          have hzero : l.countP (contains · q) = 0 := by
            refine List.countP_eq_zero.mpr fun b hb hbq => ?_
            obtain ⟨hab, hba⟩ := hhead b hb
            rcases hforest a b q ha hbq with h | h
            · exact absurd h (by simp [hab])
            · exact absurd h (by simp [hba])
          exact Nat.le_of_eq (congrArg₂ (· + ·) hzero (if_pos ha))
        · rw [if_neg ha]
          exact htail q
      · intro h
        have hpos : ∀ b ∈ l, ∀ q, contains b q = true → 0 < l.countP (contains · q) :=
          fun b hb q hbq => List.countP_pos_iff.mpr ⟨b, hb, hbq⟩
        refine ⟨fun b hb => ⟨?_, ?_⟩, fun q => ?_⟩
        -- of two comparable regions the inner one is itself a point of both
        · by_contra hab
          have hcount := h b
          rw [List.countP_cons, if_pos (by simpa using hab)] at hcount
          have := hpos b hb b (hrefl b)
          omega
        · by_contra hba
          have hcount := h a
          rw [List.countP_cons, if_pos (hrefl a)] at hcount
          have := hpos b hb a (by simpa using hba)
          omega
        · have hcount := h q
          rw [List.countP_cons] at hcount
          omega

end Forest

section MaxByKey

variable [LinearOrder κ] (key : α → κ)

/-- Keep the better of two candidates, the later one on a tie. -/
def laterMax (best : Option α) (a : α) : Option α :=
  match best with
  | none => some a
  | some b => if key a < key b then some b else some a

/-- The element with the greatest key, the last one on a tie. -/
def maxByKey (l : List α) : Option α := l.foldl (laterMax key) none

/-- One more element at the end. -/
theorem maxByKey_concat (l : List α) (a : α) :
    maxByKey key (l ++ [a]) = laterMax key (maxByKey key l) a := by
  simp [maxByKey]

variable {key}

/-- The element is one of the list. -/
theorem mem_of_maxByKey_eq_some {l : List α} {a : α} (h : maxByKey key l = some a) : a ∈ l := by
  induction l using List.reverseRecOn with
  | nil => cases h
  | append_singleton l b ih =>
      rw [maxByKey_concat] at h
      cases hbest : maxByKey key l with
      | none =>
          rw [hbest, laterMax, Option.some_inj] at h
          simp [h]
      | some c =>
          rw [hbest, laterMax] at h
          by_cases hlt : key b < key c
          · rw [if_pos hlt, Option.some_inj] at h
            exact List.mem_append_left _ (ih (hbest.trans (congrArg some h)))
          · rw [if_neg hlt, Option.some_inj] at h
            simp [h]

/-- Only the empty list has none. -/
theorem maxByKey_eq_none_iff {l : List α} : maxByKey key l = none ↔ l = [] := by
  constructor
  · intro h
    cases l using List.reverseRecOn with
    | nil => rfl
    | append_singleton l b =>
        -- whatever came before, the last element or a better one is kept
        rw [maxByKey_concat] at h
        cases hbest : maxByKey key l with
        | none => rw [hbest] at h; cases h
        | some c =>
            rw [hbest, laterMax] at h
            split at h <;> cases h
  · rintro rfl
    rfl

/-- **Among at most one candidate, the key does not matter.** -/
theorem maxByKey_filter_eq_some_iff {p : α → Bool} {l : List α} (h : l.countP p ≤ 1) {a : α} :
    maxByKey key (l.filter p) = some a ↔ a ∈ l ∧ p a = true := by
  rw [List.countP_eq_length_filter] at h
  rw [← List.mem_filter]
  constructor
  · exact mem_of_maxByKey_eq_some
  · intro hmem
    cases hfilter : l.filter p with
    | nil => rw [hfilter] at hmem; cases hmem
    | cons b rest =>
        rw [hfilter] at h hmem
        -- a second candidate would exceed the count
        have hrest : rest = [] := by
          rw [List.length_cons] at h
          exact List.eq_nil_of_length_eq_zero (by omega)
        rw [hrest, List.mem_singleton] at hmem
        rw [hrest, hmem]
        rfl

end MaxByKey

end Zeeder.Foundation
