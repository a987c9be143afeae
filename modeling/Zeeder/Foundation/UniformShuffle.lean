import Zeeder.Foundation.Shuffle
import Mathlib.Algebra.BigOperators.Field
import Mathlib.Algebra.Order.Field.Rat
import Mathlib.Data.Fintype.BigOperators
import Mathlib.Data.Fintype.Perm

/-! # Uniformly random shuffles

A uniformly random choice is the finite set of its outcomes, all counted equally: the `frequency` of
a predicate is the share of the outcomes at which it holds. A uniformly random shuffle of a list of
length `n` is a permutation of `Fin n`, read as the shuffle that puts the element at place `σ i` to
place `i`.

* **`frequency_eq_one_div_card`** — of a family of events one of which always happens, symmetric
  ones have the same share.
* **`frequency_and`** — the product rule for two independent choices.
* **`frequency_getElem?_eq_some`, `frequency_mem_take`** — every element of a list takes each place
  equally often, and lies among the first `k` with share `min k n / n`.
* **`frequency_find?_eq_some`** — of the elements with one key, each comes first equally often. -/

namespace Zeeder.Foundation

open Finset Equiv

/-! ## Shares of outcomes -/

section Frequency

variable {Ω Ω' ι : Type*} [Fintype Ω] [Fintype Ω']

/-- The share of the outcomes at which `P` holds, all outcomes counted equally. -/
def frequency (P : Ω → Prop) [DecidablePred P] : ℚ := #{ω | P ω} / Fintype.card Ω

/-- Equivalent events have the same share. -/
theorem frequency_congr {P Q : Ω → Prop} [DecidablePred P] [DecidablePred Q]
    (h : ∀ ω, P ω ↔ Q ω) : frequency P = frequency Q := by
  rw [frequency, frequency, filter_congr fun ω _ => h ω]

/-- Events that a bijection of the outcomes exchanges have the same share. -/
theorem frequency_equiv {P Q : Ω → Prop} [DecidablePred P] [DecidablePred Q] (e : Ω ≃ Ω)
    (h : ∀ ω, P ω ↔ Q (e ω)) : frequency P = frequency Q := by
  have hcard : #{ω | P ω} = #{ω | Q ω} := card_equiv e fun ω => by simp [h]
  rw [frequency, frequency, hcard]

/-- A sure event has share one. -/
theorem frequency_eq_one [Nonempty Ω] {P : Ω → Prop} [DecidablePred P] (h : ∀ ω, P ω) :
    frequency P = 1 := by
  rw [frequency, filter_true_of_mem fun ω _ => h ω, card_univ]
  exact div_self (Nat.cast_ne_zero.mpr Fintype.card_ne_zero)

/-- **The sum rule**: the share of a union of disjoint events. -/
theorem frequency_exists {s : Finset ι} {P : ι → Ω → Prop} [∀ i, DecidablePred (P i)]
    [DecidablePred fun ω => ∃ i ∈ s, P i ω]
    (hdisjoint : ∀ ω, ∀ i ∈ s, ∀ j ∈ s, P i ω → P j ω → i = j) :
    frequency (fun ω => ∃ i ∈ s, P i ω) = ∑ i ∈ s, frequency (P i) := by
  classical
  have hunion : ({ω | ∃ i ∈ s, P i ω} : Finset Ω) = s.biUnion fun i => {ω | P i ω} := by
    ext ω
    simp
  unfold frequency
  rw [← sum_div, ← Nat.cast_sum, hunion, card_biUnion]
  intro i hi j hj hij
  exact disjoint_filter.mpr fun ω _ hPi hPj => hij (hdisjoint ω i hi j hj hPi hPj)

/-- **Symmetric events**: if exactly one event of a family always happens and all have the same
share, the share is one in their number. -/
theorem frequency_eq_one_div_card [Nonempty Ω] {s : Finset ι} {P : ι → Ω → Prop}
    [∀ i, DecidablePred (P i)] (hexists : ∀ ω, ∃ i ∈ s, P i ω)
    (hdisjoint : ∀ ω, ∀ i ∈ s, ∀ j ∈ s, P i ω → P j ω → i = j)
    (hsymm : ∀ i ∈ s, ∀ j ∈ s, frequency (P i) = frequency (P j)) {i : ι} (hi : i ∈ s) :
    frequency (P i) = 1 / #s := by
  classical
  have hsum : ∑ j ∈ s, frequency (P j) = 1 := by
    rw [← frequency_exists hdisjoint]
    exact frequency_eq_one hexists
  rw [sum_congr rfl fun j hj => hsymm j hj i hi, sum_const, nsmul_eq_mul] at hsum
  have hcard : (#s : ℚ) ≠ 0 := Nat.cast_ne_zero.mpr (card_ne_zero_of_mem hi)
  rw [eq_div_iff hcard, mul_comm]
  exact hsum

/-- **The product rule**: an event of the first choice, and one of the second whose share is the same
whenever the first happens. -/
theorem frequency_and [Nonempty Ω'] {P : Ω → Prop} {Q : Ω → Ω' → Prop} [DecidablePred P]
    [∀ ω, DecidablePred (Q ω)] [DecidablePred fun ω : Ω × Ω' => P ω.1 ∧ Q ω.1 ω.2] {q : ℚ}
    (hQ : ∀ ω, P ω → frequency (Q ω) = q) :
    frequency (fun ω : Ω × Ω' => P ω.1 ∧ Q ω.1 ω.2) = frequency P * q := by
  have hcount : #{ω : Ω × Ω' | P ω.1 ∧ Q ω.1 ω.2} = ∑ ω with P ω, #{ω' | Q ω ω'} := by
    rw [card_filter, Fintype.sum_prod_type, sum_filter]
    refine sum_congr rfl fun ω _ => ?_
    by_cases hP : P ω
    · simp only [hP, true_and, if_true, card_filter]
    · simp only [hP, false_and, if_false, sum_const_zero]
  have hne : (Fintype.card Ω' : ℚ) ≠ 0 := Nat.cast_ne_zero.mpr Fintype.card_ne_zero
  have hfibre : ∀ ω, P ω → (#{ω' | Q ω ω'} : ℚ) = q * Fintype.card Ω' := by
    intro ω hω
    rw [← hQ ω hω, frequency, div_mul_cancel₀ _ hne]
  unfold frequency
  rw [hcount, Nat.cast_sum, sum_congr rfl fun ω hω => hfibre ω (mem_filter.mp hω).2, sum_const,
    nsmul_eq_mul, Fintype.card_prod, Nat.cast_mul, ← mul_assoc, mul_div_mul_right _ _ hne,
    mul_div_right_comm]

/-- The product rule for an event of the first choice alone. -/
theorem frequency_fst [Nonempty Ω'] {P : Ω → Prop} [DecidablePred P] :
    frequency (fun ω : Ω × Ω' => P ω.1) = frequency P := by
  have h := frequency_and (P := P) (Q := fun _ (_ : Ω') => True) (q := 1)
    fun _ _ => frequency_eq_one fun _ => trivial
  rw [mul_one] at h
  rw [← h]
  exact frequency_congr fun ω => (and_iff_left trivial).symm

/-- The product rule for an event of the second choice that has one share throughout. -/
theorem frequency_snd [Nonempty Ω] [Nonempty Ω'] {Q : Ω → Ω' → Prop} [∀ ω, DecidablePred (Q ω)]
    [DecidablePred fun ω : Ω × Ω' => Q ω.1 ω.2] {q : ℚ} (hQ : ∀ ω, frequency (Q ω) = q) :
    frequency (fun ω : Ω × Ω' => Q ω.1 ω.2) = q := by
  have h := frequency_and (P := fun _ : Ω => True) fun ω _ => hQ ω
  rw [frequency_eq_one fun _ => trivial, one_mul] at h
  rw [← h]
  exact frequency_congr fun ω => (and_iff_right trivial).symm

end Frequency

/-! ## Shuffles by permutation -/

section Permutation

variable {α κ : Type*} {n : ℕ} {l : List α}

/-- The shuffle that puts the element at place `σ i` to place `i`; a list whose length is not `n`
stays as it is. -/
def Shuffle.ofPerm (σ : Perm (Fin n)) : Shuffle α where
  apply l := if h : l.length = n then List.ofFn fun i => l.get ((σ i).cast h.symm) else l
  perm l := by
    by_cases h : l.length = n
    · subst h
      rw [dif_pos rfl]
      exact (σ.ofFn_comp_perm l.get).trans (by rw [List.ofFn_get])
    · rw [dif_neg h]

/-- What the shuffle by `σ` puts to a place. -/
theorem getElem?_ofPerm_apply (σ : Perm (Fin n)) (h : l.length = n) (i : Fin n) :
    ((Shuffle.ofPerm σ).apply l)[i.val]? = some (l.get ((σ i).cast h.symm)) := by
  rw [Shuffle.ofPerm]
  simp [h]

/-- Each place of a permutation takes each value equally often. -/
theorem frequency_perm_apply_eq (i j : Fin n) :
    frequency (fun σ : Perm (Fin n) => σ i = j) = 1 / n := by
  have h := frequency_eq_one_div_card (s := univ) (P := fun (j : Fin n) (σ : Perm (Fin n)) => σ i = j)
    (fun σ => ⟨σ i, mem_univ _, rfl⟩) (fun σ j _ k _ hj hk => hj.symm.trans hk) ?_ (mem_univ j)
  · rwa [card_univ, Fintype.card_fin] at h
  · -- exchanging two values is a bijection of the permutations
    intro j _ k _
    refine frequency_equiv (Equiv.mulLeft (swap j k)) fun σ => ?_
    rw [Equiv.coe_mulLeft, Perm.mul_apply, swap_apply_eq_iff, swap_apply_right]

/-- **Every element takes each place equally often.** -/
theorem frequency_getElem?_eq_some [DecidableEq α] (hl : l.Nodup) (h : l.length = n) {a : α}
    (ha : a ∈ l) {i : ℕ} (hi : i < n) :
    frequency (fun σ : Perm (Fin n) => ((Shuffle.ofPerm σ).apply l)[i]? = some a) = 1 / n := by
  obtain ⟨j, rfl⟩ := List.get_of_mem ha
  rw [← frequency_perm_apply_eq ⟨i, hi⟩ (j.cast h)]
  refine frequency_congr fun σ => ?_
  rw [getElem?_ofPerm_apply σ h ⟨i, hi⟩, Option.some_inj, hl.get_inj_iff]
  constructor
  · intro heq
    rw [← heq]
    rfl
  · intro heq
    rw [heq]
    rfl

/-- An element of a list lies among its first `k` when it has one of these places. -/
theorem mem_take_iff_exists_getElem? {k : ℕ} {a : α} :
    a ∈ l.take k ↔ ∃ i ∈ range (min k l.length), l[i]? = some a := by
  rw [List.mem_take_iff_getElem]
  simp only [mem_range]
  constructor
  · rintro ⟨i, hi, rfl⟩
    exact ⟨i, hi, List.getElem?_eq_getElem _⟩
  · rintro ⟨i, hi, hget⟩
    obtain ⟨hlt, rfl⟩ := List.getElem?_eq_some_iff.mp hget
    exact ⟨i, hi, rfl⟩

/-- **Every element lies among the first `k` with share `min k n / n`.** -/
theorem frequency_mem_take [DecidableEq α] (hl : l.Nodup) (h : l.length = n) {a : α} (ha : a ∈ l)
    (k : ℕ) :
    frequency (fun σ : Perm (Fin n) => a ∈ ((Shuffle.ofPerm σ).apply l).take k)
      = (min k n : ℕ) / n := by
  have hplaces : frequency (fun σ : Perm (Fin n) => a ∈ ((Shuffle.ofPerm σ).apply l).take k)
      = frequency (fun σ : Perm (Fin n) => ∃ i ∈ range (min k n),
          ((Shuffle.ofPerm σ).apply l)[i]? = some a) := by
    refine frequency_congr fun σ => ?_
    rw [mem_take_iff_exists_getElem?, Shuffle.length_apply, h]
  rw [hplaces, frequency_exists]
  · -- each of the `min k n` places has share `1 / n`
    rw [sum_congr rfl fun i hi => frequency_getElem?_eq_some hl h ha
      ((mem_range.mp hi).trans_le (min_le_right k n)), sum_const, card_range, nsmul_eq_mul, mul_one_div]
  · intro σ i hi j hj hget hget'
    have hnodup : ((Shuffle.ofPerm σ).apply l).Nodup := (Shuffle.ofPerm σ).nodup_apply.mpr hl
    have hlt : i < ((Shuffle.ofPerm σ).apply l).length := by
      rw [Shuffle.length_apply, h]
      exact (mem_range.mp hi).trans_le (min_le_right k n)
    exact (List.getElem?_inj hlt hnodup).mp (hget.trans hget'.symm)

/-- Exchanging two values of the permutation exchanges two elements of the shuffled list. -/
theorem ofPerm_swap_mul_apply [DecidableEq α] (σ : Perm (Fin l.length)) (hl : l.Nodup)
    (j k : Fin l.length) :
    (Shuffle.ofPerm (swap j k * σ)).apply l
      = ((Shuffle.ofPerm σ).apply l).map (swap (l.get j) (l.get k)) := by
  simp only [Shuffle.ofPerm, dif_pos, List.map_ofFn, Fin.cast_eq_self]
  congr 1
  funext i
  exact ((List.nodup_iff_injective_get.mp hl).swap_apply j k (σ i)).symm

/-- **Of the elements with one key, each comes first equally often.** -/
theorem frequency_find?_eq_some [DecidableEq α] [DecidableEq κ] (key : α → κ) (hl : l.Nodup) {a : α}
    (ha : a ∈ l) :
    frequency (fun σ : Perm (Fin l.length) =>
        ((Shuffle.ofPerm σ).apply l).find? (fun b => key b = key a) = some a)
      = 1 / l.countP fun b => key b = key a := by
  let s := (l.filter fun b => key b = key a).toFinset
  have hmem : ∀ b, b ∈ s ↔ b ∈ l ∧ key b = key a := fun b => by simp [s]
  have hcard : #s = l.countP fun b => key b = key a := by
    rw [List.toFinset_card_of_nodup (hl.filter _), List.countP_eq_length_filter]
  rw [← hcard]
  refine frequency_eq_one_div_card (P := fun b (σ : Perm (Fin l.length)) =>
    ((Shuffle.ofPerm σ).apply l).find? (fun b => key b = key a) = some b) ?_ ?_ ?_
    ((hmem a).mpr ⟨ha, rfl⟩)
  · intro σ
    -- the key occurs, so some element with it comes first
    have hsome : (((Shuffle.ofPerm σ).apply l).find? fun b => key b = key a).isSome :=
      List.find?_isSome.mpr ⟨a, (Shuffle.ofPerm σ).mem_apply.mpr ha, by simp⟩
    obtain ⟨b, hb⟩ := Option.isSome_iff_exists.mp hsome
    have hkey : key b = key a := by simpa using List.find?_some hb
    have hbl : b ∈ l := (Shuffle.ofPerm σ).mem_apply.mp (List.mem_of_find?_eq_some hb)
    exact ⟨b, (hmem b).mpr ⟨hbl, hkey⟩, hb⟩
  · intro σ b _ c _ hb hc
    exact Option.some_inj.mp (hb.symm.trans hc)
  · intro b hb c hc
    obtain ⟨hbl, hbkey⟩ := (hmem b).mp hb
    obtain ⟨hcl, hckey⟩ := (hmem c).mp hc
    obtain ⟨j, rfl⟩ := List.get_of_mem hbl
    obtain ⟨k, rfl⟩ := List.get_of_mem hcl
    -- exchanging the two elements keeps every key, and turns one coming first into the other
    have hkey : (fun b => decide (key b = key a)) ∘ swap (l.get j) (l.get k)
        = fun b => decide (key b = key a) := by
      funext x
      rw [Function.comp_apply, apply_swap_eq_self (hbkey.trans hckey.symm)]
    refine frequency_equiv (Equiv.mulLeft (swap j k)) fun σ => ?_
    rw [Equiv.coe_mulLeft, ofPerm_swap_mul_apply σ hl, List.find?_map, hkey, Option.map_eq_some_iff]
    simp only [swap_apply_eq_iff, swap_apply_right, exists_eq_right]

end Permutation

end Zeeder.Foundation
