import Mathlib.Data.List.AList
import Mathlib.Data.List.Induction
import Mathlib.Data.Finset.Card
import Mathlib.Data.Finset.Dedup

/-! # First-wins keyed selection

Walking a list and keeping, for each key, the first entry that has it (`entry(key).or_insert(x)`).
The result is a finite map from keys to representatives.

* **`mem_firstWins`** — its keys are exactly the keys that occur in the list.
* **`firstWins_entry`** — each representative is a member of the list and has its own key.
* **`length_representatives`** — there is one representative for each distinct key.
* **`mem_representatives_iff`** — an element represents its key when it comes first among those with
  that key. -/

namespace Zeeder.Foundation

variable {α κ : Type*} [DecidableEq κ] (key : α → κ)

/-- Keep `a` under its key unless the key already has an entry. -/
def orInsert (m : AList (fun _ : κ => α)) (a : α) : AList (fun _ : κ => α) :=
  if key a ∈ m then m else m.insert (key a) a

/-- For each key that occurs in the list, its first entry. -/
def firstWins (l : List α) : AList (fun _ : κ => α) := l.foldl (orInsert key) ∅

/-- The representatives a keyed map holds, in the map's own order. -/
def representatives (m : AList (fun _ : κ => α)) : List α := m.entries.map Sigma.snd

/-- One more entry is inserted after all earlier ones had their turn. -/
theorem firstWins_concat (l : List α) (a : α) :
    firstWins key (l ++ [a]) = orInsert key (firstWins key l) a := by
  rw [firstWins, List.foldl_append, List.foldl_cons, List.foldl_nil, firstWins]

/-- An insertion adds its key and no other. -/
theorem mem_orInsert (m : AList (fun _ : κ => α)) (a : α) (k : κ) :
    k ∈ orInsert key m a ↔ k = key a ∨ k ∈ m := by
  unfold orInsert
  by_cases h : key a ∈ m
  · rw [if_pos h]
    constructor
    · exact Or.inr
    · rintro (rfl | hk)
      exacts [h, hk]
  · rw [if_neg h]; exact AList.mem_insert m

/-- Every entry after an insertion is an old entry or the inserted one under its own key. -/
theorem entry_orInsert {m : AList (fun _ : κ => α)} {a : α} {e : Sigma fun _ : κ => α}
    (he : e ∈ (orInsert key m a).entries) : e ∈ m.entries ∨ e = ⟨key a, a⟩ := by
  unfold orInsert at he
  by_cases h : key a ∈ m
  · rw [if_pos h] at he; exact Or.inl he
  · rw [if_neg h, AList.entries_insert_of_notMem h] at he
    rcases List.mem_cons.mp he with rfl | he
    exacts [Or.inr rfl, Or.inl he]

/-- **The keys kept are the keys seen.** -/
theorem mem_firstWins (l : List α) (k : κ) : k ∈ firstWins key l ↔ k ∈ l.map key := by
  induction l using List.reverseRecOn with
  | nil => simp [firstWins]
  | append_singleton l a ih =>
      rw [firstWins_concat, mem_orInsert, ih, List.map_append, List.mem_append,
        List.map_singleton, List.mem_singleton]
      exact or_comm

/-- **Each representative is a member of the list, kept under its own key.** -/
theorem firstWins_entry {l : List α} {e : Sigma fun _ : κ => α}
    (he : e ∈ (firstWins key l).entries) : e.2 ∈ l ∧ key e.2 = e.1 := by
  induction l using List.reverseRecOn with
  | nil => simp [firstWins] at he
  | append_singleton l a ih =>
      rw [firstWins_concat] at he
      -- an entry of the longer list was there before, or is the last element's own
      rcases entry_orInsert key he with he | rfl
      · exact ⟨List.mem_append_left _ (ih he).1, (ih he).2⟩
      · exact ⟨List.mem_append_right _ (List.mem_singleton_self _), rfl⟩

/-- The representatives are members of the list. -/
theorem mem_of_mem_representatives {l : List α} {a : α}
    (h : a ∈ representatives (firstWins key l)) : a ∈ l := by
  obtain ⟨e, he, rfl⟩ := List.mem_map.mp h
  exact (firstWins_entry key he).1

/-- Reading the key off each representative gives back the keys of the map. -/
theorem map_key_representatives (l : List α) :
    (representatives (firstWins key l)).map key = (firstWins key l).keys := by
  rw [representatives, List.map_map, AList.keys, List.keys]
  exact List.map_congr_left fun e he => (firstWins_entry key he).2

/-- **The representatives have pairwise distinct keys.** -/
theorem nodup_map_key_representatives (l : List α) :
    ((representatives (firstWins key l)).map key).Nodup := by
  rw [map_key_representatives]; exact (firstWins key l).keys_nodup

/-- The set of the representatives' keys is the set of keys in the list. -/
theorem toFinset_map_key_representatives (l : List α) :
    ((representatives (firstWins key l)).map key).toFinset = (l.map key).toFinset := by
  ext k
  rw [List.mem_toFinset, List.mem_toFinset, map_key_representatives, ← AList.mem_keys,
    mem_firstWins]

/-- **One representative for each distinct key.** -/
theorem length_representatives (l : List α) :
    (representatives (firstWins key l)).length = (l.map key).toFinset.card := by
  rw [← toFinset_map_key_representatives,
    List.toFinset_card_of_nodup (nodup_map_key_representatives key l), List.length_map]

/-- An insertion only matters to a key that has no entry yet. -/
theorem lookup_orInsert (m : AList (fun _ : κ => α)) (a : α) (k : κ) :
    (orInsert key m a).lookup k = (m.lookup k).or (if key a = k then some a else none) := by
  unfold orInsert
  by_cases hk : key a = k
  · subst hk
    rw [if_pos rfl]
    by_cases h : key a ∈ m
    · obtain ⟨b, hb⟩ := Option.isSome_iff_exists.mp (AList.lookup_isSome.mpr h)
      rw [if_pos h, hb, Option.some_or]
    · rw [if_neg h, AList.lookup_insert, AList.lookup_eq_none.mpr h, Option.none_or]
  · rw [if_neg hk, Option.or_none]
    split
    · rfl
    · exact AList.lookup_insert_ne (Ne.symm hk)

/-- **Each key is represented by the first element that has it.** -/
theorem lookup_firstWins (l : List α) (k : κ) :
    (firstWins key l).lookup k = l.find? fun b => key b = k := by
  induction l using List.reverseRecOn with
  | nil => rfl
  | append_singleton l a ih =>
      rw [firstWins_concat, lookup_orInsert, ih, List.find?_append]
      congr 1
      by_cases h : key a = k <;> simp [h]

/-- An element is a representative when it comes first among the elements with its key. -/
theorem mem_representatives_iff {l : List α} {a : α} :
    a ∈ representatives (firstWins key l) ↔ (l.find? fun b => key b = key a) = some a := by
  rw [← lookup_firstWins, ← Option.mem_def, AList.mem_lookup_iff]
  constructor
  · intro h
    obtain ⟨e, he, rfl⟩ := List.mem_map.mp h
    -- the entry is kept under its own key
    rwa [(firstWins_entry key he).2]
  · exact fun h => List.mem_map_of_mem h

end Zeeder.Foundation
