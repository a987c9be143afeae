import Mathlib.Data.List.Basic
import Mathlib.Data.List.Infix

/-! # Lines, fields and decimal numbers

Texts as lists of characters: a text made of terminated lines splits back into those lines, a
decimal number followed by something that is no digit can be read back, renaming characters or adding a
final separator does to the fields of a text what it says, and an item is searched for among them by
putting separators around it and the text. -/

namespace Zeeder.Foundation

variable {α : Type*} [BEq α] [LawfulBEq α]

/-- **Terminated lines split back**: the lines, and nothing after the last terminator. -/
theorem splitOn_terminated (sep : α) {lines : List (List α)} (h : ∀ l ∈ lines, sep ∉ l) :
    (lines.flatMap (· ++ [sep])).splitOn sep = lines ++ [[]] := by
  induction lines with
  | nil => simp
  | cons l lines ih =>
      have hl : sep ∉ l := h l List.mem_cons_self
      have hrest := ih fun m hm => h m (List.mem_cons_of_mem l hm)
      rw [List.flatMap_cons, List.append_assoc, List.singleton_append,
        List.splitOn_append_cons_self_of_not_mem hl, hrest, List.cons_append]

/-- What precedes the first separator is determined. -/
theorem field_inj {sep : α} {x y u v : List α} (hx : sep ∉ x) (hy : sep ∉ y)
    (h : x ++ sep :: u = y ++ sep :: v) : x = y := by
  have hsplit := congrArg (List.splitOn sep) h
  rw [List.splitOn_append_cons_self_of_not_mem hx, List.splitOn_append_cons_self_of_not_mem hy]
    at hsplit
  exact (List.cons.inj hsplit).1

/-- Renaming characters keeps the fields, when it tells the separator from all others. -/
theorem splitOn_map {f : α → α} {sep : α} (hsep : ∀ a, f a = sep ↔ a = sep) (l : List α) :
    (l.map f).splitOn sep = (l.splitOn sep).map (List.map f) := by
  induction l with
  | nil => simp
  | cons a l ih =>
      rw [List.map_cons, List.splitOn_cons_eq_if_modifyHead, List.splitOn_cons_eq_if_modifyHead, ih]
      by_cases ha : a = sep
      · rw [if_pos (by simpa using (hsep a).mpr ha), if_pos (by simpa using ha)]
        rfl
      · rw [if_neg (by simpa using mt (hsep a).mp ha), if_neg (by simpa using ha)]
        obtain ⟨first, rest, hfields⟩ := List.exists_cons_of_ne_nil (List.splitOn_ne_nil sep l)
        rw [hfields]
        rfl

/-- A character other than the separator stands in some field. -/
theorem exists_mem_splitOn {c sep : α} (hne : c ≠ sep) {l : List α} (hc : c ∈ l) :
    ∃ field ∈ l.splitOn sep, c ∈ field := by
  induction l with
  | nil => cases hc
  | cons a l ih =>
      rw [List.splitOn_cons_eq_if_modifyHead]
      obtain ⟨first, rest, hfields⟩ := List.exists_cons_of_ne_nil (List.splitOn_ne_nil sep l)
      rcases List.mem_cons.mp hc with rfl | hc
      · -- the first character stands in the first field
        rw [if_neg (by simpa using hne), hfields]
        exact ⟨c :: first, List.mem_cons_self, List.mem_cons_self⟩
      · obtain ⟨field, hfield, hmem⟩ := ih hc
        split
        · exact ⟨field, List.mem_cons_of_mem _ hfield, hmem⟩
        · rw [hfields] at hfield ⊢
          rcases List.mem_cons.mp hfield with rfl | hfield
          · exact ⟨a :: field, List.mem_cons_self, List.mem_cons_of_mem _ hmem⟩
          · exact ⟨field, List.mem_cons_of_mem _ hfield, hmem⟩

/-- The first field is what precedes the first separator. -/
theorem head?_splitOn (sep : α) (l : List α) :
    (l.splitOn sep).head? = some (l.takeWhile (· != sep)) := by
  induction l with
  | nil => simp
  | cons a l ih =>
      rw [List.splitOn_cons_eq_if_modifyHead, List.takeWhile_cons]
      by_cases ha : a = sep
      · rw [if_pos (by simpa using ha), if_neg (by simpa using ha)]
        rfl
      · rw [if_neg (by simpa using ha), if_pos (by simpa using ha), List.head?_modifyHead, ih]
        rfl

omit [BEq α] [LawfulBEq α] in
/-- What starts with the separator does not start within a field. -/
theorem cons_infix_append_iff {sep : α} {item field rest : List α} (hfield : sep ∉ field) :
    sep :: item <:+: field ++ sep :: rest ↔ sep :: item <:+: sep :: rest := by
  induction field with
  | nil => rfl
  | cons a field ih =>
      obtain ⟨ha, hfield⟩ := List.ne_and_not_mem_of_not_mem_cons hfield
      rw [List.cons_append, List.infix_cons_iff, ih hfield]
      refine or_iff_right fun h => ha ?_
      exact (List.cons_prefix_cons.mp h).1

/-- An item between separators is the first field or stands further on. -/
theorem wrapped_infix_cons_iff {sep : α} {item field rest : List α} (hitem : sep ∉ item)
    (hfield : sep ∉ field) :
    sep :: (item ++ [sep]) <:+: sep :: (field ++ sep :: rest) ↔
      item = field ∨ sep :: (item ++ [sep]) <:+: sep :: rest := by
  rw [List.infix_cons_iff, cons_infix_append_iff hfield]
  refine or_congr_left ?_
  rw [List.cons_prefix_cons]
  constructor
  · rintro ⟨-, more, hmore⟩
    rw [List.append_assoc, List.singleton_append] at hmore
    exact field_inj hitem hfield hmore
  · rintro rfl
    exact ⟨rfl, rest, by simp⟩

/-- **An item between separators is a field**, when the whole text stands between separators as well.
Induction on the text, field by field. -/
theorem wrapped_infix_iff {sep : α} {item : List α} (hitem : sep ∉ item) (l : List α) :
    sep :: (item ++ [sep]) <:+: sep :: (l ++ [sep]) ↔ item ∈ l.splitOn sep := by
  induction hn : l.length using Nat.strongRecOn generalizing l with
  | ind n ih =>
      by_cases hsep : sep ∈ l
      · obtain ⟨field, rest, rfl, hfield⟩ := List.eq_append_cons_of_mem hsep
        have hshort : rest.length < n := by
          simp only [List.length_append, List.length_cons] at hn
          omega
        rw [List.append_assoc, List.cons_append, wrapped_infix_cons_iff hitem hfield,
          List.splitOn_append_cons_self_of_not_mem hfield, List.mem_cons, ih _ hshort rest rfl]
      · have hlast : ¬ sep :: (item ++ [sep]) <:+: [sep] := fun h => by
          have hlength := h.length_le
          simp at hlength
        rw [wrapped_infix_cons_iff hitem hsep, List.splitOn_eq_singleton hsep, List.mem_singleton]
        exact or_iff_left hlast

/-- A final separator adds an empty field. -/
theorem splitOn_concat_self (sep : α) (l : List α) :
    (l ++ [sep]).splitOn sep = l.splitOn sep ++ [[]] := by
  rw [List.splitOn_append_cons_of_beq l [] (beq_self_eq_true sep), List.splitOn_nil]

/-- Without a final separator, the last field of a nonempty text is not empty. -/
theorem getLast?_splitOn_ne {sep : α} {l : List α} (hne : l ≠ []) (hlast : l.getLast? ≠ some sep) :
    (l.splitOn sep).getLast? ≠ some [] := by
  induction l with
  | nil => exact absurd rfl hne
  | cons a l ih =>
      rw [List.splitOn_cons_eq_if_modifyHead]
      cases l with
      | nil =>
          -- one character, which is not the separator
          have ha : a ≠ sep := fun heq => hlast (by rw [heq]; rfl)
          rw [if_neg (by simpa using ha)]
          simp
      | cons b l =>
          have hrest := ih (List.cons_ne_nil b l) (by rwa [List.getLast?_cons_cons] at hlast)
          obtain ⟨first, rest, hfields⟩ :=
            List.exists_cons_of_ne_nil (List.splitOn_ne_nil sep (b :: l))
          rw [hfields] at hrest ⊢
          split
          · rwa [List.getLast?_cons_cons]
          · -- the first field grows, the others stay
            cases rest with
            | nil => simp
            | cons second rest => simpa using hrest

/-- The decimal text of a number holds digits only. -/
theorem not_mem_repr {c : Char} (hc : c.isDigit = false) (n : ℕ) : c ∉ n.repr.toList := by
  intro hmem
  rw [Nat.toList_repr] at hmem
  rw [Nat.isDigit_of_mem_toDigits (by decide) (by decide) hmem] at hc
  exact absurd hc (by decide)

/-- **A decimal field can be read back** when what follows it starts with no digit. -/
theorem decimal_field_inj {c : Char} (hc : c.isDigit = false) {m n : ℕ} {u v : List Char}
    (h : m.repr.toList ++ c :: u = n.repr.toList ++ c :: v) : m = n := by
  have heq := field_inj (not_mem_repr hc m) (not_mem_repr hc n) h
  rw [Nat.toList_repr, Nat.toList_repr] at heq
  -- reading the digits back inverts printing them
  simpa using congrArg (Nat.ofDigitChars 10 · 0) heq

end Zeeder.Foundation
