import Zeeder.Foundation.Text

/-! # Readers

A reader takes a value off the front of a text and returns it with what follows, or fails. Each has
one law: behind a printed value it returns the value and the rest. A reader of a whole format is put
together from these, and so is the law that it inverts the printer.

* **`readUntil_append`, `readDecimal_append`, `readLines_append`** — the laws of the readers. -/

namespace Zeeder.Foundation

/-! ## Literals and fields -/

section Fields

variable {α : Type*} [BEq α]

/-- Read a fixed text. -/
def readLiteral (literal text : List α) : Option (List α) := text.dropPrefix? literal

/-- Read up to a separator, which is taken off too. -/
def readUntil (sep : α) : List α → Option (List α × List α)
  | [] => none
  | a :: text =>
      if a == sep then some ([], text)
      else (readUntil sep text).map fun (field, rest) => (a :: field, rest)

variable [LawfulBEq α]

@[simp] theorem readLiteral_append (literal rest : List α) :
    readLiteral literal (literal ++ rest) = some rest :=
  List.dropPrefix?_append_of_beq rest (beq_self_eq_true literal)

/-- **A field behind its text** is what stands before the separator. -/
theorem readUntil_append {sep : α} {field : List α} (h : sep ∉ field) (rest : List α) :
    readUntil sep (field ++ sep :: rest) = some (field, rest) := by
  induction field with
  | nil => simp [readUntil]
  | cons a field ih =>
      obtain ⟨hne, hfield⟩ := List.ne_and_not_mem_of_not_mem_cons h
      have ha : (a == sep) = false := by simpa using hne.symm
      rw [List.cons_append, readUntil, ha, ih hfield]
      rfl

end Fields

/-! ## Decimal numbers -/

/-- Read a decimal number. -/
def readDecimal (text : List Char) : Option (ℕ × List Char) :=
  match text.takeWhile Char.isDigit with
  | [] => none
  | digits => some (Nat.ofDigitChars 10 digits 0, text.dropWhile Char.isDigit)

/-- **A number behind its decimal text**, when no digit follows. -/
theorem readDecimal_append (n : ℕ) {rest : List Char}
    (h : ∀ c ∈ rest.head?, c.isDigit = false) :
    readDecimal (n.repr.toList ++ rest) = some (n, rest) := by
  have hdigits : ∀ d ∈ n.repr.toList, d.isDigit = true := fun d hd =>
    Bool.of_not_eq_false fun hfalse => not_mem_repr hfalse n hd
  have hstop : rest.takeWhile Char.isDigit = [] ∧ rest.dropWhile Char.isDigit = rest := by
    cases rest with
    | nil => simp
    | cons c rest => simp [h c rfl]
  have htake : (n.repr.toList ++ rest).takeWhile Char.isDigit = n.repr.toList := by
    rw [List.takeWhile_append_of_pos hdigits, hstop.1, List.append_nil]
  have hdrop : (n.repr.toList ++ rest).dropWhile Char.isDigit = rest := by
    rw [List.dropWhile_append_of_pos hdigits, hstop.2]
  have hvalue : Nat.ofDigitChars 10 n.repr.toList 0 = n := by
    rw [Nat.toList_repr]
    simp
  unfold readDecimal
  rw [htake, hdrop]
  split
  · next hnil =>
      rw [Nat.toList_repr] at hnil
      exact absurd hnil Nat.toDigits_ne_nil
  · rw [hvalue]

/-! ## Lines -/

/-- The end of a line. -/
def crlf : List Char := ['\r', '\n']

/-- Read a line that ends in CRLF. -/
def readLine (text : List Char) : Option (List Char × List Char) := do
  let (line, rest) ← readUntil '\n' text
  if line.getLast? = some '\r' then some (line.dropLast, rest) else none

/-- Read lines up to an empty one, at most `n` with it. -/
def readLines : ℕ → List Char → Option (List (List Char) × List Char)
  | 0, _ => none
  | n + 1, text => do
      let (line, rest) ← readLine text
      if line = [] then some ([], rest)
      else
        let (lines, rest) ← readLines n rest
        some (line :: lines, rest)

theorem readLine_append {line : List Char} (h : '\n' ∉ line) (rest : List Char) :
    readLine (line ++ crlf ++ rest) = some (line, rest) := by
  have hline : '\n' ∉ line ++ ['\r'] := by simpa using h
  have hread : readUntil '\n' (line ++ crlf ++ rest) = some (line ++ ['\r'], rest) := by
    rw [← readUntil_append hline rest]
    simp [crlf]
  simp only [readLine, hread, Option.bind_eq_bind, Option.bind_some, List.getLast?_concat, if_true,
    List.dropLast_concat]

/-- **Lines behind their texts**, when an empty line follows. Induction on the lines. -/
theorem readLines_append {lines : List (List Char)} (h : ∀ line ∈ lines, line ≠ [] ∧ '\n' ∉ line)
    (rest : List Char) {n : ℕ} (hn : lines.length < n) :
    readLines n (lines.flatMap (· ++ crlf) ++ crlf ++ rest) = some (lines, rest) := by
  induction lines generalizing n with
  | nil =>
      obtain ⟨n, rfl⟩ := Nat.exists_eq_succ_of_ne_zero (Nat.ne_of_gt hn)
      have hend : readLine ([] ++ crlf ++ rest) = some ([], rest) := readLine_append (by simp) rest
      rw [List.flatMap_nil, readLines, hend]
      rfl
  | cons line lines ih =>
      obtain ⟨n, rfl⟩ := Nat.exists_eq_succ_of_ne_zero (Nat.ne_of_gt (Nat.zero_lt_of_lt hn))
      obtain ⟨⟨hne, hline⟩, hlines⟩ := List.forall_mem_cons.mp h
      have hrest := ih hlines (Nat.lt_of_succ_lt_succ hn)
      have hread : readLine ((line :: lines).flatMap (· ++ crlf) ++ crlf ++ rest)
          = some (line, lines.flatMap (· ++ crlf) ++ crlf ++ rest) := by
        rw [← readLine_append hline]
        simp only [List.flatMap_cons, List.append_assoc]
      rw [readLines, hread]
      simp only [Option.bind_eq_bind, Option.bind_some, if_neg hne, hrest]

end Zeeder.Foundation
