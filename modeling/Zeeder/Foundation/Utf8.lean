import Mathlib.Algebra.Group.Nat.Defs
import Mathlib.Data.List.Basic
import Mathlib.Data.Nat.Notation

/-! # Reading bytes as text

Lossy UTF-8 decoding as Rust's `String::from_utf8_lossy` does it, and the two ways of splitting a text
that `str::lines` and `str::split_whitespace` offer. Whatever is no well-formed sequence is decoded to
U+FFFD, one for each longest part that begins one.

* **`fromUtf8Lossy_append`** — ASCII bytes decode to themselves, whatever follows them.
* **`splitWhitespace_append`** — a word before white space is the first word.
* **`firstLine_append`** — a text without a line end, followed by a blank, begins the first line. -/

namespace Zeeder.Foundation

/-! ## Decoding -/

/-- The character that stands for what cannot be decoded. -/
def replacementChar : Char := Char.ofNat 0xFFFD

/-- The character of an ASCII byte. -/
def asciiChar (b : UInt8) : Char := Char.ofNat b.toNat

/-- What the bytes after a lead byte may be, for each of them the first and the last; none for a byte
that leads no sequence. -/
def continuationRanges (lead : UInt8) : List (UInt8 × UInt8) :=
  if lead < 0xC2 then []
  else if lead ≤ 0xDF then [(0x80, 0xBF)]
  else if lead = 0xE0 then [(0xA0, 0xBF), (0x80, 0xBF)]
  else if lead = 0xED then [(0x80, 0x9F), (0x80, 0xBF)]
  else if lead ≤ 0xEF then [(0x80, 0xBF), (0x80, 0xBF)]
  else if lead = 0xF0 then [(0x90, 0xBF), (0x80, 0xBF), (0x80, 0xBF)]
  else if lead ≤ 0xF3 then [(0x80, 0xBF), (0x80, 0xBF), (0x80, 0xBF)]
  else if lead = 0xF4 then [(0x80, 0x8F), (0x80, 0xBF), (0x80, 0xBF)]
  else []

/-- The bytes that follow within the given ranges. -/
def continuationBytes : List (UInt8 × UInt8) → List UInt8 → List UInt8
  | (first, last) :: ranges, b :: bytes =>
      if first ≤ b ∧ b ≤ last then b :: continuationBytes ranges bytes else []
  | _, _ => []

/-- The character that a lead byte and its continuation bytes encode. -/
def sequenceChar (lead : UInt8) (continuation : List UInt8) : Char :=
  Char.ofNat (continuation.foldl (fun value b => 64 * value + b.toNat % 64)
    (lead.toNat % 2 ^ (6 - continuation.length)))

/-- Decode a sequence from its lead byte on: the character, and how many more bytes it takes. -/
def decodeSequence (lead : UInt8) (following : List UInt8) : Char × ℕ :=
  let ranges := continuationRanges lead
  let continuation := continuationBytes ranges following
  if ranges ≠ [] ∧ continuation.length = ranges.length then
    (sequenceChar lead continuation, continuation.length)
  else (replacementChar, continuation.length)

/-- Decode bytes of which the first `taken` belong to a sequence already decoded. -/
def decodeLossy (taken : ℕ) : List UInt8 → List Char
  | [] => []
  | b :: bytes =>
      match taken with
      | taken + 1 => decodeLossy taken bytes
      | 0 =>
          if b < 0x80 then asciiChar b :: decodeLossy 0 bytes
          else (decodeSequence b bytes).1 :: decodeLossy (decodeSequence b bytes).2 bytes

/-- `String::from_utf8_lossy`, by the characters of its result. -/
def fromUtf8Lossy (bytes : List UInt8) : List Char := decodeLossy 0 bytes

@[simp] theorem fromUtf8Lossy_nil : fromUtf8Lossy [] = [] := rfl

/-- **ASCII bytes decode to themselves.** -/
theorem fromUtf8Lossy_append {ascii : List UInt8} (h : ∀ b ∈ ascii, b < 0x80) (bytes : List UInt8) :
    fromUtf8Lossy (ascii ++ bytes) = ascii.map asciiChar ++ fromUtf8Lossy bytes := by
  induction ascii with
  | nil => rfl
  | cons b ascii ih =>
      have hb : b < 0x80 := h b List.mem_cons_self
      have hrest := ih fun c hc => h c (List.mem_cons_of_mem b hc)
      unfold fromUtf8Lossy at hrest ⊢
      rw [List.cons_append, decodeLossy, if_pos hb, hrest]
      rfl

/-- A three-byte sequence, a sequence cut off by `(`, and a surrogate: each byte of the surrogate is
replaced on its own. -/
example : (fromUtf8Lossy [0xE2, 0x82, 0xAC, 0xF0, 0x90, 0x28, 0xED, 0xA0, 0x80]).map Char.toNat
    = [0x20AC, 0xFFFD, 0x28, 0xFFFD, 0xFFFD, 0xFFFD] := by decide +kernel

/-! ## Words -/

/-- `char::is_whitespace`: the Unicode property `White_Space`. -/
def isWhitespace (c : Char) : Bool :=
  decide (9 ≤ c.toNat ∧ c.toNat ≤ 13) || decide (0x2000 ≤ c.toNat ∧ c.toNat ≤ 0x200A) ||
    decide (c.toNat ∈ [0x20, 0x85, 0xA0, 0x1680, 0x2028, 0x2029, 0x202F, 0x205F, 0x3000])

/-- `str::split_whitespace`: the nonempty parts between white space. -/
def splitWhitespace (text : List Char) : List (List Char) :=
  (text.splitOnP isWhitespace).filter fun word => !word.isEmpty

@[simp] theorem splitWhitespace_nil : splitWhitespace [] = [] := rfl

/-- A word is a text without white space, and not empty. -/
def IsWord (word : List Char) : Prop := word ≠ [] ∧ ∀ c ∈ word, isWhitespace c = false

/-- A word alone is the only word. -/
theorem splitWhitespace_word {word : List Char} (h : IsWord word) :
    splitWhitespace word = [word] := by
  rw [splitWhitespace, List.splitOnP_eq_singleton h.2]
  simp [h.1]

/-- **A word before white space is the first word.** -/
theorem splitWhitespace_append {word : List Char} (h : IsWord word) {c : Char}
    (hc : isWhitespace c = true) (rest : List Char) :
    splitWhitespace (word ++ c :: rest) = word :: splitWhitespace rest := by
  rw [splitWhitespace, List.splitOnP_append_cons_of_forall_mem h.2 c hc, List.filter_cons,
    if_pos (by simpa using h.1)]
  rfl

/-! ## The first line -/

/-- `str::lines`, its first: up to the first line feed, without a carriage return before it. An empty
text has no lines. -/
def firstLine (text : List Char) : Option (List Char) :=
  if text = [] then none
  else if '\n' ∈ text then
    let line := text.takeWhile (· ≠ '\n')
    some (if line.getLast? = some '\r' then line.dropLast else line)
  else some text

/-- A text without a line end is its own first line. -/
theorem firstLine_of_not_mem {text : List Char} (hne : text ≠ []) (h : '\n' ∉ text) :
    firstLine text = some text := by
  rw [firstLine, if_neg hne, if_neg h]

/-- Nothing, or something that starts with a blank. -/
def BlankOrEnd (rest : List Char) : Prop := rest = [] ∨ ∃ more, rest = ' ' :: more

/-- **What precedes a blank or the end begins the first line**, unless it has a line end in it. -/
theorem firstLine_append {front rest : List Char} (hne : front ≠ []) (hline : '\n' ∉ front)
    (hrest : BlankOrEnd rest) :
    ∃ tail, firstLine (front ++ rest) = some (front ++ tail) ∧ BlankOrEnd tail := by
  unfold firstLine
  rw [if_neg (List.append_ne_nil_of_left_ne_nil hne rest)]
  rcases hrest with rfl | ⟨more, rfl⟩
  · rw [List.append_nil, if_neg hline]
    exact ⟨[], by rw [List.append_nil], Or.inl rfl⟩
  · split
    · -- cut at the line feed, which comes after the blank
      have htake : (front ++ ' ' :: more).takeWhile (· ≠ '\n')
          = front ++ ' ' :: more.takeWhile (· ≠ '\n') := by
        rw [List.takeWhile_append_of_pos fun c hc => by
          simpa using fun heq : c = '\n' => hline (heq ▸ hc), List.takeWhile_cons_of_pos (by decide)]
      simp only [htake]
      split
      · next hlast =>
          -- the carriage return is not the blank itself
          generalize more.takeWhile (· ≠ '\n') = line at hlast ⊢
          cases line with
          | nil => simp at hlast
          | cons c line =>
              exact ⟨' ' :: (c :: line).dropLast, by
                rw [List.dropLast_append_cons, List.dropLast_cons_cons], Or.inr ⟨_, rfl⟩⟩
      · exact ⟨_, rfl, Or.inr ⟨_, rfl⟩⟩
    · exact ⟨_, rfl, Or.inr ⟨more, rfl⟩⟩

end Zeeder.Foundation
