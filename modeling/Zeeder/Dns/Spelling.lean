import Zeeder.Dns.Reference

/-! # Spellings of one name

A configured name may be written in any case, and with or without its trailing dot. hickory-proto
parses such spellings to the same labels, ignoring case; two more properties of `HickoryProto` say
so. A dot is a trailing dot only when it is not part of an escape (`\.`, `\046`).

* **`Respelling.lowerLabels_eq`** — respelling a text keeps the lowercased labels it parses to.
* **`reference_trailingDotAlike`, `reference_caseAlike`** — the reference implementation meets both
  properties. -/

namespace Zeeder.Dns

open Foundation

/-! ## Respelling a text -/

/-- Where a reader of a name stands: in a label, or inside an escape. -/
inductive EscapeState where
  /-- In a label. -/
  | label
  /-- After a backslash. -/
  | escape
  /-- After a backslash and a digit. -/
  | firstDigit
  /-- After a backslash and two digits. -/
  | secondDigit
  deriving DecidableEq, Repr

/-- Read one character: an escape is a backslash and one character, or three digits. -/
def EscapeState.next : EscapeState → Char → EscapeState
  | label, c => if c = '\\' then escape else label
  | escape, c => if c.isDigit then firstDigit else label
  | firstDigit, _ => secondDigit
  | secondDigit, _ => label

/-- The text does not end inside an escape. -/
def EndsInLabel (text : String) : Prop := text.toList.foldl EscapeState.next .label = .label

instance (text : String) : Decidable (EndsInLabel text) := inferInstanceAs (Decidable (_ = _))

/-- The text has no trailing dot, and a dot added to it is one. -/
def LacksTrailingDot (text : String) : Prop :=
  EndsInLabel text ∧ ∀ front, EndsInLabel front → text ≠ front ++ "."

/-- A text that ends in a label, and in no dot, lacks its trailing dot. -/
theorem lacksTrailingDot_of_getLast? {text : String} (hends : EndsInLabel text)
    (hlast : text.toList.getLast? ≠ some '.') : LacksTrailingDot text := by
  refine ⟨hends, fun front _ heq => hlast ?_⟩
  rw [heq, String.toList_append]
  exact List.getLast?_concat

/-- One change to the spelling of a name. -/
inductive Respelling : String → String → Prop where
  /-- Letters change case. -/
  | recase {text text' : String} (same : text.toList.map Char.toLower = text'.toList.map Char.toLower) :
      Respelling text text'
  /-- The name gains its trailing dot. -/
  | gainDot {text : String} (lacks : LacksTrailingDot text) : Respelling text (text ++ ".")
  /-- The name loses its trailing dot. -/
  | loseDot {text : String} (lacks : LacksTrailingDot text) : Respelling (text ++ ".") text

/-! ## What hickory-proto makes of it -/

namespace HickoryProto

variable (hickory : HickoryProto)

/-- The lowercased labels that a text parses to, if it parses. -/
def lowerLabels (text : String) : Option (List Label) :=
  (hickory.fromAscii text).toOption.map fun name => name.labels.map lowercaseLabel

/-- **`from_ascii` parses a name with and without its trailing dot alike.** -/
def TrailingDotAlike : Prop :=
  ∀ text, LacksTrailingDot text → ∀ labels,
    (∃ name, hickory.fromAscii text = .ok name ∧ name.labels = labels) ↔
      ∃ name, hickory.fromAscii (text ++ ".") = .ok name ∧ name.labels = labels

/-- **`from_ascii` takes letters of either case**, and keeps everything else. -/
def CaseAlike : Prop :=
  ∀ text text' : String, text.toList.map Char.toLower = text'.toList.map Char.toLower → ∀ labels,
    (∃ name, hickory.fromAscii text = .ok name ∧ name.labels.map lowercaseLabel = labels) ↔
      ∃ name, hickory.fromAscii text' = .ok name ∧ name.labels.map lowercaseLabel = labels

variable {hickory}

theorem lowerLabels_eq_some_iff {text : String} {labels : List Label} :
    hickory.lowerLabels text = some labels ↔
      ∃ name, hickory.fromAscii text = .ok name ∧ name.labels.map lowercaseLabel = labels := by
  unfold lowerLabels
  cases hickory.fromAscii text with
  | error error => simp [Except.toOption]
  | ok name => simp [Except.toOption]

end HickoryProto

/-- A name without its trailing dot parses to the same lowercased labels. -/
theorem lowerLabels_append_dot {hickory : HickoryProto} (hdot : hickory.TrailingDotAlike)
    {text : String} (h : LacksTrailingDot text) :
    hickory.lowerLabels (text ++ ".") = hickory.lowerLabels text := by
  refine Option.ext fun labels => ?_
  rw [HickoryProto.lowerLabels_eq_some_iff, HickoryProto.lowerLabels_eq_some_iff]
  constructor
  · rintro ⟨name, hname, rfl⟩
    obtain ⟨other, hother, heq⟩ := (hdot text h name.labels).mpr ⟨name, hname, rfl⟩
    exact ⟨other, hother, by rw [heq]⟩
  · rintro ⟨name, hname, rfl⟩
    obtain ⟨other, hother, heq⟩ := (hdot text h name.labels).mp ⟨name, hname, rfl⟩
    exact ⟨other, hother, by rw [heq]⟩

/-- **Respelling keeps the lowercased labels.** -/
theorem Respelling.lowerLabels_eq {hickory : HickoryProto} (hdot : hickory.TrailingDotAlike)
    (hcase : hickory.CaseAlike) {text text' : String} (h : Respelling text text') :
    hickory.lowerLabels text = hickory.lowerLabels text' := by
  cases h with
  | recase same =>
      refine Option.ext fun labels => ?_
      rw [HickoryProto.lowerLabels_eq_some_iff, HickoryProto.lowerLabels_eq_some_iff]
      exact hcase text text' same labels
  | gainDot lacks => exact (lowerLabels_append_dot hdot lacks).symm
  | loseDot lacks => exact lowerLabels_append_dot hdot lacks

/-! ## The reference implementation ignores the trailing dot -/

namespace Reference

/-- Whether a name is fully qualified is not in its labels. -/
theorem exists_ofParts_iff (parts : List (List Char)) (isFqdn isFqdn' : Bool) (labels : List Label) :
    (∃ name, ofParts parts isFqdn = .ok name ∧ name.labels = labels) ↔
      ∃ name, ofParts parts isFqdn' = .ok name ∧ name.labels = labels := by
  unfold ofParts ofLabels
  split
  · split
    · exact ⟨fun ⟨name, hname, h⟩ => ⟨_, rfl, by cases hname; exact h⟩,
        fun ⟨name, hname, h⟩ => ⟨_, rfl, by cases hname; exact h⟩⟩
    · simp
  · simp

theorem isLabelChar_of_ofParts {parts : List (List Char)} {isFqdn : Bool} {name : Name}
    (h : ofParts parts isFqdn = .ok name) :
    ∀ part ∈ parts, ∀ c ∈ part, isLabelChar c = true := by
  unfold ofParts at h
  split at h
  · next hparts => simpa [List.all_eq_true] using hparts
  · cases h

/-- A host name is made of dots and the characters of labels. -/
theorem isLabelChar_of_fromAscii {text : String} {name : Name} (h : fromAscii text = .ok name)
    {c : Char} (hc : c ∈ text.toList) (hdot : c ≠ '.') : isLabelChar c = true := by
  obtain ⟨part, hpart, hmem⟩ := exists_mem_splitOn hdot hc
  unfold fromAscii at h
  split at h
  · next hnil =>
      rw [hnil] at hc
      cases hc
  · split at h
    · next hroot =>
        rw [hroot] at hc
        exact absurd (List.mem_singleton.mp hc) hdot
    · dsimp only at h
      split at h
      · next hlast =>
          -- the part is not the empty one behind the last dot
          obtain ⟨front, hfront⟩ := List.getLast?_eq_some_iff.mp hlast
          rw [hfront, List.dropLast_concat] at h
          rw [hfront, List.mem_append, List.mem_singleton] at hpart
          rcases hpart with hpart | rfl
          · exact isLabelChar_of_ofParts h part hpart c hmem
          · cases hmem
      · exact isLabelChar_of_ofParts h part hpart c hmem

/-- A text with a backslash is no host name. -/
theorem fromAscii_of_backslash {text : String} (h : '\\' ∈ text.toList) :
    ∃ error, fromAscii text = .error error := by
  cases hparse : fromAscii text with
  | error error => exact ⟨error, rfl⟩
  | ok name =>
      have hlabel := isLabelChar_of_fromAscii hparse h (by decide)
      rw [show isLabelChar '\\' = false by decide] at hlabel
      cases hlabel

/-- A text without escapes ends in a label. -/
theorem endsInLabel_of_no_backslash {text : String} (h : '\\' ∉ text.toList) : EndsInLabel text := by
  have key : ∀ chars : List Char, '\\' ∉ chars → chars.foldl EscapeState.next .label = .label := by
    intro chars
    induction chars with
    | nil => intro _; rfl
    | cons c chars ih =>
        intro hchars
        rw [List.mem_cons, not_or] at hchars
        rw [List.foldl_cons, EscapeState.next, if_neg (Ne.symm hchars.1)]
        exact ih hchars.2
  exact key _ h

theorem reference_trailingDotAlike : reference.TrailingDotAlike := by
  intro text hlacks labels
  show (∃ name, fromAscii text = .ok name ∧ name.labels = labels) ↔
    ∃ name, fromAscii (text ++ ".") = .ok name ∧ name.labels = labels
  by_cases hescape : '\\' ∈ text.toList
  · -- neither text is a host name
    obtain ⟨error, herror⟩ := fromAscii_of_backslash hescape
    obtain ⟨error', herror'⟩ : ∃ error, fromAscii (text ++ ".") = .error error :=
      fromAscii_of_backslash (by rw [String.toList_append]; exact List.mem_append_left _ hescape)
    rw [herror, herror']
    simp
  · have hdotted : (text ++ ".").toList = text.toList ++ ['.'] := by simp
    by_cases hnil : text.toList = []
    · -- the root, written as nothing or as a dot
      rw [fromAscii, if_pos hnil, fromAscii, hdotted, hnil, List.nil_append, if_neg (by simp),
        if_pos rfl]
      exact exists_ofParts_iff [] false true labels
    · have hlast : text.toList.getLast? ≠ some '.' := by
        intro hlast
        obtain ⟨front, hfront⟩ := List.getLast?_eq_some_iff.mp hlast
        refine hlacks.2 (String.ofList front) (endsInLabel_of_no_backslash ?_) ?_
        · rw [String.toList_ofList]
          intro hmem
          exact hescape (by rw [hfront]; exact List.mem_append_left _ hmem)
        · rw [← String.toList_inj, String.toList_append, String.toList_ofList, hfront]
          rfl
      have hroot : text.toList ≠ ['.'] := fun heq => hlast (by rw [heq]; rfl)
      have hplain : fromAscii text = ofParts (text.toList.splitOn '.') false := by
        rw [fromAscii, if_neg hnil, if_neg hroot]
        exact if_neg (getLast?_splitOn_ne hnil hlast)
      have hfqdn : fromAscii (text ++ ".") = ofParts (text.toList.splitOn '.') true := by
        rw [fromAscii, hdotted, if_neg (List.append_ne_nil_of_right_ne_nil _ (List.cons_ne_nil _ _)),
          if_neg fun heq => hnil (List.append_left_eq_self.mp heq), splitOn_concat_self]
        exact (if_pos List.getLast?_concat).trans (by rw [List.dropLast_concat])
      rw [hplain, hfqdn]
      exact exists_ofParts_iff _ false true labels

/-! ## The reference implementation takes either case -/

/-- Lowering a character leaves it alone, or takes one of the 26 capitals to its small letter. -/
theorem toLower_cases (c : Char) :
    c.toLower = c ∨ ∃ n < 26, c = Char.ofNat (65 + n) ∧ c.toLower = Char.ofNat (97 + n) := by
  by_cases h : c.val ≥ 'A'.val ∧ c.val ≤ 'Z'.val
  · right
    have hlo : 65 ≤ c.toNat := UInt32.le_iff_toNat_le.mp h.1
    have hhi : c.toNat ≤ 90 := UInt32.le_iff_toNat_le.mp h.2
    have hc : c = Char.ofNat (65 + (c.toNat - 65)) := by
      rw [Nat.add_sub_of_le hlo, Char.ofNat_toNat]
    have hsmall : ∀ n < 26, (Char.ofNat (65 + n)).toLower = Char.ofNat (97 + n) := by decide
    have hn : c.toNat - 65 < 26 := by omega
    exact ⟨c.toNat - 65, hn, hc, (congrArg Char.toLower hc).trans (hsmall _ hn)⟩
  · exact Or.inl (dif_neg h)

/-- A property of characters that no capital changes by being lowered holds for all. -/
theorem toLower_induction {motive : Char → Char → Prop} (same : ∀ c, motive c c)
    (capital : ∀ n < 26, motive (Char.ofNat (65 + n)) (Char.ofNat (97 + n))) (c : Char) :
    motive c c.toLower := by
  rcases toLower_cases c with heq | ⟨n, hn, hc, hlower⟩
  · rw [heq]
    exact same c
  · rw [hlower]
    conv => arg 1; rw [hc]
    exact capital n hn

theorem toLower_eq_dot_iff (c : Char) : c.toLower = '.' ↔ c = '.' := by
  refine toLower_induction (motive := fun c d => d = '.' ↔ c = '.') (fun _ => Iff.rfl) ?_ c
  decide

theorem isLabelChar_toLower (c : Char) : isLabelChar c.toLower = isLabelChar c := by
  refine toLower_induction (motive := fun c d => isLabelChar d = isLabelChar c) (fun _ => rfl) ?_ c
  decide +kernel

theorem charByte_toLower {c : Char} (h : isLabelChar c = true) :
    charByte c.toLower = lowercaseByte (charByte c) := by
  have hascii : ∀ n < 128, charByte (Char.ofNat n).toLower = lowercaseByte (charByte (Char.ofNat n)) := by
    decide +kernel
  have hc := hascii c.toNat (toNat_lt_of_isLabelChar h)
  rwa [Char.ofNat_toNat] at hc

/-- The lowercased labels of a parsed name. -/
def lowerLabelsOf (result : Except String Name) : Option (List Label) :=
  result.toOption.map fun name => name.labels.map lowercaseLabel

/-- Lowering labels does not change whether they fit. -/
theorem lowerLabelsOf_ofLabels (labels : List Label) (isFqdn : Bool) :
    lowerLabelsOf (ofLabels (labels.map lowercaseLabel) isFqdn)
      = lowerLabelsOf (ofLabels labels isFqdn) := by
  have hvalid : (∀ label ∈ labels.map lowercaseLabel, 1 ≤ label.length ∧
      label.length ≤ maxLabelLength) ↔
      ∀ label ∈ labels, 1 ≤ label.length ∧ label.length ≤ maxLabelLength := by
    simp only [List.forall_mem_map, lowercaseLabel, List.length_map]
  have hidem : lowercaseLabel ∘ lowercaseLabel = lowercaseLabel := funext lowercaseLabel_idem
  unfold ofLabels
  by_cases h : (∀ label ∈ labels, 1 ≤ label.length ∧ label.length ≤ maxLabelLength) ∧
      wireLength labels ≤ maxWireLength
  · rw [dif_pos h, dif_pos ⟨hvalid.mpr h.1, by rw [wireLength_map_lowercaseLabel]; exact h.2⟩]
    simp [lowerLabelsOf, Except.toOption, hidem]
  · rw [dif_neg h, dif_neg fun hlower => h ⟨hvalid.mp hlower.1, by
      rw [← wireLength_map_lowercaseLabel]; exact hlower.2⟩]

theorem lowerLabelsOf_ofParts (parts : List (List Char)) (isFqdn : Bool) :
    lowerLabelsOf (ofParts (parts.map (List.map Char.toLower)) isFqdn)
      = lowerLabelsOf (ofParts parts isFqdn) := by
  have hchars : (parts.map (List.map Char.toLower)).all (·.all isLabelChar)
      = parts.all (·.all isLabelChar) := by
    simp [List.all_map, Function.comp_def, isLabelChar_toLower]
  unfold ofParts
  rw [hchars]
  by_cases h : parts.all (·.all isLabelChar) = true
  · -- the characters' bytes are lowered with them
    have hbytes : (parts.map (List.map Char.toLower)).map (List.map charByte)
        = (parts.map (List.map charByte)).map lowercaseLabel := by
      rw [List.map_map, List.map_map]
      refine List.map_congr_left fun part hpart => ?_
      have hpart' := List.all_eq_true.mp (List.all_eq_true.mp h part hpart)
      simp only [Function.comp_apply, lowercaseLabel, List.map_map]
      exact List.map_congr_left fun c hc => charByte_toLower (hpart' c hc)
    rw [if_pos h, if_pos h, hbytes, lowerLabelsOf_ofLabels]
  · rw [if_neg h, if_neg h]

/-- Parsing a lowered text gives the same lowercased labels. -/
theorem lowerLabelsOf_fromAscii (text : String) :
    lowerLabelsOf (fromAscii (String.ofList (text.toList.map Char.toLower)))
      = lowerLabelsOf (fromAscii text) := by
  unfold fromAscii
  rw [String.toList_ofList, splitOn_map toLower_eq_dot_iff]
  have hnil : text.toList.map Char.toLower = [] ↔ text.toList = [] := List.map_eq_nil_iff
  have hroot : text.toList.map Char.toLower = ['.'] ↔ text.toList = ['.'] := by
    rw [List.map_eq_singleton_iff]
    constructor
    · rintro ⟨c, hc, hdot⟩
      rw [hc, (toLower_eq_dot_iff c).mp hdot]
    · intro h
      exact ⟨'.', h, by decide⟩
  by_cases h₁ : text.toList = []
  · rw [if_pos h₁, if_pos (hnil.mpr h₁)]
  · rw [if_neg h₁, if_neg (mt hnil.mp h₁)]
    by_cases h₂ : text.toList = ['.']
    · rw [if_pos h₂, if_pos (hroot.mpr h₂)]
    · rw [if_neg h₂, if_neg (mt hroot.mp h₂)]
      dsimp only
      have hlast : ((text.toList.splitOn '.').map (List.map Char.toLower)).getLast? = some [] ↔
          (text.toList.splitOn '.').getLast? = some [] := by
        rw [List.getLast?_map, Option.map_eq_some_iff]
        simp
      by_cases h₃ : (text.toList.splitOn '.').getLast? = some []
      · rw [if_pos h₃, if_pos (hlast.mpr h₃), ← List.map_dropLast, lowerLabelsOf_ofParts]
      · rw [if_neg h₃, if_neg (mt hlast.mp h₃), lowerLabelsOf_ofParts]

theorem reference_caseAlike : reference.CaseAlike := by
  intro text text' hsame labels
  rw [← HickoryProto.lowerLabels_eq_some_iff, ← HickoryProto.lowerLabels_eq_some_iff]
  have heq : reference.lowerLabels text = reference.lowerLabels text' :=
    calc lowerLabelsOf (fromAscii text)
        = lowerLabelsOf (fromAscii (String.ofList (text.toList.map Char.toLower))) :=
          (lowerLabelsOf_fromAscii text).symm
      _ = lowerLabelsOf (fromAscii (String.ofList (text'.toList.map Char.toLower))) := by rw [hsame]
      _ = lowerLabelsOf (fromAscii text') := lowerLabelsOf_fromAscii text'
  rw [heq]

end Reference

end Zeeder.Dns
