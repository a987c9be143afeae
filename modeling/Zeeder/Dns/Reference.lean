import Zeeder.Dns.Name
import Zeeder.Foundation.Text

/-! # A reference implementation of the name functions

A small implementation of the functions in `HickoryProto` that behaves as hickory-proto does on host
names: labels of letters, digits, `-`, `_` and `*`, separated by dots, with an optional final dot. It
shows that the assumptions about hickory-proto can be met together, and it evaluates, so concrete
configurations and queries can be run on it.

* **`reference_zoneOfIsSuffix`, `reference_numLabelsSkipsWildcard`, `reference_asciiRoundTrip`** — it
  meets every assumption. -/

namespace Zeeder.Dns.Reference

open Foundation

/-- The characters that host names are made of. -/
def isLabelChar (c : Char) : Bool := c.isAlphanum || c == '-' || c == '_' || c == '*'

/-- The octet of a character. -/
def charByte (c : Char) : UInt8 := UInt8.ofNat c.toNat

/-- The character of an octet. -/
def byteChar (b : UInt8) : Char := Char.ofNat b.toNat

/-- A name with the given labels, if they fit. -/
def ofLabels (labels : List Label) (isFqdn : Bool) : Except String Name :=
  if h : (∀ label ∈ labels, 1 ≤ label.length ∧ label.length ≤ maxLabelLength) ∧
      wireLength labels ≤ maxWireLength then
    .ok ⟨labels, isFqdn, h.1, h.2⟩
  else .error "label or name is too long, or a label is empty"

/-- The name with the given parts between its dots, if they are labels. -/
def ofParts (parts : List (List Char)) (isFqdn : Bool) : Except String Name :=
  if parts.all (·.all isLabelChar) then ofLabels (parts.map (·.map charByte)) isFqdn
  else .error "malformed label"

/-- Parse a name; an empty last part stands for the final dot. -/
def fromAscii (text : String) : Except String Name :=
  if text.toList = [] then ofLabels [] false
  else if text.toList = ['.'] then ofLabels [] true
  else
    let parts := text.toList.splitOn '.'
    if parts.getLast? = some [] then ofParts parts.dropLast true else ofParts parts false

/-- Print labels with dots between them, and a final dot if fully qualified. -/
def asciiText (labels : List Label) (isFqdn : Bool) : String :=
  if labels = [] then "."
  else String.ofList (['.'].intercalate
    (labels.map (·.map byteChar) ++ if isFqdn then [[]] else []))

/-- The reference implementation. -/
def reference : HickoryProto where
  fromAscii := fromAscii
  asciiText := asciiText
  displayText name := asciiText name.labels name.isFqdn
  zoneOf zone name := decide (zone.labels <:+ name.labels)
  numLabels name := UInt8.ofNat (countedLabels name.labels)
  responseFromRequest request := ⟨request.id, false, .noError⟩

/-- A zone contains the names that end in its labels. -/
theorem reference_zoneOfIsSuffix : reference.ZoneOfIsSuffix := fun _ _ => decide_eq_true_iff

/-- A response starts with the request's id. -/
theorem reference_responseFromRequestCopiesId : reference.ResponseFromRequestCopiesId := fun _ => rfl

/-- A leading `*` is not counted. -/
theorem reference_numLabelsSkipsWildcard : reference.NumLabelsSkipsWildcard := by
  intro name
  have hle := countedLabels_le name.labels
  have hlength : name.labels.length ≤ 127 := name.name.length_labels_le
  show (UInt8.ofNat (countedLabels name.labels)).toNat = countedLabels name.labels
  rw [UInt8.toNat_ofNat', Nat.mod_eq_of_lt (by omega)]

/-! ## Parsing what is printed -/

/-- The characters of host names are ASCII. -/
theorem toNat_lt_of_isLabelChar {c : Char} (h : isLabelChar c = true) : c.toNat < 128 := by
  have hranges : isLabelChar c = (((decide (c.val ≥ 'A'.val ∧ c.val ≤ 'Z'.val) ||
      (decide (c.val ≥ 'a'.val) && decide (c.val ≤ 'z'.val))) ||
      (decide (c.val ≥ '0'.val) && decide (c.val ≤ '9'.val))) ||
      c == '-' || c == '_' || c == '*') := rfl
  have hbound : ∀ bound : UInt32, bound.toNat < 128 → c.val ≤ bound → c.toNat < 128 :=
    fun bound hlt hle => lt_of_le_of_lt (UInt32.le_iff_toNat_le.mp hle) hlt
  rw [hranges] at h
  simp only [Bool.or_eq_true, Bool.and_eq_true, decide_eq_true_eq, beq_iff_eq] at h
  -- the last upper-case letter, the last lower-case letter, the last digit, then the three signs
  rcases h with ((((⟨-, h⟩ | ⟨-, h⟩) | ⟨-, h⟩) | rfl) | rfl) | rfl
  · exact hbound 'Z'.val (by decide) h
  · exact hbound 'z'.val (by decide) h
  · exact hbound '9'.val (by decide) h
  · decide
  · decide
  · decide

/-- So they are read back from their octets. -/
theorem byteChar_charByte {c : Char} (h : isLabelChar c = true) : byteChar (charByte c) = c := by
  have hlt : c.toNat < 2 ^ 8 := (toNat_lt_of_isLabelChar h).trans (by decide)
  unfold byteChar charByte
  rw [UInt8.toNat_ofNat', Nat.mod_eq_of_lt hlt, Char.ofNat_toNat]

/-- Labels that fit make a name. -/
theorem ofLabels_of_fits {labels : List Label} (isFqdn : Bool)
    (hvalid : ∀ label ∈ labels, 1 ≤ label.length ∧ label.length ≤ maxLabelLength)
    (hfits : wireLength labels ≤ maxWireLength) :
    ofLabels labels isFqdn = .ok ⟨labels, isFqdn, hvalid, hfits⟩ :=
  dif_pos ⟨hvalid, hfits⟩

/-- A label made of the characters of host names. -/
def IsLabel (label : Label) : Prop :=
  ∃ part : List Char, part.all isLabelChar = true ∧ part.map charByte = label ∧
    1 ≤ label.length ∧ label.length ≤ maxLabelLength

/-- The name has the labels it was made from. -/
theorem ofLabels_ok {labels : List Label} {isFqdn : Bool} {name : Name}
    (h : ofLabels labels isFqdn = .ok name) : name.labels = labels := by
  unfold ofLabels at h
  split at h
  · cases h
    rfl
  · cases h

/-- A name made from parts has labels of these characters only. -/
theorem ofParts_ok {parts : List (List Char)} {isFqdn : Bool} {name : Name}
    (h : ofParts parts isFqdn = .ok name) : ∀ label ∈ name.labels, IsLabel label := by
  unfold ofParts at h
  split at h
  · next hparts =>
      intro label hlabel
      have hvalid := name.labels_valid label hlabel
      rw [ofLabels_ok h] at hlabel
      obtain ⟨part, hpart, rfl⟩ := List.mem_map.mp hlabel
      exact ⟨part, List.all_eq_true.mp hparts part hpart, rfl, hvalid⟩
  · cases h

/-- So has every name that parses. -/
theorem isLabel_of_parsesLabel {label : Label} (h : reference.ParsesLabel label) :
    IsLabel label := by
  obtain ⟨text, name, hname, hlabel⟩ := h
  replace hname : fromAscii text = .ok name := hname
  unfold fromAscii at hname
  split at hname
  · rw [ofLabels_ok hname] at hlabel
    cases hlabel
  · split at hname
    · rw [ofLabels_ok hname] at hlabel
      cases hlabel
    · dsimp only at hname
      split at hname
      · exact ofParts_ok hname label hlabel
      · exact ofParts_ok hname label hlabel

/-- Such a label is printed in these characters, and read back from what is printed. -/
theorem IsLabel.chars {label : Label} (h : IsLabel label) :
    (label.map byteChar).all isLabelChar = true ∧ (label.map byteChar).map charByte = label ∧
      label.map byteChar ≠ [] := by
  obtain ⟨part, hpart, rfl, hlength, -⟩ := h
  have hback : (part.map charByte).map byteChar = part := by
    rw [List.map_map]
    refine (List.map_congr_left fun c hc => ?_).trans (List.map_id part)
    exact byteChar_charByte (List.all_eq_true.mp hpart c hc)
  rw [hback]
  refine ⟨hpart, rfl, ?_⟩
  rintro rfl
  exact absurd hlength (by decide)

/-- The text of a label has no dot in it. -/
theorem IsLabel.dot_not_mem {label : Label} (h : IsLabel label) : '.' ∉ label.map byteChar := by
  intro hmem
  have hdot : isLabelChar '.' = true := List.all_eq_true.mp h.chars.1 _ hmem
  revert hdot
  decide

/-- Reading the texts of labels gives the labels back. -/
theorem ofParts_map_byteChar {labels : List Label} {isFqdn : Bool}
    (hlabels : ∀ label ∈ labels, IsLabel label) :
    ofParts (labels.map (·.map byteChar)) isFqdn = ofLabels labels isFqdn := by
  have hchars : ∀ part ∈ labels.map (·.map byteChar), part.all isLabelChar = true := by
    intro part hpart
    obtain ⟨label, hlabel, rfl⟩ := List.mem_map.mp hpart
    exact (hlabels label hlabel).chars.1
  have hback : (labels.map (·.map byteChar)).map (·.map charByte) = labels := by
    rw [List.map_map]
    refine (List.map_congr_left fun label hlabel => ?_).trans (List.map_id labels)
    exact (hlabels label hlabel).chars.2.1
  rw [ofParts, if_pos (List.all_eq_true.mpr hchars), hback]

/-- The parts between the dots of a printed name are the labels' texts, and nothing after a last
dot. -/
theorem splitOn_asciiText {labels : List Label} {isFqdn : Bool} (hne : labels ≠ [])
    (hlabels : ∀ label ∈ labels, IsLabel label) :
    (asciiText labels isFqdn).toList.splitOn '.'
      = labels.map (·.map byteChar) ++ if isFqdn then [[]] else [] := by
  have hnodot : ∀ part ∈ labels.map (·.map byteChar) ++ (if isFqdn then [[]] else []),
      '.' ∉ part := by
    intro part hpart
    rcases List.mem_append.mp hpart with hpart | hpart
    · obtain ⟨label, hlabel, rfl⟩ := List.mem_map.mp hpart
      exact (hlabels label hlabel).dot_not_mem
    · split at hpart
      · rw [List.mem_singleton.mp hpart]
        exact List.not_mem_nil
      · cases hpart
  rw [asciiText, if_neg hne, String.toList_ofList]
  exact List.splitOn_intercalate _ hnodot (by simp [hne])

/-- **Parsing the printed labels gives the labels back**, or fails when they do not fit. -/
theorem fromAscii_asciiText {labels : List Label} {isFqdn : Bool} (hne : labels ≠ [])
    (hlabels : ∀ label ∈ labels, IsLabel label) :
    fromAscii (asciiText labels isFqdn) = ofLabels labels isFqdn := by
  have hsplit : (asciiText labels isFqdn).toList.splitOn '.'
      = labels.map (·.map byteChar) ++ if isFqdn then [[]] else [] :=
    splitOn_asciiText hne hlabels
  have hof : ofParts (labels.map (·.map byteChar)) isFqdn = ofLabels labels isFqdn :=
    ofParts_map_byteChar hlabels
  have hparts : ∀ label ∈ labels, label.map byteChar ≠ [] := fun label hlabel =>
    (hlabels label hlabel).chars.2.2
  -- the first part is not empty, so the text is neither empty nor a single dot
  obtain ⟨first, rest, rfl⟩ := List.exists_cons_of_ne_nil hne
  have hfirst := hparts first List.mem_cons_self
  have hnil : (asciiText (first :: rest) isFqdn).toList ≠ [] := by
    intro h
    rw [h, List.splitOn_nil, List.map_cons, List.cons_append, List.cons.injEq] at hsplit
    exact hfirst hsplit.1.symm
  have hroot : (asciiText (first :: rest) isFqdn).toList ≠ ['.'] := by
    intro h
    have hhead : ['.'].splitOn '.' = [[], []] := by decide +kernel
    rw [h, hhead, List.map_cons, List.cons_append, List.cons.injEq] at hsplit
    exact hfirst hsplit.1.symm
  have hlast : ((first :: rest).map (·.map byteChar)).getLast? ≠ some [] := by
    intro h
    obtain ⟨label, hlabel, heq⟩ := List.mem_map.mp (List.mem_of_getLast? h)
    exact hparts label hlabel heq
  rw [fromAscii, if_neg hnil, if_neg hroot, hsplit]
  generalize (first :: rest).map (·.map byteChar) = parts at hof hlast ⊢
  cases isFqdn with
  | true => simpa using hof
  | false => simpa [hlast] using hof

/-- **What is printed is parsed back**, with `hostmaster.` in front of it if that fits. -/
theorem reference_asciiRoundTrip : reference.AsciiRoundTrip where
  hostmaster := ⟨"hostmaster", ⟨[hostmasterLabel], false, by decide, by decide⟩, by decide +kernel,
    List.mem_singleton_self _⟩
  prints := by
    intro labels hne
    obtain ⟨label, rest, rfl⟩ := List.exists_cons_of_ne_nil hne
    have hhost : hostmasterLabel.map byteChar = "hostmaster".toList := by decide +kernel
    show asciiText (hostmasterLabel :: label :: rest) true
      = "hostmaster." ++ asciiText (label :: rest) true
    rw [← String.toList_inj]
    simp [asciiText, List.intercalate, hhost]
  parses := by
    intro labels hne hlabels hfits
    have hvalid : ∀ label ∈ labels, 1 ≤ label.length ∧ label.length ≤ maxLabelLength :=
      fun label hlabel => by
        obtain ⟨part, -, rfl, hlength⟩ := isLabel_of_parsesLabel (hlabels label hlabel)
        exact hlength
    refine ⟨⟨labels, true, hvalid, hfits⟩, ?_, rfl, rfl⟩
    show fromAscii (asciiText labels true) = _
    rw [fromAscii_asciiText hne fun label hlabel => isLabel_of_parsesLabel (hlabels label hlabel),
      ofLabels_of_fits true hvalid hfits]
  rejects := by
    intro labels hne hlabels hlong
    refine ⟨"label or name is too long, or a label is empty", ?_⟩
    show fromAscii (asciiText labels true) = _
    rw [fromAscii_asciiText hne fun label hlabel => isLabel_of_parsesLabel (hlabels label hlabel),
      ofLabels, dif_neg fun h => absurd h.2 (Nat.not_le.mpr hlong)]

end Zeeder.Dns.Reference
