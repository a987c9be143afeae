import Mathlib.Data.List.Infix
import Mathlib.Data.Nat.Notation
import Mathlib.Algebra.BigOperators.Group.List.Basic
import Mathlib.Algebra.Ring.Nat
import Zeeder.Report

/-! # DNS names and the functions hickory-proto provides

A `Name` is a sequence of labels that fits the wire format: labels of 1 to 63 octets, at most 255
octets in all. Parsing, printing, zone containment, label counting and the header of a response are
hickory-proto's; they are the parameters `HickoryProto`, and what its documentation promises about them
is stated as one property each: `ZoneOfIsSuffix`, `NumLabelsSkipsWildcard`, `AsciiRoundTrip`,
`ResponseFromRequestCopiesId`.

* **`zoneOf_forest`** — any two domains that contain one name are comparable.
* **`countedLabels_eq_iff`** — the names in a domain with as many counted labels as the domain are
  the domain itself and, if it starts with no wildcard, `*` before it. -/

namespace Zeeder.Dns

/-- A label, by its octets. -/
abbrev Label := List UInt8

/-- The octets of the wire encoding: every label with its length octet, and the root. -/
def wireLength (labels : List Label) : ℕ := (labels.map fun label => label.length + 1).sum + 1

/-- The limit on the wire encoding of a name. -/
def maxWireLength : ℕ := 255

/-- The limit on a label's octets. -/
def maxLabelLength : ℕ := 63

@[simp] theorem wireLength_nil : wireLength [] = 1 := rfl

@[simp] theorem wireLength_cons (label : Label) (labels : List Label) :
    wireLength (label :: labels) = label.length + 1 + wireLength labels := by
  simp [wireLength, Nat.add_assoc]

/-- A DNS name that fits the wire format. -/
structure Name where
  /-- The labels, the leftmost first. -/
  labels : List Label
  /-- Whether the name is fully qualified. -/
  isFqdn : Bool
  /-- No label is empty or too long. -/
  labels_valid : ∀ label ∈ labels, 1 ≤ label.length ∧ label.length ≤ maxLabelLength
  /-- The encoding is not too long. -/
  wireLength_le : wireLength labels ≤ maxWireLength
  deriving DecidableEq

/-- `Name::set_fqdn`. -/
def Name.setFqdn (name : Name) (value : Bool) : Name := { name with isFqdn := value }

@[simp] theorem Name.setFqdn_labels (name : Name) (value : Bool) :
    (name.setFqdn value).labels = name.labels := rfl

@[simp] theorem Name.setFqdn_isFqdn (name : Name) (value : Bool) :
    (name.setFqdn value).isFqdn = value := rfl

/-- A name has at most 127 labels. -/
theorem Name.length_labels_le (name : Name) : name.labels.length ≤ 127 := by
  -- every label takes at least two octets, with its length octet
  have key : ∀ labels : List Label, (∀ label ∈ labels, 1 ≤ label.length ∧
      label.length ≤ maxLabelLength) → 2 * labels.length + 1 ≤ wireLength labels := by
    intro labels
    induction labels with
    | nil => intro _; simp
    | cons label labels ih =>
        intro h
        have hlabel := (h label List.mem_cons_self).1
        have hrest := ih fun l hl => h l (List.mem_cons_of_mem _ hl)
        rw [wireLength_cons, List.length_cons]
        omega
  have hle := key name.labels name.labels_valid
  have hmax := name.wireLength_le
  unfold maxWireLength at hmax
  omega

/-! ## Lowercased names -/

/-- ASCII lowercasing of one octet. -/
def lowercaseByte (b : UInt8) : UInt8 := if 65 ≤ b ∧ b ≤ 90 then b + 32 else b

/-- ASCII lowercasing of a label. -/
def lowercaseLabel (label : Label) : Label := label.map lowercaseByte

theorem lowercaseByte_idem (b : UInt8) : lowercaseByte (lowercaseByte b) = lowercaseByte b := by
  unfold lowercaseByte
  by_cases h : 65 ≤ b ∧ b ≤ 90
  · -- a lowered letter lies above the capitals
    have habove : ¬ b + 32 ≤ 90 := by
      obtain ⟨hlo, hhi⟩ := h
      have hlo' : 65 ≤ b.toNat := UInt8.le_iff_toNat_le.mp hlo
      have hhi' : b.toNat ≤ 90 := UInt8.le_iff_toNat_le.mp hhi
      have hsum : (b + 32).toNat = b.toNat + 32 := by
        rw [UInt8.toNat_add, show (32 : UInt8).toNat = 32 from rfl]
        omega
      rw [UInt8.le_iff_toNat_le, hsum, show (90 : UInt8).toNat = 90 from rfl]
      omega
    rw [if_pos h, if_neg fun hcap => habove hcap.2]
  · rw [if_neg h, if_neg h]

theorem lowercaseLabel_idem (label : Label) :
    lowercaseLabel (lowercaseLabel label) = lowercaseLabel label := by
  simp [lowercaseLabel, lowercaseByte_idem]

theorem wireLength_map_lowercaseLabel (labels : List Label) :
    wireLength (labels.map lowercaseLabel) = wireLength labels := by
  induction labels with
  | nil => rfl
  | cons label labels ih => simp [ih, lowercaseLabel]

/-- `Name::to_lowercase`. -/
def Name.toLowercase (name : Name) : Name where
  labels := name.labels.map lowercaseLabel
  isFqdn := name.isFqdn
  labels_valid := by
    intro label hlabel
    obtain ⟨original, horiginal, rfl⟩ := List.mem_map.mp hlabel
    simpa [lowercaseLabel] using name.labels_valid original horiginal
  wireLength_le := by
    rw [wireLength_map_lowercaseLabel]
    exact name.wireLength_le

/-- A name all of whose labels are lowercase. -/
structure LowerName where
  /-- The lowercase name. -/
  name : Name
  /-- Lowercasing it again changes nothing. -/
  lower : name.toLowercase = name
  deriving DecidableEq

/-- `LowerName::from`. -/
def LowerName.ofName (name : Name) : LowerName where
  name := name.toLowercase
  lower := by
    unfold Name.toLowercase
    simp [lowercaseLabel_idem]

/-- The labels of a lowercased name. -/
def LowerName.labels (name : LowerName) : List Label := name.name.labels

@[simp] theorem LowerName.ofName_labels (name : Name) :
    (LowerName.ofName name).labels = name.labels.map lowercaseLabel := rfl

/-! ## hickory-proto -/

/-- A response code. -/
inductive ResponseCode where
  /-- `NOERROR`. -/
  | noError
  /-- `REFUSED`. -/
  | refused
  deriving DecidableEq, Repr

/-- The parts of a message's header that the handler sets or copies. -/
structure Metadata where
  /-- The message id. -/
  id : UInt16
  /-- Whether the answer is authoritative. -/
  authoritative : Bool
  /-- The response code. -/
  responseCode : ResponseCode
  deriving DecidableEq, Repr

/-- The functions of hickory-proto that the seeder calls on names and headers. -/
structure HickoryProto where
  /-- `Name::from_ascii`, with the text of its error. -/
  fromAscii : String → Except String Name
  /-- The text `Name::to_ascii` prints for these labels, fully qualified or not. -/
  asciiText : List Label → Bool → String
  /-- The text `Display` prints for a name. -/
  displayText : Name → String
  /-- `LowerName::zone_of`. -/
  zoneOf : LowerName → LowerName → Bool
  /-- `LowerName::num_labels`. -/
  numLabels : LowerName → UInt8
  /-- `Metadata::response_from_request`. -/
  responseFromRequest : Metadata → Metadata

/-- The wildcard label. -/
def wildcardLabel : Label := [42]

/-- The label `hostmaster`. -/
def hostmasterLabel : Label := [104, 111, 115, 116, 109, 97, 115, 116, 101, 114]

/-- The number of labels, not counting a leading wildcard. -/
def countedLabels : List Label → ℕ
  | [] => 0
  | label :: labels => if label = wildcardLabel then labels.length else labels.length + 1

namespace HickoryProto

variable (hickory : HickoryProto)

/-- `Name::to_ascii`. -/
def toAscii (name : Name) : String := hickory.asciiText name.labels name.isFqdn

/-- **`zone_of` is label-suffix containment** on lowercased names. -/
def ZoneOfIsSuffix : Prop :=
  ∀ zone name : LowerName, hickory.zoneOf zone name = true ↔ zone.labels <:+ name.labels

/-- **`num_labels` does not count a leading `*`.** -/
def NumLabelsSkipsWildcard : Prop :=
  ∀ name : LowerName, (hickory.numLabels name).toNat = countedLabels name.labels

/-- A label that `from_ascii` can produce. -/
def ParsesLabel (label : Label) : Prop :=
  ∃ text name, hickory.fromAscii text = .ok name ∧ label ∈ name.labels

/-- **`from_ascii` parses what `to_ascii` prints**, and rejects a text whose labels do not fit into
255 octets; `to_ascii` prints the labels separated by dots. -/
structure AsciiRoundTrip : Prop where
  /-- `hostmaster` is a label like any other. -/
  hostmaster : hickory.ParsesLabel hostmasterLabel
  /-- It is printed as it is, with a dot before what follows. -/
  prints : ∀ labels, labels ≠ [] →
    hickory.asciiText (hostmasterLabel :: labels) true
      = "hostmaster." ++ hickory.asciiText labels true
  /-- What is printed fully qualified is parsed back, when it fits. -/
  parses : ∀ labels, labels ≠ [] → (∀ label ∈ labels, hickory.ParsesLabel label) →
    wireLength labels ≤ maxWireLength →
    ∃ name, hickory.fromAscii (hickory.asciiText labels true) = .ok name ∧
      name.labels = labels ∧ name.isFqdn = true
  /-- What does not fit is rejected. -/
  rejects : ∀ labels, labels ≠ [] → (∀ label ∈ labels, hickory.ParsesLabel label) →
    maxWireLength < wireLength labels →
    ∃ error, hickory.fromAscii (hickory.asciiText labels true) = .error error

/-- **The header of a response** has the id of the request and is otherwise a default one, as far as the
handler is concerned. -/
def ResponseFromRequestCopiesId : Prop :=
  ∀ request, hickory.responseFromRequest request = ⟨request.id, false, .noError⟩

/-- `Name::from_ascii` under the given error context, then `set_fqdn(true)`. -/
def parseFqdn (context text : String) : Result Name := do
  let name ← Result.wrapErr (hickory.fromAscii text) context
  return name.setFqdn true

variable {hickory}

theorem parseFqdn_ok_iff {context text : String} {name : Name} :
    hickory.parseFqdn context text = .ok name ↔
      ∃ parsed, hickory.fromAscii text = .ok parsed ∧ parsed.setFqdn true = name := by
  simp [parseFqdn, Result.bind_ok_iff, pure, Except.pure]

/-- Every domain contains itself. -/
theorem zoneOf_self (h : hickory.ZoneOfIsSuffix) (name : LowerName) :
    hickory.zoneOf name name = true :=
  (h name name).mpr (List.suffix_refl _)

/-- **Any two domains that contain one name are comparable.** -/
theorem zoneOf_forest (h : hickory.ZoneOfIsSuffix) (a b q : LowerName)
    (ha : hickory.zoneOf a q = true) (hb : hickory.zoneOf b q = true) :
    hickory.zoneOf a b = true ∨ hickory.zoneOf b a = true := by
  rw [h a b, h b a]
  exact List.suffix_or_suffix_of_suffix ((h a q).mp ha) ((h b q).mp hb)

end HickoryProto

/-! ## Counting labels -/

theorem countedLabels_cons (label : Label) (labels : List Label) :
    countedLabels (label :: labels)
      = if label = wildcardLabel then labels.length else labels.length + 1 := rfl

theorem countedLabels_le (labels : List Label) : countedLabels labels ≤ labels.length := by
  cases labels with
  | nil => exact Nat.le_refl 0
  | cons label labels =>
      rw [countedLabels_cons]
      split <;> simp

/-- Labels that start with no wildcard all count. -/
theorem countedLabels_eq_length {labels : List Label} (h : labels.head? ≠ some wildcardLabel) :
    countedLabels labels = labels.length := by
  cases labels with
  | nil => rfl
  | cons label labels =>
      rw [countedLabels_cons, if_neg fun heq => h (by rw [heq]; rfl), List.length_cons]

/-- **Counting labels is no name comparison**: in a domain, the names with as many counted labels as
the domain are the domain itself and, if it starts with no wildcard, `*` before it. -/
theorem countedLabels_eq_iff {domain query : List Label} (hsuffix : domain <:+ query) :
    countedLabels query = countedLabels domain ↔
      query = domain ∨ query = wildcardLabel :: domain ∧ domain.head? ≠ some wildcardLabel := by
  obtain ⟨above, rfl⟩ := hsuffix
  have hdomain := countedLabels_le domain
  cases above with
  | nil => simp
  | cons label above =>
      have hne : label :: above ++ domain ≠ domain := fun heq => by
        have hlength := congrArg List.length heq
        rw [List.length_append, List.length_cons] at hlength
        omega
      rw [or_iff_right hne, List.cons_append, List.cons.injEq, List.append_left_eq_self]
      by_cases hlabel : label = wildcardLabel
      · -- a wildcard above the domain is the one label that may stand there uncounted
        rw [countedLabels_cons, if_pos hlabel, List.length_append]
        by_cases hhead : domain.head? = some wildcardLabel
        · -- the domain's own wildcard is not counted either
          have hlt : countedLabels domain + 1 = domain.length := by
            cases domain with
            | nil => cases hhead
            | cons first rest =>
                rw [List.head?_cons, Option.some_inj] at hhead
                rw [countedLabels_cons, if_pos hhead, List.length_cons]
          constructor
          · intro h
            omega
          · rintro ⟨-, h⟩
            exact absurd hhead h
        · rw [countedLabels_eq_length hhead]
          constructor
          · intro h
            exact ⟨⟨hlabel, List.eq_nil_of_length_eq_zero (by omega)⟩, hhead⟩
          · rintro ⟨⟨-, rfl⟩, -⟩
            simp
      · -- any other label above the domain counts
        rw [countedLabels_cons, if_neg hlabel, List.length_append]
        constructor
        · intro h
          omega
        · rintro ⟨⟨h, -⟩, -⟩
          exact absurd h hlabel

end Zeeder.Dns
