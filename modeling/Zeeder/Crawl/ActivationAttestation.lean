import Zeeder.Crawl.ActivationRecord
import Zeeder.Foundation.Text

/-! # What a confirmation record identifies, and operator attestation

The record is three decimal numbers between fixed texts. The observer renders it from the compiled
target, the loader compares a file with that rendering, and an attestation renders the three numbers
an operator asserts. All three go through one text, `recordText`, which can be read back.

* **`recordText_inj`** — the text determines its three numbers.
* **`confirmation_identifies`** — one target's record matches another target exactly when the two
  agree on activation height, confirmation height and required version.
* **`attestation_exact`** — an attestation succeeds exactly for the compiled numbers, an enabled
  cache and a successful write, and then has done what the observer would have; otherwise nothing
  that can be loaded has changed. -/

namespace Zeeder.Crawl

open Foundation

/-! ## The text and its three numbers -/

/-- The record of three numbers. -/
def recordText (activation confirmation version : ℕ) : String :=
  s!"activation_height={activation}\nconfirmation_height={confirmation}\nminimum_protocol_version={version}\n"

/-- The characters of the record: each number is followed by a line end. -/
theorem toList_recordText (activation confirmation version : ℕ) :
    (recordText activation confirmation version).toList
      = "activation_height=".toList ++ (activation.repr.toList ++ '\n' ::
          ("confirmation_height=".toList ++ (confirmation.repr.toList ++ '\n' ::
            ("minimum_protocol_version=".toList ++ (version.repr.toList ++ '\n' :: []))))) := by
  have hsecond : ("\nconfirmation_height=" : String).toList
      = '\n' :: "confirmation_height=".toList := by simp
  have hthird : ("\nminimum_protocol_version=" : String).toList
      = '\n' :: "minimum_protocol_version=".toList := by simp
  have htext : recordText activation confirmation version
      = "activation_height=" ++ activation.repr ++ "\nconfirmation_height=" ++ confirmation.repr ++
          "\nminimum_protocol_version=" ++ version.repr ++ "\n" := rfl
  have hend : ("\n" : String).toList = ['\n'] := by simp
  rw [htext]
  simp only [String.toList_append, List.append_assoc, hsecond, hthird, hend, List.cons_append]

/-- **The record determines its three numbers**: each is the decimal field before the next line
end. -/
theorem recordText_inj {a c v a' c' v' : ℕ} :
    recordText a c v = recordText a' c' v' ↔ a = a' ∧ c = c' ∧ v = v' := by
  constructor
  · intro h
    have hchars := congrArg String.toList h
    rw [toList_recordText, toList_recordText] at hchars
    -- peel one field after the other off the front
    have hfirst := List.append_cancel_left hchars
    obtain rfl := decimal_field_inj (by decide) hfirst
    have hsecond := List.append_cancel_left (List.cons.inj (List.append_cancel_left hfirst)).2
    obtain rfl := decimal_field_inj (by decide) hsecond
    have hthird := List.append_cancel_left (List.cons.inj (List.append_cancel_left hsecond)).2
    exact ⟨rfl, rfl, decimal_field_inj (by decide) hthird⟩
  · rintro ⟨rfl, rfl, rfl⟩
    rfl

namespace ActivationTarget

/-- The observer's record is the text of the target's numbers. -/
theorem confirmationRecord_eq (target : ActivationTarget) :
    target.confirmationRecord = recordText target.activationHeight.val.toNat
      target.confirmationHeight.val.toNat target.requiredVersion.val.toNat := rfl

/-- A record of any three numbers matches the target exactly when they are the target's. -/
theorem matchesConfirmationRecord_recordText_iff (target : ActivationTarget) (a c v : ℕ) :
    target.matchesConfirmationRecord (recordText a c v) = true ↔
      a = target.activationHeight.val.toNat ∧ c = target.confirmationHeight.val.toNat ∧
        v = target.requiredVersion.val.toNat := by
  rw [matchesConfirmationRecord, beq_iff_eq, confirmationRecord_eq, recordText_inj]

/-- Agreement on everything a record is made of. -/
def SameRecord (a b : ActivationTarget) : Prop :=
  a.activationHeight = b.activationHeight ∧ a.confirmationHeight = b.confirmationHeight ∧
    a.requiredVersion = b.requiredVersion

/-- One target's record matches another exactly when they agree on what it is made of. -/
theorem matchesConfirmationRecord_iff_sameRecord (a b : ActivationTarget) :
    b.matchesConfirmationRecord a.confirmationRecord = true ↔ a.SameRecord b := by
  rw [confirmationRecord_eq, matchesConfirmationRecord_recordText_iff, SameRecord,
    Height.toNat_injective.eq_iff, Height.toNat_injective.eq_iff, Version.toNat_injective.eq_iff]

end ActivationTarget

/-- A file with one target's record confirms exactly the targets that agree with it. -/
theorem loadConfirmation_of_holdsRecord {fs : FileSystem} {path : Option PathBuf}
    {a : ActivationTarget} (h : HoldsRecord fs path a) (b : ActivationTarget) :
    loadConfirmation fs path b none = true ↔ a.SameRecord b := by
  obtain ⟨file, rfl, hfile⟩ := h
  have hread : readToString fs file none = .ok a.confirmationRecord :=
    readToString_none_ok_iff.mpr hfile
  rw [← ActivationTarget.matchesConfirmationRecord_iff_sameRecord]
  simp only [loadConfirmation, hread]

/-- **A record identifies its target.** It matches another target exactly when the two agree on all
three numbers; so, once persisted, it confirms such targets and, however it is read, no others. -/
theorem confirmation_identifies (a b : ActivationTarget) :
    (b.matchesConfirmationRecord a.confirmationRecord = true ↔
      a.activationHeight = b.activationHeight ∧ a.confirmationHeight = b.confirmationHeight ∧
        a.requiredVersion = b.requiredVersion) ∧
    ∀ (fs : FileSystem) (path : Option PathBuf) (outcome : WriteOutcome),
      (persistConfirmation fs path a outcome).2 = .ok () →
        (loadConfirmation (persistConfirmation fs path a outcome).1 path b none = true ↔
          a.SameRecord b) ∧
        (¬ a.SameRecord b → ∀ fault,
          loadConfirmation (persistConfirmation fs path a outcome).1 path b fault = false) := by
  refine ⟨ActivationTarget.matchesConfirmationRecord_iff_sameRecord a b, ?_⟩
  intro fs path outcome hok
  have hload := loadConfirmation_of_holdsRecord (holdsRecord_persistConfirmation hok) b
  refine ⟨hload, fun hdiffer fault => ?_⟩
  cases fault with
  | none => exact Bool.eq_false_iff.mpr fun htrue => hdiffer (hload.mp htrue)
  | some error => exact loadConfirmation_fault _ _ _ _

/-- A record of the example network's target does not confirm one that requires version 21. -/
theorem confirmation_identifies_exampleNetwork :
    loadConfirmation
      (persistConfirmation (fun _ => none) (some ["cache"]) (.latest exampleNetwork) .installed).1
      (some ["cache"]) { ActivationTarget.latest exampleNetwork with requiredVersion := ⟨21⟩ } none
        = false :=
  ((confirmation_identifies (.latest exampleNetwork)
    { ActivationTarget.latest exampleNetwork with requiredVersion := ⟨21⟩ }).2 (fun _ => none)
      (some ["cache"]) .installed rfl).2 (fun h => absurd h.2.2 (by decide)) none

/-! ## Attestation -/

section Attestation

variable {fs : FileSystem} {cacheDir : CacheDir} {network : Network} {a c v : UInt32}
  {outcome : WriteOutcome}

/-- The asserted numbers are the compiled target's. -/
def AssertsTarget (network : Network) (a c v : UInt32) : Prop :=
  a = (ActivationTarget.latest network).activationHeight.val ∧
    c = (ActivationTarget.latest network).confirmationHeight.val ∧
    v = (ActivationTarget.latest network).requiredVersion.val

instance : Decidable (AssertsTarget network a c v) := inferInstanceAs (Decidable (_ ∧ _ ∧ _))

/-- The attested text matches the compiled target exactly when the numbers are the target's. -/
theorem matchesConfirmationRecord_asserted_iff :
    (ActivationTarget.latest network).matchesConfirmationRecord
        (recordText a.toNat c.toNat v.toNat) = true ↔ AssertsTarget network a c v := by
  rw [ActivationTarget.matchesConfirmationRecord_recordText_iff, AssertsTarget, UInt32.toNat_inj,
    UInt32.toNat_inj, UInt32.toNat_inj]

/-- An attestation of the compiled numbers writes as the observer does. -/
theorem attestConfirmation_of_asserts (hasserts : AssertsTarget network a c v) {path : PathBuf}
    (hpath : confirmationPath cacheDir network = some path) :
    attestConfirmation fs cacheDir network a c v outcome
      = ((persistConfirmation fs (some path) (ActivationTarget.latest network) outcome).1,
          outcome.result.map fun _ => path) := by
  refine (if_pos (matchesConfirmationRecord_asserted_iff.mpr hasserts)).trans ?_
  rw [hpath]
  rfl

/-- Without a cache directory nothing is written. -/
theorem attestConfirmation_of_disabled (hasserts : AssertsTarget network a c v)
    (hpath : confirmationPath cacheDir network = none) :
    attestConfirmation fs cacheDir network a c v outcome = (fs, .error cacheDisabled) := by
  refine (if_pos (matchesConfirmationRecord_asserted_iff.mpr hasserts)).trans ?_
  rw [hpath]

/-- An attestation of other numbers is rejected and writes nothing. -/
theorem attestConfirmation_of_not_asserts (hasserts : ¬ AssertsTarget network a c v) :
    ∃ error, attestConfirmation fs cacheDir network a c v outcome = (fs, .error error) := by
  refine ⟨_, if_neg ?_⟩
  exact mt matchesConfirmationRecord_asserted_iff.mp hasserts

/-- The cache is enabled exactly when there is a path for the record. -/
theorem isSome_confirmationPath (cacheDir : CacheDir) (network : Network) :
    (confirmationPath cacheDir network).isSome = cacheDir.cacheDir.isSome := by
  rw [confirmationPath, Option.isSome_map]

/-- **An attestation fails or does what the observer does.** It fails without having changed a file,
or everything it needs was there and the record is installed. -/
theorem attestConfirmation_cases (fs : FileSystem) (cacheDir : CacheDir) (network : Network)
    (a c v : UInt32) (outcome : WriteOutcome)
    (hatomic : outcome.result ≠ .ok () → outcome.installs = false) :
    (¬ (AssertsTarget network a c v ∧ cacheDir.cacheDir.isSome = true ∧ outcome.result = .ok ()) ∧
      ∃ error, attestConfirmation fs cacheDir network a c v outcome = (fs, .error error)) ∨
    ((AssertsTarget network a c v ∧ cacheDir.cacheDir.isSome = true ∧ outcome.result = .ok ()) ∧
      ∃ path, confirmationPath cacheDir network = some path ∧
        attestConfirmation fs cacheDir network a c v outcome
          = ((persistConfirmation fs (some path) (.latest network) .installed).1, .ok path)) := by
  rw [← isSome_confirmationPath cacheDir network]
  by_cases hasserts : AssertsTarget network a c v
  · cases hpath : confirmationPath cacheDir network with
    | none =>
        refine Or.inl ⟨?_, _, attestConfirmation_of_disabled hasserts hpath⟩
        rintro ⟨-, henabled, -⟩
        cases henabled
    | some path =>
        rw [attestConfirmation_of_asserts hasserts hpath]
        cases hresult : outcome.result with
        | ok _ =>
            -- only an installed write reports success
            obtain rfl := outcome.result_eq_ok_iff.mp hresult
            exact Or.inr ⟨⟨hasserts, rfl, rfl⟩, path, rfl, rfl⟩
        | error error =>
            -- the write failed, so the old content is still there
            have hkept : outcome.installs = false := hatomic (by rw [hresult]; exact nofun)
            have hold : (persistConfirmation fs (some path) (.latest network) outcome).1 = fs :=
              if_neg (by rw [hkept]; exact Bool.false_ne_true)
            refine Or.inl ⟨?_, error, by rw [hold]; rfl⟩
            rintro ⟨-, -, hok⟩
            cases hok
  · exact Or.inl ⟨fun h => hasserts h.1, attestConfirmation_of_not_asserts hasserts⟩

end Attestation

/-- **Attestation is exact, atomic and equivalent to observation**, when a failed `atomic_write`
leaves the old content. It succeeds exactly for the compiled numbers, an enabled cache and a
successful write; then the file holds what the observer would write and loading it confirms.
After an error everything loads as before. -/
theorem attestation_exact (fs : FileSystem) (cacheDir : CacheDir) (network : Network)
    (a c v : UInt32) (outcome : WriteOutcome)
    (hatomic : outcome.result ≠ .ok () → outcome.installs = false) :
    ((∃ path, (attestConfirmation fs cacheDir network a c v outcome).2 = .ok path) ↔
      AssertsTarget network a c v ∧ cacheDir.cacheDir.isSome = true ∧ outcome.result = .ok ()) ∧
    (∀ path, (attestConfirmation fs cacheDir network a c v outcome).2 = .ok path →
      confirmationPath cacheDir network = some path ∧
      (attestConfirmation fs cacheDir network a c v outcome).1
        = (persistConfirmation fs (confirmationPath cacheDir network)
            (ActivationTarget.latest network) .installed).1 ∧
      (attestConfirmation fs cacheDir network a c v outcome).1 path
        = some (ActivationTarget.latest network).recordBytes ∧
      loadConfirmation (attestConfirmation fs cacheDir network a c v outcome).1 (some path)
        (ActivationTarget.latest network) none = true) ∧
    ∀ error, (attestConfirmation fs cacheDir network a c v outcome).2 = .error error →
      ∀ path target fault,
        loadConfirmation (attestConfirmation fs cacheDir network a c v outcome).1 path target fault
          = loadConfirmation fs path target fault := by
  rcases attestConfirmation_cases fs cacheDir network a c v outcome hatomic with
    ⟨hfails, error, heq⟩ | ⟨hsucceeds, path, hpath, heq⟩
  · rw [heq]
    refine ⟨⟨?_, fun h => absurd h hfails⟩, ?_, fun _ _ _ _ _ => rfl⟩
    · rintro ⟨path, hok⟩
      cases hok
    · intro path hok
      cases hok
  · rw [heq, hpath]
    refine ⟨⟨fun _ => hsucceeds, fun _ => ⟨path, rfl⟩⟩, ?_, ?_⟩
    · intro path' hok
      obtain rfl : path = path' := Except.ok.inj hok
      have hpersist : (persistConfirmation fs (some path) (.latest network) .installed).2 = .ok () :=
        rfl
      obtain ⟨file, hfile, hbytes⟩ := holdsRecord_persistConfirmation hpersist
      obtain rfl := Option.some.inj hfile
      exact ⟨rfl, rfl, hbytes, (loadConfirmation_eq_true_iff _ _ _).mpr ⟨path, rfl, hbytes⟩⟩
    · intro error herror
      cases herror

/-- The example network's numbers are attested where nothing was recorded before. -/
theorem attestation_exact_exampleNetwork :
    ∃ path, (attestConfirmation (fun _ => none) ⟨some ["cache"]⟩ exampleNetwork 100 1100 20
      .installed).2 = .ok path :=
  (attestation_exact (fun _ => none) ⟨some ["cache"]⟩ exampleNetwork 100 1100 20 .installed
    (fun h => absurd rfl h)).1.mpr ⟨by decide, rfl, rfl⟩

end Zeeder.Crawl
