import Zeeder.Crawl.ChainTip
import Mathlib.Logic.Function.Basic

/-! # The durable confirmation record

A confirmed activation is written to `network/<name>.activation` under the peer cache: the three
compiled numbers in text. A restart accepts only a record that matches the compiled target exactly;
an operator can write the same record after asserting all three numbers.

The file system maps paths to contents. What it may do wrong is an argument of each operation: a
read may fail with an I/O error, and `atomic_write` may report an error, in which case the old
content stays, or its task may die, in which case either content is there.

* **`loadConfirmation_eq_true_iff`** — loading answers true exactly when the read succeeds and the
  file holds the target's record.
* **`persistConfirmation_ok_iff`, `holdsRecord_persistConfirmation`** — persisting reports success
  exactly when there is a path and the write was installed; then the file holds the record.
* **`attestConfirmation_fs`** — an attestation writes the compiled target's record or nothing.
* **`confirmationPath_ne`** — records of networks with different names are different files. -/

namespace Zeeder.Crawl

/-- A path, by its components. -/
abbrev PathBuf := List String

/-- File contents by path; `none` where no file exists. -/
abbrev FileSystem := PathBuf → Option ByteArray

/-- zebra-network's cache directory setting, by the directory it resolves to (`none`: disabled). -/
structure CacheDir where
  /-- `CacheDir::cache_dir`. -/
  cacheDir : Option PathBuf

/-- The I/O error kinds the seeder tells apart or produces. -/
inductive IoErrorKind where
  /-- No such file. -/
  | notFound
  /-- A rejected argument. -/
  | invalidInput
  /-- Contents that are not UTF-8. -/
  | invalidData
  /-- Any other kind. -/
  | other
  deriving DecidableEq, Repr

/-- An I/O error. -/
structure IoError where
  /-- The kind of the error. -/
  kind : IoErrorKind
  /-- Its message. -/
  message : String
  deriving DecidableEq, Repr

namespace ActivationTarget

/-- The text that identifies the target on disk. -/
def confirmationRecord (target : ActivationTarget) : String :=
  s!"activation_height={target.activationHeight.val.toNat}\nconfirmation_height={target.confirmationHeight.val.toNat}\nminimum_protocol_version={target.requiredVersion.val.toNat}\n"

/-- Whether a persisted record is exactly this target's. -/
def matchesConfirmationRecord (target : ActivationTarget) (record : String) : Bool :=
  record == target.confirmationRecord

/-- The bytes of the record, as `atomic_write` receives them. -/
def recordBytes (target : ActivationTarget) : ByteArray := target.confirmationRecord.toUTF8

end ActivationTarget

/-- The persisted confirmation path beside zebra-network's peer cache. -/
def confirmationPath (cacheDir : CacheDir) (network : Network) : Option PathBuf :=
  cacheDir.cacheDir.map fun dir => dir ++ ["network", s!"{network.lowercaseName}.activation"]

/-! ## Reading -/

/-- Decode file contents as UTF-8. -/
def decodeUtf8 (bytes : ByteArray) : Except IoError String :=
  match String.fromUTF8? bytes with
  | some text => .ok text
  | none => .error ⟨.invalidData, "stream did not contain valid UTF-8"⟩

/-- `tokio::fs::read_to_string`, failing with `fault` when the environment says so. -/
def readToString (fs : FileSystem) (path : PathBuf) (fault : Option IoError) :
    Except IoError String :=
  match fault, fs path with
  | some error, _ => .error error
  | none, none => .error ⟨.notFound, "No such file or directory"⟩
  | none, some bytes => decodeUtf8 bytes

/-- Whether the persisted record confirms this exact compiled target. A record that does not match,
a missing file and a failed read all answer no. -/
def loadConfirmation (fs : FileSystem) (path : Option PathBuf) (target : ActivationTarget)
    (fault : Option IoError) : Bool :=
  match path with
  | none => false
  | some path =>
      match readToString fs path fault with
      | .ok record => target.matchesConfirmationRecord record
      | .error _ => false

/-- The record file at `path` holds exactly the target's record. -/
def HoldsRecord (fs : FileSystem) (path : Option PathBuf) (target : ActivationTarget) : Prop :=
  ∃ file, path = some file ∧ fs file = some target.recordBytes

/-- Decoding succeeds with exactly the text whose bytes were given. -/
theorem decodeUtf8_ok_iff {bytes : ByteArray} {text : String} :
    decodeUtf8 bytes = .ok text ↔ bytes = text.toUTF8 := by
  unfold decodeUtf8
  simp only [String.fromUTF8?, String.fromUTF8, String.toUTF8]
  constructor
  · intro h
    split at h
    · next found hfound =>
        split at hfound
        · rw [← Except.ok.inj h, ← Option.some.inj hfound]
        · cases hfound
    · cases h
  · rintro rfl
    rw [dif_pos text.isValidUTF8]

/-- A successful read returns the text whose bytes the file holds. -/
theorem readToString_none_ok_iff {fs : FileSystem} {path : PathBuf} {text : String} :
    readToString fs path none = .ok text ↔ fs path = some text.toUTF8 := by
  unfold readToString
  cases fs path with
  | none => simp
  | some bytes => simpa using decodeUtf8_ok_iff

/-- **Loading answers true exactly when the file holds the target's record**, provided the read
itself does not fail. -/
theorem loadConfirmation_eq_true_iff (fs : FileSystem) (path : Option PathBuf)
    (target : ActivationTarget) :
    loadConfirmation fs path target none = true ↔ HoldsRecord fs path target := by
  unfold loadConfirmation HoldsRecord
  cases path with
  | none => simp
  | some file =>
      simp only [Option.some.injEq, exists_eq_left', ActivationTarget.recordBytes]
      rw [← readToString_none_ok_iff]
      cases readToString fs file none with
      | error error => simp
      | ok record => simp [ActivationTarget.matchesConfirmationRecord]

/-- A failed read never confirms. -/
theorem loadConfirmation_fault (fs : FileSystem) (path : Option PathBuf) (target : ActivationTarget)
    (error : IoError) : loadConfirmation fs path target (some error) = false := by
  cases path <;> rfl

/-- Whatever the read does, a positive answer means the file holds the record. -/
theorem holdsRecord_of_loadConfirmation {fs : FileSystem} {path : Option PathBuf}
    {target : ActivationTarget} {fault : Option IoError}
    (h : loadConfirmation fs path target fault = true) : HoldsRecord fs path target := by
  cases fault with
  | none => exact (loadConfirmation_eq_true_iff fs path target).mp h
  | some error => rw [loadConfirmation_fault] at h; cases h

/-! ## Writing -/

/-- How one `atomic_write` in its blocking task ended. -/
inductive WriteOutcome where
  /-- The temporary file was renamed over the target. -/
  | installed
  /-- Preparing the temporary file failed; the old content stays. -/
  | ioError (error : IoError)
  /-- Renaming the temporary file failed; the old content stays. -/
  | persistError (error : IoError)
  /-- The blocking task died, before or after the rename. -/
  | taskFailed (message : String) (renamed : Bool)

/-- Whether the write replaced the file. -/
def WriteOutcome.installs : WriteOutcome → Bool
  | .installed => true
  | .ioError _ => false
  | .persistError _ => false
  | .taskFailed _ renamed => renamed

/-- What the awaited write reports to the caller. -/
def WriteOutcome.result : WriteOutcome → Except IoError Unit
  | .installed => .ok ()
  | .ioError error => .error error
  | .persistError error => .error error
  | .taskFailed message _ =>
      .error ⟨.other, s!"activation persistence task failed: {message}"⟩

/-- The error of every operation that needs a path while the cache is disabled. -/
def cacheDisabled : IoError :=
  ⟨.other, "zebra-network cache is disabled; no durable confirmation path"⟩

/-- `atomic_write`: the file holds the new content or, unless installed, still the old one. -/
def atomicWrite (fs : FileSystem) (path : PathBuf) (content : ByteArray) (outcome : WriteOutcome) :
    FileSystem :=
  if outcome.installs then Function.update fs path (some content) else fs

/-- Persist the target's record. -/
def persistConfirmation (fs : FileSystem) (path : Option PathBuf) (target : ActivationTarget)
    (outcome : WriteOutcome) : FileSystem × Except IoError Unit :=
  match path with
  | none => (fs, .error cacheDisabled)
  | some path => (atomicWrite fs path target.recordBytes outcome, outcome.result)

/-- A write that reports success was installed. -/
theorem WriteOutcome.result_eq_ok_iff (outcome : WriteOutcome) :
    outcome.result = .ok () ↔ outcome = .installed := by
  cases outcome <;> simp [result]

/-- **Persisting succeeds exactly when the cache is enabled and the write was installed.** -/
theorem persistConfirmation_ok_iff (fs : FileSystem) (path : Option PathBuf)
    (target : ActivationTarget) (outcome : WriteOutcome) :
    (persistConfirmation fs path target outcome).2 = .ok ()
      ↔ path.isSome = true ∧ outcome = .installed := by
  cases path with
  | none => simp [persistConfirmation]
  | some path => simpa [persistConfirmation] using outcome.result_eq_ok_iff

/-- After a successful persist the file holds the record. -/
theorem holdsRecord_persistConfirmation {fs : FileSystem} {path : Option PathBuf}
    {target : ActivationTarget} {outcome : WriteOutcome}
    (h : (persistConfirmation fs path target outcome).2 = .ok ()) :
    HoldsRecord (persistConfirmation fs path target outcome).1 path target := by
  obtain ⟨hpath, rfl⟩ := (persistConfirmation_ok_iff _ _ _ _).mp h
  obtain ⟨file, rfl⟩ := Option.isSome_iff_exists.mp hpath
  exact ⟨file, rfl, by simp [persistConfirmation, atomicWrite, WriteOutcome.installs]⟩

/-- Writing the target's record anywhere keeps a record that is already there. -/
theorem HoldsRecord.atomicWrite {fs : FileSystem} {path : Option PathBuf}
    {target : ActivationTarget} (h : HoldsRecord fs path target) (file : PathBuf)
    (outcome : WriteOutcome) :
    HoldsRecord (atomicWrite fs file target.recordBytes outcome) path target := by
  obtain ⟨own, rfl, hown⟩ := h
  refine ⟨own, rfl, ?_⟩
  unfold Crawl.atomicWrite
  split
  · -- the file written is the record's own, or another one
    by_cases heq : own = file
    · rw [heq, Function.update_self]
    · rw [Function.update_of_ne heq, hown]
  · exact hown

/-! ## Operator attestation -/

/-- Persist an explicit operator attestation for the exact compiled target. All asserted values
must match. -/
def attestConfirmation (fs : FileSystem) (cacheDir : CacheDir) (network : Network)
    (activationHeight confirmationHeight minimumProtocolVersion : UInt32) (outcome : WriteOutcome) :
    FileSystem × Except IoError PathBuf :=
  let target := ActivationTarget.latest network
  let assertedRecord :=
    s!"activation_height={activationHeight.toNat}\nconfirmation_height={confirmationHeight.toNat}\nminimum_protocol_version={minimumProtocolVersion.toNat}\n"
  -- the asserted numbers are compared through the record they render to
  if target.matchesConfirmationRecord assertedRecord then
    match confirmationPath cacheDir network with
    | none => (fs, .error cacheDisabled)
    | some path =>
        let persisted := persistConfirmation fs (some path) target outcome
        (persisted.1, persisted.2.map fun _ => path)
  else
    (fs, .error ⟨.invalidInput, s!"attestation does not match compiled target: expected activation_height={target.activationHeight.val.toNat}, confirmation_height={target.confirmationHeight.val.toNat}, minimum_protocol_version={target.requiredVersion.val.toNat}"⟩)

/-- An attestation leaves the files alone or writes the compiled target's record to its own
path. -/
theorem attestConfirmation_fs (fs : FileSystem) (cacheDir : CacheDir) (network : Network)
    (activationHeight confirmationHeight minimumProtocolVersion : UInt32)
    (outcome : WriteOutcome) :
    (attestConfirmation fs cacheDir network activationHeight confirmationHeight
        minimumProtocolVersion outcome).1 = fs ∨
      ∃ file, confirmationPath cacheDir network = some file ∧
        (attestConfirmation fs cacheDir network activationHeight confirmationHeight
            minimumProtocolVersion outcome).1
          = atomicWrite fs file (ActivationTarget.latest network).recordBytes outcome := by
  unfold attestConfirmation
  dsimp only
  split
  · cases hpath : confirmationPath cacheDir network with
    | none => exact Or.inl rfl
    | some file => exact Or.inr ⟨file, rfl, rfl⟩
  · exact Or.inl rfl

/-! ## One record file among others -/

/-- Records of networks with different names are different files, in whatever directories. -/
theorem confirmationPath_ne {dir other : CacheDir} {network network' : Network} {file file' : PathBuf}
    (hname : network.lowercaseName ≠ network'.lowercaseName)
    (hfile : confirmationPath dir network = some file)
    (hfile' : confirmationPath other network' = some file') : file ≠ file' := by
  rintro rfl
  obtain ⟨root, -, rfl⟩ := Option.map_eq_some_iff.mp hfile
  obtain ⟨root', -, hsame⟩ := Option.map_eq_some_iff.mp hfile'
  have hlast := (List.append_inj' hsame rfl).2
  simp only [List.cons.injEq, and_true, true_and] at hlast
  exact hname (String.append_left_inj _ |>.mp hlast.symm)

/-- What a record file holds, if there is a path and a file. -/
def recordFile (path : Option PathBuf) (fs : FileSystem) : Option ByteArray := path.bind fs

/-- Loading a confirmation reads the record file only. -/
theorem loadConfirmation_congr {fs₁ fs₂ : FileSystem} {path : Option PathBuf}
    {target : ActivationTarget} {fault : Option IoError}
    (h : recordFile path fs₁ = recordFile path fs₂) :
    loadConfirmation fs₁ path target fault = loadConfirmation fs₂ path target fault := by
  cases path with
  | none => rfl
  | some file =>
      have hfile : fs₁ file = fs₂ file := h
      simp only [loadConfirmation, readToString, hfile]

/-- Writing the record file leaves other files alone. -/
theorem recordFile_atomicWrite_of_ne {fs : FileSystem} {path : Option PathBuf} {file : PathBuf}
    {content : ByteArray} {outcome : WriteOutcome} (h : ∀ own, path = some own → own ≠ file) :
    recordFile path (atomicWrite fs file content outcome) = recordFile path fs := by
  cases path with
  | none => rfl
  | some own =>
      unfold atomicWrite
      split
      · exact Function.update_of_ne (h own rfl) _ _
      · rfl

/-- What a file holds after a write depends on what it held before, and on the write. -/
theorem recordFile_atomicWrite_congr {fs₁ fs₂ : FileSystem} {file : PathBuf} {content : ByteArray}
    {path : Option PathBuf} {outcome : WriteOutcome}
    (h : recordFile path fs₁ = recordFile path fs₂) :
    recordFile path (atomicWrite fs₁ file content outcome)
      = recordFile path (atomicWrite fs₂ file content outcome) := by
  cases path with
  | none => rfl
  | some own =>
      have hown : fs₁ own = fs₂ own := h
      unfold atomicWrite
      split
      · by_cases heq : own = file
        · simp [recordFile, heq]
        · simp [recordFile, Function.update_of_ne heq, hown]
      · exact h

/-- So it is with persisting a confirmation. -/
theorem recordFile_persistConfirmation_congr {fs₁ fs₂ : FileSystem} {path : Option PathBuf}
    {target : ActivationTarget} {outcome : WriteOutcome}
    (h : recordFile path fs₁ = recordFile path fs₂) :
    recordFile path (persistConfirmation fs₁ path target outcome).1
      = recordFile path (persistConfirmation fs₂ path target outcome).1 := by
  cases path with
  | none => rfl
  | some file => exact recordFile_atomicWrite_congr h

/-- So it is with an attestation: what it writes does not depend on the files. -/
theorem recordFile_attestConfirmation_congr {fs₁ fs₂ : FileSystem} {path : Option PathBuf}
    {dir : CacheDir} {network : Network} {a c v : UInt32} {outcome : WriteOutcome}
    (h : recordFile path fs₁ = recordFile path fs₂) :
    recordFile path (attestConfirmation fs₁ dir network a c v outcome).1
      = recordFile path (attestConfirmation fs₂ dir network a c v outcome).1 := by
  unfold attestConfirmation
  dsimp only
  split
  · cases confirmationPath dir network with
    | none => exact h
    | some file => exact recordFile_atomicWrite_congr h
  · exact h

section Other

variable {network other : Network} {dir cacheDir : CacheDir} {fs : FileSystem}

/-- Another network's confirmation leaves a network's record file alone. -/
theorem recordFile_persistConfirmation_of_ne {target : ActivationTarget} {outcome : WriteOutcome}
    (hname : other.lowercaseName ≠ network.lowercaseName) :
    recordFile (confirmationPath cacheDir network)
        (persistConfirmation fs (confirmationPath dir other) target outcome).1
      = recordFile (confirmationPath cacheDir network) fs := by
  cases hother : confirmationPath dir other with
  | none => rfl
  | some file =>
      exact recordFile_atomicWrite_of_ne fun own hown => (confirmationPath_ne hname hother hown).symm

/-- So does another network's attestation. -/
theorem recordFile_attestConfirmation_of_ne {a c v : UInt32} {outcome : WriteOutcome}
    (hname : other.lowercaseName ≠ network.lowercaseName) :
    recordFile (confirmationPath cacheDir network)
        (attestConfirmation fs dir other a c v outcome).1
      = recordFile (confirmationPath cacheDir network) fs := by
  rcases attestConfirmation_fs fs dir other a c v outcome with heq | ⟨file, hother, heq⟩
  · rw [heq]
  · rw [heq]
    exact recordFile_atomicWrite_of_ne fun own hown => (confirmationPath_ne hname hother hown).symm

end Other

end Zeeder.Crawl
