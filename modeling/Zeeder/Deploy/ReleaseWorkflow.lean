import Mathlib.Data.List.Dedup
import Mathlib.Data.List.Sort
import Zeeder.Deploy.ReleasePin
import Zeeder.Foundation.JobGraph

/-! # The release workflow

A release builds images and binaries for two platforms each, publishes both, pins the image for the
fleet and deploys it. The image goes to two repositories by one digest; it is attested and signed in
both, and all of that is verified, before anything is pinned. Any job may fail and be run again.

* **`publishImage_done_iff`** — what the publishing job has done when it succeeds.
* **`publishImage_vouches`** — at every moment of it, nothing is attested or signed but the digest that
  both repositories hold.
* **`deployed_image_published`** — when the fleet is deployed, it gets the image that is published and
  verified in both repositories, and the binaries are published too.
* **`settled_release`** — what a release does that comes to rest without a failure. -/

namespace Zeeder.Deploy

open Foundation Script

/-! ## What commands print -/

/-- What `$(…)` gives: text without a newline at its end. -/
structure Captured where
  /-- The text. -/
  text : String
  /-- Taking newlines away from its end changes nothing. -/
  fileContents_text : fileContents text = text
  deriving DecidableEq

/-- The files that a pattern matches, by name. -/
def globbed (names : List String) : List String := names.dedup.insertionSort (· ≤ ·)

@[simp] theorem mem_globbed {name : String} {names : List String} :
    name ∈ globbed names ↔ name ∈ names := by
  rw [globbed, List.mem_insertionSort, List.mem_dedup]

/-! ## The publishing jobs -/

/-- `HUB_MIRROR`. -/
def hubMirror : String := "docker.io/zfnd/zeeder"

/-- Commands and steps of the publishing jobs that are run for their effect. -/
inductive PublishAction where
  /-- `docker buildx imagetools create`. -/
  | createManifest (tags sources : List String)
  /-- `attest-build-provenance`. -/
  | attestProvenance (ref : String)
  /-- `cosign sign`. -/
  | cosignSign (ref : String)
  /-- `sbom-action`. -/
  | generateSbom (ref : String)
  /-- `attest`, with the SBOM. -/
  | attestSbom (ref : String)
  /-- `cosign verify`. -/
  | cosignVerify (ref : String)
  /-- `gh attestation verify`. -/
  | verifyAttestation (subject : String)
  /-- `sha256sum`, into `SHA256SUMS`. -/
  | checksums (archives : List String)
  /-- `cosign sign-blob`, of `SHA256SUMS`. -/
  | signChecksums
  /-- `cosign verify-blob`, of `SHA256SUMS`. -/
  | verifyChecksums
  /-- `gh release upload`. -/
  | upload (tag : String) (files : List String)
  deriving DecidableEq

/-- The commands of the publishing jobs. -/
inductive PublishCommand where
  /-- A command run for its effect. -/
  | act (action : PublishAction)
  /-- `docker buildx imagetools inspect … | jq -r '.digest'`. -/
  | inspect (ref : String)
  deriving DecidableEq

/-- What a command answers: an exit status, or a digest unless the pipeline failed. -/
abbrev PublishCommand.Outcome : PublishCommand → Type
  | .act _ => ℕ
  | .inspect _ => Option Captured

instance : (cmd : PublishCommand) → DecidableEq cmd.Outcome
  | .act _ => inferInstanceAs (DecidableEq ℕ)
  | .inspect _ => inferInstanceAs (DecidableEq (Option Captured))

/-- A command with what it answered. -/
abbrev PublishEvent := Sigma PublishCommand.Outcome

/-- Why a publishing job fails. -/
inductive PublishExit where
  /-- A command or a step failed. -/
  | failed (status : ℕ)
  /-- A check failed, with an annotation. -/
  | error (message : String)

/-- A part of a publishing job. -/
abbrev PublishJob (α : Type) := Script PublishCommand.Outcome PublishExit α

/-- `set -e`. -/
def goOn (status : ℕ) : PublishJob Unit := if status = 0 then pure () else .exit (.failed status)

/-- A command or a step whose failure ends the job. -/
def plain (action : PublishAction) : PublishJob Unit := .call (.act action) goOn

/-- One after the other. -/
def plainAll (actions : List PublishAction) : PublishJob Unit :=
  actions.foldlM (fun _ action => plain action) ()

/-- `set -eo pipefail`. -/
def printed : Option Captured → PublishJob Captured
  | some digest => pure digest
  | none => .exit (.failed 1)

/-- The digest of a manifest. -/
def digestOf (ref : String) : PublishJob Captured := .call (.inspect ref) printed

/-- What the earlier steps of `publish-image` have found. -/
structure PublishInputs where
  /-- `steps.meta.outputs.version`. -/
  version : String
  /-- The tags of the metadata, in both repositories. -/
  tags : List String
  /-- The files in `/tmp/digests`. -/
  digests : List String
  deriving DecidableEq

/-- The version of an image in a repository. -/
def PublishInputs.tagged (inputs : PublishInputs) (image : String) : String :=
  image ++ ":" ++ inputs.version

/-- The manifest of all platforms, pushed under all tags. -/
def PublishInputs.create (inputs : PublishInputs) : PublishAction :=
  .createManifest inputs.tags (inputs.digests.map fun digest => atDigest hubImage ("sha256:" ++ digest))

/-- The message of the mirror check. -/
def mirrorText (mirrorDigest digest : String) : String :=
  s!"::error::{hubMirror} digest {mirrorDigest} differs from {hubImage} digest {digest}"

/-- The mirror has to hold the same manifest. -/
def checkMirror (digest mirrorDigest : Captured) : PublishJob Unit :=
  if mirrorDigest ≠ digest then .exit (.error (mirrorText mirrorDigest.text digest.text)) else pure ()

/-- The steps of `publish-image` from the first attestation on. -/
def vouchSteps (digest : String) : List PublishAction :=
  [.attestProvenance (atDigest hubImage digest),
    .attestProvenance (atDigest hubMirror digest),
    .cosignSign (atDigest hubImage digest),
    .cosignSign (atDigest hubMirror digest),
    .generateSbom (atDigest hubImage digest),
    .attestSbom (atDigest hubImage digest),
    .attestSbom (atDigest hubMirror digest),
    .cosignVerify (atDigest hubImage digest),
    .verifyAttestation ("oci://" ++ atDigest hubImage digest),
    .cosignVerify (atDigest hubMirror digest),
    .verifyAttestation ("oci://" ++ atDigest hubMirror digest)]

/-- `publish-image`; its output is the digest. -/
def publishImage (inputs : PublishInputs) : PublishJob Captured := do
  plain inputs.create
  let digest ← digestOf (inputs.tagged hubImage)
  let mirrorDigest ← digestOf (inputs.tagged hubMirror)
  checkMirror digest mirrorDigest
  plainAll (vouchSteps digest.text)
  pure digest

/-- What `publish-binaries` uploads. -/
def uploadedFiles (archives : List String) : List String :=
  archives ++ archives.map (· ++ ".sha256") ++ ["SHA256SUMS", "SHA256SUMS.sigstore.json"]

/-- The steps of `publish-binaries`. -/
def binarySteps (tag : String) (archives : List String) : List PublishAction :=
  [.checksums archives, .signChecksums, .verifyChecksums] ++ archives.map .verifyAttestation
    ++ [.upload tag (uploadedFiles archives)]

/-- `publish-binaries`. -/
def publishBinaries (tag : String) (archives : List String) : PublishJob Unit :=
  plainAll (binarySteps tag archives)

/-! ## What they have done in the end -/

/-- Commands that have succeeded. -/
def succeeded (actions : List PublishAction) : List PublishEvent :=
  actions.map fun action => ⟨.act action, (0 : ℕ)⟩

theorem succeeded_append (actions more : List PublishAction) :
    succeeded (actions ++ more) = succeeded actions ++ succeeded more := List.map_append

/-- What both repositories have printed, after the manifest was pushed. -/
def mirrored (inputs : PublishInputs) (digest : Captured) : List PublishEvent :=
  succeeded [inputs.create] ++ [⟨.inspect (inputs.tagged hubImage), some digest⟩]
    ++ [⟨.inspect (inputs.tagged hubMirror), some digest⟩]

/-- The trace of a `publish-image` that succeeds. -/
def publishTrace (inputs : PublishInputs) (digest : Captured) : List PublishEvent :=
  mirrored inputs digest ++ succeeded (vouchSteps digest.text)

section Publish

variable {allowed : List PublishEvent → PublishEvent → Prop} {trace : List PublishEvent}
  {inputs : PublishInputs} {digest : Captured}

/-- A step goes on only if it succeeds. -/
theorem wp_plain {action : PublishAction} {Q : Unit → List PublishEvent → Prop}
    (hallowed : ∀ status : ℕ, allowed trace ⟨.act action, status⟩)
    (h : Q () (trace ++ succeeded [action])) : wp allowed (plain action) Q trace := by
  intro status
  refine ⟨hallowed status, ?_⟩
  by_cases hzero : status = 0
  · subst hzero
    exact h
  · rw [goOn, if_neg hzero]
    exact trivial

/-- Steps one after the other, with what was done so far. -/
theorem wp_plainAll {actions : List PublishAction} {Q : Unit → List PublishEvent → Prop}
    (hallowed : ∀ before action after, actions = before ++ action :: after →
      ∀ status : ℕ, allowed (trace ++ succeeded before) ⟨.act action, status⟩)
    (h : Q () (trace ++ succeeded actions)) : wp allowed (plainAll actions) Q trace := by
  refine wp_mono (wp_foldlM (fun before _ now => now = trace ++ succeeded before)
    (List.append_nil trace).symm ?_) fun _ now hnow => hnow ▸ h
  rintro before action after _ _ hactions rfl
  refine wp_plain (hallowed before action after hactions) ?_
  rw [succeeded_append, List.append_assoc]

/-- A digest that was printed. -/
theorem wp_digestOf {ref : String} {Q : Captured → List PublishEvent → Prop}
    (hallowed : ∀ answer : Option Captured, allowed trace ⟨.inspect ref, answer⟩)
    (h : ∀ digest, Q digest (trace ++ [⟨.inspect ref, some digest⟩])) :
    wp allowed (digestOf ref) Q trace := by
  intro answer
  refine ⟨hallowed answer, ?_⟩
  cases answer with
  | none => exact trivial
  | some digest => exact h digest

/-- **`publish-image`**: what comes after the mirror check has to be allowed for the digest that both
repositories hold. -/
theorem wp_publishImage {Q : Captured → List PublishEvent → Prop}
    (hcreate : ∀ status : ℕ, allowed [] ⟨.act inputs.create, status⟩)
    (hinspect : ∀ trace ref, ∀ answer : Option Captured, allowed trace ⟨.inspect ref, answer⟩)
    (hvouch : ∀ digest before action after, vouchSteps digest.text = before ++ action :: after →
      ∀ status : ℕ, allowed (mirrored inputs digest ++ succeeded before) ⟨.act action, status⟩)
    (h : ∀ digest, Q digest (publishTrace inputs digest)) :
    wp allowed (publishImage inputs) Q [] := by
  rw [publishImage, wp_bind]
  refine wp_plain hcreate ?_
  rw [wp_bind]
  refine wp_digestOf (hinspect _ _) fun digest => ?_
  rw [wp_bind]
  refine wp_digestOf (hinspect _ _) fun mirrorDigest => ?_
  rw [wp_bind, checkMirror]
  -- the mirror check is what makes the two digests one
  by_cases hsame : mirrorDigest = digest
  · subst hsame
    rw [if_neg (not_not_intro rfl), wp_pure, wp_bind]
    exact wp_plainAll (hvouch mirrorDigest) (h mirrorDigest)
  · rw [if_pos hsame]
    exact trivial

/-- A step that succeeds. -/
theorem reaches_plain (action : PublishAction) :
    Reaches (plain action) (succeeded [action]) (.done ()) := by
  have hstart : Reaches (plain action) [] (.call (.act action) goOn) := .start
  exact hstart.step (0 : ℕ)

/-- Steps that all succeed. Induction on the steps. -/
theorem reaches_plainAll (actions : List PublishAction) :
    Reaches (plainAll actions) (succeeded actions) (.done ()) := by
  induction actions with
  | nil => exact .start
  | cons action actions ih =>
      have hboth : Reaches (plainAll (action :: actions)) _ _ := (reaches_plain action).seq ih
      rwa [← succeeded_append] at hboth

/-- A digest that is printed. -/
theorem reaches_digestOf (ref : String) (digest : Captured) :
    Reaches (digestOf ref) [⟨.inspect ref, some digest⟩] (.done digest) := by
  have hstart : Reaches (digestOf ref) [] (.call (.inspect ref) printed) := .start
  exact hstart.step (some digest)

/-- **What `publish-image` has done when it succeeds**: exactly this, in this order. -/
theorem publishImage_done_iff :
    Reaches (publishImage inputs) trace (.done digest) ↔ trace = publishTrace inputs digest := by
  constructor
  · intro hreaches
    have hwp : wp (fun _ _ => True) (publishImage inputs)
        (fun digest trace => trace = publishTrace inputs digest) [] :=
      wp_publishImage (fun _ => trivial) (fun _ _ _ => trivial) (fun _ _ _ _ _ _ => trivial)
        fun _ => rfl
    exact wp_of_reaches hwp hreaches
  · rintro rfl
    have hcheck : Reaches (checkMirror digest digest) [] (.done ()) := by
      rw [checkMirror, if_neg (not_not_intro rfl)]
      exact .start
    have hdone : Reaches (publishImage inputs) _ (.done digest) :=
      (reaches_plain inputs.create).seq ((reaches_digestOf (inputs.tagged hubImage) digest).seq
        ((reaches_digestOf (inputs.tagged hubMirror) digest).seq
          (hcheck.seq ((reaches_plainAll (vouchSteps digest.text)).seq .start))))
    rw [publishTrace, mirrored]
    simpa only [List.append_assoc, List.append_nil, List.nil_append] using hdone

/-- **What `publish-binaries` has done when it succeeds.** -/
theorem publishBinaries_done_iff {tag : String} {archives : List String} :
    Reaches (publishBinaries tag archives) trace (.done ()) ↔
      trace = succeeded (binarySteps tag archives) := by
  constructor
  · intro hreaches
    have hwp : wp (fun _ _ => True) (publishBinaries tag archives)
        (fun _ trace => trace = succeeded (binarySteps tag archives)) [] :=
      wp_plainAll (fun _ _ _ _ _ => trivial) rfl
    exact wp_of_reaches hwp hreaches
  · rintro rfl
    exact reaches_plainAll _

/-- What an attestation or a signature is made for. -/
def PublishCommand.vouched? : PublishCommand → Option String
  | .act (.attestProvenance ref) => some ref
  | .act (.cosignSign ref) => some ref
  | .act (.attestSbom ref) => some ref
  | _ => none

/-- One digest was printed for both repositories, after the manifest was pushed to them; the reference is
by this digest. -/
def Mirrored (inputs : PublishInputs) (before : List PublishEvent) (ref : String) : Prop :=
  ∃ digest, mirrored inputs digest <+: before ∧
    (ref = atDigest hubImage digest.text ∨ ref = atDigest hubMirror digest.text)

/-- All that is vouched for is the digest, in one repository or the other. -/
theorem vouched?_of_mem_vouchSteps {digest ref : String} {action : PublishAction}
    (hmem : action ∈ vouchSteps digest) (href : (PublishCommand.act action).vouched? = some ref) :
    ref = atDigest hubImage digest ∨ ref = atDigest hubMirror digest := by
  simp only [vouchSteps, List.mem_cons, List.not_mem_nil, or_false] at hmem
  rcases hmem with rfl | rfl | rfl | rfl | rfl | rfl | rfl | rfl | rfl | rfl | rfl <;>
    cases href <;> simp only [true_or, or_true]

/-- **Nothing is attested or signed but what both repositories hold.** Whatever the commands answer and
wherever the job is stopped. -/
theorem publishImage_vouches {rest : PublishJob Captured}
    (hreaches : Reaches (publishImage inputs) trace rest) {before after : List PublishEvent}
    {event : PublishEvent} (htrace : trace = before ++ event :: after) {ref : String}
    (hvouched : event.1.vouched? = some ref) : Mirrored inputs before ref := by
  have hwp : wp (fun before event => ∀ ref, event.1.vouched? = some ref → Mirrored inputs before ref)
      (publishImage inputs) (fun _ _ => True) [] := by
    refine wp_publishImage (fun _ => nofun) (fun _ _ _ => nofun) ?_ fun _ => trivial
    intro digest done action more hsteps _ ref href
    have hmem : action ∈ vouchSteps digest.text := by
      rw [hsteps]
      exact List.mem_append_right _ List.mem_cons_self
    exact ⟨digest, List.prefix_append _ _, vouched?_of_mem_vouchSteps hmem href⟩
  exact allowed_of_reaches hwp hreaches htrace ref hvouched

end Publish

/-! ## The event and its checks -/

/-- Why the workflow runs. -/
inductive ReleaseAction where
  /-- A release or a pre-release was published. -/
  | published
  /-- A release was published, or a pre-release was made one. -/
  | released
  deriving DecidableEq

/-- What the workflow knows of the release. -/
structure ReleaseEvent where
  /-- `github.event.action`. -/
  action : ReleaseAction
  /-- `github.event.release.prerelease`. -/
  prerelease : Bool
  /-- `github.event.release.tag_name`. -/
  tagName : String
  /-- `github.repository_owner`. -/
  repositoryOwner : String
  /-- The lines of `Cargo.toml` at the tag. -/
  manifest : List String

/-- `startsWith`, which ignores case. -/
def startsWith (text start : String) : Bool :=
  (start.toList.map Char.toLower).isPrefixOf (text.toList.map Char.toLower)

/-- `==`, which ignores case. -/
def sameText (text other : String) : Bool :=
  text.toList.map Char.toLower == other.toList.map Char.toLower

/-- `${tag#v}`. -/
def withoutV (tag : String) : String :=
  match tag.toList with
  | 'v' :: rest => .ofList rest
  | _ => tag

/-- `cut -d'"' -f2`: a line without a quote is printed as it is. -/
def cutQuoted (line : String) : String :=
  match line.toList.splitOn '"' with
  | _ :: field :: _ => .ofList field
  | _ => line

/-- `grep -m1 '^version = ' Cargo.toml | cut -d'"' -f2`. -/
def manifestVersion? (manifest : List String) : Option String :=
  (manifest.find? fun line => "version = ".toList.isPrefixOf line.toList).map cutQuoted

namespace ReleaseEvent

/-- The script of `preflight`; its output is the version. -/
def preflight (event : ReleaseEvent) : Option String :=
  match manifestVersion? event.manifest with
  | some version => if withoutV event.tagName ≠ version then none else some (withoutV event.tagName)
  | none => none

/-- The condition of `preflight`. -/
def Starts (event : ReleaseEvent) : Prop :=
  startsWith event.tagName "v" = true ∧ (event.action = .released ∨ event.prerelease = true)

/-- The condition of `build-image`. -/
def Owned (event : ReleaseEvent) : Prop := sameText event.repositoryOwner "ZcashFoundation" = true

instance (event : ReleaseEvent) : Decidable event.Starts := inferInstanceAs (Decidable (_ ∧ _))

instance (event : ReleaseEvent) : Decidable event.Owned := inferInstanceAs (Decidable (_ = _))

end ReleaseEvent

/-! ## The jobs -/

/-- The platforms of the image. -/
inductive Arch where
  | amd64
  | arm64
  deriving DecidableEq

/-- The targets of the binaries. -/
inductive Target where
  | x86_64
  | aarch64
  deriving DecidableEq

/-- `matrix.target`. -/
def Target.triple : Target → String
  | x86_64 => "x86_64-unknown-linux-gnu"
  | aarch64 => "aarch64-unknown-linux-gnu"

/-- The archive of a binary. -/
def archiveName (target : Target) (version : String) : String :=
  s!"zeeder-{version}-{target.triple}.tar.gz"

/-- The jobs. -/
inductive ReleaseJob where
  /-- Checks the tag. -/
  | preflight
  /-- Builds the image for one platform. -/
  | buildImage (arch : Arch)
  /-- Publishes the image. -/
  | publishImage
  /-- Builds the binary for one target. -/
  | buildBinary (target : Target)
  /-- Publishes the binaries. -/
  | publishBinaries
  /-- Pins the image. -/
  | pinDeploy
  /-- Rolls the fleet. -/
  | deploy
  deriving DecidableEq

/-- The image that was published. -/
structure PublishedImage where
  /-- What the job found. -/
  inputs : PublishInputs
  /-- The digest of the image. -/
  digest : Captured
  /-- What the job did. -/
  trace : List PublishEvent

/-- The binaries that were published. -/
structure PublishedBinaries where
  /-- Their archives. -/
  archives : List String
  /-- What the job did. -/
  trace : List PublishEvent

/-- What `pin-deploy` writes to `deploy/gcp/IMAGE`. -/
def PublishedImage.pin (image : PublishedImage) : String :=
  atDigest hubImage image.digest.text ++ "\n"

namespace ReleaseJob

variable {Tree : Type}

/-- What a job puts out: the version, the file for a digest, an archive or the commit of the pin. -/
abbrev Output (Tree : Type) : ReleaseJob → Type
  | preflight => String
  | buildImage _ => String
  | publishImage => PublishedImage
  | buildBinary _ => String
  | publishBinaries => PublishedBinaries
  | pinDeploy => Commit Tree
  | deploy => Unit

/-- `needs`. -/
def needs : ReleaseJob → List ReleaseJob
  | preflight => []
  | buildImage _ => [preflight]
  | publishImage => [preflight, buildImage .amd64, buildImage .arm64]
  | buildBinary _ => [preflight]
  | publishBinaries => [buildBinary .x86_64, buildBinary .aarch64]
  | pinDeploy => [preflight, publishImage, publishBinaries]
  | deploy => [pinDeploy]

/-- `if`. -/
def Enabled (event : ReleaseEvent) : ReleaseJob → Prop
  | preflight => event.Starts
  | buildImage _ => event.Owned
  | pinDeploy => event.action = .released
  | _ => True

/-- What a job puts out if it succeeds. A job that downloads artifacts finds those that the jobs it needs
have uploaded; they are kept for a day. -/
def Yields (event : ReleaseEvent) : (job : ReleaseJob) →
    ((other : ReleaseJob) → Option (other.Output Tree)) → job.Output Tree → Prop
  | preflight, _, version => event.preflight = some version
  | buildImage _, _, _ => True
  | publishImage, outputs, image =>
      image.inputs.digests
          = globbed ([outputs (buildImage .amd64), outputs (buildImage .arm64)].filterMap id) ∧
        Reaches (Deploy.publishImage image.inputs) image.trace (.done image.digest)
  | buildBinary target, outputs, archive =>
      some archive = (outputs preflight).map (archiveName target)
  | publishBinaries, outputs, binaries =>
      binaries.archives
          = globbed ([outputs (buildBinary .x86_64), outputs (buildBinary .aarch64)].filterMap id) ∧
        Reaches (Deploy.publishBinaries event.tagName binaries.archives) binaries.trace (.done ())
  | pinDeploy, outputs, sha =>
      sha.head?.map Snapshot.image = (outputs publishImage).map PublishedImage.pin
  | deploy, _, _ => True

end ReleaseJob

/-- The workflow. -/
def release (Tree : Type) (event : ReleaseEvent) : Workflow ReleaseJob (ReleaseJob.Output Tree) where
  needs := ReleaseJob.needs
  enabled := ReleaseJob.Enabled event
  Yields := ReleaseJob.Yields event
  yields_congr := by
    intro job outputs outputs' output hsame hyields
    cases job with
    | preflight => exact hyields
    | buildImage arch => exact hyields
    | publishImage =>
        have hamd64 := hsame (.buildImage .amd64) (by simp [ReleaseJob.needs])
        have harm64 := hsame (.buildImage .arm64) (by simp [ReleaseJob.needs])
        rwa [ReleaseJob.Yields, ← hamd64, ← harm64]
    | buildBinary target =>
        have hpreflight := hsame .preflight (by simp [ReleaseJob.needs])
        rwa [ReleaseJob.Yields, ← hpreflight]
    | publishBinaries =>
        have hx86 := hsame (.buildBinary .x86_64) (by simp [ReleaseJob.needs])
        have harm := hsame (.buildBinary .aarch64) (by simp [ReleaseJob.needs])
        rwa [ReleaseJob.Yields, ← hx86, ← harm]
    | pinDeploy =>
        have himage := hsame .publishImage (by simp [ReleaseJob.needs])
        rwa [ReleaseJob.Yields, ← himage]
    | deploy => exact hyields

/-! ## The whole workflow -/

section Workflow

variable {Tree : Type} {event : ReleaseEvent} {s : Workflow.Statuses (ReleaseJob.Output Tree)}

/-- The version is that of the tag, and of the manifest. -/
theorem ReleaseEvent.preflight_eq_some {version : String} :
    event.preflight = some version ↔
      withoutV event.tagName = version ∧ manifestVersion? event.manifest = some version := by
  rw [ReleaseEvent.preflight]
  cases hmanifest : manifestVersion? event.manifest with
  | none => simp
  | some manifest =>
      dsimp only
      by_cases hsame : withoutV event.tagName = manifest
      · subst hsame
        simp
      · rw [if_pos hsame]
        refine ⟨nofun, ?_⟩
        rintro ⟨rfl, hversion⟩
        exact absurd (Option.some.inj hversion).symm hsame

/-- The script reads back the image that was pinned. -/
theorem PublishedImage.fileContents_pin (image : PublishedImage) :
    fileContents image.pin = atDigest hubImage image.digest.text :=
  fileContents_append_newline (fileContents_atDigest hubImage image.digest.fileContents_text)

/-- The release of the image pins what the workflow expects. -/
theorem PublishedImage.pin_eq {image : PublishedImage} {release : Release}
    (h : image.digest.text = release.digest) : image.pin = release.pin := by
  rw [pin, h]
  rfl

/-- The roll from a commit names no image but the one that is pinned there. -/
theorem image_of_roll {sha : Commit Tree} {image : PublishedImage}
    (hsha : sha.head?.map Snapshot.image = some image.pin) {fleet : Fleet} {settings : CreateSettings}
    {trace : List FleetEvent} {rest : Shell Unit}
    (hroll : Reaches ((fleet.checkedOut sha).main settings (Fleet.workflowArgs "false" "")) trace rest)
    {event : FleetEvent} (hevent : event ∈ trace) {ref : String} (href : event.1.image? = some ref) :
    ref = atDigest hubImage image.digest.text := by
  have himage : (fleet.checkedOut sha).imageRef = atDigest hubImage image.digest.text := by
    rw [Fleet.checkedOut, hsha]
    exact image.fileContents_pin
  rw [Fleet.main_workflowArgs_roll] at hroll
  exact ((Fleet.calls_roll.of_reaches hroll event hevent).image ref href).trans himage

/-- **What a release does that comes to rest without a failure.** The image is published if it is the
project's release, the binaries are in any case, and the fleet is deployed only if it is a full one. -/
theorem settled_release (event : ReleaseEvent)
    (hreach : (release Tree event).system.Reachable s) (hsettled : ∀ job, (s job).Settled)
    (hfailed : ∀ job, s job ≠ .failed) :
    ((s .publishImage).output? ≠ none ↔ event.Starts ∧ event.Owned) ∧
      ((s .publishBinaries).output? ≠ none ↔ event.Starts) ∧
      ((s .deploy).output? ≠ none ↔ event.Starts ∧ event.Owned ∧ event.action = .released) := by
  -- job by job, each from those that it needs
  have hrest : ∀ job, Workflow.outputs s job ≠ none ↔ ReleaseJob.Enabled event job ∧
      ∀ other ∈ job.needs, Workflow.outputs s other ≠ none :=
    (Workflow.sound_of_reachable hreach).output_iff hsettled hfailed
  have hpreflight : Workflow.outputs s .preflight ≠ none ↔ event.Starts := by
    rw [hrest]
    exact and_iff_left nofun
  have hbuildImage (arch : Arch) :
      Workflow.outputs s (.buildImage arch) ≠ none ↔ event.Starts ∧ event.Owned := by
    rw [hrest, ReleaseJob.needs, List.forall_mem_singleton, hpreflight, and_comm]
    rfl
  have hbuildBinary (target : Target) :
      Workflow.outputs s (.buildBinary target) ≠ none ↔ event.Starts := by
    rw [hrest, ReleaseJob.needs, List.forall_mem_singleton, hpreflight]
    exact and_iff_right trivial
  have himage : Workflow.outputs s .publishImage ≠ none ↔ event.Starts ∧ event.Owned := by
    rw [hrest, ReleaseJob.needs, List.forall_mem_cons, List.forall_mem_cons, List.forall_mem_singleton,
      hpreflight, hbuildImage, hbuildImage, and_self, and_self_left]
    exact and_iff_right trivial
  have hbinaries : Workflow.outputs s .publishBinaries ≠ none ↔ event.Starts := by
    rw [hrest, ReleaseJob.needs, List.forall_mem_cons, List.forall_mem_singleton, hbuildBinary,
      hbuildBinary, and_self]
    exact and_iff_right trivial
  have hpin : Workflow.outputs s .pinDeploy ≠ none ↔
      event.Starts ∧ event.Owned ∧ event.action = .released := by
    rw [hrest, ReleaseJob.needs, List.forall_mem_cons, List.forall_mem_cons, List.forall_mem_singleton,
      hpreflight, himage, hbinaries, ReleaseJob.Enabled]
    tauto
  refine ⟨himage, hbinaries, ?_⟩
  show Workflow.outputs s .deploy ≠ none ↔ _
  rw [hrest, ReleaseJob.needs, List.forall_mem_singleton, hpin]
  exact and_iff_right trivial

end Workflow

/-! ## A release that is deployed -/

instance (event : ReleaseEvent) : DecidablePred (ReleaseJob.Enabled event)
  | .preflight => inferInstanceAs (Decidable event.Starts)
  | .buildImage _ => inferInstanceAs (Decidable event.Owned)
  | .pinDeploy => inferInstanceAs (Decidable (event.action = .released))
  | .publishImage | .buildBinary _ | .publishBinaries | .deploy => inferInstanceAs (Decidable True)

instance {Tree : Type} (event : ReleaseEvent) (job : ReleaseJob)
    (outputs : (other : ReleaseJob) → Option (other.Output Tree)) (output : job.Output Tree) :
    Decidable (ReleaseJob.Yields event job outputs output) :=
  match job with
  | .preflight => inferInstanceAs (Decidable (event.preflight = some output))
  | .publishImage => @instDecidableAnd _ _ _ (decidable_of_iff _ publishImage_done_iff.symm)
  | .buildBinary target =>
      inferInstanceAs (Decidable (some output = (outputs .preflight).map (archiveName target)))
  | .publishBinaries => @instDecidableAnd _ _ _ (decidable_of_iff _ publishBinaries_done_iff.symm)
  | .pinDeploy => inferInstanceAs
      (Decidable (output.head?.map Snapshot.image = (outputs .publishImage).map PublishedImage.pin))
  | .buildImage _ | .deploy => inferInstanceAs (Decidable True)

instance {Tree : Type} (event : ReleaseEvent) (job : ReleaseJob) :
    Decidable ((release Tree event).enabled job) :=
  inferInstanceAs (Decidable (ReleaseJob.Enabled event job))

instance {Tree : Type} (event : ReleaseEvent) (job : ReleaseJob)
    (outputs : (other : ReleaseJob) → Option (other.Output Tree)) (output : job.Output Tree) :
    Decidable ((release Tree event).Yields job outputs output) :=
  inferInstanceAs (Decidable (ReleaseJob.Yields event job outputs output))

/-- A full release. -/
def exampleEvent : ReleaseEvent where
  action := .released
  prerelease := false
  tagName := "v1.8.0"
  repositoryOwner := "ZcashFoundation"
  manifest := ["[package]", "name = \"zeeder\"", "version = \"1.8.0\""]

/-- Its image. -/
def exampleImage : PublishedImage :=
  let inputs : PublishInputs := ⟨"1.8.0", [hubImage ++ ":1.8.0", hubMirror ++ ":1.8.0"], ["aa", "bb"]⟩
  let digest : Captured := ⟨(exampleReleases true).digest, by decide +kernel⟩
  ⟨inputs, digest, publishTrace inputs digest⟩

/-- Its binaries. -/
def exampleBinaries : PublishedBinaries :=
  let archives := [archiveName .aarch64 "1.8.0", archiveName .x86_64 "1.8.0"]
  ⟨archives, succeeded (binarySteps "v1.8.0" archives)⟩

/-- The commit that pins it. -/
def exampleSha : Commit String := [{ exampleHead with image := exampleImage.pin }, exampleHead]

/-- A run in which every job succeeds. -/
def exampleEvents : List (JobEvent (ReleaseJob.Output String)) :=
  [.start .preflight, .finish .preflight "1.8.0", .start (.buildImage .arm64),
    .start (.buildImage .amd64), .start (.buildBinary .x86_64), .start (.buildBinary .aarch64),
    .finish (.buildImage .arm64) "aa", .finish (.buildBinary .x86_64) (archiveName .x86_64 "1.8.0"),
    .finish (.buildImage .amd64) "bb", .start .publishImage,
    .finish (.buildBinary .aarch64) (archiveName .aarch64 "1.8.0"), .finish .publishImage exampleImage,
    .start .publishBinaries, .finish .publishBinaries exampleBinaries, .start .pinDeploy,
    .finish .pinDeploy exampleSha, .start .deploy, .finish .deploy ()]

/-- All jobs. -/
def ReleaseJob.all : List ReleaseJob :=
  [preflight, buildImage .amd64, buildImage .arm64, publishImage, buildBinary .x86_64,
    buildBinary .aarch64, publishBinaries, pinDeploy, deploy]

theorem ReleaseJob.mem_all (job : ReleaseJob) : job ∈ all := by
  cases job with
  | buildImage arch => cases arch <;> simp [all]
  | buildBinary target => cases target <;> simp [all]
  | _ => simp [all]

/-- The run ends with every job done, and this image published. -/
theorem exists_reachable_exampleEvents : ∃ s, (release String exampleEvent).system.Reachable s ∧
    (∀ job, ((s job).output?).isSome = true) ∧
    (s .publishImage).output?.map PublishedImage.digest = some exampleImage.digest := by
  have hrun : (exampleEvents.foldlM (release String exampleEvent).next fun _ => .waiting).any
      (fun s => ReleaseJob.all.all (fun job => (s job).output?.isSome) &&
        decide ((s .publishImage).output?.map PublishedImage.digest = some exampleImage.digest))
      = true := by decide +kernel
  obtain ⟨s, hreach, hs⟩ := Workflow.exists_reachable hrun
  obtain ⟨hall, himage⟩ := (Bool.and_eq_true _ _).mp hs
  exact ⟨s, hreach, fun job => List.all_eq_true.mp hall job job.mem_all, of_decide_eq_true himage⟩

/-- The first attestation of the image. -/
theorem publishImage_vouches_exampleImage : ∃ before event after ref,
    exampleImage.trace = before ++ event :: after ∧ event.1.vouched? = some ref ∧
      Mirrored exampleImage.inputs before ref := by
  have hdone : Reaches (publishImage exampleImage.inputs) exampleImage.trace
      (.done exampleImage.digest) := publishImage_done_iff.mpr rfl
  exact ⟨mirrored exampleImage.inputs exampleImage.digest, _, _, _, rfl, rfl,
    publishImage_vouches hdone rfl rfl⟩

/-- All has come to rest, and the fleet is deployed. -/
theorem settled_release_exampleEvent : ∃ s, (release String exampleEvent).system.Reachable s ∧
    (∀ job, (s job).Settled) ∧ (s .deploy).output? ≠ none ∧ exampleEvent.Starts ∧
      exampleEvent.Owned ∧ exampleEvent.action = .released := by
  obtain ⟨s, hreach, hall, -⟩ := exists_reachable_exampleEvents
  have hsettled (job : ReleaseJob) := JobStatus.settled_of_isSome (hall job)
  have hdeploy := Option.isSome_iff_ne_none.mp (hall .deploy)
  obtain ⟨-, -, hdeployed⟩ := settled_release exampleEvent hreach (fun job => (hsettled job).1)
    fun job => (hsettled job).2
  exact ⟨s, hreach, fun job => (hsettled job).1, hdeploy, hdeployed.mp hdeploy⟩

end Zeeder.Deploy
