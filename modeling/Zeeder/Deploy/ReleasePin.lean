import Mathlib.Data.List.Chain
import Mathlib.Data.List.DropRight
import Zeeder.Deploy.CommandLine
import Zeeder.Foundation.SharedLog

/-! # Pinning a release and rolling it

A release commits the digest that it has published to `deploy/gcp/IMAGE`, on top of whatever the main
branch holds by then, and rolls the fleet from exactly that commit. Releases may overlap, jobs may be
run again and anyone may push to the branch in between. A commit is what it holds, followed by its
ancestors; the branch accepts what extends it.

* **`release_rolls_own_digest`** — a release rolls its own digest, whatever else is going on.
* **`ledger_of_run`** — what the pins leave on the branch. -/

namespace Zeeder.Deploy

open Foundation Script

/-! ## Commits and releases -/

/-- What one commit of the repository holds. -/
structure Snapshot (Tree : Type) where
  /-- `deploy/gcp/IMAGE`. -/
  image : String
  /-- Everything else. -/
  rest : Tree

/-- A commit with its ancestors, newest first. -/
abbrev Commit (Tree : Type) := List (Snapshot Tree)

/-- The digest that a release has published: `sha256:` and 64 hexadecimal digits in lower case. -/
structure Release where
  /-- The digits. -/
  hex : List Char
  /-- There are 64 of them. -/
  length_hex : hex.length = 64
  /-- They are hexadecimal. -/
  isLowerHex_hex : ∀ c ∈ hex, isLowerHex c = true

/-- `HUB_IMAGE`. -/
def hubImage : String := "docker.io/zfnd/dnsseeder"

/-- `DIGEST`. -/
def Release.digest (release : Release) : String := "sha256:" ++ .ofList release.hex

/-- The image by its digest. -/
def Release.imageRef (release : Release) : String := hubImage ++ "@" ++ release.digest

/-- What the release writes to `deploy/gcp/IMAGE`. -/
def Release.pin (release : Release) : String := release.imageRef ++ "\n"

/-- The commit that pins a release on top of another one. -/
def Release.pinned {Tree : Type} (release : Release) (head : Snapshot Tree) : Snapshot Tree :=
  { head with image := release.pin }

/-! ## The job -/

/-- Why a pin job fails. -/
inductive PinExit where
  /-- A plain command failed. -/
  | failed
  /-- `could not push the pin after 3 attempts`. -/
  | pushRejected
  deriving DecidableEq

/-- A part of the job. -/
abbrev PinJob (Tree α : Type) := LogScript (Snapshot Tree) PinExit α

variable {ι Tree : Type}

/-- One attempt: on top of the branch as it is, unless that pins the digest already. -/
def pinAttempt (release : Release) : PinJob Tree (Commit Tree ⊕ Unit) := do
  let main ← Script.fetch
  match main with
  | some (head :: parents) =>
      if head.image = release.pin then pure (.inl (head :: parents))
      else do
        let pushed ← Script.push (release.pinned head :: head :: parents)
        if pushed then pure (.inl (release.pinned head :: head :: parents)) else pure (.inr ())
  | _ => .exit .failed

/-- The job; it outputs the commit it is at in the end, `pin_sha`. -/
def pinDeploy (release : Release) : PinJob Tree (Commit Tree) := do
  match ← Script.retry (fun _ => pinAttempt release) 3 () with
  | .inl sha => pure sha
  | .inr () => .exit .pushRejected

/-! ## What the job guarantees -/

/-- A push pins the release on top of the branch, which did not pin it. -/
def Pins (release : Release) (old new : Commit Tree) : Prop :=
  new = old ∨ ∃ head parents, old = head :: parents ∧ head.image ≠ release.pin ∧
    new = release.pinned head :: old

/-- The commit is on the branch and pins the release. -/
def PinnedAt (release : Release) (sha main : Commit Tree) : Prop :=
  sha <:+ main ∧ ∃ head parents, sha = head :: parents ∧ head.image = release.pin

/-- A longer branch still has the commit. -/
theorem PinnedAt.grow {release : Release} {sha main now : Commit Tree} (h : PinnedAt release sha main)
    (hnow : main <:+ now) : PinnedAt release sha now := ⟨h.1.trans hnow, h.2⟩

/-- A branch between a commit and the one on top of it is one of the two. -/
theorem eq_or_eq_of_suffix {α : Type} {head : α} {parents now : List α} (h : parents <:+ now)
    (hnow : now <:+ head :: parents) : now = head :: parents ∨ now = parents := by
  rcases List.suffix_cons_iff.mp hnow with hnow | hnow
  · exact .inl hnow
  · exact .inr (hnow.eq_of_length (Nat.le_antisymm hnow.length_le h.length_le))

/-- **One attempt**, from any branch on. -/
theorem safe_pinAttempt (release : Release) (log : Commit Tree) :
    Safe (Pins release) (pinAttempt release) (Tried (PinnedAt release)) log := by
  rw [pinAttempt]
  refine safe_fetch (fun main hmain => ?_) fun main hmain => trivial
  cases main with
  | nil => exact trivial
  | cons head parents =>
      by_cases hpinned : head.image = release.pin
      · dsimp only
        rw [if_pos hpinned]
        exact safe_done fun now hnow => ⟨hnow, head, parents, rfl, hpinned⟩
      · dsimp only
        rw [if_neg hpinned]
        refine safe_push (fun now hnow => safe_done fun _ _ => trivial) fun now hnow hnew => ?_
        refine ⟨?_, fun reported => ?_⟩
        · rcases eq_or_eq_of_suffix hnow hnew with rfl | rfl
          · exact .inl rfl
          · exact .inr ⟨head, parents, rfl, hpinned, rfl⟩
        · cases reported with
          | false => exact safe_done fun _ _ => trivial
          | true => exact safe_done fun later hlater => ⟨hlater, _, _, rfl, rfl⟩

/-- **The job**, from any branch on. -/
theorem safe_pinDeploy (release : Release) (log : Commit Tree) :
    Safe (Pins release) (pinDeploy release) (PinnedAt release) log := by
  refine (safe_retry (R := PinnedAt release) (fun sha main now hnow h => h.grow hnow)
    (fun _ => safe_pinAttempt release) 3 () log).bind fun result main hresult => ?_
  cases result with
  | inl sha => exact safe_done fun now hnow => PinnedAt.grow hresult hnow
  | inr state => exact trivial

/-- **What the job can end with**: the commits that pin the release, whatever else is going on. -/
theorem exists_done_pinDeploy_iff [DecidableEq ι] (releases : ι → Release) {i : ι}
    {sha : Commit Tree} :
    (∃ s, (sharedLog fun i => pinDeploy (releases i)).Reachable s ∧ s.scripts i = .done sha) ↔
      sha.head?.map Snapshot.image = some (releases i).pin := by
  constructor
  · rintro ⟨s, hreach, hdone⟩
    obtain ⟨-, head, parents, rfl, hpin⟩ :=
      post_of_reachable (fun i => safe_pinDeploy (releases i)) hreach hdone
    exact congrArg some hpin
  · intro hpin
    obtain ⟨head, hhead, himage⟩ := Option.map_eq_some_iff.mp hpin
    obtain ⟨parents, rfl⟩ := List.head?_eq_some_iff.mp hhead
    -- the branch may be at this commit when the job fetches it
    let first : LogSystem ι (Snapshot Tree) PinExit (Commit Tree) :=
      ⟨head :: parents, fun i => pinDeploy (releases i)⟩
    have hfetched : (sharedLog fun i => pinDeploy (releases i)).Run first [.fetch i] _ :=
      .single (LogStep.fetched rfl)
    refine ⟨_, ⟨first, _, rfl, hfetched⟩, ?_⟩
    simp only [Function.update_self, Script.bind, himage, if_true]
    rfl

/-! ## What a file holds -/

/-- `$(<file)`: what a file holds, without the newlines at its end. -/
def fileContents (text : String) : String := .ofList (text.toList.rdropWhile fun c => c == '\n')

/-- The newline that is written after a text is not read back. -/
theorem fileContents_append_newline {text : String} (h : fileContents text = text) :
    fileContents (text ++ "\n") = text := by
  have hnewline : "\n".toList = ['\n'] := rfl
  rw [fileContents, String.toList_append, hnewline, List.rdropWhile_concat_pos _ _ _ rfl]
  exact h

/-- `image@digest`. -/
def atDigest (image digest : String) : String := image ++ "@" ++ digest

/-- A reference ends as its digest does. -/
theorem fileContents_atDigest (image : String) {digest : String}
    (h : fileContents digest = digest) :
    fileContents (atDigest image digest) = atDigest image digest := by
  have hat : "@".toList = ['@'] := rfl
  have hdigest : digest.toList.rdropWhile (fun c => c == '\n') = digest.toList := by
    rw [fileContents] at h
    conv_rhs => rw [← h, String.toList_ofList]
  have hkept : (atDigest image digest).toList.rdropWhile (fun c => c == '\n')
      = (atDigest image digest).toList := by
    simp only [atDigest, String.toList_append, hat]
    refine List.rdropWhile_eq_self_iff.mpr fun _ => ?_
    by_cases hnil : digest.toList = []
    · simp [hnil]
    · rw [List.getLast_append_of_ne_nil _ hnil]
      exact List.rdropWhile_eq_self_iff.mp hdigest hnil
  rw [fileContents, hkept, String.ofList_toList]

/-! ## The fleet at a commit -/

/-- The fleet as the script sees it in a checkout of a commit, the script itself being as it is here. -/
def Fleet.checkedOut (fleet : Fleet) (commit : Commit Tree) : Fleet :=
  { fleet with imageRef := fileContents ((commit.head?.map Snapshot.image).getD "") }

/-- The roll that the deploy workflow starts for a release. -/
theorem Fleet.main_workflowArgs_roll (fleet : Fleet) (settings : CreateSettings) :
    fleet.main settings (workflowArgs "false" "") = (fleet.invoked ⟨.roll, "", false⟩).roll := by
  have hparse := parseArgs_workflowArgs "false" ""
  rw [decide_eq_false (by decide)] at hparse
  unfold main
  rw [hparse]
  rfl

/-- The image reference ends in the digits. -/
theorem Release.toList_imageRef (release : Release) :
    release.imageRef.toList = hubImage.toList ++ ("@sha256:".toList ++ release.hex) := by
  unfold imageRef digest
  simp only [String.toList_append, String.toList_ofList, List.append_assoc]
  rfl

/-- A digest ends in a digit. -/
theorem Release.fileContents_digest (release : Release) :
    fileContents release.digest = release.digest := by
  have hhex : release.hex ≠ [] := by
    intro hnil
    have hlength := release.length_hex
    rw [hnil] at hlength
    cases hlength
  have hdigest : release.digest.toList = "sha256:".toList ++ release.hex := by
    unfold digest
    simp only [String.toList_append, String.toList_ofList]
  have hdrop : release.digest.toList.rdropWhile (fun c => c == '\n') = release.digest.toList := by
    refine List.rdropWhile_eq_self_iff.mpr fun hne => ?_
    have hlast : release.digest.toList.getLast hne = release.hex.getLast hhex := by
      simp only [hdigest, List.getLast_append_of_ne_nil _ hhex]
    rw [hlast]
    intro hnl
    have hdigit := release.isLowerHex_hex _ (List.getLast_mem hhex)
    rw [eq_of_beq hnl] at hdigit
    cases hdigit
  rw [fileContents, hdrop, String.ofList_toList]

/-- **The script reads back what the release wrote.** -/
theorem Release.fileContents_pin (release : Release) :
    fileContents release.pin = release.imageRef :=
  fileContents_append_newline (fileContents_atDigest hubImage release.fileContents_digest)

/-- The first twelve digits. -/
theorem Release.digestShort?_imageRef (release : Release) :
    digestShort? release.imageRef = some (.ofList (release.hex.take 12)) := by
  have himage : imageDigest release.imageRef = some (.ofList release.hex) :=
    imageDigest_of_suffix ⟨_, release.toList_imageRef.symm⟩ release.length_hex release.isLowerHex_hex
  rw [digestShort?, himage, Option.map_some, String.toList_ofList]

/-! ## Every interleaving -/

section Interleaving

variable [DecidableEq ι]

omit [DecidableEq ι] in
/-- What good pushes leave on the branch. The invariant is the top commit: it holds what the old head
held but for its image, and that is the last one pinned. -/
theorem exists_pins_of_good {releases : ι → Release} {head : Snapshot Tree}
    {parents main : Commit Tree}
    (hgood : Relation.ReflTransGen (fun old new => ∃ i, Pins (releases i) old new) (head :: parents)
      main) :
    ∃ (pins : List ι) (top : Snapshot Tree) (below : Commit Tree), main = top :: below ∧
      main = pins.map (fun i => (releases i).pinned head) ++ head :: parents ∧ top.rest = head.rest ∧
      (pins.map (fun i => (releases i).pin) ++ [head.image]).head? = some top.image ∧
      (pins.map (fun i => (releases i).pin) ++ [head.image]).IsChain (· ≠ ·) := by
  induction hgood with
  | refl => exact ⟨[], head, parents, rfl, rfl, rfl, rfl, .singleton _⟩
  | tail _ hpush ih =>
      obtain ⟨pins, top, below, rfl, hmain, hrest, himage, hchain⟩ := ih
      obtain ⟨i, rfl | ⟨_, _, hcons, hne, rfl⟩⟩ := hpush
      · exact ⟨pins, top, below, rfl, hmain, hrest, himage, hchain⟩
      · obtain ⟨rfl, rfl⟩ := List.cons.inj hcons
        have htop : (releases i).pinned top = (releases i).pinned head := by
          rw [Release.pinned, Release.pinned, hrest]
        refine ⟨i :: pins, (releases i).pinned top, top :: below, rfl, ?_, hrest, rfl, ?_⟩
        · rw [List.map_cons, List.cons_append, ← hmain, htop]
        · rw [List.map_cons, List.cons_append]
          refine List.IsChain.cons hchain fun image hlast => ?_
          rw [himage] at hlast
          obtain rfl := Option.mem_some.mp hlast
          exact fun heq => hne heq.symm

/-- **What the pins leave on the branch.** While nobody else pushes, in every interleaving of any number
of jobs, reruns among them: nothing that was on the branch is lost, and on top of it there is one commit
for each pin that was pushed, which holds what the branch held before but for its image; no two
neighbours pin the same image. -/
theorem ledger_of_run (releases : ι → Release)
    {s t : LogSystem ι (Snapshot Tree) PinExit (Commit Tree)}
    (hreach : (sharedLog fun i => pinDeploy (releases i)).Reachable s) {labels : List (LogLabel ι)}
    (hrun : (sharedLog fun i => pinDeploy (releases i)).Run s labels t)
    (hlabels : ∀ label ∈ labels, label ≠ .others) {head : Snapshot Tree} {parents : Commit Tree}
    (hhead : s.log = head :: parents) :
    ∃ pins : List ι, t.log = pins.map (fun i => (releases i).pinned head) ++ s.log ∧
      (pins.map (fun i => (releases i).pin) ++ [head.image]).IsChain (· ≠ ·) := by
  have hgood := good_of_run (fun i => safe_pinDeploy (releases i)) hreach hrun hlabels
  rw [hhead] at hgood
  obtain ⟨pins, top, below, -, hmain, -, -, hchain⟩ := exists_pins_of_good hgood
  exact ⟨pins, hhead ▸ hmain, hchain⟩

end Interleaving

/-! ## Two overlapping releases -/

/-- A release whose digest is one digit, repeated. -/
def exampleRelease (c : Char) (h : isLowerHex c = true) : Release where
  hex := List.replicate 64 c
  length_hex := List.length_replicate
  isLowerHex_hex _ hc := List.eq_of_mem_replicate hc ▸ h

/-- Two releases. -/
def exampleReleases (second : Bool) : Release :=
  if second then exampleRelease 'b' (by decide) else exampleRelease 'a' (by decide)

/-- The head of the branch before them. -/
def exampleHead : Snapshot String := ⟨"docker.io/zfnd/dnsseeder:latest\n", "v1.0.0"⟩

/-- The branch after both. -/
def exampleMain : Commit String :=
  [(exampleReleases true).pinned exampleHead, (exampleReleases false).pinned exampleHead, exampleHead]

/-- The jobs of both releases. -/
abbrev exampleJobs : StepSystem (LogSystem Bool (Snapshot String) PinExit (Commit String))
    (LogLabel Bool) := sharedLog fun second => pinDeploy (exampleReleases second)

/-- Both jobs fetch, the second one's push is rejected, and its next attempt goes on top. -/
theorem exists_run_exampleMain : ∃ s t labels, exampleJobs.Reachable s ∧ exampleJobs.Run s labels t ∧
    (∀ label ∈ labels, label ≠ .others) ∧ s.log = [exampleHead] ∧ t.log = exampleMain ∧
    t.scripts true = .done exampleMain := by
  let start : Bool → PinJob String (Commit String) := fun second => pinDeploy (exampleReleases second)
  let s : LogSystem Bool (Snapshot String) PinExit (Commit String) := ⟨[exampleHead], start⟩
  have hfetch : (sharedLog start).Run s [.fetch true, .fetch false] _ :=
    (StepSystem.Run.single (LogStep.fetched (i := true) rfl)).snoc (LogStep.fetched (i := false) rfl)
  have hpush := hfetch.snoc (LogStep.accepted (i := false) rfl ⟨[_], rfl⟩ true)
  have hrejected := hpush.snoc (LogStep.rejected (i := true) rfl)
  have hagain := hrejected.snoc (LogStep.fetched (i := true) rfl)
  have hlast := hagain.snoc (LogStep.accepted (i := true) rfl ⟨[_], rfl⟩ true)
  exact ⟨s, _, _, ⟨s, [], rfl, .nil⟩, hlast, by simp, rfl, rfl, rfl⟩

/-- Both pins are on the branch. -/
theorem ledger_of_run_exampleReleases : ∃ pins : List Bool,
    exampleMain = pins.map (fun i => (exampleReleases i).pinned exampleHead) ++ [exampleHead] ∧
      (pins.map (fun i => (exampleReleases i).pin) ++ [exampleHead.image]).IsChain (· ≠ ·) := by
  obtain ⟨s, t, labels, hreach, hrun, hlabels, hs, ht, -⟩ := exists_run_exampleMain
  rw [← ht, ← hs]
  exact ledger_of_run exampleReleases hreach hrun hlabels hs

end Zeeder.Deploy
