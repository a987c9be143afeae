import Zeeder.Crawl.AddressCache
import Zeeder.Crawl.ChainTip
import Zeeder.Foundation.StepSystem

/-! # The cache refresh loop of one network

The refresh loop reads the tip and derives the version floor, then locks the book and classifies it,
then sends the snapshot to the watch channel; the crawler changes the book and the observer raises
the tip between any two of these steps. The check and the replacement in `confirm_activation` are one
step here: whoever makes the replacement writes the same height.

* **`published_eq_getLast?`, `published_versions_prefix`** — the channel holds the last snapshot
  sent, and the `k`-th snapshot sent uses the `k`-th version floor read.
* **`versionsRead_pairwise`** — the floors read along a run never decrease.
* **`booksSatisfy_of_run`** — what holds of every book holds of the book behind the snapshot sent.
* **`servesAbove_of_run`** — once a refresh that read the tip after a confirmation has published,
  every later snapshot has a floor at or above the required version. -/

namespace Zeeder.Crawl

open Foundation Foundation.StepSystem

/-- Where the refresh loop is. -/
inductive RefreshPhase where
  /-- Sleeping until the next refresh. -/
  | idle
  /-- The version floor is read; the book is not yet locked. -/
  | versionRead (minimumVersion : Version)
  /-- The snapshot is computed and not yet sent. -/
  | classified (refresh : Refresh)

/-- One network's book, tip, refresh loop and channel. -/
structure CacheState where
  /-- The address book. -/
  book : AddressBook
  /-- The shared chain tip. -/
  tip : SeederChainTip
  /-- The refresh loop's control point. -/
  phase : RefreshPhase
  /-- What the channel holds: the snapshot of this refresh, or the initial empty one. -/
  published : Option Refresh

/-- The steps of one network. -/
inductive CacheLabel where
  /-- The crawler changes the address book. -/
  | updateBook (book : AddressBook)
  /-- Some clone of the tip runs `confirm_activation`. -/
  | confirmActivation
  /-- The refresh loop reads the tip and derives the version floor. -/
  | readTip (minimumVersion : Version)
  /-- The refresh loop locks the book and classifies it. -/
  | classify (now : DateTime) (order : RefreshOrder)
  /-- The refresh loop sends the snapshot. -/
  | publish (refresh : Refresh)

section Loop

variable (network : Network)

/-- The version floor that the current tip implies. -/
def floorOf (tip : SeederChainTip) : Version := network.minRemoteForHeight tip.bestTipHeight

/-- One step of one network. -/
inductive CacheStep : CacheState → CacheLabel → CacheState → Prop
  /-- The book changes in any way. -/
  | updateBook (s : CacheState) (book : AddressBook) :
      CacheStep s (.updateBook book) { s with book := book }
  /-- The tip is raised, unless it is already. -/
  | confirmActivation (s : CacheState) :
      CacheStep s .confirmActivation { s with tip := s.tip.confirmActivation }
  /-- A refresh starts by deriving the floor from the tip. -/
  | readTip (s : CacheState) (hphase : s.phase = .idle) :
      CacheStep s (.readTip (floorOf network s.tip))
        { s with phase := .versionRead (floorOf network s.tip) }
  /-- It goes on with the book under the lock. -/
  | classify (s : CacheState) (minimumVersion : Version) (now : DateTime) (order : RefreshOrder)
      (hphase : s.phase = .versionRead minimumVersion) :
      CacheStep s (.classify now order)
        { s with phase := .classified ⟨minimumVersion, s.book, now, order⟩ }
  /-- It ends by replacing what the channel holds. -/
  | publish (s : CacheState) (refresh : Refresh) (hphase : s.phase = .classified refresh) :
      CacheStep s (.publish refresh) { s with phase := .idle, published := some refresh }

/-- One network starts with any book, a tip from its compiled target, and an empty channel. -/
def cacheSystem : StepSystem CacheState CacheLabel where
  Init s := (∃ confirmed, s.tip = .new (.latest network) confirmed) ∧ s.phase = .idle ∧
    s.published = none
  Step := CacheStep network

end Loop

/-- The version floor that a step reads. -/
def CacheLabel.version? : CacheLabel → Option Version
  | .readTip minimumVersion => some minimumVersion
  | _ => none

/-- The refresh that a step publishes. -/
def CacheLabel.refresh? : CacheLabel → Option Refresh
  | .publish refresh => some refresh
  | _ => none

/-- The version floors read in a run, in order. -/
def versionsRead (ls : List CacheLabel) : List Version := ls.filterMap CacheLabel.version?

/-- The refreshes published in a run, in order. -/
def refreshesPublished (ls : List CacheLabel) : List Refresh := ls.filterMap CacheLabel.refresh?

/-- One more step adds the floor that it reads. -/
theorem versionsRead_concat (ls : List CacheLabel) (l : CacheLabel) :
    versionsRead (ls ++ [l]) = versionsRead ls ++ l.version?.toList := by
  unfold versionsRead
  rw [List.filterMap_append]
  cases h : l.version? <;> simp [h]

/-- One more step adds the refresh that it publishes. -/
theorem refreshesPublished_concat (ls : List CacheLabel) (l : CacheLabel) :
    refreshesPublished (ls ++ [l]) = refreshesPublished ls ++ l.refresh?.toList := by
  unfold refreshesPublished
  rw [List.filterMap_append]
  cases h : l.refresh? <;> simp [h]

/-- The floor that an unfinished refresh holds. -/
def RefreshPhase.versions : RefreshPhase → List Version
  | idle => []
  | versionRead minimumVersion => [minimumVersion]
  | classified refresh => [refresh.minimumVersion]

section Runs

variable {network : Network} {s₀ s t : CacheState} {ls : List CacheLabel} {l : CacheLabel}

/-! ## What the channel holds -/

/-- **The channel holds the last refresh published.** -/
theorem published_eq_getLast? (hinit : (cacheSystem network).Init s₀)
    (hrun : (cacheSystem network).Run s₀ ls s) :
    s.published = (refreshesPublished ls).getLast? := by
  induction hrun with
  | nil => exact hinit.2.2
  | snoc _ hstep ih =>
      rw [refreshesPublished_concat]
      cases hstep with
      | publish refresh hphase => simp [CacheLabel.refresh?]
      | _ => simpa [CacheLabel.refresh?] using ih

/-- Floors are read and published in step: all that was read is published, but for the floor of an
unfinished refresh. -/
theorem versionsRead_eq (hinit : (cacheSystem network).Init s₀)
    (hrun : (cacheSystem network).Run s₀ ls s) :
    versionsRead ls = (refreshesPublished ls).map (·.minimumVersion) ++ s.phase.versions := by
  induction hrun with
  | nil => rw [hinit.2.1]; rfl
  | snoc _ hstep ih =>
      rw [versionsRead_concat, refreshesPublished_concat, ih]
      cases hstep with
      | updateBook book => simp [CacheLabel.version?, CacheLabel.refresh?]
      | confirmActivation => simp [CacheLabel.version?, CacheLabel.refresh?]
      | readTip hphase =>
          simp [hphase, RefreshPhase.versions, CacheLabel.version?, CacheLabel.refresh?]
      | classify minimumVersion now order hphase =>
          simp [hphase, RefreshPhase.versions, CacheLabel.version?, CacheLabel.refresh?]
      | publish refresh hphase =>
          simp [hphase, RefreshPhase.versions, CacheLabel.version?, CacheLabel.refresh?]

/-- **The `k`-th snapshot published uses the `k`-th version floor read.** -/
theorem published_versions_prefix (hinit : (cacheSystem network).Init s₀)
    (hrun : (cacheSystem network).Run s₀ ls s) :
    (refreshesPublished ls).map (·.minimumVersion) <+: versionsRead ls := by
  rw [versionsRead_eq hinit hrun]
  exact List.prefix_append _ _

/-! ## The books that snapshots are made from -/

/-- Every book in sight satisfies `P`: the live one, that of the refresh under way and that of the
refresh published. -/
structure BooksSatisfy (P : AddressBook → Prop) (s : CacheState) : Prop where
  /-- The live book. -/
  live : P s.book
  /-- The book of a refresh that is classified and not yet sent. -/
  classified : ∀ refresh, s.phase = .classified refresh → P refresh.book
  /-- The book of the refresh in the channel. -/
  published : ∀ refresh, s.published = some refresh → P refresh.book

/-- One step keeps the books' property if the book that it brings has it. -/
theorem booksSatisfy_step {P : AddressBook → Prop} (h : BooksSatisfy P s)
    (hl : ∀ book, l = .updateBook book → P book) (hstep : CacheStep network s l t) :
    BooksSatisfy P t := by
  cases hstep with
  | updateBook book => exact ⟨hl book rfl, h.classified, h.published⟩
  | confirmActivation => exact ⟨h.live, h.classified, h.published⟩
  | readTip hphase =>
      refine ⟨h.live, ?_, h.published⟩
      intro refresh hrefresh
      cases hrefresh
  | classify minimumVersion now order hphase =>
      refine ⟨h.live, ?_, h.published⟩
      -- the refresh classifies the live book
      intro refresh hrefresh
      cases hrefresh
      exact h.live
  | publish refresh hphase =>
      refine ⟨h.live, ?_, ?_⟩
      · intro other hother
        cases hother
      · intro other hother
        cases hother
        exact h.classified refresh hphase

/-- What holds of the first book and of every book it changes into holds of the book behind the
published snapshot. -/
theorem booksSatisfy_of_run {P : AddressBook → Prop} (hinit : (cacheSystem network).Init s₀)
    (hbook : P s₀.book) (hbooks : ∀ book, .updateBook book ∈ ls → P book)
    (hrun : (cacheSystem network).Run s₀ ls s) : BooksSatisfy P s := by
  have hfirst : BooksSatisfy P s₀ := by
    refine ⟨hbook, ?_, ?_⟩
    · intro refresh hrefresh
      rw [hinit.2.1] at hrefresh
      cases hrefresh
    · intro refresh hrefresh
      rw [hinit.2.2] at hrefresh
      cases hrefresh
  refine hrun.preserves (P := BooksSatisfy P) (A := fun l => ∀ book, l = .updateBook book → P book)
    (fun _ _ _ hl h hstep => booksSatisfy_step h hl hstep) ?_ hfirst
  rintro l hl book rfl
  exact hbooks book hl

/-! ## Floors never decrease -/

/-- No step lowers the tip. -/
theorem height_le_of_cacheStep (hstep : CacheStep network s l t) : s.tip.height ≤ t.tip.height := by
  cases hstep with
  | confirmActivation => exact SeederChainTip.height_le_confirmActivation _
  | _ => exact le_refl _

/-- A higher tip does not imply a lower floor. -/
theorem floorOf_mono (hmono : Monotone fun height => network.minRemoteForHeight (some height))
    {a b : SeederChainTip} (h : a.height ≤ b.height) : floorOf network a ≤ floorOf network b :=
  hmono h

/-- **The version floors read along a run never decrease**, and stay at or below what the tip
implies at its end. -/
theorem versionsRead_pairwise
    (hmono : Monotone fun height => network.minRemoteForHeight (some height))
    (hrun : (cacheSystem network).Run s₀ ls s) :
    (versionsRead ls).Pairwise (· ≤ ·) ∧ ∀ version ∈ versionsRead ls,
      version ≤ floorOf network s.tip := by
  induction hrun with
  | nil => exact ⟨.nil, by simp [versionsRead]⟩
  | @snoc t u ls l _ hstep ih =>
      obtain ⟨hpairwise, hbelow⟩ := ih
      have hfloor := floorOf_mono hmono (height_le_of_cacheStep hstep)
      have hbelow' : ∀ version ∈ versionsRead ls, version ≤ floorOf network u.tip :=
        fun version hversion => (hbelow version hversion).trans hfloor
      rw [versionsRead_concat]
      cases hstep with
      | readTip hphase =>
          -- the floor just read is what the tip implies, above all floors read before
          refine ⟨List.pairwise_append.mpr ⟨hpairwise, List.pairwise_singleton _ _, ?_⟩, ?_⟩
          · intro version hversion floor hmem
            rw [List.mem_singleton.mp hmem]
            exact hbelow version hversion
          · intro version hversion
            rcases List.mem_append.mp hversion with hversion | hversion
            · exact hbelow' version hversion
            · exact (List.mem_singleton.mp hversion).le
      | _ => exact ⟨by simpa [CacheLabel.version?] using hpairwise,
          by simpa [CacheLabel.version?] using hbelow'⟩

/-! ## Once the floor has risen -/

/-- The tip is at or above the activation height, and belongs to the compiled target. -/
def FloorRaised (network : Network) (s : CacheState) : Prop :=
  (ActivationTarget.latest network).activationHeight ≤ s.tip.height

/-- Moreover an unfinished refresh holds a floor at or above the required version. -/
def RefreshAbove (network : Network) (s : CacheState) : Prop :=
  FloorRaised network s ∧
    ∀ version ∈ s.phase.versions, (ActivationTarget.latest network).requiredVersion ≤ version

/-- Moreover the channel holds a snapshot with such a floor. -/
def ServesAbove (network : Network) (s : CacheState) : Prop :=
  RefreshAbove network s ∧ ∃ refresh, s.published = some refresh ∧
    (ActivationTarget.latest network).requiredVersion ≤ refresh.minimumVersion

/-- A raised tip stays raised. -/
theorem floorRaised_step (h : FloorRaised network s) (hstep : CacheStep network s l t) :
    FloorRaised network t :=
  le_trans h (height_le_of_cacheStep hstep)

/-- The tip keeps the activation height of the compiled target. -/
theorem activationHeight_of_run (hinit : (cacheSystem network).Init s₀)
    (hrun : (cacheSystem network).Run s₀ ls s) :
    s.tip.activationHeight = (ActivationTarget.latest network).activationHeight := by
  induction hrun with
  | nil =>
      obtain ⟨confirmed, htip⟩ := hinit.1
      rw [htip, SeederChainTip.new_activationHeight]
  | snoc _ hstep ih =>
      cases hstep with
      | confirmActivation => exact (SeederChainTip.confirmActivation_activationHeight _).trans ih
      | _ => exact ih

/-- A raised tip implies at least the required version. -/
theorem requiredVersion_le_floorOf
    (hmono : Monotone fun height => network.minRemoteForHeight (some height))
    (h : FloorRaised network s) :
    (ActivationTarget.latest network).requiredVersion ≤ floorOf network s.tip :=
  hmono h

/-- A floor read from a raised tip stays above. -/
theorem refreshAbove_step
    (hmono : Monotone fun height => network.minRemoteForHeight (some height))
    (h : RefreshAbove network s) (hstep : CacheStep network s l t) : RefreshAbove network t := by
  obtain ⟨hraised, hversions⟩ := h
  refine ⟨floorRaised_step hraised hstep, ?_⟩
  cases hstep with
  | updateBook book => exact hversions
  | confirmActivation => exact hversions
  | readTip hphase =>
      intro version hversion
      rw [List.mem_singleton.mp hversion]
      exact requiredVersion_le_floorOf hmono hraised
  | classify minimumVersion now order hphase =>
      rw [hphase] at hversions
      exact hversions
  | publish refresh hphase => exact fun _ hversion => absurd hversion List.not_mem_nil

/-- And so does the floor of what the channel holds. -/
theorem servesAbove_step
    (hmono : Monotone fun height => network.minRemoteForHeight (some height))
    (h : ServesAbove network s) (hstep : CacheStep network s l t) : ServesAbove network t := by
  obtain ⟨habove, refresh, hpublished, hrefresh⟩ := h
  refine ⟨refreshAbove_step hmono habove hstep, ?_⟩
  cases hstep with
  | publish refresh hphase =>
      refine ⟨refresh, rfl, habove.2 _ ?_⟩
      rw [hphase]
      exact List.mem_singleton_self _
  | _ => exact ⟨refresh, hpublished, hrefresh⟩

/-- A refresh that reads a raised tip holds a floor at or above the required version. -/
theorem refreshAbove_of_readTip
    (hmono : Monotone fun height => network.minRemoteForHeight (some height))
    (h : FloorRaised network s) {minimumVersion : Version}
    (hstep : CacheStep network s (.readTip minimumVersion) t) : RefreshAbove network t := by
  refine ⟨floorRaised_step h hstep, ?_⟩
  cases hstep with
  | readTip hphase =>
      intro version hversion
      rw [List.mem_singleton.mp hversion]
      exact requiredVersion_le_floorOf hmono h

/-- Publishing such a refresh puts its floor into the channel. -/
theorem servesAbove_of_publish
    (hmono : Monotone fun height => network.minRemoteForHeight (some height))
    (h : RefreshAbove network s) {refresh : Refresh}
    (hstep : CacheStep network s (.publish refresh) t) : ServesAbove network t := by
  refine ⟨refreshAbove_step hmono h hstep, ?_⟩
  cases hstep with
  | publish refresh hphase =>
      refine ⟨refresh, rfl, h.2 _ ?_⟩
      rw [hphase]
      exact List.mem_singleton_self _

/-- **Once a refresh that read the tip after a confirmation has published**, every later snapshot
has a floor at or above the required version. -/
theorem servesAbove_of_run
    (hmono : Monotone fun height => network.minRemoteForHeight (some height))
    (hinit : (cacheSystem network).Init s₀) {ls₁ ls₂ ls₃ ls₄ : List CacheLabel}
    {minimumVersion : Version} {refresh : Refresh}
    (hrun : (cacheSystem network).Run s₀
      (ls₁ ++ .confirmActivation :: (ls₂ ++ .readTip minimumVersion :: (ls₃ ++ .publish refresh ::
        ls₄))) s) : ServesAbove network s := by
  obtain ⟨a, hbefore, hrest⟩ := hrun.split
  obtain ⟨b, hconfirm, hrest⟩ := hrest.uncons
  obtain ⟨c, hbetween, hrest⟩ := hrest.split
  obtain ⟨d, hread, hrest⟩ := hrest.uncons
  obtain ⟨e, hmiddle, hrest⟩ := hrest.split
  obtain ⟨f, hpublish, hafter⟩ := hrest.uncons
  -- the confirmation raises the tip, and it stays raised
  have hraised : FloorRaised network b := by
    have hactivation := activationHeight_of_run hinit hbefore
    cases hconfirm with
    | confirmActivation =>
        have hle := SeederChainTip.activationHeight_le_confirmActivation a.tip
        rwa [hactivation] at hle
  have hraised' : FloorRaised network c :=
    hbetween.preserves (P := FloorRaised network) (A := fun _ => True)
      (fun _ _ _ _ h hstep => floorRaised_step h hstep) (fun _ _ => trivial) hraised
  -- from the read on, an unfinished refresh is above; from the publication on, so is the channel
  have habove : RefreshAbove network e :=
    hmiddle.preserves (P := RefreshAbove network) (A := fun _ => True)
      (fun _ _ _ _ h hstep => refreshAbove_step hmono h hstep) (fun _ _ => trivial)
      (refreshAbove_of_readTip hmono hraised' hread)
  exact hafter.preserves (P := ServesAbove network) (A := fun _ => True)
    (fun _ _ _ _ h hstep => servesAbove_step hmono h hstep) (fun _ _ => trivial)
    (servesAbove_of_publish hmono habove hpublish)

end Runs

end Zeeder.Crawl
