import Zeeder.Network.Types
import Mathlib.Algebra.Group.Nat.Defs

/-! # The activation target and the watch-backed chain tip

`ActivationTarget.latest` reads the newest compiled activation of a network. `SeederChainTip` is
the height zebra-network trusts: it starts immediately below that activation (or at it, when the
activation was already persisted) and moves only by `confirmActivation`.

* **`confirmActivation_height`** — confirming raises the tip to the activation height and never
  lowers it.
* **`latest_preActivation_lt`** — from activation height `1` on, the start is strictly below. -/

namespace Zeeder.Crawl

/-- Zebra's local bound on the depth of a chain reorganisation. -/
def maxBlockReorgHeight : UInt32 := 1000

/-- `u32::saturating_add`. -/
def saturatingAddU32 (a b : UInt32) : UInt32 :=
  UInt32.ofNat (min (2 ^ 32 - 1) (a.toNat + b.toNat))

/-- The newest compiled activation and the evidence required to confirm it. -/
structure ActivationTarget where
  /-- The compiled activation height. -/
  activationHeight : Height
  /-- The height at which the activation counts as buried. -/
  confirmationHeight : Height
  /-- The height immediately below the activation. -/
  preActivationHeight : Height
  /-- The protocol version required from the activation on. -/
  requiredVersion : Version
  deriving DecidableEq

/-- Build the observation target from the compiled activation table. -/
def ActivationTarget.latest (network : Network) : ActivationTarget where
  activationHeight := network.latestActivationHeight
  confirmationHeight :=
    ⟨saturatingAddU32 network.latestActivationHeight.val maxBlockReorgHeight⟩
  preActivationHeight := network.latestActivationHeight.previous.getD ⟨0⟩
  requiredVersion := network.minRemoteForHeight (some network.latestActivationHeight)

/-- From activation height `1` on, the pre-activation height is strictly below it. -/
theorem latest_preActivation_lt (network : Network)
    (h : 0 < network.latestActivationHeight.val.toNat) :
    (ActivationTarget.latest network).preActivationHeight
      < (ActivationTarget.latest network).activationHeight := by
  obtain ⟨p, hp, hlt⟩ := Height.previous_lt h
  simpa [ActivationTarget.latest, hp] using hlt

/-- The activation height currently trusted by zebra-network: every clone shares the watch value
`height`. -/
structure SeederChainTip where
  /-- The height `confirmActivation` raises the tip to. -/
  activationHeight : Height
  /-- The value in the shared watch channel. -/
  height : Height

namespace SeederChainTip

/-- Start at the previous upgrade, or at the target when already persisted. -/
def new (target : ActivationTarget) (confirmed : Bool) : SeederChainTip where
  activationHeight := target.activationHeight
  height := if confirmed then target.activationHeight else target.preActivationHeight

/-- `confirm_activation`'s check: whether the watch value is still below the activation. -/
def needsRaise (tip : SeederChainTip) : Bool := decide (tip.height < tip.activationHeight)

/-- `confirm_activation`'s effect: replace the watch value by the activation height. -/
def raise (tip : SeederChainTip) : SeederChainTip := { tip with height := tip.activationHeight }

/-- Advance to the observed activation height, if not there already. -/
def confirmActivation (tip : SeederChainTip) : SeederChainTip :=
  if tip.needsRaise then tip.raise else tip

/-- Whether the observed or persisted activation has raised the tip. -/
def isActivationConfirmed (tip : SeederChainTip) : Bool := decide (tip.activationHeight ≤ tip.height)

/-- The chain tip height zebra-network and the address cache read. -/
def bestTipHeight (tip : SeederChainTip) : Option Height := some tip.height

@[simp] theorem new_activationHeight (target : ActivationTarget) (confirmed : Bool) :
    (new target confirmed).activationHeight = target.activationHeight := rfl

@[simp] theorem raise_height (tip : SeederChainTip) : tip.raise.height = tip.activationHeight := rfl

/-- **Confirming takes the maximum** of the current height and the activation height. -/
theorem confirmActivation_height (tip : SeederChainTip) :
    tip.confirmActivation.height = max tip.height tip.activationHeight := by
  unfold confirmActivation
  by_cases h : tip.height < tip.activationHeight
  · rw [if_pos (by simpa [needsRaise] using h), raise_height, max_eq_right h.le]
  · rw [if_neg (by simpa [needsRaise] using h), max_eq_left (not_lt.mp h)]

@[simp] theorem confirmActivation_activationHeight (tip : SeederChainTip) :
    tip.confirmActivation.activationHeight = tip.activationHeight := by
  unfold confirmActivation; split <;> rfl

/-- Confirming never lowers the tip. -/
theorem height_le_confirmActivation (tip : SeederChainTip) :
    tip.height ≤ tip.confirmActivation.height := by
  rw [confirmActivation_height]; exact le_max_left _ _

/-- After confirming, the tip counts as confirmed. -/
theorem activationHeight_le_confirmActivation (tip : SeederChainTip) :
    tip.activationHeight ≤ tip.confirmActivation.height := by
  rw [confirmActivation_height]; exact le_max_right _ _

end SeederChainTip

end Zeeder.Crawl
