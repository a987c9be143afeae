import Zeeder.Foundation.Streak
import Mathlib.Algebra.Group.Nat.Defs
import Mathlib.Algebra.Order.Field.Basic
import Mathlib.Algebra.Order.Field.Rat
import Mathlib.Data.Rat.Cast.Order
import Mathlib.Tactic.NormNum
import Mathlib.Tactic.Positivity

/-! # The activation gate

One observer sweep is reduced to two numbers: how many network groups were probed and how many
answered ready. The gate counts consecutive qualifying sweeps in a saturating `u8`, and confirms
from the third on.

* **`meetsQuorum_iff`** — with counts far below `usize::MAX` the saturating comparison is the
  rational one: at least 12 groups, at least three quarters of them ready.
* **`run_qualifyingSweeps`** — over any history the counter is the current streak, capped.
* **`observe_run`** — the gate confirms exactly when the streak has reached three.
* **`gate_counts_streak`** — both, for the longest suffix of sweeps that meet the rational quorum. -/

namespace Zeeder.Crawl

open Foundation

/-- Minimum independent network groups required for an activation decision. -/
def minNetworkGroups : ℕ := 12

/-- Maximum independent network groups probed concurrently in one sweep. -/
def maxNetworkGroupsPerSweep : ℕ := 64

/-- Numerator of the fixed supermajority required in each sweep. -/
def quorumNumerator : ℕ := 3

/-- Denominator of the fixed supermajority required in each sweep. -/
def quorumDenominator : ℕ := 4

/-- Number of consecutive qualifying sweeps required before confirmation. -/
def requiredQualifyingSweeps : UInt8 := 3

/-- `usize::MAX` on a 64-bit target. -/
def usizeMax : ℕ := 2 ^ 64 - 1

/-- `usize::saturating_mul`. -/
def saturatingMulUsize (a b : ℕ) : ℕ := min usizeMax (a * b)

/-- `u8::saturating_add`. -/
def saturatingAddU8 (a b : UInt8) : UInt8 := UInt8.ofNat (min 255 (a.toNat + b.toNat))

/-- Saturating addition, read as a number. -/
theorem toNat_saturatingAddU8 (a b : UInt8) :
    (saturatingAddU8 a b).toNat = min 255 (a.toNat + b.toNat) := by
  rw [saturatingAddU8, UInt8.toNat_ofNat']
  omega

/-- One completed observer sweep, reduced to the values used by the gate (`usize` counts). -/
structure SweepEvidence where
  /-- How many groups were probed. -/
  totalGroups : ℕ
  /-- How many of them answered ready. -/
  readyGroups : ℕ
  deriving DecidableEq, Repr

namespace SweepEvidence

/-- The gate's own test: enough groups, and the quorum by saturating cross-multiplication. -/
def meetsQuorum (evidence : SweepEvidence) : Bool :=
  decide (minNetworkGroups ≤ evidence.totalGroups) &&
    decide (saturatingMulUsize evidence.totalGroups quorumNumerator
      ≤ saturatingMulUsize evidence.readyGroups quorumDenominator)

/-- What a qualifying sweep is meant to be: at least 12 groups, three quarters of them ready. -/
def Qualifies (evidence : SweepEvidence) : Prop :=
  12 ≤ evidence.totalGroups ∧ 3 * evidence.totalGroups ≤ 4 * evidence.readyGroups

/-- Both counts are small enough that cross-multiplication cannot saturate. -/
def InRange (evidence : SweepEvidence) : Prop :=
  4 * evidence.totalGroups < usizeMax ∧ 4 * evidence.readyGroups < usizeMax

instance (evidence : SweepEvidence) : Decidable evidence.Qualifies :=
  inferInstanceAs (Decidable (_ ∧ _))

/-- **Saturation never decides the quorum** for counts in range: the gate's test is the rational
comparison. -/
theorem meetsQuorum_iff {evidence : SweepEvidence} (h : evidence.InRange) :
    evidence.meetsQuorum ↔ evidence.Qualifies := by
  obtain ⟨htotal, hready⟩ := h
  -- neither product reaches `usize::MAX`
  have hleft : saturatingMulUsize evidence.totalGroups quorumNumerator
      = evidence.totalGroups * 3 := min_eq_right (by rw [quorumNumerator]; omega)
  have hright : saturatingMulUsize evidence.readyGroups quorumDenominator
      = evidence.readyGroups * 4 := min_eq_right (by rw [quorumDenominator]; omega)
  rw [meetsQuorum, Bool.and_eq_true, decide_eq_true_eq, decide_eq_true_eq, hleft, hright,
    Qualifies, minNetworkGroups]
  omega

/-- The quorum as a ratio: from 12 groups on, cross-multiplication is the comparison of
fractions. -/
theorem qualifies_iff_ratio (evidence : SweepEvidence) :
    evidence.Qualifies ↔ 12 ≤ evidence.totalGroups ∧
      (3 / 4 : ℚ) ≤ evidence.readyGroups / evidence.totalGroups := by
  refine and_congr_right fun htotal => ?_
  have hpos : (0 : ℚ) < evidence.totalGroups := by
    exact_mod_cast lt_of_lt_of_le (by norm_num) htotal
  rw [div_le_div_iff₀ four_pos hpos, mul_comm (evidence.readyGroups : ℚ)]
  exact_mod_cast Iff.rfl

end SweepEvidence

/-- Fixed-quorum activation state machine. -/
structure ActivationGate where
  /-- Consecutive qualifying sweeps so far, saturating. -/
  qualifyingSweeps : UInt8
  deriving DecidableEq, Repr

namespace ActivationGate

/-- The gate before the first sweep. -/
def default : ActivationGate := ⟨0⟩

/-- Record one complete sweep and return whether activation is confirmed. -/
def observe (gate : ActivationGate) (evidence : SweepEvidence) : ActivationGate × Bool :=
  if evidence.meetsQuorum then
    let qualifyingSweeps := saturatingAddU8 gate.qualifyingSweeps 1
    (⟨qualifyingSweeps⟩, decide (requiredQualifyingSweeps ≤ qualifyingSweeps))
  else
    -- one failed sweep discards the whole streak
    (⟨0⟩, false)

/-- The counter after one sweep is one capped-count update. -/
theorem observe_qualifyingSweeps (gate : ActivationGate) (evidence : SweepEvidence) :
    (gate.observe evidence).1.qualifyingSweeps.toNat
      = cappedCount SweepEvidence.meetsQuorum 255 gate.qualifyingSweeps.toNat evidence := by
  unfold observe cappedCount
  by_cases h : evidence.meetsQuorum
  · rw [if_pos h, if_pos h]; exact toNat_saturatingAddU8 _ _
  · rw [if_neg h, if_neg h]; rfl

/-- The gate confirms exactly when the updated counter has reached three. -/
theorem observe_confirms_iff (gate : ActivationGate) (evidence : SweepEvidence) :
    (gate.observe evidence).2 = true
      ↔ 3 ≤ (gate.observe evidence).1.qualifyingSweeps.toNat := by
  unfold observe
  by_cases h : evidence.meetsQuorum
  · rw [if_pos h, decide_eq_true_eq, UInt8.le_iff_toNat_le]; rfl
  · rw [if_neg h]; simp

/-- The gate after a whole history of sweeps. -/
def run (history : List SweepEvidence) : ActivationGate :=
  history.foldl (fun gate evidence => (gate.observe evidence).1) default

/-- The history grows at its end. -/
theorem run_concat (history : List SweepEvidence) (evidence : SweepEvidence) :
    run (history ++ [evidence]) = ((run history).observe evidence).1 := by
  rw [run, List.foldl_append, List.foldl_cons, List.foldl_nil, run]

/-- Folding the gate is folding the capped counter: induction on the history from its end. -/
theorem run_qualifyingSweeps_eq_foldl (history : List SweepEvidence) :
    (run history).qualifyingSweeps.toNat
      = history.foldl (cappedCount SweepEvidence.meetsQuorum 255) 0 := by
  induction history using List.reverseRecOn with
  | nil => rfl
  | append_singleton history evidence ih =>
      rw [run_concat, observe_qualifyingSweeps, ih, List.foldl_append, List.foldl_cons,
        List.foldl_nil]

/-- **The gate counts the current streak**, capped at `u8::MAX`. -/
theorem run_qualifyingSweeps (history : List SweepEvidence) :
    (run history).qualifyingSweeps.toNat
      = min 255 (streak SweepEvidence.meetsQuorum history) := by
  rw [run_qualifyingSweeps_eq_foldl, foldl_cappedCount]

/-- **The gate confirms from the third consecutive qualifying sweep on**, however long the run. -/
theorem observe_run (history : List SweepEvidence) (evidence : SweepEvidence) :
    ((run history).observe evidence).2 = true
      ↔ 3 ≤ streak SweepEvidence.meetsQuorum (history ++ [evidence]) := by
  rw [observe_confirms_iff, ← run_concat, run_qualifyingSweeps]
  -- the cap of 255 is above three
  omega

/-- The lengths of the suffixes of a history made of qualifying sweeps only. -/
def qualifyingSuffixLengths (history : List SweepEvidence) : Set ℕ :=
  {n | ∃ sweeps, sweeps <:+ history ∧ (∀ evidence ∈ sweeps, 12 ≤ evidence.totalGroups ∧
    (3 / 4 : ℚ) ≤ evidence.readyGroups / evidence.totalGroups) ∧ sweeps.length = n}

/-- With counts in range the streak is the greatest length of a suffix of qualifying sweeps. -/
theorem isGreatest_qualifyingSuffixLengths {history : List SweepEvidence}
    (hrange : ∀ evidence ∈ history, evidence.InRange) :
    IsGreatest (qualifyingSuffixLengths history) (streak SweepEvidence.meetsQuorum history) := by
  have hset : qualifyingSuffixLengths history
      = {n | ∃ back, back <:+ history ∧ (∀ a ∈ back, a.meetsQuorum = true) ∧ back.length = n} := by
    ext n
    refine exists_congr fun sweeps => and_congr_right fun hsuffix => and_congr_left fun _ => ?_
    refine forall₂_congr fun evidence hmem => ?_
    rw [SweepEvidence.meetsQuorum_iff (hrange evidence (hsuffix.subset hmem)),
      SweepEvidence.qualifies_iff_ratio]
  rw [hset]
  exact isGreatest_streak _ history

/-- **The gate counts the current streak exactly**: with counts in range, after any history the
counter is the length of the longest suffix of qualifying sweeps, capped at `u8::MAX`, and the last
observation confirmed exactly when that suffix has at least three sweeps. -/
theorem gate_counts_streak (history : List SweepEvidence)
    (hrange : ∀ evidence ∈ history, evidence.InRange) :
    ∃ length, IsGreatest (qualifyingSuffixLengths history) length ∧
      (run history).qualifyingSweeps.toNat = min 255 length ∧
      ∀ front last, history = front ++ [last] →
        (((run front).observe last).2 = true ↔ 3 ≤ length) := by
  refine ⟨_, isGreatest_qualifyingSuffixLengths hrange, run_qualifyingSweeps history, ?_⟩
  rintro front last rfl
  exact observe_run front last

/-- Three sweeps of sixteen groups, twelve of them ready, confirm the activation. -/
theorem gate_counts_streak_exampleSweeps :
    ∃ length, IsGreatest (qualifyingSuffixLengths (List.replicate 3 ⟨16, 12⟩)) length ∧
      (run (List.replicate 3 ⟨16, 12⟩)).qualifyingSweeps.toNat = min 255 length ∧
      ∀ front last, List.replicate 3 (SweepEvidence.mk 16 12) = front ++ [last] →
        (((run front).observe last).2 = true ↔ 3 ≤ length) :=
  gate_counts_streak (List.replicate 3 ⟨16, 12⟩) fun evidence hmem => by
    rw [List.eq_of_mem_replicate hmem]
    exact ⟨by decide, by decide⟩

end ActivationGate

end Zeeder.Crawl
