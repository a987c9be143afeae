import Mathlib.Data.Nat.Basic
import Mathlib.Tactic.SplitIfs

/-! # Periodic timers that skip missed ticks

A periodic timer whose deadlines are the multiples of its period, counted from its start. A worker
waits for the tick, is busy for some time and asks for the next tick. A deadline that has passed by
then fires at once and the missed ones are skipped: the next deadline is the next multiple of the
period, not a period after the late tick.

* **`firedAt_mod`** — how late a tick fires after a deadline, from the delays and busy times alone.
* **`firedAt_succ`** — the time between two ticks: the rest of the period, or the busy time if that
  overruns it.
* **`gap_le_iff`** — two consecutive ticks are at least `gap` apart exactly when the busy time is no
  overrun and the lateness leaves enough of the period, or the overrun itself is long enough. -/

namespace Zeeder.Foundation

/-- A timer after a tick. Times are counted from its start. -/
structure SkipTimer where
  /-- When the tick fired. -/
  firedAt : ℕ
  /-- When the next one is due. -/
  deadline : ℕ

/-- The first multiple of the period after `now`. -/
def nextDeadline (period now : ℕ) : ℕ := (now / period + 1) * period

/-- The next deadline is the rest of the running period away. -/
theorem nextDeadline_eq {period : ℕ} (hperiod : 0 < period) (now : ℕ) :
    nextDeadline period now = now + (period - now % period) := by
  have hrest := Nat.mod_lt now hperiod
  have hsplit := Nat.div_add_mod' now period
  rw [nextDeadline, Nat.add_mul, Nat.one_mul]
  omega

namespace SkipTimer

variable (period : ℕ)

/-- A tick that fires at `now`. -/
def fire (now : ℕ) : SkipTimer := ⟨now, nextDeadline period now⟩

/-- The next tick, asked for at `polledAt`: at once if its deadline has passed, else when the
deadline comes, up to the delay of the wake-up. -/
def tick (timer : SkipTimer) (polledAt wakeDelay : ℕ) : SkipTimer :=
  if timer.deadline ≤ polledAt then fire period polledAt
  else fire period (timer.deadline + wakeDelay)

/-- The timer after tick `n` of a worker that first asks `startDelay` after the start, is busy for
`busy n` after tick `n` and, if it has to wait for tick `n + 1`, is woken `wakeDelay n` late. -/
def afterTick (startDelay : ℕ) (busy wakeDelay : ℕ → ℕ) : ℕ → SkipTimer
  | 0 => fire period startDelay
  | n + 1 =>
      let timer := afterTick startDelay busy wakeDelay n
      timer.tick period (timer.firedAt + busy n) (wakeDelay n)

/-- How late tick `n` fires after a deadline: an overrun leaves its excess, a wait its delay. -/
def lateness (startDelay : ℕ) (busy wakeDelay : ℕ → ℕ) : ℕ → ℕ
  | 0 => startDelay % period
  | n + 1 =>
      if lateness startDelay busy wakeDelay n + busy n < period then wakeDelay n % period
      else (lateness startDelay busy wakeDelay n + busy n) % period

/-- The next tick is a fired one, whichever way it comes. -/
theorem tick_eq_fire (timer : SkipTimer) (polledAt wakeDelay : ℕ) :
    timer.tick period polledAt wakeDelay
      = fire period (timer.tick period polledAt wakeDelay).firedAt := by
  unfold tick
  split_ifs <;> rfl

/-- Every tick of a run is a fired one: its deadline is the next one after its instant. -/
theorem afterTick_eq_fire (startDelay : ℕ) (busy wakeDelay : ℕ → ℕ) (n : ℕ) :
    afterTick period startDelay busy wakeDelay n
      = fire period (afterTick period startDelay busy wakeDelay n).firedAt := by
  cases n with
  | zero => rfl
  | succ n => exact tick_eq_fire period _ _ _

/-- The deadline after a tick is the first one after its instant. -/
theorem afterTick_deadline (startDelay : ℕ) (busy wakeDelay : ℕ → ℕ) (n : ℕ) :
    (afterTick period startDelay busy wakeDelay n).deadline
      = nextDeadline period (afterTick period startDelay busy wakeDelay n).firedAt :=
  congrArg SkipTimer.deadline (afterTick_eq_fire period startDelay busy wakeDelay n)

section Gaps

variable {period} {startDelay : ℕ} {busy wakeDelay : ℕ → ℕ}

/-- **The time from one tick to the next**, by how late the first one fired: the rest of the period
and the delay of the wake-up, or the busy time where it reaches the next deadline. -/
theorem firedAt_succ_mod (hperiod : 0 < period) (n : ℕ) :
    (afterTick period startDelay busy wakeDelay (n + 1)).firedAt
      = (afterTick period startDelay busy wakeDelay n).firedAt +
        (if (afterTick period startDelay busy wakeDelay n).firedAt % period + busy n < period
          then period - (afterTick period startDelay busy wakeDelay n).firedAt % period
            + wakeDelay n
          else busy n) := by
  have hrest := Nat.mod_lt (afterTick period startDelay busy wakeDelay n).firedAt hperiod
  rw [afterTick, tick, afterTick_deadline, nextDeadline_eq hperiod]
  by_cases hoverrun : (afterTick period startDelay busy wakeDelay n).firedAt % period + busy n
      < period
  · -- the worker is back before the deadline and waits for it
    rw [if_neg (by omega), if_pos hoverrun]
    show _ + _ + wakeDelay n = _
    omega
  · -- the deadline has passed: the tick fires as soon as it is asked for
    rw [if_pos (by omega), if_neg hoverrun]
    rfl

/-- **A tick's place in its period is its lateness.** Induction on the ticks: a wait ends at a
multiple of the period, an overrun keeps the place the tick before it had. -/
theorem firedAt_mod (hperiod : 0 < period) (n : ℕ) :
    (afterTick period startDelay busy wakeDelay n).firedAt % period
      = lateness period startDelay busy wakeDelay n := by
  induction n with
  | zero => rfl
  | succ n ih =>
      rw [firedAt_succ_mod hperiod, lateness, ← ih]
      have hsplit := Nat.div_add_mod (afterTick period startDelay busy wakeDelay n).firedAt period
      have hrest := Nat.mod_lt (afterTick period startDelay busy wakeDelay n).firedAt hperiod
      split_ifs
      · -- the rest of the period completes a multiple of it
        have hnext : (afterTick period startDelay busy wakeDelay n).firedAt
            + (period - (afterTick period startDelay busy wakeDelay n).firedAt % period
              + wakeDelay n)
            = wakeDelay n + nextDeadline period
                (afterTick period startDelay busy wakeDelay n).firedAt := by
          rw [nextDeadline_eq hperiod]; omega
        rw [hnext, nextDeadline, Nat.add_mul_mod_self_right]
      · rw [Nat.mod_add_mod]

/-- **The time from one tick to the next**, from delays and busy times alone. -/
theorem firedAt_succ (hperiod : 0 < period) (n : ℕ) :
    (afterTick period startDelay busy wakeDelay (n + 1)).firedAt
      = (afterTick period startDelay busy wakeDelay n).firedAt +
        (if lateness period startDelay busy wakeDelay n + busy n < period
          then period - lateness period startDelay busy wakeDelay n + wakeDelay n
          else busy n) := by
  rw [firedAt_succ_mod hperiod, firedAt_mod hperiod]

/-- What keeps tick `n + 1` at least `gap` away from tick `n`: a worker that is back in time needs a
tick that was not too late, up to the next wake-up's delay; an overrun has to last that long. -/
def KeepsGap (period gap startDelay : ℕ) (busy wakeDelay : ℕ → ℕ) (n : ℕ) : Prop :=
  if lateness period startDelay busy wakeDelay n + busy n < period
  then lateness period startDelay busy wakeDelay n + gap ≤ period + wakeDelay n
  else gap ≤ busy n

/-- **Exactly when two consecutive ticks are at least `gap` apart.** -/
theorem gap_le_iff (hperiod : 0 < period) (gap n : ℕ) :
    (afterTick period startDelay busy wakeDelay n).firedAt + gap
        ≤ (afterTick period startDelay busy wakeDelay (n + 1)).firedAt ↔
      KeepsGap period gap startDelay busy wakeDelay n := by
  rw [firedAt_succ hperiod, Nat.add_le_add_iff_left, KeepsGap]
  split_ifs
  · omega
  · rfl

/-- Without delays and overruns no tick is late. -/
theorem lateness_eq_zero (hbusy : ∀ n, busy n < period) (hwake : ∀ n, wakeDelay n = 0) (n : ℕ) :
    lateness period 0 busy wakeDelay n = 0 := by
  induction n with
  | zero => exact Nat.zero_mod period
  | succ n ih => rw [lateness, ih, Nat.zero_add, if_pos (hbusy n), hwake n, Nat.zero_mod]

/-- Without delays and overruns the ticks are a whole period apart. -/
theorem keepsGap_of_onTime {gap : ℕ} (hbusy : ∀ n, busy n < period) (hwake : ∀ n, wakeDelay n = 0)
    (hgap : gap ≤ period) (n : ℕ) : KeepsGap period gap 0 busy wakeDelay n := by
  rw [KeepsGap, lateness_eq_zero hbusy hwake, Nat.zero_add, Nat.zero_add, if_pos (hbusy n)]
  exact Nat.le_add_right_of_le hgap

end Gaps

end SkipTimer

end Zeeder.Foundation
