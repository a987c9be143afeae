import Zeeder.Crawl.ActivationObserver
import Zeeder.Foundation.SkipInterval

/-! # The spacing of the sweeps

The observer loop awaits a tick of `tokio::time::interval` before every sweep. The interval's period
is `sweep_interval`, at least `MIN_SWEEP_INTERVAL`, and missed ticks are skipped
(`MissedTickBehavior::Skip`): the ticks stay on multiples of the period, so a tick that fires late is
followed by one that is early for it.

* **`sweepsSpaced_iff`** — the sweeps of a run keep `MIN_SWEEP_INTERVAL` exactly when every sweep that
  starts off the period's grid is followed by a long enough body or an equally late wake-up.
* **`sweepsSpaced_of_onTime`** — bodies within the interval and prompt wake-ups keep it. -/

namespace Zeeder.Crawl

open Foundation

/-- A span of time in nanoseconds. -/
abbrev Duration := ℕ

/-- A duration of whole seconds. -/
def Duration.fromSecs (secs : ℕ) : Duration := secs * 1000000000

/-- The dependency's time limit for a handshake. -/
def handshakeTimeout : Duration := .fromSecs 3

/-- How long a peer refuses another inbound connection from the same address. -/
def minPeerReconnectionDelay : Duration := .fromSecs 119

/-- Allow both the TCP connection and version handshake to complete. -/
def observationTimeout : Duration := handshakeTimeout * 2

/-- Minimum observer sweep interval. -/
def minSweepInterval : Duration := minPeerReconnectionDelay + observationTimeout

/-- The interval's period, from the network's block spacing at the activation. The dependency's
table of spacings is a parameter; `none` is a spacing that is no `Duration`. -/
def sweepInterval (targetSpacingForHeight : Network → Height → Option Duration) (network : Network)
    (activationHeight : Height) : Duration :=
  max ((targetSpacingForHeight network activationHeight).getD (.fromSecs 75)) minSweepInterval

/-- One iteration of the observer loop with its times. -/
structure TimedSweep where
  /-- What the sweep takes from outside. -/
  input : SweepInput
  /-- From the start of the sweep until the loop asks for the next tick. -/
  bodyDuration : Duration
  /-- How late the task is woken if it has to wait for the next tick. -/
  wakeDelay : Duration

namespace Observer

variable (o : Observer) (targetSpacingForHeight : Network → Height → Option Duration)
  (startDelay : Duration) (tip : SeederChainTip) (fs : FileSystem) (sweeps : ℕ → TimedSweep)

/-- The period of the observer's interval. -/
def period : Duration :=
  sweepInterval targetSpacingForHeight o.network o.target.activationHeight

/-- The interval's period is at least the minimum. -/
theorem minSweepInterval_le_period : minSweepInterval ≤ o.period targetSpacingForHeight :=
  le_max_right _ _

/-- The interval's period is positive. -/
theorem period_pos : 0 < o.period targetSpacingForHeight :=
  Nat.lt_of_lt_of_le (by decide) (o.minSweepInterval_le_period targetSpacingForHeight)

/-- The instant at which sweep `n` starts, counted from the interval's creation. -/
def sweepStart (n : ℕ) : Duration :=
  (SkipTimer.afterTick (o.period targetSpacingForHeight) startDelay
    (fun k => (sweeps k).bodyDuration) (fun k => (sweeps k).wakeDelay) n).firedAt

/-- Sweep `n` takes place: no sweep before it has stopped the loop. -/
def TakesPlace (n : ℕ) : Prop :=
  (o.stateAt tip fs (fun k => (sweeps k).input) n).running = true

/-- **The promised spacing**: consecutive sweeps start at least `MIN_SWEEP_INTERVAL` apart, so three
consecutive qualifying sweeps span at least twice that. -/
structure SweepsSpaced : Prop where
  /-- Two consecutive sweeps. -/
  consecutive : ∀ n, o.TakesPlace tip fs sweeps (n + 1) →
    o.sweepStart targetSpacingForHeight startDelay sweeps n + minSweepInterval
      ≤ o.sweepStart targetSpacingForHeight startDelay sweeps (n + 1)
  /-- Three consecutive qualifying sweeps. -/
  threeQualifying : ∀ n, o.TakesPlace tip fs sweeps (n + 2) →
    o.SweepQualifies (sweeps n).input → o.SweepQualifies (sweeps (n + 1)).input →
    o.SweepQualifies (sweeps (n + 2)).input →
    o.sweepStart targetSpacingForHeight startDelay sweeps n + 2 * minSweepInterval
      ≤ o.sweepStart targetSpacingForHeight startDelay sweeps (n + 2)

/-- The times of sweep `n` keep sweep `n + 1` far enough away. -/
def KeepsSpacing (n : ℕ) : Prop :=
  SkipTimer.KeepsGap (o.period targetSpacingForHeight) minSweepInterval startDelay
    (fun k => (sweeps k).bodyDuration) (fun k => (sweeps k).wakeDelay) n

/-- One pair of consecutive sweeps. -/
theorem sweepStart_spaced_iff (n : ℕ) :
    o.sweepStart targetSpacingForHeight startDelay sweeps n + minSweepInterval
        ≤ o.sweepStart targetSpacingForHeight startDelay sweeps (n + 1) ↔
      o.KeepsSpacing targetSpacingForHeight startDelay sweeps n :=
  SkipTimer.gap_le_iff (o.period_pos targetSpacingForHeight) _ n

variable {targetSpacingForHeight startDelay tip fs sweeps}

/-- Three sweeps are two pairs: spacing every pair that takes place spaces the triples too. -/
theorem sweepsSpaced_of_consecutive
    (h : ∀ n, o.TakesPlace tip fs sweeps (n + 1) →
      o.sweepStart targetSpacingForHeight startDelay sweeps n + minSweepInterval
        ≤ o.sweepStart targetSpacingForHeight startDelay sweeps (n + 1)) :
    o.SweepsSpaced targetSpacingForHeight startDelay tip fs sweeps where
  consecutive := h
  threeQualifying n hthird _ _ _ :=
    calc o.sweepStart targetSpacingForHeight startDelay sweeps n + 2 * minSweepInterval
      _ = o.sweepStart targetSpacingForHeight startDelay sweeps n + minSweepInterval
            + minSweepInterval := by rw [Nat.two_mul, Nat.add_assoc]
      _ ≤ o.sweepStart targetSpacingForHeight startDelay sweeps (n + 1) + minSweepInterval :=
          Nat.add_le_add_right (h n (o.running_of_running_succ hthird)) _
      _ ≤ o.sweepStart targetSpacingForHeight startDelay sweeps (n + 2) := h (n + 1) hthird

/-- Bodies that end within the interval and prompt wake-ups keep the sweeps spaced: the sweeps start
on the multiples of the period. -/
theorem sweepsSpaced_of_onTime (hbody : ∀ n, (sweeps n).bodyDuration < o.period targetSpacingForHeight)
    (hwake : ∀ n, (sweeps n).wakeDelay = 0) :
    o.SweepsSpaced targetSpacingForHeight 0 tip fs sweeps := by
  refine o.sweepsSpaced_of_consecutive fun n _ => (o.sweepStart_spaced_iff _ _ _ n).mpr ?_
  exact SkipTimer.keepsGap_of_onTime hbody hwake (o.minSweepInterval_le_period _) n

variable (targetSpacingForHeight startDelay tip fs sweeps)

/-- **Sweep spacing, exactly.** The sweeps of a run are spaced as promised if and only if each sweep
that another one follows keeps its spacing: it starts no later after a deadline than the period
leaves room for (up to the next wake-up's delay), or its body overruns the next deadline and lasts
`MIN_SWEEP_INTERVAL` itself. -/
theorem sweepsSpaced_iff :
    o.SweepsSpaced targetSpacingForHeight startDelay tip fs sweeps ↔
      ∀ n, o.TakesPlace tip fs sweeps (n + 1) →
        o.KeepsSpacing targetSpacingForHeight startDelay sweeps n := by
  constructor
  · intro h n hn
    exact (o.sweepStart_spaced_iff _ _ _ n).mp (h.consecutive n hn)
  · intro h
    refine o.sweepsSpaced_of_consecutive fun n hn => ?_
    exact (o.sweepStart_spaced_iff _ _ _ n).mpr (h n hn)

end Observer

/-! ## A stalled write -/

/-- Every sweep qualifies and every write fails, the one of sweep 2 after four minutes. -/
def stalledSweeps (n : ℕ) : TimedSweep where
  input := { exampleInput with write := .ioError ⟨.other, "stalled"⟩ }
  bodyDuration := .fromSecs (if n = 2 then 240 else 1)
  wakeDelay := 0

/-- With blocks every 75 seconds the sweeps start after 0, 125, 250, 490 and 500 seconds: sweep 4
comes 10 seconds after sweep 3, although sweeps before and after it qualify. -/
theorem not_sweepsSpaced_stalledSweeps :
    ¬ exampleObserver.SweepsSpaced (fun _ _ => some (.fromSecs 75)) 0
      (.new exampleObserver.target false) (fun _ => none) stalledSweeps := by
  intro h
  have hgap := h.consecutive 3 (by unfold Observer.TakesPlace; decide +kernel)
  revert hgap
  decide +kernel

end Zeeder.Crawl
