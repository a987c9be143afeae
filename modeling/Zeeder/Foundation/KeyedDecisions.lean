import Mathlib.Data.List.Basic

/-! # Decisions that depend on a key's own history

Requests arrive one after another, each under a key and at an instant. A rule decides a request from
the instants of the earlier requests *under the same key* and its own instant, as a keyed rate limiter
does.

* **`filter_decided`** — what is decided about some keys is what would be decided without the requests
  of all others. -/

namespace Zeeder.Foundation

variable {Key Instant : Type*} [DecidableEq Key]

/-- The instants at which a key occurs in a history. -/
def ownInstants (history : List (Key × Instant)) (key : Key) : List Instant :=
  (history.filter fun entry => entry.1 == key).map (·.2)

variable (rule : List Instant → Instant → Bool)

/-- The requests with what the rule decides about each, after a history. -/
def decided : List (Key × Instant) → List (Key × Instant) → List ((Key × Instant) × Bool)
  | _, [] => []
  | history, request :: requests =>
      (request, rule (ownInstants history request.1) request.2)
        :: decided (history ++ [request]) requests

/-- The other keys' entries do not count. -/
theorem ownInstants_filter {history : List (Key × Instant)} {keep : Key → Bool} {key : Key}
    (hkeep : keep key = true) :
    ownInstants (history.filter fun entry => keep entry.1) key = ownInstants history key := by
  rw [ownInstants, ownInstants, List.filter_filter]
  congr 1
  refine List.filter_congr fun entry _ => ?_
  by_cases hkey : entry.1 = key
  · rw [hkey, hkeep, Bool.and_true]
  · simp [hkey]

/-- **Keys are isolated.** Deciding only the requests of some keys, after only their history, gives
what deciding all requests gives for them. Induction on the requests: one of another key is neither
decided nor remembered for them. -/
theorem filter_decided (keep : Key → Bool) (history requests : List (Key × Instant)) :
    (decided rule history requests).filter (fun d => keep d.1.1)
      = decided rule (history.filter fun entry => keep entry.1)
          (requests.filter fun request => keep request.1) := by
  induction requests generalizing history with
  | nil => rfl
  | cons request requests ih =>
      rw [decided, List.filter_cons, ih, List.filter_append, List.filter_singleton,
        List.filter_cons, Bool.cond_eq_ite]
      dsimp only
      by_cases hkeep : keep request.1 = true
      · rw [if_pos hkeep, if_pos hkeep, if_pos hkeep, decided, ownInstants_filter hkeep]
      · rw [if_neg hkeep, if_neg hkeep, if_neg hkeep, List.append_nil]

end Zeeder.Foundation
