import Mathlib.Data.Nat.Defs

namespace ConnectorManager

/-!
# `backoff::ExponentialBackoff`

The watcher and the health checker pace their retries with the backoff crate's
`ExponentialBackoff`, whose source is not part of the repository. This module
models it as backoff 0.4 computes it, with every duration and instant in
nanoseconds and the clock read passed in as `now`:

* `default()` starts at 500 ms, grows by half at each step up to 60 s, and gives
  up after 15 minutes in all; the health checker lowers that to 30 s;
* `reset()` goes back to the initial interval and restarts the clock;
* `next_backoff()` gives up when more than the maximum has elapsed since the
  start, and otherwise draws a randomized interval around the current one,
  grows the current one, and gives up too when that interval would end past
  the maximum.

The draw is `rand::random::<f64>()`, so it is an argument here; `Randomizes`
is the range it can fall in, the randomization factor and the multiplier being
the defaults (0.5 and 1.5), which no caller changes.

`nextBackoff_eq_none_iff` is the one fact callers need: the backoff gives up
exactly when the elapsed time plus the interval drawn passes the maximum.
-/

/-- `backoff::ExponentialBackoff`: durations and the start instant in nanoseconds. -/
structure ExponentialBackoff where
  currentInterval : Nat
  initialInterval : Nat
  maxInterval : Nat
  maxElapsedTime : Option Nat
  startTime : Nat
  deriving Repr, DecidableEq

namespace ExponentialBackoff

/-- `ExponentialBackoff::default()`, created at `now`. -/
def default (now : Nat) : ExponentialBackoff where
  currentInterval := 500000000
  initialInterval := 500000000
  maxInterval := 60000000000
  maxElapsedTime := some 900000000000
  startTime := now

/-- `get_elapsed_time()`. -/
def getElapsedTime (b : ExponentialBackoff) (now : Nat) : Nat :=
  now - b.startTime

/-- `reset()`. -/
def reset (b : ExponentialBackoff) (now : Nat) : ExponentialBackoff :=
  { b with currentInterval := b.initialInterval, startTime := now }

/-- `increment_current_interval()`: one and a half times the current interval, or
`max_interval` once that would reach it. -/
def incrementCurrentInterval (b : ExponentialBackoff) : ExponentialBackoff :=
  if 2 * b.maxInterval ≤ 3 * b.currentInterval then { b with currentInterval := b.maxInterval }
  else { b with currentInterval := b.currentInterval * 3 / 2 }

/-- The intervals `get_random_value_from_interval(0.5, random, current)` can draw: from half
the current interval to one and a half times it, plus the formula's one nanosecond. -/
def Randomizes (b : ExponentialBackoff) (randomized : Nat) : Prop :=
  b.currentInterval / 2 ≤ randomized ∧ randomized ≤ b.currentInterval + b.currentInterval / 2 + 1

instance (b : ExponentialBackoff) (randomized : Nat) : Decidable (b.Randomizes randomized) :=
  inferInstanceAs (Decidable (_ ∧ _))

/-- `next_backoff()` at `now`, `randomized` being the interval drawn from the current one. -/
def nextBackoff (b : ExponentialBackoff) (now randomized : Nat) : Option Nat × ExponentialBackoff :=
  let elapsed := b.getElapsedTime now
  match b.maxElapsedTime with
  | some maxElapsed =>
    if maxElapsed < elapsed then (none, b)
    else if elapsed + randomized ≤ maxElapsed then (some randomized, b.incrementCurrentInterval)
    else (none, b.incrementCurrentInterval)
  | none => (some randomized, b.incrementCurrentInterval)

@[simp] theorem reset_startTime (b : ExponentialBackoff) (now : Nat) :
    (b.reset now).startTime = now := rfl

@[simp] theorem reset_currentInterval (b : ExponentialBackoff) (now : Nat) :
    (b.reset now).currentInterval = b.initialInterval := rfl

@[simp] theorem reset_maxElapsedTime (b : ExponentialBackoff) (now : Nat) :
    (b.reset now).maxElapsedTime = b.maxElapsedTime := rfl

@[simp] theorem incrementCurrentInterval_startTime (b : ExponentialBackoff) :
    b.incrementCurrentInterval.startTime = b.startTime := by
  unfold incrementCurrentInterval; split_ifs <;> rfl

@[simp] theorem incrementCurrentInterval_maxElapsedTime (b : ExponentialBackoff) :
    b.incrementCurrentInterval.maxElapsedTime = b.maxElapsedTime := by
  unfold incrementCurrentInterval; split_ifs <;> rfl

@[simp] theorem reset_initialInterval (b : ExponentialBackoff) (now : Nat) :
    (b.reset now).initialInterval = b.initialInterval := rfl

@[simp] theorem reset_maxInterval (b : ExponentialBackoff) (now : Nat) :
    (b.reset now).maxInterval = b.maxInterval := rfl

@[simp] theorem incrementCurrentInterval_initialInterval (b : ExponentialBackoff) :
    b.incrementCurrentInterval.initialInterval = b.initialInterval := by
  unfold incrementCurrentInterval; split_ifs <;> rfl

@[simp] theorem incrementCurrentInterval_maxInterval (b : ExponentialBackoff) :
    b.incrementCurrentInterval.maxInterval = b.maxInterval := by
  unfold incrementCurrentInterval; split_ifs <;> rfl

/-- The interval grows, or stops at the maximum. -/
theorem min_le_incrementCurrentInterval (b : ExponentialBackoff) :
    min b.currentInterval b.maxInterval ≤ b.incrementCurrentInterval.currentInterval := by
  unfold incrementCurrentInterval
  split_ifs <;> dsimp only <;> omega

/-- The backoff gives up exactly when the elapsed time and the interval drawn together pass
its maximum. -/
theorem nextBackoff_eq_none_iff (b : ExponentialBackoff) (now randomized : Nat) :
    (b.nextBackoff now randomized).1 = none ↔
      ∃ maxElapsed, b.maxElapsedTime = some maxElapsed ∧
        maxElapsed < b.getElapsedTime now + randomized := by
  cases limit : b.maxElapsedTime with
  | none => simp [nextBackoff, limit]
  | some maxElapsed =>
    simp only [nextBackoff, limit]
    split_ifs <;> simp <;> omega

/-- When it does not give up, the backoff waits the interval drawn. -/
theorem nextBackoff_eq_some {b : ExponentialBackoff} {now randomized d : Nat}
    (h : (b.nextBackoff now randomized).1 = some d) : d = randomized := by
  cases limit : b.maxElapsedTime with
  | none => simpa [nextBackoff, limit, eq_comm] using h
  | some maxElapsed =>
    simp only [nextBackoff, limit] at h
    split_ifs at h
    simp_all

/-- When it does not give up, the elapsed time and the interval drawn fit the maximum. -/
theorem nextBackoff_le_of_eq_some {b : ExponentialBackoff} {now randomized d maxElapsed : Nat}
    (h : (b.nextBackoff now randomized).1 = some d) (limit : b.maxElapsedTime = some maxElapsed) :
    b.getElapsedTime now + randomized ≤ maxElapsed := by
  by_contra passed
  have gaveUp := (nextBackoff_eq_none_iff b now randomized).mpr ⟨maxElapsed, limit, by omega⟩
  rw [h] at gaveUp
  cases gaveUp

/-- The backoff after `next_backoff()`: unchanged, or with its interval grown. -/
theorem nextBackoff_snd_cases (b : ExponentialBackoff) (now randomized : Nat) :
    (b.nextBackoff now randomized).2 = b ∨ (b.nextBackoff now randomized).2 = b.incrementCurrentInterval := by
  cases limit : b.maxElapsedTime with
  | none => simp [nextBackoff, limit]
  | some maxElapsed =>
    simp only [nextBackoff, limit]
    split_ifs <;> simp

/-- Whatever it answers, the backoff keeps its start and its maximum. -/
theorem nextBackoff_snd (b : ExponentialBackoff) (now randomized : Nat) :
    (b.nextBackoff now randomized).2.startTime = b.startTime ∧
      (b.nextBackoff now randomized).2.maxElapsedTime = b.maxElapsedTime := by
  cases limit : b.maxElapsedTime with
  | none => simp [nextBackoff, limit]
  | some maxElapsed =>
    simp only [nextBackoff, limit]
    split_ifs <;> simp [limit]

end ExponentialBackoff

end ConnectorManager
