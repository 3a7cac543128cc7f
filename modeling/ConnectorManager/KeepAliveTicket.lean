import Mathlib

namespace ConnectorManager

/-!
# Keep-alive tickets and their arithmetic

`KeepAliveTicket::new(pod, ttl)` (`acm/src/podmanager/garbage_collector.rs`)
reads two clocks and adds `ttl` to each:

* the wall clock, as `chrono::Utc::now() + chrono::Duration::seconds(ttl as i64)`,
  whose Unix second becomes `execution_date`;
* the monotonic clock, as `Instant::now() + Duration::from_secs(ttl)`, which
  becomes `execution_instant`, the deadline the garbage collector sleeps on.

Each of the three library operations panics outside its range: `ttl as i64`
wraps, `chrono::Duration::seconds` panics beyond `±(i64::MAX / 1000)`
seconds, `DateTime + Duration` panics outside chrono's years -262144 to
262143, and `Instant + Duration` panics when the seconds do not fit the
monotonic clock's `i64`. A panic is `none`.

`new_eq_some_iff` says exactly when a ticket is made, and that its
`execution_date` is then the creation second plus `ttl`, with no
wraparound; `new_of_ge` is the other side: from `2^63` on, which the
`/deploy` endpoint accepts, every ticket creation panics.
-/

/-- `i64::MAX`. -/
def i64Max : Nat := 9223372036854775807

/-- `ttl as i64`: the two's-complement reading of the 64 bits. -/
def asI64 (ttl : UInt64) : Int := ttl.toBitVec.toInt

/-- The most whole seconds a `chrono::Duration` holds: `i64::MAX / 1000`. -/
def maxDurationSeconds : Int := 9223372036854775

/-- `chrono::Duration::seconds`, which panics outside `±maxDurationSeconds`. -/
def durationSeconds (seconds : Int) : Option Int :=
  if -maxDurationSeconds ≤ seconds ∧ seconds ≤ maxDurationSeconds then some seconds else none

/-- The Unix second of chrono's first instant, `-262144-01-01T00:00:00Z`. -/
def minTimestamp : Int := -8334632851200

/-- The Unix second of chrono's last instant, `+262143-12-31T23:59:59.999999999Z`. -/
def maxTimestamp : Int := 8210298412799

/-- `DateTime<Utc> + Duration`, on the Unix second: it panics past chrono's range. -/
def dateTimeAdd (timestamp seconds : Int) : Option Int :=
  if minTimestamp ≤ timestamp + seconds ∧ timestamp + seconds ≤ maxTimestamp then
    some (timestamp + seconds)
  else
    none

/-- Nanoseconds in a second. -/
def nanosPerSecond : Nat := 1000000000

/--
`Instant + Duration::from_secs(secs)` on an instant counted in nanoseconds:
the monotonic clock keeps its seconds in an `i64`, so the sum panics when
`secs` does not fit an `i64` or the seconds overflow it.
-/
def instantAdd (instant : Nat) (secs : UInt64) : Option Nat :=
  if secs.toNat ≤ i64Max ∧ instant / nanosPerSecond + secs.toNat ≤ i64Max then
    some (instant + secs.toNat * nanosPerSecond)
  else
    none

/-- The readings of `chrono::Utc::now()` and `tokio::time::Instant::now()`, each within its type. -/
structure Clock where
  /-- The Unix second of the wall clock, `Utc::now().timestamp()`. -/
  wall : Int
  /-- The monotonic clock, in nanoseconds. -/
  monotonic : Nat
  wall_mem : minTimestamp ≤ wall ∧ wall ≤ maxTimestamp
  monotonic_le : monotonic / nanosPerSecond ≤ i64Max
  deriving DecidableEq

/-- The fields of `KeepAliveTicket` that the garbage collector and its clients read. -/
structure KeepAliveTicket where
  ticket : String
  /-- The Unix second at which the ticket becomes invalid. -/
  executionDate : Int
  /-- The monotonic deadline the garbage collector sleeps until, in nanoseconds. -/
  executionInstant : Nat
  deriving Repr, DecidableEq

namespace KeepAliveTicket

/-- `KeepAliveTicket::new(pod, ttl)` at `clock`; `none` where it panics. -/
def new (clock : Clock) (pod : String) (ttl : UInt64) : Option KeepAliveTicket := do
  let duration ← durationSeconds (asI64 ttl)
  let executionDate ← dateTimeAdd clock.wall duration
  let executionInstant ← instantAdd clock.monotonic ttl
  pure { ticket := pod, executionDate := executionDate, executionInstant := executionInstant }

/-- Below `2^63`, `ttl as i64` is `ttl`. -/
theorem asI64_of_lt {ttl : UInt64} (small : ttl.toNat < 2 ^ 63) : asI64 ttl = ttl.toNat := by
  have doubled : 2 * ttl.toBitVec.toNat < 2 ^ 64 := by
    change 2 * ttl.toNat < 2 ^ 64
    omega
  rw [asI64, BitVec.toInt_eq_toNat_cond, if_pos doubled]
  rfl

/-- From `2^63` on, `Instant + Duration::from_secs(ttl)` panics, whatever the instant. -/
theorem instantAdd_of_ge {ttl : UInt64} (large : 2 ^ 63 ≤ ttl.toNat) (instant : Nat) :
    instantAdd instant ttl = none :=
  if_neg fun fits => by simp only [i64Max] at fits; omega

/-- `KeepAliveTicket::new` in closed form: one range check on each clock. -/
theorem new_eq (clock : Clock) (pod : String) (ttl : UInt64) :
    new clock pod ttl =
      if clock.wall + ttl.toNat ≤ maxTimestamp ∧ clock.monotonic / nanosPerSecond + ttl.toNat ≤ i64Max then
        some
          { ticket := pod
            executionDate := clock.wall + ttl.toNat
            executionInstant := clock.monotonic + ttl.toNat * nanosPerSecond }
      else
        none := by
  have inRange := clock.wall_mem
  simp only [minTimestamp, maxTimestamp] at inRange
  by_cases small : ttl.toNat < 2 ^ 63
  · by_cases fits : clock.wall + ttl.toNat ≤ maxTimestamp
    · have duration : durationSeconds (asI64 ttl) = some (ttl.toNat : Int) := by
        rw [asI64_of_lt small]
        exact if_pos (by simp only [maxDurationSeconds, maxTimestamp] at fits ⊢; omega)
      have date : dateTimeAdd clock.wall ttl.toNat = some (clock.wall + ttl.toNat) :=
        if_pos ⟨by simp only [minTimestamp]; omega, fits⟩
      have instant : instantAdd clock.monotonic ttl =
          if clock.monotonic / nanosPerSecond + ttl.toNat ≤ i64Max then
            some (clock.monotonic + ttl.toNat * nanosPerSecond)
          else none := by
        have fitsI64 : ttl.toNat ≤ i64Max := by simp only [i64Max]; omega
        simp [instantAdd, fitsI64]
      simp only [new, duration, Option.pure_def, Option.bind_eq_bind, Option.some_bind, date, instant,
        fits, true_and]
      split <;> rfl
    · have date : dateTimeAdd clock.wall ttl.toNat = none := if_neg fun ⟨_, inside⟩ => fits inside
      rw [if_neg fun inside => fits inside.1]
      simp only [new, asI64_of_lt small, durationSeconds]
      split_ifs <;> simp [date]
  · simp only [new, instantAdd_of_ge (Nat.le_of_not_lt small)]
    have room : ¬ clock.monotonic / nanosPerSecond + ttl.toNat ≤ i64Max := by
      simp only [i64Max, nanosPerSecond]
      omega
    simp [room]

/-- A ticket's deadline is `ttl` seconds after the instant it was made at. -/
theorem executionInstant_of_new {clock : Clock} {pod : String} {ttl : UInt64} {ticket : KeepAliveTicket}
    (made : new clock pod ttl = some ticket) :
    ticket.executionInstant = clock.monotonic + ttl.toNat * nanosPerSecond := by
  rw [new_eq] at made
  split_ifs at made
  cases made
  rfl

/--
A ticket is made exactly when the wall clock plus `ttl` stays within chrono's
range and the monotonic seconds plus `ttl` fit an `i64`; its
`execution_date` is then the creation second plus `ttl`, with no wraparound,
and its deadline `ttl` seconds after the creation instant.
-/
theorem new_eq_some_iff (clock : Clock) (pod : String) (ttl : UInt64) (ticket : KeepAliveTicket) :
    new clock pod ttl = some ticket ↔
      clock.wall + ttl.toNat ≤ maxTimestamp ∧
        clock.monotonic / nanosPerSecond + ttl.toNat ≤ i64Max ∧
        ticket.ticket = pod ∧
        ticket.executionDate = clock.wall + ttl.toNat ∧
        ticket.executionInstant = clock.monotonic + ttl.toNat * nanosPerSecond := by
  rw [new_eq]
  split_ifs with fits
  · constructor
    · rintro ⟨⟩
      exact ⟨fits.1, fits.2, rfl, rfl, rfl⟩
    · rintro ⟨-, -, named, dated, due⟩
      cases ticket
      simp_all
  · simp only [false_iff, not_and]
    exact fun inside room => absurd ⟨inside, room⟩ fits

/-- Every `ttl` from `2^63` on makes `KeepAliveTicket::new` panic, at every clock. -/
theorem new_of_ge {ttl : UInt64} (large : 2 ^ 63 ≤ ttl.toNat) (clock : Clock) (pod : String) :
    new clock pod ttl = none := by
  simp only [new, instantAdd_of_ge large]
  cases durationSeconds (asI64 ttl) <;> simp

end KeepAliveTicket

/-- `DEFAULT_TTL`: thirty minutes. -/
def defaultTtl : UInt64 := 60 * 30

/-- The `ttl` that `deploy` in `acm/src/main.rs` passes on: `ttl.unwrap_or(DEFAULT_TTL)`. -/
def deployTtl (ttl : Option UInt64) : UInt64 := ttl.getD defaultTtl

end ConnectorManager
