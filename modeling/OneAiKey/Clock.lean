/-
  OneAiKey.Clock — monotonic clock values and the readings of one operation.

  `Instant` and `Duration` count nanoseconds.  An `Instant` of the standard
  library holds a signed 64-bit number of seconds: adding a duration that
  leaves that range panics, which `Instant.add` models by `none`.

  One operation of the key pool calls `Instant::now()` up to three times.
  `Readings` carries these values together with the fact that the clock does
  not go back between them.
-/
import Mathlib.Tactic.Linarith

namespace OneAiKey

/-- A monotonic clock value, in nanoseconds. -/
abbrev Instant := Nat

/-- A span of time, in nanoseconds. -/
abbrev Duration := Nat

/-- Whole seconds as a duration (`Duration::from_secs`). -/
def Duration.fromSecs (seconds : Nat) : Duration := seconds * 1000000000

/-- Milliseconds as a duration (`Duration::from_millis`). -/
def Duration.fromMillis (millis : Nat) : Duration := millis * 1000000

/-- The whole seconds of a duration (`as_secs`). -/
def Duration.asSecs (d : Duration) : Nat := d / 1000000000

/-- The whole milliseconds of a duration (`as_millis`). -/
def Duration.asMillis (d : Duration) : Nat := d / 1000000

/-- The largest number of seconds an `Instant` holds. -/
def Instant.maxSeconds : Nat := 2 ^ 63 - 1

/-- `instant + duration`; `none` is the panic on overflow. -/
def Instant.add (i : Instant) (d : Duration) : Option Instant :=
  if Duration.asSecs (i + d) ≤ Instant.maxSeconds then some (i + d) else none

/-- `deadline.saturating_duration_since(now)`. -/
def Instant.saturatingDurationSince (deadline now : Instant) : Duration := deadline - now

/-- The clock readings of one operation, in the order they are made.  An
operation that reads the clock less often leaves the later ones unused. -/
structure Readings where
  first : Instant
  second : Instant
  third : Instant
  first_le : first ≤ second
  second_le : second ≤ third

namespace Readings

/-- An operation during which the clock shows one value. -/
def at' (now : Instant) : Readings := ⟨now, now, now, Nat.le_refl _, Nat.le_refl _⟩

theorem first_le_third (r : Readings) : r.first ≤ r.third :=
  Nat.le_trans r.first_le r.second_le

end Readings

end OneAiKey
