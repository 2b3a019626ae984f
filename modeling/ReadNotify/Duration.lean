/-!
# Durations

A span of time as whole seconds and a remainder in nanoseconds, the form in
which settings give their timeouts and pauses.

The readiness calls of the system take their timeout in whole milliseconds,
as a signed machine word in which a negative value means "without end".
`waitMillis` is that conversion. It rounds up, so that a timeout below one
millisecond still waits, and it stops at the largest word, so that a long
timeout never turns into an endless one.

## Main definitions

* `Duration`: Whole seconds and nanoseconds below one second.
* `Duration.ofParts`: A duration from its two parts, or which part is wrong.
* `Duration.totalNanos`: The whole span in nanoseconds.
* `Duration.waitMillis`: The span as a readiness timeout.
* `Duration.text`: The span in the largest unit it fills.
-/

namespace ReadNotify

/-- A span of time. The seconds fit sixty-four bits and the nanoseconds stay
    below one second. -/
structure Duration where
  secs : Nat
  nanos : Nat
  secs_lt : secs < UInt64.size := by decide
  nanos_lt : nanos < 1000000000 := by decide
  deriving DecidableEq

namespace Duration

/-- Which part of a duration is out of range. -/
inductive Fault where
  | secs
  | nanos
  deriving DecidableEq, Repr

/-- A duration from its parts. The seconds are looked at first; a part that
    is missing counts as out of range. -/
def ofParts (secs nanos : Option Nat) : Except Fault Duration :=
  match secs with
  | none => .error .secs
  | some s =>
    if hs : s < UInt64.size then
      match nanos with
      | none => .error .nanos
      | some n => if hn : n < 1000000000 then .ok ⟨s, n, hs, hn⟩ else .error .nanos
    else .error .secs

/-- No time at all. -/
def zero : Duration where
  secs := 0
  nanos := 0

/-- One second. -/
def second : Duration where
  secs := 1
  nanos := 0

/-- The whole span in nanoseconds. -/
def totalNanos (t : Duration) : Nat :=
  t.secs * 1000000000 + t.nanos

instance : LE Duration where
  le a b := a.totalNanos ≤ b.totalNanos

instance (a b : Duration) : Decidable (a ≤ b) :=
  inferInstanceAs (Decidable (a.totalNanos ≤ b.totalNanos))

/-- The largest timeout a readiness call can be given, in milliseconds. -/
def maxMillis : Nat := 0x7fffffff

/-- The span in whole milliseconds, rounded up. -/
def ceilMillis (t : Duration) : Nat :=
  (t.totalNanos + 999999) / 1000000

/-- The span as the timeout of a readiness call: milliseconds rounded up, and
    no more than the largest signed word. -/
def waitMillis (t : Duration) : Int32 :=
  Int32.ofNat (min t.ceilMillis maxMillis)

/-- The digits of a fraction of `width` places, without trailing zeros. -/
def fractionDigits (width fraction : Nat) : String :=
  let digits := (Nat.toDigits 10 fraction)
  -- The digits that are left of the fraction are zeros.
  let padded := List.replicate (width - digits.length) '0' ++ digits
  String.ofList (padded.reverse.dropWhile (· == '0')).reverse

/-- An amount with its fraction of `width` places, then the unit. A fraction
    of zero is left out together with its point. -/
def amountText (whole width fraction : Nat) (unit : String) : String :=
  if fraction = 0 then toString whole ++ unit
  else toString whole ++ "." ++ fractionDigits width fraction ++ unit

/-- The span in seconds, milliseconds, microseconds or nanoseconds: the
    largest unit of which it holds at least one, nanoseconds if none. -/
def text (t : Duration) : String :=
  if 0 < t.secs then amountText t.secs 9 t.nanos "s"
  else if 1000000 ≤ t.nanos then
    amountText (t.nanos / 1000000) 6 (t.nanos % 1000000) "ms"
  else if 1000 ≤ t.nanos then
    amountText (t.nanos / 1000) 3 (t.nanos % 1000) "µs"
  else amountText t.nanos 0 0 "ns"

end Duration

end ReadNotify
