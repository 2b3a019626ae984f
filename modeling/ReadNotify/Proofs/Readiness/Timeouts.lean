import ReadNotify.Config
import Mathlib.Algebra.Order.Ring.Int
import Mathlib.Order.Bounds.Basic
import Mathlib.Tactic.Lift

/-!
# Timeouts in Milliseconds

A readiness call waits for whole milliseconds, and settings give their timeouts in
nanoseconds. The conversion may not go wrong at either end. A timeout that is not
zero must not become zero, or a worker would ask again and again without ever waiting.
And a long one must not become negative, or it would wait without end.

Rounding up is what keeps the one end. `ceilMillis_le_iff` says what it means: a number
of milliseconds is large enough exactly if it covers the span. Everything else about the
rounded value follows from that, that it is the least such number, that it grows with the
span, and that only no time at all is none.

Stopping at the largest word keeps the other end. The rounded value of the longest span
has far more digits than a signed word of 32 bits can hold, so narrowing it without
looking would leave some arbitrary value, even a negative one.

What is reckoned here with numbers of any size is reckoned by a machine with words. The
largest product on the way needs 94 bits, and the words have 128.

## Main definitions

* `Duration.fit`: A number, if a word of so many bits can hold it.
* `Duration.reckon`: The conversion in such words.

## Theorems

* `reckon_eq_some`: Words of 94 bits are wide enough for the conversion.
* `ceilMillis_le_iff`: How many milliseconds cover a span.
* `toInt_waitMillis`: The rounded value, or the largest word.
* `waitMillis_least`: Everything a timeout has to be.
-/

namespace ReadNotify

namespace Duration

/-- A number, if a word of so many bits can hold it. -/
def fit (bits n : Nat) : Option Nat := if n < 2 ^ bits then some n else none

/-- The quotient of two numbers, rounded up: it is rounded down first, and one is added if
    there is a remainder. -/
def divUp (bits a b : Nat) : Option Nat :=
  if 0 < a % b then fit bits (a / b + 1) else some (a / b)

/-- The timeout of a readiness call, reckoned in words of so many bits: there is none if
    some number on the way does not fit. The result is narrowed to 32 bits at last. -/
def reckon (bits : Nat) (t : Duration) : Option Int32 := do
  let whole ← fit bits (t.secs * 1000000000)
  let total ← fit bits (whole + t.nanos)
  let millis ← divUp bits total 1000000
  return Int32.ofNat (min millis maxMillis)

variable {t u : Duration} {bits : Nat}

/-! ### Words -/

theorem fit_of_lt {n : Nat} (h : n < 2 ^ bits) : fit bits n = some n := if_pos h

/-- No span has more than 94 bits. -/
theorem totalNanos_lt (t : Duration) : t.totalNanos < 2 ^ 94 := by
  have hsecs := t.secs_lt
  have hnanos := t.nanos_lt
  simp only [UInt64.size, totalNanos] at hsecs ⊢
  omega

/-- A quotient fits where what was divided fits, even if it is rounded up. -/
theorem divUp_eq_some {n : Nat} (h : n < 2 ^ bits) :
    divUp bits n 1000000 = some ((n + 999999) / 1000000) := by
  unfold divUp
  by_cases hrest : 0 < n % 1000000
  · have hless : n / 1000000 + 1 ≤ n := by omega
    rw [if_pos hrest, fit_of_lt (Nat.lt_of_le_of_lt hless h)]
    exact congrArg some (by omega)
  · rw [if_neg hrest]
    exact congrArg some (by omega)

/-- In words that can hold the longest span nothing gets lost. -/
theorem reckon_eq_some (hbits : 94 ≤ bits) (t : Duration) : t.reckon bits = some t.waitMillis := by
  have hspan : t.totalNanos < 2 ^ bits :=
    Nat.lt_of_lt_of_le t.totalNanos_lt (Nat.pow_le_pow_right Nat.two_pos hbits)
  have hwhole : t.secs * 1000000000 < 2 ^ bits :=
    Nat.lt_of_le_of_lt (Nat.le_add_right _ t.nanos) hspan
  have htotal : fit bits (t.secs * 1000000000 + t.nanos) = some t.totalNanos := by
    rw [← totalNanos, fit_of_lt hspan]
  have hmillis : divUp bits t.totalNanos 1000000 = some t.ceilMillis := by
    rw [ceilMillis, divUp_eq_some hspan]
  rw [reckon, fit_of_lt hwhole, Option.bind_eq_bind, Option.bind_some, htotal, Option.bind_some,
    hmillis, Option.bind_some, Option.pure_def, waitMillis]

/-- One bit less is not enough for the longest span. -/
example :
    let t : Duration := { secs := UInt64.size - 1, nanos := 999999999 }
    t.reckon 93 = none ∧ t.reckon 94 = some (Int32.ofNat maxMillis) := by
  decide

/-! ### Rounding up -/

/-- How many milliseconds cover a span. -/
theorem ceilMillis_le_iff (t : Duration) (m : Nat) :
    t.ceilMillis ≤ m ↔ t.totalNanos ≤ m * 1000000 := by
  unfold ceilMillis
  omega

/-- The rounded value is the least number of milliseconds that covers the span. -/
theorem isLeast_ceilMillis (t : Duration) :
    IsLeast {m : ℤ | (t.totalNanos : ℤ) ≤ m * 10 ^ 6} t.ceilMillis := by
  constructor
  · have hcovers := (t.ceilMillis_le_iff t.ceilMillis).mp (Nat.le_refl _)
    rw [Set.mem_ofPred_eq]
    omega
  · intro m hm
    rw [Set.mem_ofPred_eq] at hm
    -- A number that covers a span is not negative.
    lift m to ℕ using by omega
    exact Int.ofNat_le.mpr ((t.ceilMillis_le_iff m).mpr (by omega))

theorem ceilMillis_mono (h : t ≤ u) : t.ceilMillis ≤ u.ceilMillis := by
  have hcovers := (u.ceilMillis_le_iff u.ceilMillis).mp (Nat.le_refl _)
  exact (t.ceilMillis_le_iff _).mpr (Nat.le_trans h hcovers)

theorem ceilMillis_eq_zero_iff (t : Duration) : t.ceilMillis = 0 ↔ t = zero := by
  rw [← Nat.le_zero, ceilMillis_le_iff, Nat.zero_mul]
  rcases t with ⟨secs, nanos, hsecs, hnanos⟩
  simp only [totalNanos, zero, mk.injEq]
  omega

/-- A span of less than a second is covered by a thousand milliseconds. -/
theorem ceilMillis_le_thousand (h : ¬ second ≤ t) : t.ceilMillis ≤ 1000 := by
  have hlt : t.totalNanos < second.totalNanos := Nat.lt_of_not_le h
  have hsecond : second.totalNanos = 1000 * 1000000 := rfl
  exact (t.ceilMillis_le_iff 1000).mpr (by omega)

/-! ### The word a readiness call is given -/

/-- The word holds the rounded value if it can, and else it is the largest one. -/
theorem toInt_waitMillis (t : Duration) :
    t.waitMillis.toInt = min (t.ceilMillis : ℤ) (2 ^ 31 - 1) := by
  have hfits : min t.ceilMillis maxMillis < 2 ^ 31 :=
    Nat.lt_of_le_of_lt (Nat.min_le_right _ _) (by decide)
  rw [waitMillis, Int32.toInt_ofNat_of_lt hfits, maxMillis]
  omega

/-- The timeout of a readiness call. Reckoned in words of 128 bits nothing on the way
    overflows, and the result is neither negative nor more than the largest signed word of
    32 bits. It is the least number of milliseconds that covers the span, if that number
    fits such a word, and the largest word otherwise. Only no time at all becomes zero, a
    longer span never becomes less, and no configuration is accepted whose timeout is more
    than a thousand milliseconds. -/
theorem waitMillis_least (t : Duration) :
    t.reckon 128 = some t.waitMillis ∧
      (0 ≤ t.waitMillis.toInt ∧ t.waitMillis.toInt ≤ 2 ^ 31 - 1) ∧
      (∃ m : ℤ, IsLeast {m : ℤ | (t.totalNanos : ℤ) ≤ m * 10 ^ 6} m ∧
        (m ≤ 2 ^ 31 - 1 → t.waitMillis.toInt = m) ∧
        (2 ^ 31 - 1 < m → t.waitMillis.toInt = 2 ^ 31 - 1)) ∧
      (t.waitMillis = 0 ↔ t = zero) ∧
      (∀ u, t ≤ u → t.waitMillis ≤ u.waitMillis) ∧
      ∀ config : Config, config.validate = .ok () → config.pollTimeout.waitMillis ≤ 1000 := by
  have hword := t.toInt_waitMillis
  refine ⟨reckon_eq_some (by decide) t, ?_, ⟨t.ceilMillis, t.isLeast_ceilMillis, ?_, ?_⟩, ?_,
    fun u h => ?_, fun config h => ?_⟩
  · omega
  · intro hfits
    rw [hword, min_eq_left hfits]
  · intro hlarge
    rw [hword, min_eq_right hlarge.le]
  · rw [← Int32.toInt_inj, hword, ← ceilMillis_eq_zero_iff, Int32.toInt_zero]
    omega
  · rw [Int32.le_iff_toInt_le, hword, toInt_waitMillis]
    have hmono := ceilMillis_mono h
    omega
  · have hceil := ceilMillis_le_thousand ((Config.validate_eq_ok_iff config).mp h).2.2
    rw [Int32.le_iff_toInt_le, toInt_waitMillis]
    have hthousand : (1000 : Int32).toInt = 1000 := rfl
    omega

end Duration

end ReadNotify
