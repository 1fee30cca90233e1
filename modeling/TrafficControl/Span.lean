import TrafficControl.Checked
import TrafficControl.Retry

namespace TrafficControl

structure Span where
  seconds : UInt64
  nanos : UInt32
  nanos_lt : nanos.toNat < nanosPerSecond
  deriving DecidableEq, Repr

namespace Span

def total (s : Span) : Nat := s.seconds.toNat * nanosPerSecond + s.nanos.toNat

def longest : Span := ⟨18446744073709551615, 999999999, by decide⟩

instance : LE Span :=
  ⟨fun s t => s.seconds < t.seconds ∨ s.seconds = t.seconds ∧ s.nanos ≤ t.nanos⟩

instance (s t : Span) : Decidable (s ≤ t) := inferInstanceAs (Decidable (_ ∨ _ ∧ _))

instance : Min Span := minOfLe

theorem toNat_millisFraction (millis : UInt64) :
    ((millis % 1000).toUInt32 * 1000000).toNat = millis.toNat % 1000 * nanosPerMilli := by
  have small : millis.toNat % 1000 < 1000 := Nat.mod_lt _ (by decide)
  -- less than a thousand milliseconds are left, so that neither the narrowing nor the product wraps
  have part : (millis % 1000).toUInt32.toNat = millis.toNat % 1000 := by
    rw [UInt64.toNat_toUInt32, UInt64.toNat_mod]
    exact Nat.mod_eq_of_lt (Nat.lt_trans small (by decide))
  rw [UInt32.toNat_mul, part]
  refine Nat.mod_eq_of_lt (?_ : millis.toNat % 1000 * 1000000 < 2 ^ 32)
  omega

def ofMillis (millis : UInt64) : Span where
  seconds := millis / 1000
  nanos := (millis % 1000).toUInt32 * 1000000
  nanos_lt := by
    rw [toNat_millisFraction]
    simp only [nanosPerMilli, nanosPerSecond]
    omega

def perSecond : UInt64 := .ofNat nanosPerSecond

theorem toNat_rest (nanos : UInt64) :
    (nanos % perSecond).toUInt32.toNat = nanos.toNat % nanosPerSecond := by
  have small : nanos.toNat % nanosPerSecond < nanosPerSecond := Nat.mod_lt _ (by decide)
  rw [UInt64.toNat_toUInt32, UInt64.toNat_mod]
  exact Nat.mod_eq_of_lt (Nat.lt_trans small (by decide))

theorem rest_lt (nanos : UInt64) : (nanos % perSecond).toUInt32.toNat < nanosPerSecond := by
  rw [toNat_rest]
  exact Nat.mod_lt _ (by decide)

/-- The span that many times. Where that is too long to be kept, the longest one stands for it. -/
def times? (s : Span) (factor : UInt32) : Option Span :=
  (Checked.mul? s.nanos.toUInt64 factor.toUInt64).map fun nanos =>
    let carry := nanos / perSecond
    match (Checked.mul? s.seconds factor.toUInt64).bind (Checked.add? · carry) with
    | none => longest
    | some seconds => ⟨seconds, (nanos % perSecond).toUInt32, rest_lt nanos⟩

end Span

namespace RetryPolicy

def ofSpans (initial max : Span) : RetryPolicy := ⟨initial.total, max.total⟩

def factor (attempt : UInt32) : UInt32 :=
  let places := min attempt 31
  if places < 32 then 1 <<< places else 4294967295

/-- The delay on spans; absent only where a product does not fit. -/
def spanDelay? (initial max : Span) (attempt : UInt32) : Option Span :=
  (initial.times? (factor attempt)).map (min · max)

end RetryPolicy

end TrafficControl
