namespace TrafficControl

def nanosPerMilli : Nat := 1000000

def nanosPerSecond : Nat := 1000000000

def maxNanos : Nat := UInt64.size * nanosPerSecond - 1

structure RetryPolicy where
  initial : Nat
  max : Nat
  deriving DecidableEq, Repr

namespace RetryPolicy

def ofMillis (initial max : Nat) : RetryPolicy := ⟨initial * nanosPerMilli, max * nanosPerMilli⟩

instance : Inhabited RetryPolicy := ⟨ofMillis 100 5000⟩

/-- From the thirty-second attempt on the delay does not grow any more. -/
def doublings (attempt : Nat) : Nat := min attempt 31

def delay (p : RetryPolicy) (attempt : Nat) : Nat :=
  min (min (p.initial <<< doublings attempt) maxNanos) p.max

end RetryPolicy

end TrafficControl
