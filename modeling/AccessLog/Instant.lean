/-!
# Instants

A point of time, counted in nanoseconds from the beginning of 1970 in UTC; earlier instants are negative.
Comparing and subtracting instants needs no calendar.
-/

namespace AccessLog

structure Instant where
  nanos : Int
  deriving DecidableEq, Repr

namespace Instant

instance : Inhabited Instant := ⟨⟨0⟩⟩

def nanosPerSecond : Int := 1000000000

/-- The nanoseconds are added to the seconds, whatever their number. -/
def ofSeconds (seconds nanos : Int) : Instant := ⟨seconds * nanosPerSecond + nanos⟩

def seconds (t : Instant) : Int := t.nanos.fdiv nanosPerSecond

def fraction (t : Instant) : Nat := (t.nanos.fmod nanosPerSecond).toNat

/-- Whole microseconds from `start` to `now`; zero if `now` is earlier. -/
def microsUntil (start now : Instant) : Nat := (now.nanos - start.nanos).toNat / 1000

end Instant

def longestMicros : Nat := 0xFFFF_FFFF_FFFF_FFFF

end AccessLog
