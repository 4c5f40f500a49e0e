/-! # Throttle

A throttle keeps runs apart by a least interval. Times are nanoseconds on one clock.
-/

namespace ShellDocs.Watch

structure Throttle where
  minInterval : Nat
  lastRun : Option Nat := none
deriving DecidableEq

namespace Throttle

/-- The time left before another run may start. -/
def remaining (t : Throttle) (now : Nat) : Option Nat :=
  t.lastRun.bind fun last =>
    if now - last < t.minInterval then some (t.minInterval - (now - last)) else none

def record (t : Throttle) (now : Nat) : Throttle := { t with lastRun := some now }

end Throttle

end ShellDocs.Watch
