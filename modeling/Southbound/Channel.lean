/-!
# Event channels

A channel keeps the events that a listener has not seen, but no more of them than it has slots.  The
number of slots is the capacity rounded up to a power of two.  A listener that comes too late misses
the oldest events; it is told how many.
-/

namespace Southbound

/-- What a listener finds when it comes. -/
structure Backlog (ε : Type) where
  /-- How many events were lost. -/
  missed : Nat
  /-- The events that were kept, the oldest first. -/
  kept : List ε

namespace Backlog

variable {ε : Type}

/-- What is left of the events that were sent since the listener came last. -/
def ofSent (capacity : Nat) (sent : List ε) : Backlog ε :=
  let missed := sent.length - capacity.nextPowerOfTwo
  ⟨missed, sent.drop missed⟩

end Backlog

end Southbound
