import Southbound.Deployment
import Southbound.Reconciliation
import Southbound.Ticker

/-!
# The schedule of passes

A schedule starts a pass whenever its ticker says so.  Passes do not overlap: while one is under
way no other starts, and when it ends the next may be due at once.  A pass that breaks down is
reported and the schedule goes on.
-/

namespace Southbound

/-- A ticker, and what is left of the pass that is under way. -/
structure Schedule where
  ticker : Ticker
  pass : Option (Job Unit)

namespace Schedule

/-- The first pass is due after the initial delay. -/
def begin (s : Settings) (now : Nat) : Schedule := ⟨⟨now + s.initialDelay, s.period⟩, none⟩

/-- Whether a pass is to be started. -/
def isDue (schedule : Schedule) (now : Nat) : Bool :=
  schedule.pass.isNone && schedule.ticker.isDue now

/-- Starts a pass. -/
def startPass (schedule : Schedule) (s : Settings) (now : Nat) : Schedule :=
  ⟨schedule.ticker.fire now, some (Reconciliation.reconcileAll s)⟩

/-- Puts in place what is left of the pass. -/
def withPass (schedule : Schedule) (pass : Option (Job Unit)) : Schedule :=
  { schedule with pass := pass }

end Schedule

end Southbound
