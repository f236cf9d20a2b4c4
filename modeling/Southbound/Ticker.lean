/-!
# Tickers

A `Ticker` says when the next pass is due.  A pass that starts on time is followed by one a period
after it was due; one that starts late is followed by one a period after it really started.  So
passes never come in a burst to catch up.  All times are in milliseconds.
-/

namespace Southbound

/-- When the next pass is due, and how far passes are apart. -/
structure Ticker where
  due : Nat
  period : Nat
deriving DecidableEq

namespace Ticker

/-- How much after its time a pass may start and still count as on time. -/
def tolerance : Nat := 5

/-- Whether the pass is due. -/
def isDue (t : Ticker) (now : Nat) : Bool := decide (t.due ≤ now)

/-- The ticker after a pass that starts now. -/
def fire (t : Ticker) (now : Nat) : Ticker :=
  { t with due := (if t.due + tolerance < now then now else t.due) + t.period }

/-- How many passes can at most start before the ticker is in time again. -/
def arrears (t : Ticker) (now : Nat) : Nat :=
  if t.due + tolerance < now then 1 else now + 1 - t.due

/-- A pass that starts late is followed by one a period after its start. -/
theorem due_fire (t : Ticker) {now : Nat} (late : t.due + tolerance < now) :
    (t.fire now).due = now + t.period := by simp [fire, late]

/-- A pass that starts on time is followed by one a period after it was due. -/
theorem due_fire_of_le (t : Ticker) {now : Nat} (onTime : now ≤ t.due + tolerance) :
    (t.fire now).due = t.due + t.period := by simp [fire, Nat.not_lt.2 onTime]

/-- A pass that is due makes the arrears smaller. -/
theorem arrears_fire_lt (t : Ticker) {now : Nat} (positive : 0 < t.period)
    (due : t.isDue now = true) : (t.fire now).arrears now < t.arrears now := by
  have due : t.due ≤ now := of_decide_eq_true due
  by_cases late : t.due + tolerance < now
  · simp only [arrears, due_fire t late, if_pos late]
    split <;> omega
  · simp only [arrears, due_fire_of_le t (Nat.not_lt.1 late), if_neg late]
    split <;> omega

end Ticker

end Southbound
