/-!
# Durations in text

A duration of whole milliseconds is shown in seconds from one second on and in milliseconds below;
a fraction of a second has no superfluous zeros, and no time at all is shown in the smallest unit.
-/

namespace Southbound.Text

/-- The fraction digits of a number of thousandths, without superfluous zeros. -/
def thousandths (n : Nat) : String :=
  let digits := (Nat.toDigits 10 (1000 + n)).drop 1
  String.ofList (digits.reverse.dropWhile (· == '0')).reverse

/-- A duration in milliseconds, in words. -/
def duration (ms : Nat) : String :=
  if ms = 0 then "0ns"
  else if ms < 1000 then s!"{ms}ms"
  else if ms % 1000 = 0 then s!"{ms / 1000}s"
  else s!"{ms / 1000}.{thousandths (ms % 1000)}s"

end Southbound.Text
