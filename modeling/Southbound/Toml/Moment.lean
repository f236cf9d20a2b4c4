import Southbound.Text.Numeral
import Southbound.Toml.Lexeme

/-!
# Dates and times of a document

A moment is a date, a time or both with an optional offset.  What a moment says is of no use to the
provider; the readers here only decide where one ends and whether it exists in the calendar.
-/

namespace Southbound.Toml

open Southbound.Text (digitsValue)

/-- A number of exactly `count` digits in the given bounds. -/
def fixedNumber (count lo hi : Nat) (cs : List Char) : Option (Nat × List Char) :=
  let digits := cs.take count
  let n := digitsValue 10 digits
  if digits.length = count ∧ digits.all isDigit ∧ lo ≤ n ∧ n ≤ hi then some (n, cs.drop count)
  else none

/-- Takes the given character. -/
def literal (c : Char) : List Char → Option (List Char)
  | d :: rest => if d = c then some rest else none
  | [] => none

/-- Whether the year has a leap day. -/
def isLeapYear (year : Nat) : Bool := (year % 4 == 0 && year % 100 != 0) || year % 400 == 0

/-- How many days the month has. -/
def daysInMonth (year month : Nat) : Nat :=
  if month = 2 then (if isLeapYear year then 29 else 28)
  else if month = 4 ∨ month = 6 ∨ month = 9 ∨ month = 11 then 30
  else 31

/-- A day of the calendar. -/
def date (cs : List Char) : Option (List Char) := do
  let (year, cs) ← fixedNumber 4 0 9999 cs
  let (month, cs) ← fixedNumber 2 1 12 (← literal '-' cs)
  let (_, cs) ← fixedNumber 2 1 (daysInMonth year month) (← literal '-' cs)
  some cs

/-- Skips a fraction of a second, if there is one. -/
def skipSecondFraction : List Char → List Char
  | '.' :: d :: rest => if isDigit d then rest.dropWhile isDigit else '.' :: d :: rest
  | cs => cs

/-- A time of day; a leap second is allowed. -/
def time (cs : List Char) : Option (List Char) := do
  let (_, cs) ← fixedNumber 2 0 23 cs
  let (_, cs) ← fixedNumber 2 0 59 (← literal ':' cs)
  let (_, cs) ← fixedNumber 2 0 60 (← literal ':' cs)
  some (skipSecondFraction cs)

/-- An offset from universal time. -/
def offset : List Char → Option (List Char)
  | c :: rest =>
    if c = 'Z' ∨ c = 'z' then some rest
    else if c = '+' ∨ c = '-' then do
      let (_, rest) ← fixedNumber 2 0 23 rest
      let (_, rest) ← fixedNumber 2 0 59 (← literal ':' rest)
      some rest
    else none
  | [] => none

/-- The time that may follow a date, with the offset that may follow the time. -/
def skipTimeOfDate (cs : List Char) : List Char :=
  match cs with
  | c :: rest =>
    if c = 'T' ∨ c = 't' ∨ c = ' ' then
      match time rest with
      | some rest => (offset rest).getD rest
      | none => cs
    else cs
  | [] => []

/-- A date with or without a time, or a time. -/
def moment (cs : List Char) : Option (List Char) := ((date cs).map skipTimeOfDate).or (time cs)

end Southbound.Toml
