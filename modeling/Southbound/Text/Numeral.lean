/-!
# Numerals

Numbers occur in addresses, ports and configuration files, each place with its own bounds: how
many digits are allowed, whether a numeral may start with a zero, and the largest value.
`NumeralRule` states those bounds, and `readNumeral` takes the longest run of digits off a text
and checks it against a rule.
-/

namespace Southbound.Text

/-- The value of a digit in bases up to sixteen; letters count in either case. -/
def digitValue (c : Char) : Option Nat :=
  if '0' ≤ c ∧ c ≤ '9' then some (c.toNat - '0'.toNat)
  else if 'a' ≤ c ∧ c ≤ 'f' then some (c.toNat - 'a'.toNat + 10)
  else if 'A' ≤ c ∧ c ≤ 'F' then some (c.toNat - 'A'.toNat + 10)
  else none

/-- Whether the character is a digit in the base. -/
def isDigitIn (base : Nat) (c : Char) : Bool := (digitValue c).any (· < base)

/-- The number that a run of digits denotes. -/
def digitsValue (base : Nat) (digits : List Char) : Nat :=
  digits.foldl (fun n c => base * n + (digitValue c).getD 0) 0

/-- What a numeral may look like at one place of a text. -/
structure NumeralRule where
  /-- The base of the digits. -/
  base : Nat
  /-- The largest number of digits; `none` is no limit. -/
  maxDigits : Option Nat
  /-- Whether a numeral of several digits may start with a zero. -/
  leadingZero : Bool
  /-- The largest value. -/
  limit : Nat

/-- Takes the longest run of digits off the text; `none` if the run breaks the rule. -/
def readNumeral (rule : NumeralRule) (cs : List Char) : Option (Nat × List Char) :=
  let digits := cs.takeWhile (isDigitIn rule.base)
  let value := digitsValue rule.base digits
  if digits.isEmpty ∨ rule.maxDigits.any (· < digits.length)
      ∨ (rule.leadingZero = false ∧ digits.head? = some '0' ∧ 1 < digits.length)
      ∨ rule.limit < value then
    none
  else
    some (value, cs.dropWhile (isDigitIn rule.base))

theorem readNumeral_le {rule : NumeralRule} {cs rest : List Char} {n : Nat}
    (h : readNumeral rule cs = some (n, rest)) : n ≤ rule.limit := by
  simp only [readNumeral] at h
  split at h
  · simp at h
  · next hc =>
    simp only [Option.some.injEq, Prod.mk.injEq] at h
    have := fun e => hc (Or.inr (Or.inr (Or.inr e)))
    omega

/-- A whole text that is one decimal number of at most `limit`; a plus sign may stand in front. -/
def readCount (limit : Nat) (cs : List Char) : Option Nat :=
  let digits := match cs with
    | '+' :: rest => rest
    | _ => cs
  match readNumeral ⟨10, none, true, limit⟩ digits with
  | some (n, []) => some n
  | _ => none

/-- The decimal text of a number. -/
def decimal (n : Nat) : List Char := Nat.toDigits 10 n

/-- The hexadecimal text of a number, in small letters. -/
def hexadecimal (n : Nat) : List Char := Nat.toDigits 16 n

end Southbound.Text
