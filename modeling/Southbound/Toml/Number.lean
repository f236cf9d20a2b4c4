import Southbound.Datum
import Southbound.Text.Numeral
import Southbound.Toml.Lexeme

/-!
# Numbers of a document

Integers are decimal with an optional sign, or hexadecimal, octal or binary with a marker and no
sign; they have sixty-four bits.  Floats have a fraction or an exponent or are one of the special
ones.  Single underscores may stand between digits, and decimal integers have no superfluous zeros.

Of a float only its form matters here, with one exception: a number too large for sixty-four bits
of floating point is refused.  `overflows` decides that exactly: the bound is half a unit of the
last place above the largest finite number.
-/

namespace Southbound.Toml

open Southbound.Text (isDigitIn digitsValue)

/-- The digits from one on, with single underscores between them dropped. -/
def digitsFrom (base : Nat) (c : Char) : List Char → List Char × List Char
  | [] => ([c], [])
  | [d] => if isDigitIn base d then ([c, d], []) else ([c], [d])
  | d :: e :: rest =>
    if isDigitIn base d then
      let (digits, rest) := digitsFrom base d (e :: rest)
      (c :: digits, rest)
    else if d = '_' ∧ isDigitIn base e then
      let (digits, rest) := digitsFrom base e rest
      (c :: digits, rest)
    else ([c], d :: e :: rest)

/-- Digits with single underscores between them, the underscores dropped. -/
def digitRun (base : Nat) : List Char → Option (List Char × List Char)
  | [] => none
  | c :: rest => if isDigitIn base c then some (digitsFrom base c rest) else none

/-- Takes a sign, if there is one; the flag says whether it is a minus. -/
def sign : List Char → Bool × List Char
  | '-' :: rest => (true, rest)
  | '+' :: rest => (false, rest)
  | cs => (false, cs)

/-- The digits of a decimal integer: a zero alone, or a run that starts otherwise. -/
def decimalDigits (cs : List Char) : Option (List Char × List Char) :=
  match cs with
  | '0' :: rest => some (['0'], rest)
  | _ => digitRun 10 cs

/-- Integers are below this number, and negative ones not below its opposite. -/
def integerBound : Nat := 0x8000000000000000

/-- A decimal integer in sixty-four bits. -/
def decimalInteger (cs : List Char) : Option (Int × List Char) := do
  let (negative, cs) := sign cs
  let (digits, cs) ← decimalDigits cs
  let magnitude := digitsValue 10 digits
  let n : Int := if negative then -magnitude else magnitude
  if -(integerBound : Int) ≤ n ∧ n < integerBound then some (n, cs) else none

/-- An integer behind the marker of its base. -/
def markedInteger (base : Nat) (cs : List Char) : Option (Int × List Char) := do
  let (digits, cs) ← digitRun base cs
  let n := digitsValue base digits
  if n < integerBound then some (n, cs) else none

/-- An integer in any of its forms. -/
def integer : List Char → Option (Int × List Char)
  | '0' :: 'x' :: rest => markedInteger 16 rest
  | '0' :: 'o' :: rest => markedInteger 8 rest
  | '0' :: 'b' :: rest => markedInteger 2 rest
  | cs => decimalInteger cs

/-- Whether `digits · 10 ^ exponent`, rounded to the nearest floating-point number of sixty-four
bits, is infinite. -/
def overflows (digits : List Char) (exponent : Int) : Bool :=
  let significant := digits.dropWhile (· == '0')
  let bound := (Nat.pow 2 54 - 1) * Nat.pow 2 970
  let magnitude : Int := significant.length + exponent
  if significant = [] ∨ magnitude < 300 then false
  else if 320 < magnitude then true
  else
    let n := digitsValue 10 significant
    if 0 ≤ exponent then decide (bound ≤ n * Nat.pow 10 exponent.toNat)
    else decide (bound * Nat.pow 10 (-exponent).toNat ≤ n)

/-- A point and the digits behind it. -/
def fraction : List Char → Option (List Char × List Char)
  | '.' :: rest => digitRun 10 rest
  | _ => none

/-- An exponent. -/
def exponent (cs : List Char) : Option (Int × List Char) :=
  match cs with
  | c :: rest =>
    if c = 'e' ∨ c = 'E' then do
      let (negative, rest) := sign rest
      let (digits, rest) ← digitRun 10 rest
      let n : Int := digitsValue 10 digits
      some (if negative then -n else n, rest)
    else none
  | [] => none

/-- One of the floats that are written as words. -/
def specialFloat (cs : List Char) : Option (List Char) :=
  match (sign cs).2 with
  | 'i' :: 'n' :: 'f' :: rest => some rest
  | 'n' :: 'a' :: 'n' :: rest => some rest
  | _ => none

/-- A float with a fraction or an exponent or both. -/
def plainFloat (cs : List Char) : Option (List Char) := do
  let (negative, cs) := sign cs
  let (whole, cs) ← decimalDigits cs
  let (part, power, rest) ←
    match fraction cs with
    | some (part, rest) =>
      match exponent rest with
      | some (power, rest) => some (part, power, rest)
      | none => some (part, 0, rest)
    | none => (exponent cs).map fun (power, rest) => ([], power, rest)
  if !negative && overflows (whole ++ part) (power - part.length) then none else some rest

/-- A float. -/
def float (cs : List Char) : Option (List Char) := (plainFloat cs).or (specialFloat cs)

end Southbound.Toml
