import Southbound.Text.Numeral
import Southbound.Toml.Lexeme

/-!
# Quoted texts of a document

Texts come in four forms: between one or three double quotes, where a backslash starts an escape,
and between one or three single quotes, where nothing is special.  A text between three quotes may
run over several lines; a line end right after the opening quotes does not count, every other is
read as a line feed, and up to two quotes may stand before the closing ones.
-/

namespace Southbound.Toml

open Southbound.Text (digitValue)

/-- The character with the code that some hexadecimal digits denote. -/
def charOfDigits (digits : List Char) : Option Char := do
  let values ← digits.mapM digitValue
  let code := values.foldl (fun n d => 16 * n + d) 0
  if code.isValidChar then some (Char.ofNat code) else none

/-- The character that an escape stands for, behind its backslash. -/
def escape? : List Char → Option (Char × List Char)
  | 'b' :: rest => some ('\x08', rest)
  | 't' :: rest => some ('\t', rest)
  | 'n' :: rest => some ('\n', rest)
  | 'f' :: rest => some ('\x0c', rest)
  | 'r' :: rest => some ('\r', rest)
  | '"' :: rest => some ('"', rest)
  | '\\' :: rest => some ('\\', rest)
  | 'u' :: rest =>
    if rest.length < 4 then none else (charOfDigits (rest.take 4)).map fun c => (c, rest.drop 4)
  | 'U' :: rest =>
    if rest.length < 8 then none else (charOfDigits (rest.take 8)).map fun c => (c, rest.drop 8)
  | _ => none

theorem escape?_length_le {cs rest : List Char} {c : Char} (h : escape? cs = some (c, rest)) :
    rest.length ≤ cs.length := by
  unfold escape? at h
  split at h <;> simp_all <;> grind

/-- Skips blanks and line ends. -/
def dropLines : List Char → List Char
  | '\r' :: '\n' :: rest => dropLines rest
  | c :: rest => if isGap c ∨ c = '\n' then dropLines rest else c :: rest
  | [] => []

/-- What is left after a backslash at the end of a line: blanks up to the line end, then blanks and
further line ends. -/
def skipFold (cs : List Char) : Option (List Char) :=
  (newline? (skipGap cs)).map dropLines

theorem newline?_length_le {cs rest : List Char} (h : newline? cs = some rest) :
    rest.length ≤ cs.length := by
  unfold newline? at h
  split at h <;> simp_all
  grind

theorem dropLines_length_le (cs : List Char) : (dropLines cs).length ≤ cs.length := by
  fun_induction dropLines cs <;> simp_all <;> omega

theorem skipFold_length_le {cs rest : List Char} (h : skipFold cs = some rest) :
    rest.length ≤ cs.length := by
  simp only [skipFold, Option.map_eq_some_iff] at h
  obtain ⟨tail, ht, rfl⟩ := h
  have h₁ := newline?_length_le ht
  have h₂ := dropLines_length_le tail
  have h₃ : (skipGap cs).length ≤ cs.length := (List.dropWhile_suffix _).length_le
  omega

/-- The rest of a text between single double quotes, behind the opening one. -/
def basicText (cs : List Char) : Option (List Char × List Char) :=
  match cs with
  | [] => none
  | '"' :: rest => some ([], rest)
  | '\\' :: rest =>
    match h : escape? rest with
    | none => none
    | some (c, rest') =>
      have : rest'.length < rest.length + 1 := Nat.lt_succ_of_le (escape?_length_le h)
      (basicText rest').map fun (text, rest) => (c :: text, rest)
  | c :: rest =>
    if isTextual c then (basicText rest).map fun (text, rest) => (c :: text, rest) else none
termination_by cs.length

/-- The rest of a text between three double quotes, behind the opening ones. -/
def longBasicText (cs : List Char) : Option (List Char × List Char) :=
  match cs with
  | [] => none
  | '"' :: '"' :: '"' :: '"' :: '"' :: rest => some (['"', '"'], rest)
  | '"' :: '"' :: '"' :: '"' :: rest => some (['"'], rest)
  | '"' :: '"' :: '"' :: rest => some ([], rest)
  | '\\' :: rest =>
    match h : skipFold rest with
    | some rest' =>
      have : rest'.length < rest.length + 1 := Nat.lt_succ_of_le (skipFold_length_le h)
      longBasicText rest'
    | none =>
      match h : escape? rest with
      | none => none
      | some (c, rest') =>
        have : rest'.length < rest.length + 1 := Nat.lt_succ_of_le (escape?_length_le h)
        (longBasicText rest').map fun (text, rest) => (c :: text, rest)
  | '\n' :: rest => (longBasicText rest).map fun (text, rest) => ('\n' :: text, rest)
  | '\r' :: '\n' :: rest => (longBasicText rest).map fun (text, rest) => ('\n' :: text, rest)
  | c :: rest =>
    if isTextual c then (longBasicText rest).map fun (text, rest) => (c :: text, rest) else none
termination_by cs.length

/-- The rest of a text between single single quotes, behind the opening one. -/
def literalText : List Char → Option (List Char × List Char)
  | [] => none
  | '\'' :: rest => some ([], rest)
  | c :: rest =>
    if isTextual c then (literalText rest).map fun (text, rest) => (c :: text, rest) else none

/-- The rest of a text between three single quotes, behind the opening ones. -/
def longLiteralText : List Char → Option (List Char × List Char)
  | [] => none
  | '\'' :: '\'' :: '\'' :: '\'' :: '\'' :: rest => some (['\'', '\''], rest)
  | '\'' :: '\'' :: '\'' :: '\'' :: rest => some (['\''], rest)
  | '\'' :: '\'' :: '\'' :: rest => some ([], rest)
  | '\n' :: rest => (longLiteralText rest).map fun (text, rest) => ('\n' :: text, rest)
  | '\r' :: '\n' :: rest => (longLiteralText rest).map fun (text, rest) => ('\n' :: text, rest)
  | c :: rest =>
    if isTextual c then (longLiteralText rest).map fun (text, rest) => (c :: text, rest) else none

/-- Drops the line end that may follow the opening quotes of a long text. -/
def skipFirstLineEnd (cs : List Char) : List Char := (newline? cs).getD cs

/-- A text on one line, as keys and values have it. -/
def shortText : List Char → Option (List Char × List Char)
  | '"' :: rest => basicText rest
  | '\'' :: rest => literalText rest
  | _ => none

/-- A text in any of the four forms. -/
def anyText : List Char → Option (List Char × List Char)
  | '"' :: '"' :: '"' :: rest => longBasicText (skipFirstLineEnd rest)
  | '\'' :: '\'' :: '\'' :: rest => longLiteralText (skipFirstLineEnd rest)
  | cs => shortText cs

end Southbound.Toml
