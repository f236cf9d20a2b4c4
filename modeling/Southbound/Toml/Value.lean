import Southbound.Toml.Moment
import Southbound.Toml.Number
import Southbound.Toml.Table
import Southbound.Toml.Text

/-!
# Values of a document

A value is a text, a number, a truth value, a moment, a list or an inline table.  Lists may run over
several lines and may end in a comma; inline tables stand on one line and may not.

Lists and inline tables nest less than `nestingLimit` deep, and no dotted key has that many parts.
The reader of nested values is bounded by the number of characters it can still take, since every
step takes at least one.
-/

namespace Southbound.Toml

/-- The depth at which nesting, or a dotted key, is refused. -/
def nestingLimit : Nat := 80

/-- A character of a key without quotes. -/
def isBareKeyChar (c : Char) : Bool := c.isAlphanum || c == '-' || c == '_'

/-- One part of a key. -/
def simpleKey (cs : List Char) : Option (String × List Char) :=
  match shortText cs with
  | some (text, rest) => some (String.ofList text, rest)
  | none =>
    let name := cs.takeWhile isBareKeyChar
    if name.isEmpty then none else some (String.ofList name, cs.dropWhile isBareKeyChar)

/-- The parts of a key, the last of them apart, for at most `fuel` parts. -/
def keyParts : (fuel : Nat) → List Char → Option ((List String × String) × List Char)
  | 0, _ => none
  | fuel + 1, cs => do
    let (part, cs) ← simpleKey (skipGap cs)
    match skipGap cs with
    | '.' :: rest =>
      let ((path, key), rest) ← keyParts fuel rest
      some ((part :: path, key), rest)
    | cs => some (([], part), cs)

/-- A key with the blanks around it. -/
def dottedKey (cs : List Char) : Option ((List String × String) × List Char) :=
  keyParts (nestingLimit - 1) cs

/-- A value that is neither a list nor an inline table. -/
def plainValue (cs : List Char) : Option (Datum × List Char) :=
  match cs with
  | [] => none
  | c :: _ =>
    if c = '"' ∨ c = '\'' then
      (anyText cs).map fun (text, rest) => (.text (String.ofList text), rest)
    else if c = '+' ∨ c = '-' ∨ isDigit c then
      match moment cs with
      | some rest => some (.moment, rest)
      | none =>
        match float cs with
        | some rest => some (.float, rest)
        | none => (integer cs).map fun (n, rest) => (.integer n, rest)
    else
      match cs with
      | 't' :: 'r' :: 'u' :: 'e' :: rest => some (.boolean true, rest)
      | 'f' :: 'a' :: 'l' :: 's' :: 'e' :: rest => some (.boolean false, rest)
      | _ => (specialFloat cs).map fun rest => (.float, rest)

mutual

/-- A value inside `depth` lists and inline tables. -/
def value : (fuel depth : Nat) → List Char → Option (Datum × List Char)
  | 0, _, _ => none
  | fuel + 1, depth, cs =>
    match cs with
    | '[' :: rest =>
      if nestingLimit ≤ depth + 1 then none
      else (listItems fuel (depth + 1) rest).map fun (items, rest) => (.list items, rest)
    | '\x7b' :: rest =>
      if nestingLimit ≤ depth + 1 then none
      else
        match skipGap rest with
        | '\x7d' :: rest => some (.table [], rest)
        | _ =>
          (inlineEntries fuel (depth + 1) [] rest).map fun (entries, rest) =>
            (Table.toDatum entries, rest)
    | _ => plainValue cs

/-- The rest of a list. -/
def listItems : (fuel depth : Nat) → List Char → Option (List Datum × List Char)
  | 0, _, _ => none
  | fuel + 1, depth, cs => do
    match ← skipLines false cs with
    | ']' :: rest => some ([], rest)
    | cs =>
      let (item, cs) ← value fuel depth cs
      match ← skipLines false cs with
      | ',' :: rest =>
        let (items, rest) ← listItems fuel depth rest
        some (item :: items, rest)
      | ']' :: rest => some ([item], rest)
      | _ => none

/-- The rest of an inline table that is not empty, behind the entries read so far. -/
def inlineEntries : (fuel depth : Nat) → Table → List Char → Option (Table × List Char)
  | 0, _, _, _ => none
  | fuel + 1, depth, entries, cs => do
    let ((path, key), cs) ← dottedKey cs
    let cs ← literal '=' cs
    let (d, cs) ← value fuel depth (skipGap cs)
    let entries ← entries.assign .defined path key d
    match skipGap cs with
    | ',' :: rest => inlineEntries fuel depth entries rest
    | '\x7d' :: rest => some (entries, rest)
    | _ => none

end

end Southbound.Toml
