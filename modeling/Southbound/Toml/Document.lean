import Southbound.Toml.Value

/-!
# Documents

A document is a sequence of lines: assignments, table headers, headers that append to a list of
tables, and lines with nothing but blanks and a comment.  Assignments go to the table that the last
header opened.  `read?` gives the table that the whole document describes.
-/

namespace Southbound.Toml

/-- The part of a document read so far. -/
structure Draft where
  /-- Everything defined up to here. -/
  root : Table
  /-- The table that assignments go to. -/
  current : List String

namespace Draft

/-- Carries out an assignment. -/
def assign (d : Draft) (path : List String) (key : String) (v : Datum) : Option Draft := do
  let root ← Table.edit .implied (fun own t => t.assign own path key v) d.current .defined d.root
  some { d with root }

/-- Opens the table that a header names. -/
def define (d : Draft) (path : List String) (key : String) : Option Draft := do
  let root ← d.root.define path key
  some ⟨root, path ++ [key]⟩

/-- Opens a further table in a list of tables. -/
def append (d : Draft) (path : List String) (key : String) : Option Draft := do
  let root ← d.root.append path key
  some ⟨root, path ++ [key]⟩

end Draft

/-- One line that is not empty. -/
def statement (d : Draft) (cs : List Char) : Option (Draft × List Char) :=
  match cs with
  | '[' :: '[' :: rest => do
    let ((path, key), rest) ← dottedKey rest
    let rest ← lineEnd? (← literal ']' (← literal ']' rest))
    some (← d.append path key, rest)
  | '[' :: rest => do
    let ((path, key), rest) ← dottedKey rest
    let rest ← lineEnd? (← literal ']' rest)
    some (← d.define path key, rest)
  | _ => do
    let ((path, key), cs) ← dottedKey cs
    let cs ← literal '=' cs
    let (v, cs) ← value (cs.length + 1) 0 (skipGap cs)
    let cs ← lineEnd? cs
    some (← d.assign path key v, cs)

/-- The lines of a document, at most `fuel` of them. -/
def statements : (fuel : Nat) → Draft → List Char → Option Draft
  | 0, _, _ => none
  | fuel + 1, d, cs =>
    match skipGap cs with
    | [] => some d
    | c :: rest =>
      if c = '#' then do
        let rest ← lineEnd? (c :: rest)
        statements fuel d rest
      else if c = '\n' ∨ c = '\r' then do
        let rest ← newline? (c :: rest)
        statements fuel d rest
      else do
        let (d, rest) ← statement d (c :: rest)
        statements fuel d rest

/-- Skips the mark that may stand in front of a document. -/
def skipByteOrderMark : List Char → List Char
  | '\ufeff' :: rest => rest
  | cs => cs

/-- The table that a document describes. -/
def read? (text : String) : Option Datum :=
  let cs := skipByteOrderMark text.toList
  (statements (cs.length + 1) ⟨[], []⟩ cs).map fun d => Table.toDatum d.root

end Southbound.Toml
