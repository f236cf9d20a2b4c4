/-!
# Paths

A path is a text whose parts are separated by slashes.  Slashes in a row count once and a single
point that is not in front counts nothing, so `parts` sees what a path names and `parent?` and
`fileName?` follow it; `join` keeps what was written.
-/

namespace Southbound.Path

/-- What stands between the slashes. -/
def pieces (cs : List Char) : List (List Char) :=
  match cs with
  | [] => [[]]
  | c :: rest =>
    match pieces rest with
    | [] => []
    | piece :: others => if c = '/' then [] :: piece :: others else (c :: piece) :: others

/-- Whether the path starts at the root. -/
def isAbsolute (path : String) : Bool := path.toList.head? == some '/'

/-- The parts of a path that count: a point only in front of a path that does not start at the
root. -/
def parts (path : String) : List String :=
  let all := (pieces path.toList).map String.ofList
  let counted := all.filter fun p => p != "" && p != "."
  if all.head? == some "." then "." :: counted else counted

/-- The path with one more part. -/
def join (base name : String) : String :=
  if base.toList.getLast?.any (· != '/') then base ++ "/" ++ name else base ++ name

/-- The last part, unless it leads upwards or nowhere. -/
def fileName? (path : String) : Option String :=
  match (parts path).getLast? with
  | none => none
  | some p => if p = "." ∨ p = ".." then none else some p

/-- Drops what does not count at the end of a reversed text. -/
def dropUncounted : List Char → List Char
  | ['/'] => ['/']
  | '/' :: rest => dropUncounted rest
  | '.' :: '/' :: rest => dropUncounted ('/' :: rest)
  | cs => cs

/-- The path without its last part; the root and the empty path have none. -/
def parent? (path : String) : Option String :=
  if (parts path).isEmpty then none
  else
    let front := (dropUncounted path.toList.reverse).dropWhile (· != '/')
    some (String.ofList (dropUncounted front).reverse)

end Southbound.Path
