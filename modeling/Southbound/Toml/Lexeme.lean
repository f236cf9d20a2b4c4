/-!
# Blanks, comments and line ends

Spaces and tabs separate the parts of a line, a comment runs from a number sign to the end of the
line, and a line ends in a line feed that may follow a carriage return.  Characters beyond the
basic Latin block are allowed wherever text is; of the control characters only the tab is.
-/

namespace Southbound.Toml

/-- A space or a tab. -/
def isGap (c : Char) : Bool := c == ' ' || c == '\t'

/-- Skips spaces and tabs. -/
def skipGap (cs : List Char) : List Char := cs.dropWhile isGap

/-- A character that text may hold: a tab or anything that is no control character. -/
def isTextual (c : Char) : Bool := c == '\t' || (' ' ≤ c && c != '\x7f')

/-- A decimal digit. -/
def isDigit (c : Char) : Bool := '0' ≤ c && c ≤ '9'

/-- Takes a line end. -/
def newline? : List Char → Option (List Char)
  | '\n' :: rest => some rest
  | '\r' :: '\n' :: rest => some rest
  | _ => none

/-- Skips a comment, if one starts here. -/
def skipComment : List Char → List Char
  | '#' :: rest => rest.dropWhile isTextual
  | cs => cs

/-- The end of a line with nothing on it any more but blanks and a comment; the end of the document
ends a line too. -/
def lineEnd? (cs : List Char) : Option (List Char) :=
  match skipComment (skipGap cs) with
  | [] => some []
  | rest => newline? rest

/-- Skips blanks, line ends and whole comments; fails at a character that none of them may hold. -/
def skipLines : (inComment : Bool) → List Char → Option (List Char)
  | false, [] => some []
  | true, [] => none
  | _, '\n' :: rest => skipLines false rest
  | _, '\r' :: '\n' :: rest => skipLines false rest
  | false, c :: rest =>
    if isGap c then skipLines false rest
    else if c = '#' then skipLines true rest
    else if c = '\r' then none
    else some (c :: rest)
  | true, c :: rest => if isTextual c then skipLines true rest else none

end Southbound.Toml
