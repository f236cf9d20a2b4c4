import Southbound.Address

/-!
# Reading addresses

The dotted form has exactly four octets without superfluous zeros.  The colon form has eight
groups of at most four hexadecimal digits; one run of zero groups may be left out and is marked by
a double colon, and the last two groups may be written as four dotted octets.

An endpoint is an address and a port.  Eight-group addresses stand in brackets there, and a numeric
zone after a percent sign is read and dropped.

Each reader takes what it can off the front of a text and answers with the rest.
-/

namespace Southbound.Address

open Southbound.Text

/-! ## Pieces -/

/-- Takes the given character off the text. -/
def expect (c : Char) : List Char → Option (List Char)
  | [] => none
  | d :: rest => if d = c then some rest else none

/-- An octet: at most three decimal digits, no superfluous zero, at most 255. -/
def readOctet (cs : List Char) : Option (UInt8 × List Char) :=
  (readNumeral ⟨10, some 3, false, 255⟩ cs).map fun (n, rest) => (UInt8.ofNat n, rest)

/-- A group: at most four hexadecimal digits. -/
def readGroup (cs : List Char) : Option (UInt16 × List Char) :=
  (readNumeral ⟨16, some 4, true, 0xFFFF⟩ cs).map fun (n, rest) => (UInt16.ofNat n, rest)

/-- A port: decimal digits, at most 65535. -/
def readPort (cs : List Char) : Option (UInt16 × List Char) :=
  (readNumeral ⟨10, none, true, 0xFFFF⟩ cs).map fun (n, rest) => (UInt16.ofNat n, rest)

/-! ## The dotted form -/

/-- Four octets with points between them. -/
def readV4 (cs : List Char) : Option (Vector UInt8 4 × List Char) := do
  let (a, cs) ← readOctet cs
  let (b, cs) ← readOctet (← expect '.' cs)
  let (c, cs) ← readOctet (← expect '.' cs)
  let (d, cs) ← readOctet (← expect '.' cs)
  some (#v[a, b, c, d], cs)

/-! ## The colon form -/

/-- Two octets as one group. -/
def joinOctets (a b : UInt8) : UInt16 := a.toUInt16 <<< 8 ||| b.toUInt16

/-- Four octets as the two groups they stand for. -/
def groupsOfOctets (octets : Vector UInt8 4) : List UInt16 :=
  [joinOctets octets[0] octets[1], joinOctets octets[2] octets[3]]

/-- Skips the colon that stands before every piece but the first. -/
def skipColon (first : Bool) (cs : List Char) : Option (List Char) :=
  if first then some cs else expect ':' cs

/-- Groups up to the given number, with the rest of the text.  Where room for two is left, a
dotted form is tried first; it ends the run, which the flag in the answer reports. -/
def readGroups : (room : Nat) → (first : Bool) → List Char → List UInt16 × Bool × List Char
  | 0, _, cs => ([], false, cs)
  | room + 1, first, cs =>
    match if room = 0 then none else skipColon first cs >>= readV4 with
    | some (octets, rest) => (groupsOfOctets octets, true, rest)
    | none =>
      match skipColon first cs >>= readGroup with
      | none => ([], false, cs)
      | some (group, rest) =>
        let (groups, dotted, rest) := readGroups room false rest
        (group :: groups, dotted, rest)

/-- Eight groups make an address. -/
def ofGroups (groups : List UInt16) : Option (Vector UInt16 8) :=
  if h : groups.length = 8 then some ⟨groups.toArray, by simp [h]⟩ else none

/-- Eight groups, or fewer with a double colon for the zero groups between them.  A double colon
stands for at least one group, and nothing dotted may stand before it. -/
def readV6 (cs : List Char) : Option (Vector UInt16 8 × List Char) := do
  let (head, dotted, cs) := readGroups 8 true cs
  if head.length = 8 then
    some (← ofGroups head, cs)
  else if dotted then
    none
  else
    let cs ← expect ':' (← expect ':' cs)
    let (tail, _, cs) := readGroups (7 - head.length) true cs
    let zeros := List.replicate (8 - head.length - tail.length) 0
    some (← ofGroups (head ++ zeros ++ tail), cs)

/-! ## Whole texts -/

/-- Demands that a reader used up the text. -/
def whole {α : Type} : Option (α × List Char) → Option α
  | some (a, []) => some a
  | _ => none

/-- The address that a text denotes: the dotted form first, then the colon form. -/
def read? (cs : List Char) : Option Address :=
  let either := match readV4 cs with
    | some (octets, rest) => some (v4 octets, rest)
    | none => (readV6 cs).map fun (groups, rest) => (v6 groups, rest)
  whole either

/-- Skips a zone, a percent sign and a decimal number of at most 32 bits. -/
def skipZone (cs : List Char) : List Char :=
  match expect '%' cs >>= readNumeral ⟨10, none, true, 0xFFFFFFFF⟩ with
  | some (_, rest) => rest
  | none => cs

/-- A dotted address, a colon and a port. -/
def readEndpointV4 (cs : List Char) : Option ((Address × UInt16) × List Char) := do
  let (octets, cs) ← readV4 cs
  let (port, cs) ← readPort (← expect ':' cs)
  some ((v4 octets, port), cs)

/-- A colon-form address in brackets, with a zone perhaps, a colon and a port. -/
def readEndpointV6 (cs : List Char) : Option ((Address × UInt16) × List Char) := do
  let (groups, cs) ← readV6 (← expect '[' cs)
  let cs ← expect ']' (skipZone cs)
  let (port, cs) ← readPort (← expect ':' cs)
  some ((v6 groups, port), cs)

/-- The address and port that a text denotes. -/
def readEndpoint? (cs : List Char) : Option (Address × UInt16) :=
  whole ((readEndpointV4 cs).or (readEndpointV6 cs))

end Southbound.Address
