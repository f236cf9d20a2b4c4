import Southbound.Address

/-!
# Writing addresses

Octets are written in decimal, groups in small hexadecimal letters without superfluous zeros.  Of
the runs of at least two zero groups the longest, and of several longest the first, is written as a
double colon.  An address whose first five groups are zero and whose sixth is `ffff` embeds four
octets and shows them dotted.
-/

namespace Southbound.Address

open Southbound.Text

/-- Four numbers with points between them. -/
def renderOctets (octets : List UInt8) : List Char :=
  ['.'].intercalate (octets.map fun o => decimal o.toNat)

/-- Hexadecimal numbers with colons between them. -/
def renderGroups (groups : List UInt16) : List Char :=
  [':'].intercalate (groups.map fun g => hexadecimal g.toNat)

/-- How many zero groups stand in a row at a position. -/
def zeroRun (groups : List UInt16) (start : Nat) : Nat :=
  ((groups.drop start).takeWhile (· == 0)).length

/-- Start and length of the first longest run of zero groups. -/
def longestZeroRun (groups : List UInt16) : Nat × Nat :=
  (List.range groups.length).foldl
    (fun best start =>
      if best.2 < zeroRun groups start then (start, zeroRun groups start) else best) (0, 0)

/-- The octets embedded in an address that starts with five zero groups and `ffff`. -/
def embeddedOctets? (groups : Vector UInt16 8) : Option (List UInt8) :=
  if groups.toList.take 6 = [0, 0, 0, 0, 0, 0xFFFF] then
    some [(groups[6] >>> 8).toUInt8, groups[6].toUInt8,
      (groups[7] >>> 8).toUInt8, groups[7].toUInt8]
  else
    none

/-- The colon form of eight groups. -/
def renderV6 (groups : Vector UInt16 8) : List Char :=
  match embeddedOctets? groups with
  | some octets => "::ffff:".toList ++ renderOctets octets
  | none =>
    let (start, length) := longestZeroRun groups.toList
    if 1 < length then
      renderGroups (groups.toList.take start) ++ "::".toList
        ++ renderGroups (groups.toList.drop (start + length))
    else
      renderGroups groups.toList

/-- The text of an address. -/
def render : Address → List Char
  | v4 octets => renderOctets octets.toList
  | v6 groups => renderV6 groups

/-- The text of an address and a port; the colon form stands in brackets. -/
def renderEndpoint (address : Address) (port : UInt16) : List Char :=
  let host := match address with
    | v4 _ => address.render
    | v6 _ => '[' :: address.render ++ [']']
  host ++ ':' :: decimal port.toNat

instance : ToString Address := ⟨fun a => String.ofList a.render⟩

end Southbound.Address
