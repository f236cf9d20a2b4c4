import Southbound.Text.Numeral

/-!
# Mastership roles and cluster nodes

A cluster decides per device which node masters it.  A `Role` is what one node is told to be for
one device; a `NodeId` names a node by sixteen octets and is written in five hyphenated groups of
hexadecimal digits.
-/

namespace Southbound

/-! ## Roles -/

/-- What this node is for a device. -/
inductive Role
  /-- This node owns the device and may connect to it. -/
  | master
  /-- Another node owns the device. -/
  | standby
  /-- This node has no part in the device. -/
  | unassigned
deriving DecidableEq

namespace Role

/-- Whether the role lets the node connect. -/
def isMaster (r : Role) : Bool := r == master

/-- The role as logs and reports write it. -/
def text : Role → String
  | master => "MASTER"
  | standby => "STANDBY"
  | unassigned => "NONE"

instance : ToString Role := ⟨text⟩

/-- The role as documents name it. -/
def name : Role → String
  | master => "Master"
  | standby => "Standby"
  | unassigned => "None"

/-- The role that a document names. -/
def ofName? : String → Option Role
  | "Master" => some master
  | "Standby" => some standby
  | "None" => some unassigned
  | _ => none

end Role

/-! ## Nodes -/

/-- The name of a cluster node. -/
structure NodeId where
  /-- The octets, most significant first. -/
  octets : Vector UInt8 16
deriving DecidableEq

namespace NodeId

open Southbound.Text

/-- Two hexadecimal digits. -/
def renderOctet (o : UInt8) : List Char :=
  if o.toNat < 16 then '0' :: hexadecimal o.toNat else hexadecimal o.toNat

/-- Groups of eight, four, four, four and twelve digits. -/
def text (node : NodeId) : String :=
  let digits := node.octets.toList.flatMap renderOctet
  let groups := [digits.take 8, (digits.drop 8).take 4, (digits.drop 12).take 4,
    (digits.drop 16).take 4, digits.drop 20]
  String.ofList (['-'].intercalate groups)

instance : ToString NodeId := ⟨text⟩

/-- Octets of two digits each. -/
def readOctets : List Char → Option (List UInt8)
  | [] => some []
  | [_] => none
  | a :: b :: rest => do
    let hi ← digitValue a
    let lo ← digitValue b
    let others ← readOctets rest
    some (UInt8.ofNat (16 * hi + lo) :: others)

/-- Thirty-two digits in a row. -/
def readDigits (cs : List Char) : Option NodeId := do
  let octets ← readOctets cs
  if h : octets.length = 16 then some ⟨octets.toArray, by simp [h]⟩ else none

/-- Thirty-two digits in five groups with hyphens between them. -/
def readHyphenated (cs : List Char) : Option NodeId :=
  let hyphens := [cs[8]?, cs[13]?, cs[18]?, cs[23]?]
  if hyphens = List.replicate 4 (some '-') then
    readDigits (cs.take 8 ++ (cs.drop 9).take 4 ++ (cs.drop 14).take 4 ++ (cs.drop 19).take 4
      ++ cs.drop 24)
  else
    none

/-- Reads a node name: plain digits, or the hyphenated form, which may stand in braces or after
the words that mark it as a resource name. -/
def parse? (s : String) : Option NodeId :=
  let cs := s.toList
  let tag := "urn:uuid:".toList
  if cs.length = 32 then readDigits cs
  else if cs.length = 36 then readHyphenated cs
  else if cs.length = 38 ∧ cs.head? = some '\x7b' ∧ cs.getLast? = some '\x7d' then
    readHyphenated (cs.drop 1).dropLast
  else if cs.length = 45 ∧ cs.take 9 = tag then readHyphenated (cs.drop 9)
  else none

/-- The version number in the name: the upper half of the seventh octet. -/
def version (node : NodeId) : Nat := (node.octets[6] >>> 4).toNat

/-- Marks arbitrary octets as a random name: version four, standard layout. -/
def ofRandom (octets : Vector UInt8 16) : NodeId :=
  ⟨(octets.set 6 (octets[6] &&& 0x0F ||| 0x40)).set 8 (octets[8] &&& 0x3F ||| 0x80)⟩

/-- The octets of a name that ends in the given number. -/
def ofSmall (n : UInt8) : NodeId := ⟨(Vector.replicate 16 0).set 15 n⟩

end NodeId

end Southbound
