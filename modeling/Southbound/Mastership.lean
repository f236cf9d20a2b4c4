import Southbound.Identity
import Southbound.Role
import Southbound.SortedMap

/-!
# Mastership

Every device is mastered by at most one node of the cluster.  This node can claim a device; while
another node masters it the claim has no effect, and it comes back when that ends.  The service
remembers the role that the provider accepted last.
-/

namespace Southbound

/-- Who masters which device. -/
structure Mastership where
  /-- This node. -/
  node : NodeId
  /-- The devices that this node claims. -/
  claimed : SortedSet Identity
  /-- The devices that another node masters. -/
  elsewhere : SortedMap Identity NodeId
  /-- The roles that the provider accepted last. -/
  accepted : SortedMap Identity Role

namespace Mastership

/-- Nobody masters anything. -/
def unclaimed (node : NodeId) : Mastership := ⟨node, ∅, ∅, ∅⟩

/-- This node claims the device, and no other node masters it. -/
def claim (m : Mastership) (id : Identity) : Mastership :=
  { m with claimed := m.claimed.insert id (), elsewhere := m.elsewhere.erase id }

/-- Nobody masters the device. -/
def release (m : Mastership) (id : Identity) : Mastership :=
  { m with claimed := m.claimed.erase id, elsewhere := m.elsewhere.erase id }

/-- Another node masters the device. -/
def lose (m : Mastership) (id : Identity) (other : NodeId) : Mastership :=
  { m with elsewhere := m.elsewhere.insert id other }

/-- The node that masters the device. -/
def masterOf (m : Mastership) (id : Identity) : Option NodeId :=
  m.elsewhere.get? id <|> (m.claimed.get? id).map fun _ => m.node

/-- Whether this node masters the device. -/
def isLocalMaster (m : Mastership) (id : Identity) : Bool := m.masterOf id == some m.node

/-- Remembers the accepted role. -/
def accept (m : Mastership) (id : Identity) (role : Role) : Mastership :=
  { m with accepted := m.accepted.insert id role }

end Mastership

end Southbound
