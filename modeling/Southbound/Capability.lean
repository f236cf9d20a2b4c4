import Southbound.Device

/-!
# Capabilities of device drivers

Not every driver can describe its device, list its ports or report counters.  A `CapabilitySet`
holds at most one implementation of each of the three capabilities; registering another one
replaces it.  What an implementation is depends on who uses the set, so the set is generic in the
three kinds of implementations.

`Driver` is the set whose implementations are the answers that a device gives.
-/

namespace Southbound

/-- The names of the capabilities. -/
inductive CapabilityTag
  | descriptionDiscovery
  | portDiscovery
  | portStatisticsDiscovery
deriving DecidableEq

namespace CapabilityTag

/-- The name in words. -/
def text : CapabilityTag → String
  | descriptionDiscovery => "DescriptionDiscovery"
  | portDiscovery => "PortDiscovery"
  | portStatisticsDiscovery => "PortStatisticsDiscovery"

/-- All capabilities. -/
def all : List CapabilityTag := [descriptionDiscovery, portDiscovery, portStatisticsDiscovery]

end CapabilityTag

/-- An implementation of one of the capabilities. -/
inductive Capability (δ π σ : Type)
  | description (implementation : δ)
  | ports (implementation : π)
  | portStatistics (implementation : σ)

namespace Capability

variable {δ π σ : Type}

/-- Which capability it is. -/
def tag : Capability δ π σ → CapabilityTag
  | description _ => .descriptionDiscovery
  | ports _ => .portDiscovery
  | portStatistics _ => .portStatisticsDiscovery

/-- The capability in words. -/
def text (c : Capability δ π σ) : String := s!"Capability({c.tag.text})"

end Capability

/-- The capabilities that a device offers. -/
structure CapabilitySet (δ π σ : Type) where
  /-- Full description with port details. -/
  description : Option δ
  /-- The list of ports alone. -/
  ports : Option π
  /-- Counters per port. -/
  portStatistics : Option σ

namespace CapabilitySet

variable {δ π σ : Type}

/-- The set of a device that offers nothing. -/
def empty : CapabilitySet δ π σ := ⟨none, none, none⟩

instance : EmptyCollection (CapabilitySet δ π σ) := ⟨empty⟩

/-- Registers an implementation, in place of an older one of the same capability. -/
def insert (s : CapabilitySet δ π σ) : Capability δ π σ → CapabilitySet δ π σ
  | .description d => { s with description := some d }
  | .ports p => { s with ports := some p }
  | .portStatistics c => { s with portStatistics := some c }

/-- The implementation registered for a capability. -/
def get? (s : CapabilitySet δ π σ) : CapabilityTag → Option (Capability δ π σ)
  | .descriptionDiscovery => s.description.map .description
  | .portDiscovery => s.ports.map .ports
  | .portStatisticsDiscovery => s.portStatistics.map .portStatistics

/-- Whether a capability is registered. -/
def supports (s : CapabilitySet δ π σ) (tag : CapabilityTag) : Bool := (s.get? tag).isSome

/-- Whether nothing is registered. -/
def isEmpty (s : CapabilitySet δ π σ) : Bool := CapabilityTag.all.all fun tag => !s.supports tag

/-- The registered capabilities in words. -/
def text (s : CapabilitySet δ π σ) : String :=
  "\x7b" ++ ", ".intercalate ((CapabilityTag.all.filter s.supports).map (·.text)) ++ "\x7d"

end CapabilitySet

/-! ## Drivers -/

/-- Why a device could not be discovered. -/
inductive DiscoveryError
  /-- The device gave no answer. -/
  | noResponse (detail : String)
  /-- The answer makes no sense. -/
  | malformed (detail : String)
deriving DecidableEq

namespace DiscoveryError

/-- The error in words. -/
def message : DiscoveryError → String
  | noResponse detail => s!"device did not answer the discovery request: {detail}"
  | malformed detail => s!"device reply could not be interpreted: {detail}"

end DiscoveryError

/-- What a device does when it is asked. -/
inductive Reply (α : Type)
  | answer (a : α)
  | failure (e : DiscoveryError)
  /-- The driver itself breaks down. -/
  | crash
deriving DecidableEq

/-- Description discovery: details, of which a device may have none to give, and ports. -/
structure DescriptionReplies where
  details : Reply (Option Description)
  ports : Reply (List Port)

/-- The driver of one device. -/
abbrev Driver :=
  CapabilitySet DescriptionReplies (Reply (List Port)) (Reply (List PortStatistics))

end Southbound
