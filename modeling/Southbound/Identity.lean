import Southbound.Address.Printer
import Southbound.Address.Reader
import Southbound.Text.Blank
import Southbound.Text.LetterCase
import Southbound.Text.Split

/-!
# Device identities

An identity is the key that joins a device across configuration, mastership, sessions and the
device store: the scheme of the management protocol, an address and a port.  Every node derives the
same identity from the same configuration entry.

`Identity.resolve` derives an identity from its three parts as an operator writes them;
`Identity.parse` reads the one-line form `scheme:address:port`, with the colon form of an address
in brackets or without; `Identity.text` writes the one-line form, always with brackets.

Schemes of identities are in small letters and their ports are not zero.  Both facts are part of
the types, so no consumer checks them again.
-/

namespace Southbound

open Southbound.Text

/-! ## Schemes -/

/-- Whether the text may name a protocol: a letter, then letters, digits and `+`, `-`, `.`. -/
def isSchemeText (s : String) : Bool :=
  match s.toList with
  | [] => false
  | c :: rest =>
    c.isAlpha && rest.all fun d => d.isAlphanum || d == '+' || d == '-' || d == '.'

theorem isSchemeText_lowered (s : String) : isSchemeText (lowered s) = isSchemeText s := by
  have plain : ∀ c d : Char, d.isAlpha = false → (small c == d) = (c == d) := by
    intro c d h
    rw [Bool.eq_iff_iff]
    simp [small_eq_iff h]
  simp only [isSchemeText, lowered, String.toList_ofList]
  cases s.toList with
  | nil => rfl
  | cons c rest =>
    simp [List.all_map, Function.comp_def, plain _ '+' rfl, plain _ '-' rfl, plain _ '.' rfl]

/-- The name of a management protocol, in small letters. -/
structure Scheme where
  /-- The name. -/
  text : String
  /-- The name is well formed. -/
  wellFormed : isSchemeText text = true
  /-- The name has no capital letters. -/
  inSmallLetters : lowered text = text
deriving DecidableEq

namespace Scheme

/-- The scheme that a text names, in any letter case. -/
def ofText? (s : String) : Option Scheme :=
  if h : isSchemeText s = true then
    some ⟨lowered s, (isSchemeText_lowered s).trans h, lowered_lowered s⟩
  else
    none

theorem text_injective {a b : Scheme} (h : a.text = b.text) : a = b := by
  cases a
  cases b
  cases h
  rfl

end Scheme

/-! ## Identities -/

/-- The key of a device: protocol scheme, address and management port. -/
structure Identity where
  /-- The management protocol. -/
  scheme : Scheme
  /-- The address of the device. -/
  address : Address
  /-- The management port. -/
  port : UInt16
  /-- Port zero is no endpoint. -/
  port_ne_zero : port ≠ 0
deriving DecidableEq

namespace Identity

/-- The one-line form. -/
def text (id : Identity) : String :=
  String.ofList (id.scheme.text.toList ++ ':' :: Address.renderEndpoint id.address id.port)

instance : ToString Identity := ⟨text⟩

/-- By scheme, then by address, then by port. -/
def order : Identity → Identity → Ordering :=
  compareLex (compareOn (·.scheme.text)) (compareLex (compareOn (·.address)) (compareOn (·.port)))

instance : Std.TransCmp order := inferInstanceAs (Std.TransCmp (compareLex _ _))

instance : Std.LawfulEqCmp order where
  compare_self := by intro a; simp [order, compareLex, compareOn]
  eq_of_compare := by
    intro a b h
    simp only [order, compareLex_eq_eq, compareOn] at h
    obtain ⟨hs, ha, hp⟩ := h
    have hs := Scheme.text_injective (Std.LawfulEqCmp.eq_of_compare hs)
    have ha := Std.LawfulEqCmp.eq_of_compare ha
    have hp := Std.LawfulEqCmp.eq_of_compare hp
    cases a
    cases b
    cases hs
    cases ha
    cases hp
    rfl

instance : Ord Identity := ⟨order⟩
instance : Std.TransOrd Identity := inferInstanceAs (Std.TransCmp order)
instance : Std.LawfulEqOrd Identity := inferInstanceAs (Std.LawfulEqCmp order)

end Identity

/-! ## Deriving identities -/

/-- What is wrong with the address part of an identity. -/
inductive AddressFault
  /-- The text is no address. -/
  | notAnAddress
  /-- The port is zero. -/
  | zeroPort
  /-- A one-line form without a colon. -/
  | noScheme
  /-- A one-line form with one colon only. -/
  | noPort
  /-- What follows the last colon of a one-line form is no port number. -/
  | portNotNumeric
deriving DecidableEq

namespace AddressFault

/-- The reason in words. -/
def message : AddressFault → String
  | notAnAddress => "not an IP address literal"
  | zeroPort => "port must be in 1..=65535"
  | noScheme => "missing scheme separator"
  | noPort => "missing port"
  | portNotNumeric => "port is not a number"

end AddressFault

/-- Why no identity can be derived. -/
inductive IdentityError
  /-- The scheme is no protocol name. -/
  | invalidScheme (scheme : String)
  /-- Address and port name no endpoint. -/
  | invalidAddress (address : String) (fault : AddressFault)
deriving DecidableEq

namespace IdentityError

/-- The error in words. -/
def message : IdentityError → String
  | invalidScheme scheme => s!"invalid protocol scheme '{scheme}'"
  | invalidAddress address fault => s!"invalid device address '{address}': {fault.message}"

end IdentityError

namespace Identity

/-- Removes one pair of brackets around the text, if both are there. -/
def unbracketed (cs : List Char) : List Char :=
  match cs with
  | '[' :: rest =>
    match rest.reverse with
    | ']' :: inner => inner.reverse
    | _ => cs
  | _ => cs

/-- The identity of the device at an address and port.  The address may stand in brackets and
between blanks; the scheme is judged first, then the address, then the port. -/
def resolve (scheme address : String) (port : UInt16) : Except IdentityError Identity :=
  match Scheme.ofText? scheme with
  | none => .error (.invalidScheme scheme)
  | some scheme =>
    match Address.read? (unbracketed (trim address.toList)) with
    | none => .error (.invalidAddress address .notAnAddress)
    | some ip =>
      if h : port = 0 then .error (.invalidAddress address .zeroPort)
      else .ok ⟨scheme, ip, port, h⟩

/-- Reads the one-line form.  What follows the first colon is an endpoint with brackets where they
are due, or an address and, after the last colon, a port. -/
def parse (s : String) : Except IdentityError Identity :=
  match splitFirst ':' s.toList with
  | none => .error (.invalidAddress s .noScheme)
  | some (scheme, rest) =>
    match Address.readEndpoint? rest with
    | some (ip, port) => resolve (String.ofList scheme) (toString ip) port
    | none =>
      match splitLast ':' rest with
      | none => .error (.invalidAddress s .noPort)
      | some (host, port) =>
        match readCount 0xFFFF port with
        | none => .error (.invalidAddress s .portNotNumeric)
        | some port => resolve (String.ofList scheme) (String.ofList host) (UInt16.ofNat port)

end Identity

end Southbound
