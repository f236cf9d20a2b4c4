import Southbound.Text.Numeral

/-!
# Network addresses

An address is four octets or eight groups of sixteen bits.  Addresses are ordered the way device
identities need it: every four-octet address comes before every eight-group one, and within a
family the leftmost difference decides.

Reading and writing the text forms are in `Southbound.Address.Reader` and
`Southbound.Address.Printer`.
-/

namespace Southbound

/-- An address of a network endpoint. -/
inductive Address
  /-- Four octets, the first of them leftmost in the dotted form. -/
  | v4 (octets : Vector UInt8 4)
  /-- Eight groups of sixteen bits, in the order of the colon form. -/
  | v6 (groups : Vector UInt16 8)
deriving DecidableEq

namespace Address

/-- Whether the address has eight groups. -/
def isV6 : Address → Bool
  | v4 _ => false
  | v6 _ => true

/-- Four-octet addresses first, then the leftmost difference. -/
def order : Address → Address → Ordering
  | v4 a, v4 b => compare a b
  | v4 _, v6 _ => .lt
  | v6 _, v4 _ => .gt
  | v6 a, v6 b => compare a b

instance : Std.LawfulEqCmp order where
  compare_self := by rintro (a | a) <;> exact @Std.ReflCmp.compare_self _ compare _ a
  eq_of_compare := by
    rintro (a | a) (b | b) h
    · rw [@Std.LawfulEqCmp.eq_of_compare _ compare _ a b h]
    · cases h
    · cases h
    · rw [@Std.LawfulEqCmp.eq_of_compare _ compare _ a b h]

instance : Std.TransCmp order where
  eq_swap := by
    rintro (a | a) (b | b)
    · exact @Std.OrientedCmp.eq_swap _ compare _ a b
    · rfl
    · rfl
    · exact @Std.OrientedCmp.eq_swap _ compare _ a b
  isLE_trans := by
    rintro (a | a) (b | b) (c | c) h₁ h₂
    · exact @Std.TransCmp.isLE_trans _ compare _ a b c h₁ h₂
    · rfl
    · cases h₂
    · rfl
    · cases h₁
    · cases h₁
    · cases h₂
    · exact @Std.TransCmp.isLE_trans _ compare _ a b c h₁ h₂

instance : Ord Address := ⟨order⟩
instance : Std.LawfulEqOrd Address := inferInstanceAs (Std.LawfulEqCmp order)
instance : Std.TransOrd Address := inferInstanceAs (Std.TransCmp order)

end Address

end Southbound
