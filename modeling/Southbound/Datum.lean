/-!
# Structured data

Descriptions, ports and configuration arrive as structured data from several formats.  `Datum` is
what all of them have in common.  A value with named parts is read either from a table, by the
names, or from a list, by position; `Fields` covers both, and every reader of a structured value is
written over it.

A reader asks for each field on its own (`Fields.required`, `Fields.optional`,
`Fields.withDefault`), so what one field holds never decides how another is read.
-/

namespace Southbound

/-- A value of a structured document. -/
inductive Datum
  | null
  | boolean (b : Bool)
  | integer (n : Int)
  | float
  | text (s : String)
  /-- A date, a time or both. -/
  | moment
  | list (items : List Datum)
  | table (entries : List (String × Datum))
deriving Inhabited

namespace Datum

/-! ## Plain values -/

/-- The text of a text. -/
def asText : Datum → Option String
  | text s => some s
  | _ => none

/-- The truth value of a truth value. -/
def asBoolean : Datum → Option Bool
  | boolean b => some b
  | _ => none

/-- An integer from zero to `limit`. -/
def asNat (limit : Nat) : Datum → Option Nat
  | integer n => if 0 ≤ n ∧ n.toNat ≤ limit then some n.toNat else none
  | _ => none

/-- An integer that fits sixteen bits. -/
def asUInt16 (d : Datum) : Option UInt16 := (d.asNat 0xFFFF).map UInt16.ofNat

/-- An integer that fits thirty-two bits. -/
def asUInt32 (d : Datum) : Option UInt32 := (d.asNat 0xFFFFFFFF).map UInt32.ofNat

/-- An integer that fits sixty-four bits. -/
def asUInt64 (d : Datum) : Option UInt64 := (d.asNat 0xFFFFFFFFFFFFFFFF).map UInt64.ofNat

/-- A value that may be null. -/
def asNullable {α : Type} (read : Datum → Option α) : Datum → Option (Option α)
  | null => some none
  | d => (read d).map some

/-- The items of a list, each read the same way. -/
def asListOf {α : Type} (read : Datum → Option α) : Datum → Option (List α)
  | list items => items.mapM read
  | _ => none

/-- The entries of a table, each value read the same way. -/
def asTableOf {α : Type} (read : Datum → Option α) : Datum → Option (List (String × α))
  | table entries => entries.mapM fun (key, value) => (read value).map fun v => (key, v)
  | _ => none

/-- The name of one alternative out of several: a text, or a table with the name as its only key
and nothing behind it. -/
def asAlternative : Datum → Option String
  | text s => some s
  | table [(key, null)] => some key
  | _ => none

end Datum

/-! ## Fields -/

/-- Where the fields of a structured value are found. -/
inductive Fields
  | named (entries : List (String × Datum))
  | positional (items : List Datum)

namespace Fields

/-- The datum of a field, by its name or its position. -/
def get? : Fields → (position : Nat) → (name : String) → Option Datum
  | named entries, _, name => entries.lookup name
  | positional items, position, _ => items[position]?

/-- A field that has to be there. -/
def required {α : Type} (fields : Fields) (position : Nat) (name : String)
    (read : Datum → Option α) : Option α :=
  fields.get? position name >>= read

/-- A field with a value for the case that it is missing. -/
def withDefault {α : Type} (fields : Fields) (position : Nat) (name : String)
    (read : Datum → Option α) (default : α) : Option α :=
  match fields.get? position name with
  | none => some default
  | some d => read d

/-- A field that may be missing or null. -/
def optional {α : Type} (fields : Fields) (position : Nat) (name : String)
    (read : Datum → Option α) : Option (Option α) :=
  fields.withDefault position name (Datum.asNullable read) none

end Fields

/-- How a format delivers structured values. -/
structure Encoding where
  /-- Whether a list may have more items than the value has fields. -/
  surplusItems : Bool

namespace Encoding

/-- Object text: a list has no surplus items. -/
def object : Encoding := ⟨false⟩

/-- Configuration files: surplus items are ignored. -/
def configuration : Encoding := ⟨true⟩

/-- The fields of a structured value with `count` fields.  A moment counts as a table without any
field that a reader knows. -/
def fields? (encoding : Encoding) (count : Nat) : Datum → Option Fields
  | .table entries => some (.named entries)
  | .moment => some (.named [])
  | .list items =>
    if encoding.surplusItems ∨ items.length ≤ count then some (.positional items) else none
  | _ => none

end Encoding

end Southbound
