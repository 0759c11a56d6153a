import Proximity.Decimal.Basic
import Proximity.Keyed
import Proximity.Text.Quoted

/-!
# Fields and their layout

An address field belongs to a layout, which knows the other fields of the same elements by their
handles. A search can take the radius of each element from one of them, which has to hold
numbers.
-/

namespace Proximity

/-- What a field holds. -/
inductive FieldKind where
  | number
  | plainText
  | address
  | other (name : String)
deriving DecidableEq, Repr

/-- The name of a kind of field. -/
def FieldKind.name : FieldKind → String
  | .number => "Number"
  | .plainText => "Plain Text"
  | .address => "Address"
  | .other name => name

/-- Whether a field of the kind holds numbers. -/
def FieldKind.isNumber (kind : FieldKind) : Bool :=
  kind == .number

/-- A field of a layout. -/
structure LayoutField where
  handle : String
  uid : String
  kind : FieldKind
deriving DecidableEq, Repr

/-- The fields of a layout by their handles. -/
abbrev FieldLayout := String → Option LayoutField

/-- A layout of the fields given; of two fields with one handle it holds the later. -/
def FieldLayout.ofFields (fields : List LayoutField) : FieldLayout :=
  let byHandle := Keyed.setAll (fields.map fun f => (f.handle, f)) []
  fun handle => Keyed.get? handle byHandle

/-- A field whose addresses are searched. -/
structure AddressField where
  id : Int
  handle : String
  layout : FieldLayout

/-- An address field in a message. -/
def AddressField.describe (field : AddressField) : String :=
  "AddressField \x7b id: " ++ Decimal.integer field.id ++ ", handle: " ++
    Text.quoted field.handle ++ ", .. \x7d"

end Proximity
