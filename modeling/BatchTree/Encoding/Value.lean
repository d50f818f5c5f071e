/-!
# Encoded values

The data that values of the library are stored and sent as: numbers, texts, lists
and records.  This module has what all decoders share; in particular a record may
come as a list of its fields in their order, and fields that are not known are
passed over.
-/

namespace BatchTree

/-- Data without types. -/
inductive Value where
  | null
  | bool (value : Bool)
  | integer (value : Int)
  /-- A number that was not written as an integer.  No type has such numbers, so
  they are not told apart. -/
  | fractional
  | text (value : String)
  | list (items : List Value)
  | record (fields : List (String × Value))

namespace Value

instance : Inhabited Value := ⟨null⟩

/-! ## Scalars -/

/-- An integer between two bounds, both included. -/
def integerIn? (least greatest : Int) : Value → Option Int
  | integer value => if least ≤ value ∧ value ≤ greatest then some value else none
  | _ => none

/-- Integers of 32 bits with a sign. -/
def int32? : Value → Option Int :=
  integerIn? (-2147483648) 2147483647

/-- Integers of 64 bits with a sign. -/
def int64? : Value → Option Int :=
  integerIn? (-9223372036854775808) 9223372036854775807

/-- Sizes, which have 64 bits and no sign. -/
def size? (value : Value) : Option Nat :=
  (value.integerIn? 0 18446744073709551615).map Int.toNat

def byte? (value : Value) : Option UInt8 :=
  (value.integerIn? 0 255).map fun byte => byte.toNat.toUInt8

def text? : Value → Option String
  | text value => some value
  | _ => none

/-- A list of which every item can be decoded. -/
def list? {α : Type} (item? : Value → Option α) : Value → Option (List α)
  | list items => items.mapM item?
  | _ => none

def size (value : Nat) : Value :=
  integer value

/-- A value that may be missing. -/
def optional : Option Value → Value
  | some value => value
  | none => null

/-- Decode a value that may be missing. -/
def optional? {α : Type} (decode? : Value → Option α) : Value → Option (Option α)
  | null => some none
  | value => (decode? value).map some

/-! ## Records -/

/-- The named fields of a record, each of which may be missing; or those of a list
that has one item for every field. -/
def fields? (names : List String) : Value → Option (List (Option Value))
  | record fields => some (names.map fun name => fields.lookup name)
  | list items => if items.length = names.length then some (items.map some) else none
  | _ => none

/-- The named fields of a record or of a list, none of them missing. -/
def allFields? (names : List String) (value : Value) : Option (List Value) :=
  (value.fields? names).bind fun fields => fields.mapM id

/-! ## Variants -/

/-- The name of a variant with the data that goes with it: none if it is given by
its name alone, or by its name with a null. -/
def variant? : Value → Option (String × Option Value)
  | text name => some (name, none)
  | record [(name, null)] => some (name, none)
  | record [(name, value)] => some (name, some value)
  | _ => none

/-- The named fields of a variant, which come in a record. -/
def variantFields? (names : List String) : Value → Option (List Value)
  | record fields => names.mapM fun name => fields.lookup name
  | _ => none

end Value

/-- Types whose values are stored and sent. -/
class Encodable (α : Type) where
  encode : α → Value
  decode? : Value → Option α

end BatchTree
