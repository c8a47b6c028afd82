import RoomHistory.Json.Basic

/-!
# Records in JSON

A record is given either as an object, where unknown members are ignored, or as an array of its
fields in order, where an end may be missing but nothing may be left over.  A `FieldReader` takes
the fields of a record one after another; what a missing field means is said field by field.
-/

namespace RoomHistory

open Json (lookup)

/-- A reader of one value; wrong input has no value. -/
abbrev Decoder (α : Type) := Json → Option α

/-- The fields of a record that are still to be read. -/
inductive Fields where
  /-- Given as an object. -/
  | named (members : List (String × Json))
  /-- Given as an array. -/
  | listed (items : List Json)

namespace Fields

/-- The fields of a record given as an object or as an array. -/
def ofJson? : Json → Option Fields
  | .object members => some (.named members)
  | .array items => some (.listed items)
  | _ => none

/-- The field of a given name, which in an array is the next one, and the remaining fields. -/
def take (name : String) : Fields → Option Json × Fields
  | .named members => (lookup name members, .named members)
  | .listed [] => (none, .listed [])
  | .listed (item :: rest) => (some item, .listed rest)

/-- Whether no item is left over. -/
def isSpent : Fields → Bool
  | .named _ => true
  | .listed items => items.isEmpty

/-- Whether the record is given by name, so that a field can be left out anywhere. -/
def byName : Fields → Bool
  | .named _ => true
  | .listed _ => false

@[simp] theorem take_named (name : String) (members : List (String × Json)) :
    (Fields.named members).take name = (lookup name members, .named members) := rfl

end Fields

/-- Reads fields of a record in their order. -/
abbrev FieldReader (α : Type) := StateT Fields Option α

namespace FieldReader

variable {α : Type}

/-- A field that is never missing. -/
def required (name : String) (decode : Decoder α) : FieldReader α := fun fields =>
  match fields.take name with
  | (some value, rest) => (decode value).map (·, rest)
  | (none, _) => none

/-- A field that has a default when it is missing; null is a value like any other. -/
def withDefault (name : String) (default : α) (decode : Decoder α) : FieldReader α := fun fields =>
  match fields.take name with
  | (some value, rest) => (decode value).map (·, rest)
  | (none, rest) => some (default, rest)

/-- Reads null as nothing. -/
def nullable (decode : Decoder α) : Decoder (Option α)
  | .null => some none
  | value => (decode value).map some

/-- A field that may be missing or null. -/
def optional (name : String) (decode : Decoder α) : FieldReader (Option α) :=
  withDefault name none (nullable decode)

/-- A field that may be null, and may be missing only where fields are given by name. -/
def optionalByName (name : String) (decode : Decoder α) : FieldReader (Option α) := fun fields =>
  if fields.byName then optional name decode fields
  else required name (nullable decode) fields

/-- Reads a record and refuses items that are left over. -/
def decode (reader : FieldReader α) : Decoder α := fun value => do
  let fields ← Fields.ofJson? value
  let (result, rest) ← reader fields
  if rest.isSpent then some result else none

@[simp] theorem required_named (name : String) (decode : Decoder α)
    (members : List (String × Json)) :
    required name decode (.named members) =
      ((lookup name members).bind decode).map (·, .named members) := by
  simp only [required, Fields.take_named]
  cases lookup name members <;> rfl

@[simp] theorem withDefault_named (name : String) (default : α) (decode : Decoder α)
    (members : List (String × Json)) :
    withDefault name default decode (.named members) =
      match lookup name members with
      | some value => (decode value).map (·, .named members)
      | none => some (default, .named members) := by
  simp only [withDefault, Fields.take_named]
  cases lookup name members <;> rfl

@[simp] theorem optionalByName_named (name : String) (decode : Decoder α)
    (members : List (String × Json)) :
    optionalByName name decode (.named members) = optional name decode (.named members) :=
  rfl

end FieldReader

namespace Decoder

variable {α : Type}

/-- Takes every value as it is. -/
def any : Decoder Json := some

/-- A text. -/
def string : Decoder String := Json.string?

/-- A truth value. -/
def bool : Decoder Bool
  | .bool value => some value
  | _ => none

/-- An integer. -/
def int? : Decoder Int
  | .number (.int value) => some value
  | _ => none

/-- An integer of 64 bits with a sign. -/
def int64 : Decoder Int := fun value => do
  let number ← int? value
  if -(UInt64.size : Int) ≤ 2 * number ∧ 2 * number < UInt64.size then some number else none

/-- A natural number of 64 bits. -/
def word64 : Decoder Nat := fun value => do
  let number ← int? value
  if 0 ≤ number ∧ number < UInt64.size then some number.toNat else none

/-- Nothing but null. -/
def null : Decoder Unit
  | .null => some ()
  | _ => none

/-- The results of reading every item. -/
def items (decode : Decoder α) : List Json → Option (List α)
  | [] => some []
  | item :: rest => do
      let first ← decode item
      let others ← items decode rest
      return first :: others

/-- An array of values of one sort. -/
def list (decode : Decoder α) : Decoder (List α)
  | .array values => items decode values
  | _ => none

/-- The results of reading every member, with their keys. -/
def members (decode : Decoder α) : List (String × Json) → Option (List (String × α))
  | [] => some []
  | (key, value) :: rest => do
      let first ← decode value
      let others ← members decode rest
      return (key, first) :: others

/-- An object of values of one sort under keys of any sort. -/
def entries (decode : Decoder α) : Decoder (List (String × α))
  | .object values => members decode values
  | _ => none

/-- A name for a value, alone or as the only key of an object over null. -/
def named (ofName? : String → Option α) : Decoder α
  | .string name => ofName? name
  | .object [(name, .null)] => ofName? name
  | _ => none

/-- A name for a value, which may also be the only key of an object over an empty object. -/
def namedLoosely (ofName? : String → Option α) : Decoder α
  | .object [(name, .object [])] => ofName? name
  | value => named ofName? value

end Decoder

namespace Json

/-- A member of an object. -/
def member (name : String) (value : Json) : List (String × Json) :=
  [(name, value)]

/-- A member that is left out when it has no value. -/
def optionalMember (name : String) : Option Json → List (String × Json)
  | some value => [(name, value)]
  | none => []

/-- A list of texts as a value. -/
def strings (values : List String) : Json :=
  .array (values.map .string)

/-- A text or null. -/
def nullableString (value : Option String) : Json :=
  ofOption (value.map .string)

end Json

end RoomHistory
