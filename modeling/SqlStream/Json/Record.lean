import SqlStream.Json.Basic

/-!
# Records in JSON

Taking apart the objects of a protocol. A record has known fields; it is written as an object, whose
other members do not matter and in which no known name may occur twice, or as an array of the fields
in their order, which may leave out fields at the end but hold no more.

A *discriminated* record says by its field `type` which fields it has. As an array it has the type
first. It must be readable in all its parts, ignored ones too, and not too deep; a record inside it
need not be looked at again for that, and may give the number of its type in place of the name.
-/

namespace SqlStream.Json

/-- The fields of a record by their names. -/
abbrev Record := List (String × Json)

/-- How often a name occurs among members. -/
def occurrences (name : String) (members : List (String × Json)) : Nat :=
  members.countP fun member => member.1 == name

/-- The fields of a record with these names. -/
def record? (names : List String) : Json → Option Record
  | object members =>
    if names.all fun name => occurrences name members ≤ 1 then some members else none
  | array items => if items.length ≤ names.length then some (names.zip items) else none
  | _ => none

/-- A field that must be there. -/
def Record.required {α : Type} (record : Record) (name : String) (read? : Json → Option α) :
    Option α :=
  (record.lookup name).bind read?

/-- A field that has a value if it is not there. -/
def Record.withDefault {α : Type} (record : Record) (name : String) (default : α)
    (read? : Json → Option α) : Option α :=
  match record.lookup name with
  | some value => read? value
  | none => some default

/-- A field that may be `null` or not there. -/
def Record.optional {α : Type} (record : Record) (name : String) (read? : Json → Option α) :
    Option (Option α) :=
  match record.lookup name with
  | some null | none => some none
  | some value => (read? value).map some

/-- The name of the field that tells the types of a discriminated record apart. -/
def typeName : String := "type"

/-- Where a discriminated record stands. -/
inductive Place where
  /-- In no other one. Here it may be `room` arrays and objects deep. -/
  | outer (room : Nat)
  /-- In another one, of which all parts are readable. -/
  | inner
  deriving DecidableEq, Repr

/-- The place of a whole text. -/
def Place.top : Place := outer maxDepth

/-- The place of a value so many arrays and objects below another, none of them a discriminated
record. -/
def Place.below (levels : Nat) : Place → Place
  | outer room => outer (room - levels)
  | inner => inner

/-- True of a value that a place takes. -/
def Place.admits : Place → Json → Bool
  | outer room, value => value.readableWithin room
  | inner, _ => true

/-- The name of the type that a discriminator gives. In an inner place that may be the number of one
of the known `types`; a number past them gives no name that is known. -/
def Place.typeOf? (types : List String) : Place → Json → Option String
  | _, string type => some type
  | inner, number (.integer n) => if 0 ≤ n then some (types[n.toNat]?.getD "") else none
  | _, _ => none

/-- The discriminator of a record, and the record of its other fields. -/
def splitType? : Json → Option (Json × Json)
  | object members =>
    if occurrences typeName members = 1 then do
      let type ← members.lookup typeName
      return (type, object (members.filter fun member => member.1 != typeName))
    else none
  | array (type :: items) => some (type, array items)
  | _ => none

/-- The type of a discriminated record, and the record of its other fields. -/
def discriminated? (place : Place) (types : List String) (json : Json) : Option (String × Json) :=
  if place.admits json then do
    let (discriminator, fields) ← splitType? json
    let type ← place.typeOf? types discriminator
    return (type, fields)
  else none

/-- A record without fields. -/
def fieldless? : Json → Option Unit
  | object _ => some ()
  | array [] => some ()
  | _ => none

/-! ## Fields -/

/-- A string. -/
def string? : Json → Option String
  | string s => some s
  | _ => none

/-- An array, all of whose items can be read. -/
def list? {α : Type} (read? : Json → Option α) : Json → Option (List α)
  | array items => items.mapM read?
  | _ => none

/-- A value, or `null` in its place. -/
def nullable? {α : Type} (read? : Json → Option α) : Json → Option (Option α)
  | null => some none
  | value => (read? value).map some

/-- An integer of 64 bits without sign. -/
def uint64? : Json → Option UInt64
  | number (.integer n) => if 0 ≤ n ∧ n.toNat < UInt64.size then some (UInt64.ofNat n.toNat) else none
  | _ => none

/-- An integer of 32 bits with sign. -/
def int32? : Json → Option Int32
  | number (.integer n) =>
    if Int32.minValue.toInt ≤ n ∧ n ≤ Int32.maxValue.toInt then some (Int32.ofInt n) else none
  | _ => none

/-- A double; an integer is rounded to one. -/
def binary64? : Json → Option Binary64
  | number (.integer n) => some (Binary64.ofInt n)
  | number (.float x) => some x
  | _ => none

/-! ## Building objects -/

/-- A member that is left out if it has no value. -/
def optionalMember (name : String) (value : Option Json) : List (String × Json) :=
  match value with
  | some value => [(name, value)]
  | none => []

/-- A member with a list that is left out if it is empty. -/
def listMember (name : String) (items : List Json) : List (String × Json) :=
  if items.isEmpty then [] else [(name, array items)]

/-- A discriminated record as an object. -/
def ofType (type : String) (members : List (String × Json)) : Json :=
  object ((typeName, string type) :: members)

end SqlStream.Json
