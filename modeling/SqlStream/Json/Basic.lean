import SqlStream.Binary64.Basic

/-!
# JSON values

Trees of JSON values. Members of an object stand in their order, and a name may occur twice.

A text can be grammatical and still denote no value: a string with half of a surrogate pair, a
number past the largest double, an object with such a string as a name. What it denotes is
`unreadable`: it may stand where nothing looks at it and is refused where something does.
-/

namespace SqlStream

/-- A JSON number. Integers are kept exactly; a number is a double if it is written with a fraction
or an exponent, as `-0`, or past the range of 64-bit integers. -/
inductive JsonNumber where
  | integer (n : Int)
  | float (x : Binary64)
  deriving DecidableEq, Repr

/-- A JSON value. -/
inductive Json where
  | null
  | bool (b : Bool)
  | number (n : JsonNumber)
  | string (s : String)
  | array (items : List Json)
  | object (members : List (String × Json))
  | unreadable
  deriving Repr

namespace Json

/-- An integer. -/
def ofInt (n : Int) : Json :=
  number (.integer n)

/-- A double; JSON has no infinities and no NaN, and `null` stands for them. -/
def ofBinary64 (x : Binary64) : Json :=
  if x.isFinite then number (.float x) else null

/-- True if a value is readable in all its parts and at most `room` arrays and objects deep. -/
def readableWithin : Nat → Json → Bool
  | 0, array _ => false
  | 0, object _ => false
  | room + 1, array items => items.all (readableWithin room)
  | room + 1, object members => members.all fun member => readableWithin room member.2
  | _, unreadable => false
  | _, _ => true

/-- How many arrays and objects deep a value may be where its depth is limited. -/
def maxDepth : Nat := 127

/-! ## Equality -/

mutual

/-- True of two values that are the same. -/
def same : Json → Json → Bool
  | null, null | unreadable, unreadable => true
  | bool b, bool c => b = c
  | number n, number m => n = m
  | string s, string t => s = t
  | array items, array others => sameItems items others
  | object members, object others => sameMembers members others
  | _, _ => false

/-- True of two lists of the same values. -/
def sameItems : List Json → List Json → Bool
  | [], [] => true
  | item :: items, other :: others => same item other && sameItems items others
  | _, _ => false

/-- True of two lists of the same members. -/
def sameMembers : List (String × Json) → List (String × Json) → Bool
  | [], [] => true
  | (name, value) :: members, (other, otherValue) :: others =>
    name = other && same value otherValue && sameMembers members others
  | _, _ => false

end

mutual

theorem same_iff : ∀ json other : Json, json.same other = true ↔ json = other
  | json, other => by
    cases json <;> cases other <;> simp [same, sameItems_iff, sameMembers_iff]

theorem sameItems_iff : ∀ items others : List Json, sameItems items others = true ↔ items = others
  | [], others => by cases others <;> simp [sameItems]
  | item :: items, others => by
    cases others <;> simp [sameItems, same_iff item, sameItems_iff items]

theorem sameMembers_iff :
    ∀ members others : List (String × Json), sameMembers members others = true ↔ members = others
  | [], others => by cases others <;> simp [sameMembers]
  | (name, value) :: members, others => by
    cases others <;>
      simp [sameMembers, same_iff value, sameMembers_iff members, Prod.ext_iff, and_assoc]

end

instance : DecidableEq Json :=
  fun json other => decidable_of_iff _ (same_iff json other)

end Json

end SqlStream
