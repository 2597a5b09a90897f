import Mathlib.Data.List.Forall2
import Mathlib.Data.List.Nodup
import Mathlib.Data.Option.Basic
import SqlStream.Json.Record

/-!
# Members of objects

The fields of an object by their names, and what is left of them where members are filtered by their
names or one of them gets another value.
-/

namespace SqlStream.Json

/-! ## Fields by their names -/

/-- A name occurs in two lists of members as often as in both together. -/
theorem occurrences_append (name : String) (members others : List (String × Json)) :
    occurrences name (members ++ others) = occurrences name members + occurrences name others :=
  List.countP_append

/-- A name occurs nowhere if no member has it. -/
theorem occurrences_eq_zero_iff {name : String} {members : List (String × Json)} :
    occurrences name members = 0 ↔ ∀ member ∈ members, member.1 ≠ name := by
  simp [occurrences, List.countP_eq_zero]

/-- The name of a member occurs. -/
theorem occurrences_ne_zero_of_mem {name : String} {value : Json} {members : List (String × Json)}
    (h : (name, value) ∈ members) : occurrences name members ≠ 0 :=
  fun hnone => occurrences_eq_zero_iff.mp hnone _ h rfl

/-- A name occurs as often as it is among the names. -/
theorem occurrences_eq_count (name : String) (members : List (String × Json)) :
    occurrences name members = (members.map Prod.fst).count name := by
  rw [occurrences, List.count, List.countP_map]
  rfl

/-- A field is the first member with its name. -/
theorem lookup_eq_head?_filter (name : String) (members : List (String × Json)) :
    members.lookup name =
      ((members.filter fun member => member.1 == name).head?).map Prod.snd := by
  induction members with
  | nil => rfl
  | cons member members ih =>
    rw [List.lookup_cons, List.filter_cons, Bool.beq_comm (a := member.1)]
    cases name == member.1 with
    | true => rfl
    | false => exact ih

/-- What is looked up is a member. -/
theorem mem_of_lookup_eq_some {name : String} {value : Json} {members : List (String × Json)}
    (h : members.lookup name = some value) : (name, value) ∈ members := by
  obtain ⟨before, after, rfl, -⟩ := List.lookup_eq_some_iff.mp h
  exact List.mem_append_right _ List.mem_cons_self

/-- The field of a name that occurs once is the member with it. -/
theorem lookup_eq_some_once_iff {name : String} {value : Json} {members : List (String × Json)} :
    occurrences name members ≤ 1 ∧ members.lookup name = some value ↔
      occurrences name members = 1 ∧ (name, value) ∈ members := by
  have hself : ∀ after, occurrences name ((name, value) :: after) = occurrences name after + 1 :=
    fun after => List.countP_cons_of_pos (beq_self_eq_true name)
  constructor
  · rintro ⟨honce, hlookup⟩
    obtain ⟨before, after, rfl, -⟩ := List.lookup_eq_some_iff.mp hlookup
    rw [occurrences_append, hself] at honce ⊢
    exact ⟨by omega, List.mem_append_right _ List.mem_cons_self⟩
  · rintro ⟨honce, hmem⟩
    obtain ⟨before, after, rfl⟩ := List.append_of_mem hmem
    rw [occurrences_append, hself] at honce ⊢
    have hbefore : occurrences name before = 0 := by omega
    exact ⟨by omega, List.lookup_eq_some_iff.mpr ⟨before, after, rfl, fun member hmem =>
      bne_iff_ne.mpr (occurrences_eq_zero_iff.mp hbefore member hmem).symm⟩⟩

/-- A lookup fails exactly if the name does not occur. -/
theorem lookup_eq_none_iff {name : String} {members : List (String × Json)} :
    members.lookup name = none ↔ occurrences name members = 0 := by
  rw [List.lookup_eq_none_iff, occurrences_eq_zero_iff]
  exact forall₂_congr fun member _ => by rw [bne_iff_ne, ne_comm]

/-- A field that has another name stays where members are left out by their names. -/
theorem lookup_filter_ne {name other : String} (hne : name ≠ other)
    (members : List (String × Json)) :
    (members.filter fun member => member.1 != other).lookup name = members.lookup name := by
  rw [lookup_eq_head?_filter, lookup_eq_head?_filter, List.filter_filter]
  congr 3
  funext member
  by_cases hname : member.1 = name
  · simp [hname, hne]
  · simp [hname]

/-! ## Optional fields -/

/-- A member with a default is the default when it is missing, and read when it is there. -/
theorem withDefault_eq_elim {α : Type} (record : Record) (name : String) (default : α)
    (read? : Json → Option α) :
    record.withDefault name default read? = (record.lookup name).elim (some default) read? := by
  rw [Record.withDefault]
  cases record.lookup name <;> rfl

/-- An optional field that is not there is `null`. -/
theorem optional_eq_nullable {α : Type} (record : Record) (name : String)
    (read? : Json → Option α) :
    record.optional name read? = nullable? read? ((record.lookup name).getD null) := by
  rw [Record.optional]
  cases record.lookup name with
  | none => rfl
  | some value => cases value <;> rfl

/-- An optional member that holds an object is read from that object. -/
theorem optional_of_lookup_object {α : Type} {record : Record} {name : String}
    {read? : Json → Option α} {members : List (String × Json)}
    (h : record.lookup name = some (object members)) :
    record.optional name read? = (read? (object members)).map some := by
  rw [optional_eq_nullable, h]
  rfl

/-! ## Depth and discriminators -/

/-- An array is readable if its items are, one level deeper. -/
theorem readableWithin_array_iff {room : Nat} {items : List Json} :
    (array items).readableWithin room = true ↔
      0 < room ∧ ∀ item ∈ items, item.readableWithin (room - 1) = true := by
  cases room with
  | zero => simp [readableWithin]
  | succ room => simp [readableWithin]

/-- An object is readable if its members are, one level deeper. -/
theorem readableWithin_object_iff {room : Nat} {members : List (String × Json)} :
    (object members).readableWithin room = true ↔
      0 < room ∧ ∀ member ∈ members, member.2.readableWithin (room - 1) = true := by
  cases room with
  | zero => simp [readableWithin]
  | succ room => simp [readableWithin]

/-- A string is readable at any depth. -/
@[simp] theorem readableWithin_string (room : Nat) (s : String) :
    (string s).readableWithin room = true := by
  cases room <;> rfl

/-- A discriminated record in an object: its discriminator, and the other members as its fields. -/
theorem discriminated?_object_iff {place : Place} {types : List String} {type : String}
    {members : List (String × Json)} {fields : Json} :
    (object members).discriminated? place types = some (type, fields) ↔
      place.admits (object members) = true ∧ occurrences typeName members = 1 ∧
        (∃ discriminator, members.lookup typeName = some discriminator ∧
          place.typeOf? types discriminator = some type) ∧
        fields = object (members.filter fun member => member.1 != typeName) := by
  simp only [discriminated?, splitType?, Option.ite_none_right_eq_some, Option.bind_eq_bind,
    Option.bind_eq_some_iff, Prod.exists, pure, Prod.mk.injEq, Option.some.injEq]
  constructor
  · rintro ⟨hadmits, discriminator, _, ⟨honce, _, hlookup, rfl, rfl⟩, _, htype, rfl, rfl⟩
    exact ⟨hadmits, honce, ⟨_, hlookup, htype⟩, rfl⟩
  · rintro ⟨hadmits, honce, ⟨discriminator, hlookup, htype⟩, rfl⟩
    exact ⟨hadmits, discriminator, _, ⟨honce, discriminator, hlookup, rfl, rfl⟩, type, htype, rfl, rfl⟩

/-! ## Replaced values -/

/-- Replaces the value of a member. -/
def setMember (name : String) (value : Json) (members : List (String × Json)) :
    List (String × Json) :=
  members.map fun member => if member.1 = name then (name, value) else member

section Replaced

variable {name : String} {value : Json} {members : List (String × Json)}

/-- Setting a member keeps the names. -/
@[simp] theorem map_fst_setMember :
    (setMember name value members).map Prod.fst = members.map Prod.fst := by
  rw [setMember, List.map_map]
  refine List.map_congr_left fun member _ => ?_
  by_cases hname : member.1 = name <;> simp [hname]

/-- Setting a member keeps how often each name occurs. -/
@[simp] theorem occurrences_setMember (key : String) :
    occurrences key (setMember name value members) = occurrences key members := by
  rw [occurrences_eq_count, map_fst_setMember, occurrences_eq_count]

/-- A lookup after setting a member finds the new value under its name only. -/
theorem lookup_setMember (key : String) : (setMember name value members).lookup key =
    if key = name then (members.lookup key).map fun _ => value else members.lookup key := by
  induction members with
  | nil => simp [setMember]
  | cons member members ih =>
    have hname : (if member.1 = name then (name, value) else member).1 = member.1 := by
      split <;> simp_all
    rw [setMember, List.map_cons, List.lookup_cons, List.lookup_cons, ← setMember, ih, hname]
    by_cases hkey : key = member.1
    · subst hkey
      by_cases heq : member.1 = name <;> simp [heq]
    · rw [beq_false_of_ne hkey]

/-- Setting a member commutes with keeping the members of some names. -/
theorem filter_setMember (keep : String → Bool) :
    (setMember name value members).filter (fun member => keep member.1) =
      setMember name value (members.filter fun member => keep member.1) := by
  rw [setMember, List.filter_map, setMember]
  congr 2
  funext member
  by_cases hname : member.1 = name <;> simp [hname]

/-- Members without the name stay as they are. -/
theorem setMember_of_not_mem (h : ∀ member ∈ members, member.1 ≠ name) :
    setMember name value members = members := by
  refine (List.map_congr_left fun member hmem => ?_).trans (List.map_id members)
  rw [if_neg (h member hmem), id]

/-- An object whose member is set gives the record with that member set. -/
theorem record?_setMember {names : List String} {record : Record}
    (h : (object members).record? names = some record) :
    (object (setMember name value members)).record? names = some (setMember name value record) := by
  simp only [record?, Option.ite_none_right_eq_some] at h ⊢
  obtain ⟨honce, heq⟩ := h
  cases heq
  exact ⟨by simpa using honce, rfl⟩

/-- Setting a member is not seen by the readers of other names. -/
theorem optional_setMember {α : Type} {key : String} {read? : Json → Option α} (hne : key ≠ name) :
    Record.optional (setMember name value members) key read? =
      Record.optional members key read? := by
  rw [Record.optional, lookup_setMember, if_neg hne, Record.optional]

/-- An object stays readable when a member is set to a readable value. -/
theorem readableWithin_setMember {room : Nat}
    (h : (object members).readableWithin room = true)
    (hvalue : value.readableWithin (room - 1) = true) :
    (object (setMember name value members)).readableWithin room = true := by
  rw [readableWithin_object_iff] at h ⊢
  refine ⟨h.1, fun member hmem => ?_⟩
  obtain ⟨old, hold, rfl⟩ := List.mem_map.mp hmem
  split
  · exact hvalue
  · exact h.2 old hold

/-- A place that admits an object admits it with a member set to a readable value. -/
theorem admits_setMember {place : Place} (h : place.admits (object members) = true)
    (hvalue : ∀ room, place = .outer room → value.readableWithin (room - 1) = true) :
    place.admits (object (setMember name value members)) = true := by
  cases place with
  | inner => rfl
  | outer room => exact readableWithin_setMember h (hvalue room rfl)

/-- A discriminated record with another type is read with that type and the same fields. -/
theorem discriminated?_setType {place : Place} {types : List String} {type other : String}
    {fields : Json} (h : (object members).discriminated? place types = some (type, fields)) :
    (object (setMember typeName (.string other) members)).discriminated? place types =
      some (other, fields) := by
  rw [discriminated?_object_iff] at h ⊢
  obtain ⟨hadmits, honce, ⟨discriminator, hlookup, htype⟩, rfl⟩ := h
  refine ⟨admits_setMember hadmits fun _ _ => readableWithin_string _ _,
    (occurrences_setMember _).trans honce, ⟨.string other, ?_, ?_⟩, ?_⟩
  · rw [lookup_setMember, if_pos rfl, hlookup, Option.map_some]
  · cases place <;> rfl
  · rw [filter_setMember (· != typeName), setMember_of_not_mem]
    exact fun member hmem => bne_iff_ne.mp (List.mem_filter.mp hmem).2

/-- What is read of a discriminated record with another type is what that type gives. -/
theorem read_setType {α : Type} {place : Place} {types : List String} {type : String}
    {read? : String × Json → Option α} {x : α}
    (h : ((object members).discriminated? place types).bind read? = some x) :
    ((object (setMember typeName (.string type) members)).discriminated? place types).bind read? =
      read? (type, object (members.filter fun member => member.1 != typeName)) := by
  obtain ⟨⟨known, fields⟩, hdiscriminated, -⟩ := Option.bind_eq_some_iff.mp h
  obtain ⟨-, -, -, rfl⟩ := discriminated?_object_iff.mp hdiscriminated
  rw [discriminated?_setType hdiscriminated, Option.bind_some]

/-- A discriminated record with another value in a field has its type and that value. -/
theorem discriminated?_setMember {place : Place} {types : List String} {type : String}
    {fields : Json} (h : (object members).discriminated? place types = some (type, fields))
    (hne : name ≠ typeName)
    (hvalue : ∀ room, place = .outer room → value.readableWithin (room - 1) = true) :
    (object (setMember name value members)).discriminated? place types = some (type,
      object (setMember name value (members.filter fun member => member.1 != typeName))) := by
  rw [discriminated?_object_iff] at h ⊢
  obtain ⟨hadmits, honce, hdiscriminator, rfl⟩ := h
  refine ⟨admits_setMember hadmits hvalue, (occurrences_setMember _).trans honce, ?_, ?_⟩
  · rwa [lookup_setMember, if_neg hne.symm]
  · rw [filter_setMember (· != typeName)]

end Replaced

/-! ## Items of lists -/

section Items

variable {α β : Type} {f : α → Option β} {items : List α} {xs : List β}

/-- A list is read if each of its items is. -/
theorem mapM_eq_some_iff : items.mapM f = some xs ↔ items.map f = xs.map some := by
  induction items generalizing xs with
  | nil => cases xs <;> simp
  | cons item items ih =>
    rw [List.mapM_cons]
    cases xs with
    | nil => simp [Option.bind_eq_some_iff]
    | cons x xs =>
      simp [Option.bind_eq_some_iff, ih]

/-- The value at a place is read from the item at that place. -/
theorem getElem?_of_mapM {i : Nat} {item : α} (h : items.mapM f = some xs)
    (hitem : items[i]? = some item) : ∃ x, f item = some x ∧ xs[i]? = some x := by
  have hmapped := congrArg (fun mapped => mapped[i]?) (mapM_eq_some_iff.mp h)
  simpa [hitem, eq_comm, and_comm] using hmapped

/-- Every value that is read is read from an item. -/
theorem exists_of_mem_mapM {x : β} (h : items.mapM f = some xs) (hx : x ∈ xs) :
    ∃ item ∈ items, f item = some x := by
  rw [mapM_eq_some_iff] at h
  exact List.mem_map.mp (h ▸ List.mem_map_of_mem hx)

/-- The list without its last item is read without the last value. -/
theorem mapM_dropLast (h : items.mapM f = some xs) :
    items.dropLast.mapM f = some xs.dropLast := by
  rw [mapM_eq_some_iff, List.map_dropLast, mapM_eq_some_iff.mp h, List.map_dropLast]

/-- Items are what their results came from, if each result tells its item. -/
theorem map_of_mapM {g : β → α} (h : items.mapM f = some xs)
    (hback : ∀ item ∈ items, ∀ x, f item = some x → g x = item) : xs.map g = items := by
  rw [mapM_eq_some_iff] at h
  induction items generalizing xs with
  | nil =>
    rw [List.map_nil, eq_comm, List.map_eq_nil_iff] at h
    rw [h, List.map_nil]
  | cons item items ih =>
    cases xs with
    | nil => cases h
    | cons x xs =>
      obtain ⟨hitem, hitems⟩ := List.cons.inj h
      obtain ⟨hfirst, hrest⟩ := List.forall_mem_cons.mp hback
      rw [List.map_cons, hfirst x hitem, ih hitems hrest]

/-- A list whose item is set is read with that value set. -/
theorem mapM_set {i : Nat} {item : α} {x : β} (h : items.mapM f = some xs)
    (hitem : f item = some x) : (items.set i item).mapM f = some (xs.set i x) := by
  rw [mapM_eq_some_iff, List.map_set, mapM_eq_some_iff.mp h, hitem, List.map_set]

end Items

end SqlStream.Json
