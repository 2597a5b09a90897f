import SqlStream.Proofs.Json.Rearranged

/-!
# What a reader does not see

A reader of a shape sees the fields that the shape knows. A *variation* of a value has the members
of its objects in another order, at any depth, and further members in the objects of the shape,
under names that the shape does not know. A reader is *steady* if it reads of the variations of a
value what it reads of the value. There is a rule for each way to make a reader of others.
-/

namespace SqlStream.Json

/-! ## Shapes -/

/-- What a reader knows of a value. -/
inductive Shape where
  /-- A value of which no members are known. -/
  | plain
  | list (item : Shape)
  /-- A record with these fields. -/
  | record (fields : List (String × Shape))
  /-- A discriminated record with these types and their fields. -/
  | tagged (types : List (String × List (String × Shape)))

namespace Shape

/-- The fields of a type. A type that is not known has none. -/
def fieldsOf (types : List (String × List (String × Shape))) (type : String) :
    List (String × Shape) :=
  (types.lookup type).getD []

/-- The fields that are known of an object with these members. -/
def fields? (members : List (String × Json)) : Shape → Option (List (String × Shape))
  | record fields => some fields
  | tagged types => do
    let type ← Place.inner.typeOf? (types.map Prod.fst) (← members.lookup typeName)
    return (typeName, plain) :: fieldsOf types type
  | _ => none

/-- The shape of a member. Of a member that is not known no members are known. -/
def ofMember (fields : List (String × Shape)) (name : String) : Shape :=
  (fields.lookup name).getD plain

/-- A member is not read by a field of another name. -/
theorem ofMember_cons_of_ne {field : String × Shape} {fields : List (String × Shape)}
    {name : String} (hne : name ≠ field.1) :
    ofMember (field :: fields) name = ofMember fields name := by
  rw [ofMember, List.lookup_cons, beq_false_of_ne hne, ofMember]

end Shape

/-! ## Variations -/

/-- True of a value of a shape and another one that differs from it in the order of members, at any
depth, and in members that are not known: those added are readable, and at most so deep that the
value may be `room` arrays and objects deep. -/
inductive Variation : Nat → Shape → Json → Json → Prop where
  | same (room : Nat) (shape : Shape) (json : Json) : Variation room shape json json
  | rearranged {room : Nat} {json other : Json} (h : Rearranged json other) :
    Variation room .plain json other
  | list {room : Nat} {shape : Shape} {items others : List Json}
      (hlength : items.length = others.length)
      (hitems : ∀ item other, (item, other) ∈ items.zip others →
        Variation (room - 1) shape item other) :
    Variation room (.list shape) (array items) (array others)
  | object {room : Nat} {shape : Shape} {fields : List (String × Shape)}
      {members kept added others : List (String × Json)}
      (hfields : shape.fields? members = some fields)
      (hnames : members.map Prod.fst = kept.map Prod.fst)
      (hvalues : ∀ member other, (member, other) ∈ members.zip kept →
        Variation (room - 1) (Shape.ofMember fields member.1) member.2 other.2)
      (hadded : ∀ member ∈ added,
        fields.lookup member.1 = none ∧ member.2.readableWithin (room - 1) = true)
      (hperm : (kept ++ added).Perm others) :
    Variation room shape (Json.object members) (Json.object others)

/-- An array varies where its items do, one by one. -/
theorem Variation.of_items {room : Nat} {shape : Shape} {items others : List Json}
    (h : List.Forall₂ (Variation (room - 1) shape) items others) :
    Variation room (.list shape) (.array items) (.array others) :=
  .list h.length_eq fun _ _ hmem => List.forall₂_zip h hmem

/-- An object varies where the members it keeps do and the added ones are unknown and readable. -/
theorem Variation.of_members {room : Nat} {shape : Shape} {fields : List (String × Shape)}
    {members others : List (String × Json)} (kept added : List (String × Json))
    (hfields : shape.fields? members = some fields)
    (hkept : List.Forall₂ (fun member other => member.1 = other.1 ∧
      Variation (room - 1) (Shape.ofMember fields member.1) member.2 other.2) members kept)
    (hadded : ∀ member ∈ added,
      fields.lookup member.1 = none ∧ member.2.readableWithin (room - 1) = true)
    (hperm : (kept ++ added).Perm others) :
    Variation room shape (.object members) (.object others) := by
  refine .object hfields ?_ (fun _ _ hmem => (List.forall₂_zip hkept hmem).2) hadded hperm
  rw [← List.forall₂_eq_eq_eq, List.forall₂_map_left_iff, List.forall₂_map_right_iff]
  exact hkept.imp fun _ _ h => h.1

/-- A value that is neither an array nor an object is its only variation. -/
theorem Variation.eq_or {room : Nat} {shape : Shape} {json other : Json}
    (h : Variation room shape json other) :
    json = other ∨ (∃ items others, json = Json.array items ∧ other = Json.array others) ∨
      ∃ members others, json = Json.object members ∧ other = Json.object others := by
  cases h with
  | same => exact .inl rfl
  | rearranged h =>
    cases h with
    | same => exact .inl rfl
    | array => exact .inr (.inl ⟨_, _, rfl, rfl⟩)
    | object => exact .inr (.inr ⟨_, _, rfl, rfl⟩)
  | list => exact .inr (.inl ⟨_, _, rfl, rfl⟩)
  | object => exact .inr (.inr ⟨_, _, rfl, rfl⟩)

/-- A variation of `null` is `null`, and of nothing else. -/
theorem Variation.eq_null_iff {room : Nat} {shape : Shape} {json other : Json}
    (h : Variation room shape json other) : json = null ↔ other = null := by
  obtain rfl | ⟨items, others, rfl, rfl⟩ | ⟨members, others, rfl, rfl⟩ := h.eq_or
  · rfl
  · exact ⟨nofun, nofun⟩
  · exact ⟨nofun, nofun⟩

/-! ### Depth -/

/-- What holds of all of a list holds of all of another one, if it passes from each item to the
other item in its place. -/
theorem forall_mem_of_zip {α : Type} {P : α → Prop} {items others : List α}
    (hlength : items.length = others.length)
    (hstep : ∀ item other, (item, other) ∈ items.zip others → P item → P other)
    (hitems : ∀ item ∈ items, P item) : ∀ other ∈ others, P other := by
  intro other hmem
  obtain ⟨i, hi, rfl⟩ := List.mem_iff_getElem.mp hmem
  have hpair : (items[i], others[i]) ∈ items.zip others := by
    rw [← List.getElem_zip (h := by simpa [hlength] using hi)]
    exact List.getElem_mem _
  exact hstep _ _ hpair (hitems _ (List.getElem_mem _))

section Depth

variable {room : Nat}

/-- An array is as readable as one of the same length with less readable items. -/
theorem readableWithin_array_of_zip {items others : List Json}
    (hlength : items.length = others.length)
    (hstep : ∀ item other, (item, other) ∈ items.zip others →
      item.readableWithin (room - 1) = true → other.readableWithin (room - 1) = true)
    (h : (array items).readableWithin room = true) : (array others).readableWithin room = true := by
  obtain ⟨hroom, hitems⟩ := readableWithin_array_iff.mp h
  exact readableWithin_array_iff.mpr ⟨hroom, forall_mem_of_zip hlength hstep hitems⟩

/-- An object is as readable as one with the same names, however its members are ordered and
whatever readable ones are added. -/
theorem readableWithin_object_of_zip {members kept added others : List (String × Json)}
    (hnames : members.map Prod.fst = kept.map Prod.fst)
    (hstep : ∀ member other, (member, other) ∈ members.zip kept →
      member.2.readableWithin (room - 1) = true → other.2.readableWithin (room - 1) = true)
    (hadded : ∀ member ∈ added, member.2.readableWithin (room - 1) = true)
    (hperm : (kept ++ added).Perm others) (h : (object members).readableWithin room = true) :
    (object others).readableWithin room = true := by
  obtain ⟨hroom, hmembers⟩ := readableWithin_object_iff.mp h
  have hlength : members.length = kept.length := by
    simpa using congrArg List.length hnames
  have hkept := forall_mem_of_zip hlength hstep hmembers
  refine readableWithin_object_iff.mpr ⟨hroom, fun member hmem => ?_⟩
  obtain hmem | hmem := List.mem_append.mp (hperm.mem_iff.mpr hmem)
  · exact hkept member hmem
  · exact hadded member hmem

/-- Rearranging members leaves a value readable. -/
theorem Rearranged.readableWithin {json other : Json} (h : Rearranged json other)
    (hreadable : json.readableWithin room = true) : other.readableWithin room = true := by
  induction h generalizing room with
  | same => exact hreadable
  | array hlength _ ih =>
    exact readableWithin_array_of_zip hlength (fun _ _ hmem => ih _ _ hmem) hreadable
  | @object _ kept _ hnames _ hperm ih =>
    rw [← List.append_nil kept] at hperm
    exact readableWithin_object_of_zip hnames (fun _ _ hmem => ih _ _ hmem)
      (List.forall_mem_nil _) hperm hreadable

/-- A variation of a readable value is readable. -/
theorem Variation.readableWithin {shape : Shape} {json other : Json}
    (h : Variation room shape json other) (hreadable : json.readableWithin room = true) :
    other.readableWithin room = true := by
  induction h with
  | same => exact hreadable
  | rearranged h => exact h.readableWithin hreadable
  | list hlength _ ih =>
    exact readableWithin_array_of_zip hlength (fun _ _ hmem => ih _ _ hmem) hreadable
  | object _ hnames _ hadded hperm ih =>
    exact readableWithin_object_of_zip hnames (fun _ _ hmem => ih _ _ hmem)
      (fun member hmem => (hadded member hmem).2) hperm hreadable

end Depth

/-! ## Results that are kept -/

/-- True if the second result is the first one wherever there is a first one. -/
def Kept {α : Type} (x y : Option α) : Prop :=
  ∀ a, x = some a → y = some a

section Kept

variable {α β : Type} {x y : Option α}

/-- Every result keeps itself. -/
theorem Kept.refl (x : Option α) : Kept x x :=
  fun _ h => h

/-- What is kept stays kept behind a further step. -/
theorem Kept.bind {f g : α → Option β} (h : Kept x y) (hnext : ∀ a, Kept (f a) (g a)) :
    Kept (x >>= f) (y >>= g) := by
  intro b hb
  obtain ⟨a, ha, hb⟩ := Option.bind_eq_some_iff.mp hb
  exact Option.bind_eq_some_iff.mpr ⟨a, h a ha, hnext a b hb⟩

/-- What is kept stays kept under a function of it. -/
theorem Kept.map {f : α → β} (h : Kept x y) : Kept (x.map f) (y.map f) := by
  intro b hb
  obtain ⟨a, ha, rfl⟩ := Option.map_eq_some_iff.mp hb
  rw [h a ha, Option.map_some]

end Kept

/-- True of a reader that reads of the variations of a value what it reads of the value. -/
def Steady {α : Type} (room : Nat) (shape : Shape) (read? : Json → Option α) : Prop :=
  ∀ json other, Variation room shape json other → Kept (read? json) (read? other)

/-! ## Steady readers -/

section Readers

variable {α : Type} {room : Nat} {shape : Shape} {read? : Json → Option α}

/-- A reader that takes neither arrays nor objects. -/
theorem Steady.scalar (harray : ∀ items, read? (array items) = none)
    (hobject : ∀ members, read? (object members) = none) : Steady room shape read? := by
  intro json other h
  obtain rfl | ⟨items, others, rfl, rfl⟩ | ⟨members, others, rfl, rfl⟩ := h.eq_or
  · exact .refl _
  · rw [harray]
    exact nofun
  · rw [hobject]
    exact nofun

/-- A list is read the same if its items are kept one by one. -/
theorem Kept.mapM {items others : List Json}
    (h : List.Forall₂ (fun item other => Kept (read? item) (read? other)) items others) :
    Kept (items.mapM read?) (others.mapM read?) := by
  induction h with
  | nil => exact .refl _
  | cons hfirst _ ih =>
    rw [List.mapM_cons, List.mapM_cons]
    exact hfirst.bind fun _ => ih.bind fun _ => .refl _

/-- A list reader is steady if the reader of its items is. -/
theorem Steady.list (h : Steady (room - 1) shape read?) :
    Steady room (.list shape) (list? read?) := by
  intro json other hvaried
  cases hvaried with
  | same => exact .refl _
  | object hfields => cases hfields
  | list hlength hitems =>
    exact Kept.mapM (List.forall₂_iff_zip.mpr ⟨hlength, fun hmem => h _ _ (hitems _ _ hmem)⟩)

/-- Reading a value or `null` is steady if reading the value is. -/
theorem Steady.nullable (h : Steady room shape read?) : Steady room shape (nullable? read?) := by
  intro json other hvaried
  by_cases hnull : json = null
  · rw [hnull, hvaried.eq_null_iff.mp hnull]
    exact .refl _
  · have hother : other ≠ null := fun h => hnull (hvaried.eq_null_iff.mpr h)
    have hvalue : ∀ value, value ≠ null → nullable? read? value = (read? value).map some := by
      intro value hne
      cases value <;> first | rfl | exact absurd rfl hne
    rw [hvalue json hnull, hvalue other hother]
    exact (h json other hvaried).map

/-! ### Records -/

/-- True of records whose known fields are variations. -/
def FieldsVary (room : Nat) (fields : List (String × Shape)) (record other : Record) : Prop :=
  ∀ name shape, fields.lookup name = some shape →
    Option.Rel (Variation room shape) (record.lookup name) (other.lookup name)

section Fields

variable {fields : List (String × Shape)} {record other : Record} {name : String}

/-- What is read of a known field is kept if it is kept for the values of the field. -/
theorem FieldsVary.field {f : Option Json → Option α} (h : FieldsVary room fields record other)
    (hshape : fields.lookup name = some shape)
    (hread : Steady room shape fun value => f (some value)) :
    Kept (f (record.lookup name)) (f (other.lookup name)) := by
  have hfield := h name shape hshape
  generalize record.lookup name = value, other.lookup name = otherValue at hfield ⊢
  cases hfield with
  | none => exact .refl _
  | some hvalue => exact hread _ _ hvalue

/-- A required member is read the same under a steady reader. -/
theorem FieldsVary.required (h : FieldsVary room fields record other)
    (hshape : fields.lookup name = some shape) (hread : Steady room shape read?) :
    Kept (record.required name read?) (other.required name read?) :=
  h.field (f := fun value => value.bind read?) hshape hread

/-- A member with a default is read the same under a steady reader. -/
theorem FieldsVary.withDefault {default : α} (h : FieldsVary room fields record other)
    (hshape : fields.lookup name = some shape) (hread : Steady room shape read?) :
    Kept (record.withDefault name default read?) (other.withDefault name default read?) := by
  rw [withDefault_eq_elim, withDefault_eq_elim]
  exact h.field (f := fun value => value.elim (some default) read?) hshape hread

/-- An optional member is read the same under a steady reader. -/
theorem FieldsVary.optional (h : FieldsVary room fields record other)
    (hshape : fields.lookup name = some shape) (hread : Steady room shape read?) :
    Kept (record.optional name read?) (other.optional name read?) := by
  rw [optional_eq_nullable, optional_eq_nullable]
  exact h.field (f := fun value => nullable? read? (value.getD null)) hshape hread.nullable

/-- The known fields of an object and of a variation of it. -/
theorem FieldsVary.of_object {members kept added others : List (String × Json)}
    (hnames : members.map Prod.fst = kept.map Prod.fst)
    (hvalues : ∀ member other, (member, other) ∈ members.zip kept →
      Variation room (Shape.ofMember fields member.1) member.2 other.2)
    (hadded : ∀ member ∈ added, fields.lookup member.1 = none)
    (hperm : (kept ++ added).Perm others)
    (honce : ∀ name shape, fields.lookup name = some shape → occurrences name members ≤ 1) :
    FieldsVary room fields members others ∧ ∀ name shape, fields.lookup name = some shape →
      occurrences name others = occurrences name members := by
  have hall : ∀ name shape, fields.lookup name = some shape →
      occurrences name others = occurrences name members ∧
        Option.Rel (Variation room (Shape.ofMember fields name)) (members.lookup name)
          (others.lookup name) := by
    intro name shape hshape
    refine fields_of_perm (R := fun name => Variation room (Shape.ofMember fields name)) hnames
      hvalues hperm (honce name shape hshape) ?_
    rintro member hmem rfl
    rw [hadded member hmem] at hshape
    cases hshape
  refine ⟨fun name shape hshape => ?_, fun name shape hshape => (hall name shape hshape).1⟩
  have hfield := (hall name shape hshape).2
  rwa [Shape.ofMember, hshape, Option.getD_some] at hfield

end Fields

variable {fields : List (String × Shape)}

/-- The names of a record are those that have a shape. -/
theorem mem_names_iff {name : String} :
    name ∈ fields.map Prod.fst ↔ ∃ shape, fields.lookup name = some shape := by
  rw [← Option.isSome_iff_exists, List.lookup_isSome_iff, List.mem_map]
  simp only [beq_iff_eq, eq_comm (a := name)]

/-- A record reader is steady if it reads each of its fields steadily. -/
theorem Steady.record {names : List String} {f : Record → Option α}
    (hnames : names = fields.map Prod.fst)
    (hread : ∀ record other, FieldsVary (room - 1) fields record other →
      Kept (f record) (f other)) :
    Steady room (.record fields) fun json => json.record? names >>= f := by
  subst hnames
  intro json other hvaried
  cases hvaried with
  | same => exact .refl _
  | @object _ _ _ members _ _ others hfields hkept hvalues hadded hperm =>
    cases hfields
    intro a ha
    simp only [record?, Option.bind_eq_bind, Option.bind_eq_some_iff, Option.ite_none_right_eq_some,
      List.all_eq_true, decide_eq_true_eq, Option.some.injEq] at ha ⊢
    obtain ⟨_, ⟨honce, rfl⟩, ha⟩ := ha
    obtain ⟨hvary, hoften⟩ := FieldsVary.of_object hkept hvalues
      (fun member hmem => (hadded member hmem).1) hperm
      (fun name shape hshape => honce name (mem_names_iff.mpr ⟨shape, hshape⟩))
    refine ⟨others, ⟨fun name hname => ?_, rfl⟩, hread _ _ hvary a ha⟩
    obtain ⟨shape, hshape⟩ := mem_names_iff.mp hname
    rw [hoften name shape hshape]
    exact honce name hname

/-! ### Discriminated records -/

/-- Reading a record without fields is steady. -/
theorem Steady.fieldless : Steady room (.record fields) fieldless? := by
  intro json other hvaried
  cases hvaried with
  | same => exact .refl _
  | object => exact .refl _

/-- A type found in the outermost object is found in an inner one. -/
theorem Place.typeOf?_inner {place : Place} {types : List String} {discriminator : Json}
    {type : String} (h : place.typeOf? types discriminator = some type) :
    inner.typeOf? types discriminator = some type := by
  cases place with
  | inner => exact h
  | outer room =>
    cases discriminator with
    | string s => exact h
    | _ => simp [typeOf?] at h

/-- A discriminator is neither an array nor an object, so a variation of it is the same. -/
theorem Variation.discriminator {place : Place} {types : List String} {discriminator other : Json}
    {type : String} (h : Variation room shape discriminator other)
    (htype : place.typeOf? types discriminator = some type) : discriminator = other := by
  obtain heq | ⟨items, _, rfl, rfl⟩ | ⟨members, _, rfl, rfl⟩ := h.eq_or
  · exact heq
  · simp [Place.typeOf?] at htype
  · simp [Place.typeOf?] at htype

/-- A place that admits a value admits its variations. -/
theorem Variation.admits {place : Place} {json other : Json} (h : Variation room shape json other)
    (hplace : ∀ limit, place = .outer limit → limit = room)
    (hadmits : place.admits json = true) : place.admits other = true := by
  cases place with
  | inner => rfl
  | outer limit =>
    obtain rfl := hplace limit rfl
    exact h.readableWithin hadmits

/-- Members that keep their names are filtered by their names side by side. -/
theorem mem_zip_of_mem_zip_filter (keep : String → Bool) {members kept : List (String × Json)}
    (hnames : members.map Prod.fst = kept.map Prod.fst) {pair : (String × Json) × (String × Json)}
    (h : pair ∈ (members.filter fun member => keep member.1).zip
      (kept.filter fun member => keep member.1)) :
    pair ∈ members.zip kept ∧ keep pair.1.1 = true := by
  refine ⟨?_, (List.mem_filter.mp (List.of_mem_zip h).1).2⟩
  induction members generalizing kept with
  | nil => exact h
  | cons member members ih =>
    cases kept with
    | nil => cases hnames
    | cons other kept =>
      obtain ⟨hname, hnames⟩ := List.cons.inj hnames
      rw [List.filter_cons, List.filter_cons, ← hname] at h
      rw [List.zip_cons_cons, List.mem_cons]
      split at h
      · obtain rfl | h := List.mem_cons.mp h
        · exact .inl rfl
        · exact .inr (ih hnames h)
      · exact .inr (ih hnames h)

/-- What is related to a value that is there is there too. -/
theorem exists_of_rel_some {R : Json → Json → Prop} {value : Json} {other : Option Json}
    (h : Option.Rel R (some value) other) : ∃ b, other = some b ∧ R value b := by
  cases h with
  | some hvalue => exact ⟨_, rfl, hvalue⟩

/-- A discriminated record has one type with all its variations, and its other fields vary. -/
theorem Variation.discriminated {place : Place} {types : List (String × List (String × Shape))}
    {json other fields : Json} {type : String} (h : Variation room (.tagged types) json other)
    (hplace : ∀ limit, place = .outer limit → limit = room)
    (hjson : json.discriminated? place (types.map Prod.fst) = some (type, fields)) :
    ∃ otherFields, other.discriminated? place (types.map Prod.fst) = some (type, otherFields) ∧
      Variation room (.record (Shape.fieldsOf types type)) fields otherFields := by
  cases h with
  | same => exact ⟨fields, hjson, .same _ _ _⟩
  | @object _ _ known members kept added others hfields hkept hvalues hadded hperm =>
    obtain ⟨hadmits, honce, ⟨discriminator, hlookup, htype⟩, rfl⟩ :=
      discriminated?_object_iff.mp hjson
    have hknown : known = (typeName, .plain) :: Shape.fieldsOf types type := by
      simpa [Shape.fields?, hlookup, Place.typeOf?_inner htype] using hfields.symm
    have hother : ∀ member ∈ added, member.1 ≠ typeName ∧
        (Shape.fieldsOf types type).lookup member.1 = none := by
      intro member hmem
      simpa [hknown, List.lookup_eq_none_iff] using (hadded member hmem).1
    -- the discriminator stays, wherever it stands
    obtain ⟨hoften, hrel⟩ := fields_of_perm (R := fun name =>
      Variation (room - 1) (Shape.ofMember known name)) hkept hvalues hperm (Nat.le_of_eq honce)
      (fun member hmem => (hother member hmem).1)
    rw [hlookup] at hrel
    obtain ⟨value, hothers, hvalue⟩ := exists_of_rel_some hrel
    obtain rfl := hvalue.discriminator htype
    have hvariation : Variation room (.tagged types) (Json.object members) (Json.object others) :=
      .object hfields hkept hvalues hadded hperm
    refine ⟨_, discriminated?_object_iff.mpr ⟨hvariation.admits hplace hadmits, hoften.trans honce,
      ⟨_, hothers, htype⟩, rfl⟩, ?_⟩
    have hpart := hperm.filter fun member => member.1 != typeName
    rw [List.filter_append] at hpart
    refine .object rfl ?_ (fun member other hmem => ?_) (fun member hmem => ?_) hpart
    · have hnames := congrArg (List.filter (· != typeName)) hkept
      rwa [List.filter_map, List.filter_map] at hnames
    · obtain ⟨hzip, hne⟩ := mem_zip_of_mem_zip_filter (· != typeName) hkept hmem
      have hvalue := hvalues member other hzip
      rwa [hknown, Shape.ofMember_cons_of_ne (bne_iff_ne.mp hne)] at hvalue
    · have hmem := List.mem_of_mem_filter hmem
      exact ⟨(hother member hmem).2, (hadded member hmem).2⟩

/-- Reading by a discriminator is steady if each of its types is read steadily. -/
theorem Steady.tagged {place : Place} {types : List (String × List (String × Shape))}
    {names : List String} {f : String × Json → Option α} (hnames : names = types.map Prod.fst)
    (hplace : ∀ limit, place = .outer limit → limit = room)
    (hread : ∀ type, Steady room (.record (Shape.fieldsOf types type)) fun fields =>
      f (type, fields)) :
    Steady room (.tagged types) fun json => json.discriminated? place names >>= f := by
  subst hnames
  intro json other hvaried a ha
  obtain ⟨⟨type, fields⟩, hjson, ha⟩ := Option.bind_eq_some_iff.mp ha
  obtain ⟨otherFields, hother, hfields⟩ := hvaried.discriminated hplace hjson
  exact Option.bind_eq_some_iff.mpr ⟨_, hother, hread type _ _ hfields a ha⟩

end Readers

end SqlStream.Json
