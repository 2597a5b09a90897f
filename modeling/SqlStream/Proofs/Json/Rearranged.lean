import SqlStream.Proofs.Json.Members

/-!
# The order of members

The members of an object stand in some order that means nothing. Two values are `Rearranged` if they
differ in the order of members only, at any depth. What a record reads of an object, its fields by
their names, does not depend on the order (`fields_of_perm`).
-/

namespace SqlStream.Json

/-! ## The order of fields -/

/-- A name that occurs at most once has the same value in any order. -/
theorem lookup_eq_of_perm {name : String} {members others : List (String × Json)}
    (hperm : members.Perm others) (honce : occurrences name members ≤ 1) :
    members.lookup name = others.lookup name := by
  rw [lookup_eq_head?_filter, lookup_eq_head?_filter]
  have hfiltered := hperm.filter fun member => member.1 == name
  rw [occurrences, List.countP_eq_length_filter] at honce
  cases hown : members.filter fun member => member.1 == name with
  | nil =>
    rw [hown] at hfiltered
    rw [hfiltered.nil_eq]
  | cons member rest =>
    rw [hown, List.length_cons] at honce
    obtain rfl : rest = [] := List.length_eq_zero_iff.mp (by omega)
    rw [hown] at hfiltered
    rw [hfiltered.singleton_eq]

/-- Members with the same names in the same order have values at the same places. -/
theorem rel_lookup_of_zip {R : String → Json → Json → Prop}
    {members others : List (String × Json)}
    (hnames : members.map Prod.fst = others.map Prod.fst)
    (hvalues : ∀ member other, (member, other) ∈ members.zip others →
      R member.1 member.2 other.2) (name : String) :
    Option.Rel (R name) (members.lookup name) (others.lookup name) := by
  induction members generalizing others with
  | nil =>
    obtain rfl : others = [] := List.map_eq_nil_iff.mp hnames.symm
    exact .none
  | cons member members ih =>
    cases others with
    | nil => cases hnames
    | cons other others =>
      obtain ⟨hname, hnames⟩ := List.cons.inj hnames
      have hrest := ih hnames fun member other hmem =>
        hvalues member other (List.mem_cons_of_mem _ hmem)
      rw [List.lookup_cons, List.lookup_cons, ← hname]
      by_cases heq : name = member.1
      · subst heq
        rw [beq_self_eq_true]
        exact .some (hvalues member other List.mem_cons_self)
      · rw [beq_false_of_ne heq]
        exact hrest

/-- Fields that keep their names have related values, in any order and beside any members of other
names. -/
theorem fields_of_perm {R : String → Json → Json → Prop}
    {members kept added others : List (String × Json)}
    (hnames : members.map Prod.fst = kept.map Prod.fst)
    (hvalues : ∀ member other, (member, other) ∈ members.zip kept → R member.1 member.2 other.2)
    (hperm : (kept ++ added).Perm others) {name : String} (honce : occurrences name members ≤ 1)
    (hadded : ∀ member ∈ added, member.1 ≠ name) :
    occurrences name others = occurrences name members ∧
      Option.Rel (R name) (members.lookup name) (others.lookup name) := by
  have hnone : occurrences name added = 0 := occurrences_eq_zero_iff.mpr hadded
  have hkept : occurrences name kept = occurrences name members := by
    rw [occurrences_eq_count, occurrences_eq_count, hnames]
  have hall : occurrences name (kept ++ added) = occurrences name members := by
    rw [occurrences_append, hnone, hkept, Nat.add_zero]
  have hlookup : others.lookup name = kept.lookup name := by
    have hno : added.lookup name = none := by
      rw [List.lookup_eq_none_iff]
      exact fun member hmem => bne_iff_ne.mpr (hadded member hmem).symm
    rw [← lookup_eq_of_perm hperm (hall ▸ honce), List.lookup_append, hno, Option.or_none]
  refine ⟨?_, ?_⟩
  · rw [← hall]
    exact (hperm.countP_eq _).symm
  · rw [hlookup]
    exact rel_lookup_of_zip hnames hvalues name

/-! ## Rearranged values -/

/-- True of values that differ in the order of the members of objects only, at any depth. -/
inductive Rearranged : Json → Json → Prop where
  | same (json : Json) : Rearranged json json
  | array {items others : List Json} (hlength : items.length = others.length)
      (hitems : ∀ item other, (item, other) ∈ items.zip others → Rearranged item other) :
      Rearranged (array items) (array others)
  /-- The values of members may be rearranged too. -/
  | object {members kept others : List (String × Json)}
      (hnames : members.map Prod.fst = kept.map Prod.fst)
      (hvalues : ∀ member other, (member, other) ∈ members.zip kept →
        Rearranged member.2 other.2)
      (hperm : kept.Perm others) : Rearranged (object members) (object others)

theorem eq_of_mem_zip_self {α : Type} {items : List α} {item other : α}
    (h : (item, other) ∈ items.zip items) : item = other :=
  List.forall₂_zip (List.forall₂_same.mpr fun _ _ => rfl) h

@[simp] theorem rearranged_string_iff {s t : String} : Rearranged (string s) (string t) ↔ s = t :=
  ⟨fun h => by cases h; rfl, fun h => h ▸ .same _⟩

@[simp] theorem rearranged_bool_iff {a b : Bool} : Rearranged (bool a) (bool b) ↔ a = b :=
  ⟨fun h => by cases h; rfl, fun h => h ▸ .same _⟩

@[simp] theorem rearranged_number_iff {m n : JsonNumber} :
    Rearranged (number m) (number n) ↔ m = n :=
  ⟨fun h => by cases h; rfl, fun h => h ▸ .same _⟩

@[simp] theorem rearranged_array_iff {items others : List Json} :
    Rearranged (array items) (array others) ↔ List.Forall₂ Rearranged items others := by
  rw [List.forall₂_iff_zip]
  constructor
  · intro h
    cases h with
    | same =>
      exact ⟨rfl, fun hmem => eq_of_mem_zip_self hmem ▸ .same _⟩
    | array hlength hitems => exact ⟨hlength, fun hmem => hitems _ _ hmem⟩
  · rintro ⟨hlength, hitems⟩
    exact .array hlength fun _ _ hmem => hitems hmem

/-- The fields of an object are those of the object rearranged, where no name occurs twice. -/
theorem Rearranged.rel_lookup {members others : List (String × Json)}
    (h : Rearranged (Json.object members) (Json.object others))
    (hnames : (members.map Prod.fst).Nodup) (name : String) :
    Option.Rel Rearranged (members.lookup name) (others.lookup name) := by
  cases h with
  | same =>
    cases members.lookup name with
    | none => exact .none
    | some value => exact .some (.same value)
  | @object _ kept _ hkept hvalues hperm =>
    have honce : occurrences name members ≤ 1 := by
      rw [occurrences_eq_count]
      exact List.nodup_iff_count_le_one.mp hnames name
    rw [← List.append_nil kept] at hperm
    exact (fields_of_perm (R := fun _ => Rearranged) hkept hvalues hperm honce nofun).2

end SqlStream.Json
