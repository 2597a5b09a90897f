import Mathlib.Data.List.Nodup
import SqlStream.Proofs.Connection.Calls
import SqlStream.Proofs.Sql.Placeholders

/-!
# Arguments with a name

A value with a name is meant for the placeholders of that name. The sign in front of the name is
taken off when a script is bound, and one more sign when its statements are built. So the values
reach their placeholders exactly where no name still begins with a sign
(`named_arguments_reach_iff`).
-/

namespace SqlStream

open SqlStream.Sql SqlStream.Wire

/-! ## Bare names -/

/-- True of names that begin with the sign of a placeholder. -/
def IsSigned (name : String) : Prop :=
  ∃ sign ∈ nameSigns, name.toList.head? = some sign

instance (name : String) : Decidable (IsSigned name) :=
  List.decidableBEx (fun sign => name.toList.head? = some sign) nameSigns

theorem bareName_of_signed {name : String} {sign : Char} {rest : List Char}
    (hsign : sign ∈ nameSigns) (hname : name.toList = sign :: rest) :
    bareName name = if rest = [] then .error .emptyName else .ok (String.ofList rest) := by
  simp only [nameSigns, List.mem_cons, List.not_mem_nil, or_false] at hsign
  unfold bareName
  rw [hname]
  rcases hsign with rfl | rfl | rfl <;> cases rest <;> rfl

theorem bareName_of_not_signed {name : String} (hsigned : ¬ IsSigned name) (hne : name ≠ "") :
    bareName name = .ok name := by
  unfold bareName
  split
  case h_1 h => exact absurd ⟨':', by simp [nameSigns], by rw [h]; rfl⟩ hsigned
  case h_2 h => exact absurd ⟨'@', by simp [nameSigns], by rw [h]; rfl⟩ hsigned
  case h_3 h => exact absurd ⟨'$', by simp [nameSigns], by rw [h]; rfl⟩ hsigned
  case h_4 h => exact absurd (String.toList_eq_nil_iff.mp h) hne
  case h_5 h => exact absurd ⟨':', by simp [nameSigns], by rw [h]; rfl⟩ hsigned
  case h_6 h => exact absurd ⟨'@', by simp [nameSigns], by rw [h]; rfl⟩ hsigned
  case h_7 h => exact absurd ⟨'$', by simp [nameSigns], by rw [h]; rfl⟩ hsigned
  case h_8 => rfl

/-- A name without the sign in front of it, if there is one. -/
def withoutSign (name : String) : String :=
  if IsSigned name then String.ofList name.toList.tail else name

/-- The bare name is the name without its sign, unless nothing is left. -/
theorem bareName_eq (name : String) : bareName name =
    if withoutSign name = "" then .error .emptyName else .ok (withoutSign name) := by
  by_cases hsigned : IsSigned name
  · obtain ⟨sign, hsign, hhead⟩ := id hsigned
    obtain ⟨rest, hname⟩ := List.head?_eq_some_iff.mp hhead
    rw [bareName_of_signed hsign hname, withoutSign, if_pos hsigned, hname, List.tail_cons]
    simp only [String.ofList_eq_empty_iff]
  · rw [withoutSign, if_neg hsigned]
    by_cases hempty : name = ""
    · rw [if_pos hempty, hempty]
      rfl
    · rw [if_neg hempty, bareName_of_not_signed hsigned hempty]

theorem bareName_eq_ok_iff {name bare : String} :
    bareName name = .ok bare ↔ withoutSign name ≠ "" ∧ bare = withoutSign name := by
  rw [bareName_eq]
  by_cases hempty : withoutSign name = ""
  · rw [if_pos hempty]
    exact iff_of_false nofun fun h => h.1 hempty
  · rw [if_neg hempty, Except.ok.injEq, eq_comm]
    exact (and_iff_right hempty).symm

/-- A name that begins with a sign becomes shorter, and any other one stays as it is. Something is
left of both. -/
theorem bareName_cases {name bare : String} (h : bareName name = .ok bare) :
    bare ≠ "" ∧ ((IsSigned name ∧ bare.toList.length < name.toList.length) ∨
      (¬ IsSigned name ∧ bare = name)) := by
  by_cases hsigned : IsSigned name
  · obtain ⟨sign, hsign, hhead⟩ := id hsigned
    obtain ⟨rest, hname⟩ := List.head?_eq_some_iff.mp hhead
    rw [bareName_of_signed hsign hname] at h
    by_cases hrest : rest = []
    · rw [if_pos hrest] at h
      cases h
    · rw [if_neg hrest] at h
      obtain rfl := Except.ok.inj h
      exact ⟨by simpa using hrest, .inl ⟨hsigned, by simp [hname]⟩⟩
  · have hne : name ≠ "" := by
      rintro rfl
      cases h
    rw [bareName_of_not_signed hsigned hne] at h
    obtain rfl := Except.ok.inj h
    exact ⟨hne, .inr ⟨hsigned, rfl⟩⟩

/-- Names of which each signed one comes from a longer signed one have no sign. -/
theorem not_signed_of_ascent {names : List String}
    (h : ∀ name ∈ names, IsSigned name →
      ∃ longer ∈ names, IsSigned longer ∧ name.toList.length < longer.toList.length) :
    ∀ name ∈ names, ¬ IsSigned name := by
  intro name hmem hsigned
  -- from one signed name there are ever longer ones, but the list ends
  have hgrow : ∀ n, ∃ longer ∈ names, IsSigned longer ∧ n ≤ longer.toList.length := by
    intro n
    induction n with
    | zero => exact ⟨name, hmem, hsigned, Nat.zero_le _⟩
    | succ n ih =>
      obtain ⟨other, hother, hsignedOther, hle⟩ := ih
      obtain ⟨longer, hlonger, hsignedLonger, hlt⟩ := h other hother hsignedOther
      exact ⟨longer, hlonger, hsignedLonger, by omega⟩
  let whole := (names.map String.toList).flatten
  obtain ⟨longest, hlongest, -, hle⟩ := hgrow (whole.length + 1)
  have hshort : longest.toList.length ≤ whole.length :=
    (List.sublist_flatten_of_mem (List.mem_map_of_mem hlongest)).length_le
  omega

/-! ## Names of a script -/

/-- Notes a pair by its bare name, which must be new. -/
def noteBare (seen : List (String × Value)) (pair : String × Value) :
    Except ParameterFault (List (String × Value)) := do
  let name ← bareName pair.1
  if seen.any fun earlier => earlier.1 == name then throw (.duplicateName name)
  return (name, pair.2) :: seen

theorem noteBare_eq_ok_iff {seen next : List (String × Value)} {pair : String × Value} :
    noteBare seen pair = .ok next ↔
      ∃ name, bareName pair.1 = .ok name ∧ name ∉ seen.map Prod.fst ∧
        next = (name, pair.2) :: seen := by
  unfold noteBare
  rw [bind_eq_ok_iff]
  refine exists_congr fun name => and_congr_right fun _ => ?_
  by_cases hseen : (seen.any fun earlier => earlier.1 == name) = true
  · have hmem : name ∈ seen.map Prod.fst := by simpa using hseen
    rw [if_pos hseen]
    exact iff_of_false (fun h => by cases h) fun h => h.1 hmem
  · have hmem : name ∉ seen.map Prod.fst := by simpa using hseen
    rw [if_neg hseen]
    exact ⟨fun h => by cases h; exact ⟨hmem, rfl⟩, fun h => h.2 ▸ rfl⟩

/-- Pairs by their names without the signs in front of them. -/
def barePairs (pairs : List (String × Value)) : List (String × Value) :=
  pairs.map fun pair => (withoutSign pair.1, pair.2)

/-- Pairs whose names, without the signs in front of them, are not empty and all differ. -/
structure DistinctNames (pairs : List (String × Value)) : Prop where
  nonempty : ∀ pair ∈ pairs, withoutSign pair.1 ≠ ""
  nodup : ((barePairs pairs).map Prod.fst).Nodup

/-- Pairs are noted on top of others whose names differ if the names of all of them do. -/
theorem foldlM_noteBare_eq_ok_iff {pairs last : List (String × Value)}
    (seen : List (String × Value)) (hseen : (seen.map Prod.fst).Nodup) :
    pairs.foldlM noteBare seen = .ok last ↔ (∀ pair ∈ pairs, withoutSign pair.1 ≠ "") ∧
      (last.map Prod.fst).Nodup ∧ last = (barePairs pairs).reverse ++ seen := by
  induction pairs generalizing seen with
  | nil =>
    show Except.ok seen = .ok last ↔ _
    rw [Except.ok.injEq]
    constructor
    · intro h
      subst h
      exact ⟨fun pair hmem => absurd hmem List.not_mem_nil, hseen, rfl⟩
    · intro h
      exact h.2.2.symm
  | cons pair pairs ih =>
    have hcons : (barePairs (pair :: pairs)).reverse ++ seen =
        (barePairs pairs).reverse ++ (withoutSign pair.1, pair.2) :: seen := by
      rw [barePairs, List.map_cons, List.reverse_cons, List.append_assoc]
      rfl
    rw [List.foldlM_cons, bind_eq_ok_iff, List.forall_mem_cons, hcons]
    constructor
    · intro ⟨next, hnext, hrest⟩
      obtain ⟨name, hname, hnew, rfl⟩ := noteBare_eq_ok_iff.mp hnext
      obtain ⟨hne, rfl⟩ := bareName_eq_ok_iff.mp hname
      have hnext : (((withoutSign pair.1, pair.2) :: seen).map Prod.fst).Nodup :=
        List.nodup_cons.mpr ⟨hnew, hseen⟩
      obtain ⟨hall, hnodup, hlast⟩ := (ih _ hnext).mp hrest
      exact ⟨⟨hne, hall⟩, hnodup, hlast⟩
    · intro ⟨⟨hne, hall⟩, hnodup, hlast⟩
      -- the pair and those before it are the end of the list
      have hnext : (((withoutSign pair.1, pair.2) :: seen).map Prod.fst).Nodup := by
        rw [hlast, List.map_append] at hnodup
        exact hnodup.of_append_right
      exact ⟨_, noteBare_eq_ok_iff.mpr ⟨_, bareName_eq_ok_iff.mpr ⟨hne, rfl⟩,
        (List.nodup_cons.mp hnext).1, rfl⟩, (ih _ hnext).mpr ⟨hall, hnodup, hlast⟩⟩

/-- Pairs have bare names if these are not empty and all differ. -/
theorem normalizePairs_eq_ok_iff {pairs normal : List (String × Value)} :
    normalizePairs pairs = .ok normal ↔ DistinctNames pairs ∧ normal = barePairs pairs := by
  show (pairs.foldlM noteBare [] >>= fun reversed => pure reversed.reverse) = _ ↔ _
  rw [bind_eq_ok_iff]
  constructor
  · intro ⟨reversed, hreversed, hnormal⟩
    cases hnormal
    obtain ⟨hall, hnodup, hlast⟩ := (foldlM_noteBare_eq_ok_iff [] List.nodup_nil).mp hreversed
    rw [List.append_nil] at hlast
    subst hlast
    rw [List.map_reverse, List.nodup_reverse] at hnodup
    exact ⟨⟨hall, hnodup⟩, List.reverse_reverse _⟩
  · intro ⟨hdistinct, hnormal⟩
    subst hnormal
    refine ⟨(barePairs pairs).reverse, (foldlM_noteBare_eq_ok_iff [] List.nodup_nil).mpr
      ⟨hdistinct.nonempty, ?_, (List.append_nil _).symm⟩, ?_⟩
    · rw [List.map_reverse, List.nodup_reverse]
      exact hdistinct.nodup
    · exact congrArg Except.ok (List.reverse_reverse _)

/-- The pairs of a list by their bare names. -/
theorem normalizePairs_spec {pairs normal : List (String × Value)}
    (h : normalizePairs pairs = .ok normal) :
    (normal.map Prod.fst).Nodup ∧ ∀ name value, (name, value) ∈ normal ↔
      ∃ pair ∈ pairs, bareName pair.1 = .ok name ∧ pair.2 = value := by
  obtain ⟨hdistinct, rfl⟩ := normalizePairs_eq_ok_iff.mp h
  refine ⟨hdistinct.nodup, fun name value => ?_⟩
  rw [barePairs, List.mem_map]
  refine exists_congr fun pair => and_congr_right fun hpair => ?_
  rw [Prod.mk.injEq, bareName_eq_ok_iff, eq_comm (a := withoutSign pair.1)]
  exact and_congr_left fun _ => (and_iff_right (hdistinct.nonempty pair hpair)).symm

/-- What each element of a list results in. -/
theorem exists_of_mapM_eq_ok {ε α β : Type _} {f : α → Except ε β} {xs : List α} {ys : List β}
    (h : xs.mapM f = .ok ys) {x : α} (hx : x ∈ xs) : ∃ y ∈ ys, f x = .ok y := by
  have hmem : f x ∈ ys.map Except.ok := by
    rw [← mapM_eq_ok_iff.mp h]
    exact List.mem_map_of_mem hx
  obtain ⟨y, hy, hfy⟩ := List.mem_map.mp hmem
  exact ⟨y, hy, hfy.symm⟩

/-- A statement of a script gets the values that were given for the names of its placeholders, each
under its bare name. -/
theorem bindScript_named {script : String} {pairs : List (String × Value)}
    {bound : List BoundStatement} {statement : BoundStatement}
    (h : bindScript script (.named pairs) = .ok bound) (hmem : statement ∈ bound) :
    ∃ own, statement.arguments = .named own ∧ (own.map Prod.fst).Nodup ∧
      ∀ name value, (name, value) ∈ own ↔ ReferencedIn statement.sql name ∧
        ∃ pair ∈ pairs, bareName pair.1 = .ok name ∧ pair.2 = value := by
  obtain ⟨shaped, hshaped, hbound⟩ := bind_eq_ok_iff.mp h
  obtain ⟨normal, hnormal, hnamed⟩ := bind_eq_ok_iff.mp hbound
  cases hnamed
  obtain ⟨hnodup, hpairs⟩ := normalizePairs_spec (mapError_eq_ok_iff.mp hnormal)
  obtain ⟨shape, hshape, rfl⟩ := List.mem_map.mp hmem
  have hread := read_of_mem_shaped hshaped hshape
  refine ⟨_, rfl, hnodup.sublist (List.filter_sublist.map _), fun name value => ?_⟩
  rw [List.mem_filter, Placeholders.references_iff hread, hpairs, and_comm]

/-! ## Names on the wire -/

/-- Arguments on the wire that reach the placeholders of a statement: no name occurs twice, each is
the name of a placeholder and has the value that was supplied for that, and no placeholder with a
supplied value is left out. -/
structure ReachesPlaceholders (sql : String) (pairs : List (String × Value))
    (arguments : List NamedArgument) : Prop where
  distinct : (arguments.map NamedArgument.name).Nodup
  supplied : ∀ argument ∈ arguments, ReferencedIn sql argument.name ∧
    ∃ pair ∈ pairs, bareName pair.1 = .ok argument.name ∧ encodeValue pair.2 = .ok argument.value
  complete : ∀ pair ∈ pairs, ∀ name, bareName pair.1 = .ok name → ReferencedIn sql name →
    ∃ argument ∈ arguments, argument.name = name ∧ encodeValue pair.2 = .ok argument.value

theorem encodeNamed_eq_ok_iff {pair : String × Value} {argument : NamedArgument} :
    encodeNamed pair = .ok argument ↔
      bareName pair.1 = .ok argument.name ∧ encodeValue pair.2 = .ok argument.value := by
  unfold encodeNamed
  rw [bind_eq_ok_iff]
  constructor
  · rintro ⟨name, hname, hrest⟩
    obtain ⟨value, hvalue, hargument⟩ := bind_eq_ok_iff.mp hrest
    cases hargument
    exact ⟨mapError_eq_ok_iff.mp hname, hvalue⟩
  · rintro ⟨hname, hvalue⟩
    exact ⟨argument.name, mapError_eq_ok_iff.mpr hname, bind_eq_ok_iff.mpr ⟨_, hvalue, rfl⟩⟩

theorem buildStatement_named_eq_ok_iff {sql : String} {own : List (String × Value)}
    {wantRows : Bool} {wire : Statement} :
    buildStatement (.text sql) (.named own) wantRows = .ok wire ↔
      ∃ arguments, own.mapM encodeNamed = .ok arguments ∧
        wire = { sql := some sql, wantRows, namedArguments := arguments } := by
  show (own.mapM encodeNamed >>= _) = _ ↔ _
  rw [bind_eq_ok_iff]
  exact exists_congr fun arguments => and_congr_right fun _ => by
    show Except.ok _ = _ ↔ _
    rw [Except.ok.injEq, eq_comm]

section

variable {sql : String} {pairs own : List (String × Value)} {arguments : List NamedArgument}

/-- Arguments whose names have no sign go on the wire under these names. -/
theorem reachesPlaceholders_of_not_signed (hnodup : (own.map Prod.fst).Nodup)
    (hown : ∀ name value, (name, value) ∈ own ↔ ReferencedIn sql name ∧
      ∃ pair ∈ pairs, bareName pair.1 = .ok name ∧ pair.2 = value)
    (hsigned : ∀ name ∈ own.map Prod.fst, ¬ IsSigned name)
    (hbuilt : own.mapM encodeNamed = .ok arguments) : ReachesPlaceholders sql pairs arguments := by
  have hsame : ∀ pair ∈ own, bareName pair.1 = .ok pair.1 := by
    rintro ⟨name, value⟩ hmem
    obtain ⟨-, given, -, hbare, -⟩ := (hown name value).mp hmem
    exact bareName_of_not_signed (hsigned name (List.mem_map_of_mem hmem)) (bareName_cases hbare).1
  have hnames : arguments.map NamedArgument.name = own.map Prod.fst := by
    have hbare := map_eq_of_mapM_eq_ok (p := fun a => Except.ok (NamedArgument.name a))
      (fun _ _ h => (encodeNamed_eq_ok_iff.mp h).1.symm) hbuilt
    rw [List.map_congr_left hsame] at hbare
    have hok : Function.Injective (Except.ok : String → Except ParameterFault String) :=
      fun _ _ => Except.ok.inj
    refine List.map_injective_iff.mpr hok ?_
    rw [List.map_map, List.map_map]
    exact hbare
  refine ⟨hnames ▸ hnodup, fun argument hargument => ?_, fun pair hpair name hbare hreferenced => ?_⟩
  · obtain ⟨⟨name, value⟩, hmem, hencoded⟩ := mem_of_mapM_eq_ok hbuilt hargument
    obtain ⟨hname, hvalue⟩ := encodeNamed_eq_ok_iff.mp hencoded
    obtain rfl : name = argument.name := Except.ok.inj ((hsame _ hmem).symm.trans hname)
    obtain ⟨hreferenced, pair, hpair, hbare, rfl⟩ := (hown _ _).mp hmem
    exact ⟨hreferenced, pair, hpair, hbare, hvalue⟩
  · have hmem : (name, pair.2) ∈ own := (hown _ _).mpr ⟨hreferenced, pair, hpair, hbare, rfl⟩
    obtain ⟨argument, hargument, hencoded⟩ := exists_of_mapM_eq_ok hbuilt hmem
    obtain ⟨hname, hvalue⟩ := encodeNamed_eq_ok_iff.mp hencoded
    exact ⟨argument, hargument, Except.ok.inj (hname.symm.trans (hsame _ hmem)), hvalue⟩

/-- If arguments reach their placeholders, none of their names has a sign: it would stand for the
placeholder of a shorter name, and its own would need a longer one. -/
theorem not_signed_of_reachesPlaceholders
    (hown : ∀ name value, (name, value) ∈ own ↔ ReferencedIn sql name ∧
      ∃ pair ∈ pairs, bareName pair.1 = .ok name ∧ pair.2 = value)
    (hbuilt : own.mapM encodeNamed = .ok arguments)
    (hreaches : ReachesPlaceholders sql pairs arguments) :
    ∀ name ∈ own.map Prod.fst, ¬ IsSigned name := by
  refine not_signed_of_ascent fun name hname hsigned => ?_
  obtain ⟨⟨_, value⟩, hmem, rfl⟩ := List.mem_map.mp hname
  obtain ⟨hreferenced, pair, hpair, hbare, -⟩ := (hown _ _).mp hmem
  obtain ⟨argument, hargument, hsame, -⟩ := hreaches.complete pair hpair _ hbare hreferenced
  obtain ⟨⟨longer, other⟩, hlonger, hencoded⟩ := mem_of_mapM_eq_ok hbuilt hargument
  have hshort := (encodeNamed_eq_ok_iff.mp hencoded).1
  rw [hsame] at hshort
  refine ⟨longer, List.mem_map_of_mem hlonger, ?_⟩
  rcases (bareName_cases hshort).2 with hcase | ⟨hnot, rfl⟩
  · exact hcase
  · exact absurd hsigned hnot

end

/-- The arguments of a statement of a script reach its placeholders exactly if no name that was
given for one still begins with a sign once it has lost one, and the values for them can be sent. -/
theorem named_arguments_reach_iff {script : String} {pairs : List (String × Value)}
    {bound : List BoundStatement} {statement : BoundStatement}
    (hbound : bindScript script (.named pairs) = .ok bound) (hmem : statement ∈ bound)
    (wantRows : Bool) :
    (∃ wire, buildStatement (.text statement.sql) statement.arguments wantRows = .ok wire ∧
      ReachesPlaceholders statement.sql pairs wire.namedArguments) ↔
    ∀ pair ∈ pairs, ∀ name, bareName pair.1 = .ok name → ReferencedIn statement.sql name →
      ¬ IsSigned name ∧ (encodeValue pair.2).isOk = true := by
  obtain ⟨own, harguments, hnodup, hown⟩ := bindScript_named hbound hmem
  rw [harguments]
  constructor
  · rintro ⟨wire, hwire, hreaches⟩ pair hpair name hbare hreferenced
    obtain ⟨arguments, hbuilt, rfl⟩ := buildStatement_named_eq_ok_iff.mp hwire
    have hpairOwn : (name, pair.2) ∈ own := (hown _ _).mpr ⟨hreferenced, pair, hpair, hbare, rfl⟩
    obtain ⟨argument, -, hencoded⟩ := exists_of_mapM_eq_ok hbuilt hpairOwn
    exact ⟨not_signed_of_reachesPlaceholders hown hbuilt hreaches name (List.mem_map_of_mem hpairOwn),
      isOk_iff.mpr ⟨_, (encodeNamed_eq_ok_iff.mp hencoded).2⟩⟩
  · intro hall
    have hsound : ∀ pair ∈ own, ¬ IsSigned pair.1 ∧ (encodeValue pair.2).isOk = true ∧ pair.1 ≠ "" := by
      rintro ⟨name, value⟩ hpairOwn
      obtain ⟨hreferenced, pair, hpair, hbare, rfl⟩ := (hown _ _).mp hpairOwn
      obtain ⟨hsigned, hvalue⟩ := hall pair hpair name hbare hreferenced
      exact ⟨hsigned, hvalue, (bareName_cases hbare).1⟩
    have hencoded : (own.mapM encodeNamed).isOk = true := by
      rw [mapM_isOk_iff]
      intro pair hpairOwn
      obtain ⟨hsigned, hvalue, hne⟩ := hsound pair hpairOwn
      obtain ⟨value, hvalue⟩ := isOk_iff.mp hvalue
      exact isOk_iff.mpr ⟨⟨pair.1, value⟩,
        encodeNamed_eq_ok_iff.mpr ⟨bareName_of_not_signed hsigned hne, hvalue⟩⟩
    obtain ⟨arguments, hbuilt⟩ := isOk_iff.mp hencoded
    refine ⟨_, buildStatement_named_eq_ok_iff.mpr ⟨arguments, hbuilt, rfl⟩, ?_⟩
    refine reachesPlaceholders_of_not_signed hnodup hown (fun name hname => ?_) hbuilt
    obtain ⟨pair, hpairOwn, rfl⟩ := List.mem_map.mp hname
    exact (hsound pair hpairOwn).1

/-- Two values with names that reach their placeholders. -/
theorem named_arguments_reach_of_two :
    bindScript "SELECT :a, $b" (.named [("a", .null), ("@b", .text "x")]) =
        .ok [⟨"SELECT :a, $b", .named [("a", .null), ("b", .text "x")]⟩] ∧
      ∃ wire, buildStatement (.text "SELECT :a, $b") (.named [("a", .null), ("b", .text "x")]) true =
          .ok wire ∧
        ReachesPlaceholders "SELECT :a, $b" [("a", .null), ("@b", .text "x")]
          wire.namedArguments := by
  have hbound : bindScript "SELECT :a, $b" (.named [("a", .null), ("@b", .text "x")]) =
      .ok [⟨"SELECT :a, $b", .named [("a", .null), ("b", .text "x")]⟩] :=
    eq_ok_of_toOption (by decide +kernel)
  refine ⟨hbound, (named_arguments_reach_iff hbound (List.mem_singleton_self _) true).mpr ?_⟩
  have hfirst : bareName "a" = .ok "a" := eq_ok_of_toOption (by decide +kernel)
  have hsecond : bareName "@b" = .ok "b" := eq_ok_of_toOption (by decide +kernel)
  intro pair hpair name hname _
  rcases List.mem_pair.mp hpair with rfl | rfl
  · obtain rfl := Except.ok.inj (hfirst.symm.trans hname)
    exact ⟨by decide +kernel, rfl⟩
  · obtain rfl := Except.ok.inj (hsecond.symm.trans hname)
    exact ⟨by decide +kernel, rfl⟩

/-- The value for a placeholder whose name begins with a sign is sent under another name. -/
theorem dollar_name_misses_placeholder :
    bindScript "SELECT :$a" (.named [(":$a", .null)]) =
        .ok [⟨"SELECT :$a", .named [("$a", .null)]⟩] ∧
      (∃ wire, buildStatement (.text "SELECT :$a") (.named [("$a", .null)]) true = .ok wire ∧
        wire.namedArguments = [⟨"a", .null⟩]) ∧
      ReferencedIn "SELECT :$a" "$a" ∧ ¬ ReferencedIn "SELECT :$a" "a" ∧
      ¬ ReachesPlaceholders "SELECT :$a" [(":$a", .null)] [⟨"a", .null⟩] := by
  have hnot : ¬ ReferencedIn "SELECT :$a" "a" := by decide +kernel
  refine ⟨eq_ok_of_toOption (by decide +kernel), ⟨_, rfl, rfl⟩, by decide +kernel, hnot, fun h => ?_⟩
  exact hnot (h.supplied _ (List.mem_singleton_self _)).1

end SqlStream
