import SqlStream.Proofs.NamedArguments

/-!
# Where arguments with a name go

Without the signs in front of them, the names of arguments must not be empty and must differ, or
else the first pair that breaks this is the fault (`NameFault`). Each statement then gets the pairs
that it references in the order of the caller, and no statement gets any other (`BoundByName`).
-/

namespace SqlStream

open SqlStream.Sql

/-! ## Names that cannot be used -/

/-- What is wrong with the first pair whose name, without its sign, is empty or was there before. -/
inductive NameFault (pairs : List (String × Value)) : ParameterFault → Prop where
  | empty {before after : List (String × Value)} {pair : String × Value} :
      pairs = before ++ pair :: after → DistinctNames before → withoutSign pair.1 = "" →
      NameFault pairs .emptyName
  | duplicate {before after : List (String × Value)} {pair : String × Value} :
      pairs = before ++ pair :: after → DistinctNames before →
      withoutSign pair.1 ∈ (barePairs before).map Prod.fst →
      NameFault pairs (.duplicateName (withoutSign pair.1))

/-- A fold that fails does so at some element. -/
theorem exists_of_foldlM_eq_error {ε α β : Type _} {f : β → α → Except ε β} {xs : List α} {b : β}
    {error : ε} (h : xs.foldlM f b = .error error) :
    ∃ before x after mid, xs = before ++ x :: after ∧ before.foldlM f b = .ok mid ∧
      f mid x = .error error := by
  induction xs generalizing b with
  | nil => cases h
  | cons x xs ih =>
    rw [List.foldlM_cons] at h
    rcases bind_eq_error_iff.mp h with hfirst | ⟨next, hnext, hrest⟩
    · exact ⟨[], x, xs, b, rfl, rfl, hfirst⟩
    · obtain ⟨before, failing, after, mid, hxs, hbefore, hfailing⟩ := ih hrest
      refine ⟨x :: before, failing, after, mid, by rw [hxs, List.cons_append], ?_, hfailing⟩
      rw [List.foldlM_cons, hnext]
      exact hbefore

theorem noteBare_eq_error {seen : List (String × Value)} {pair : String × Value}
    {fault : ParameterFault} (h : noteBare seen pair = .error fault) :
    (withoutSign pair.1 = "" ∧ fault = .emptyName) ∨
      (withoutSign pair.1 ∈ seen.map Prod.fst ∧ fault = .duplicateName (withoutSign pair.1)) := by
  rcases bind_eq_error_iff.mp h with hname | ⟨name, hname, hnoted⟩
  · rw [bareName_eq] at hname
    split at hname
    · next hempty =>
      cases hname
      exact .inl ⟨hempty, rfl⟩
    · cases hname
  · obtain ⟨_, rfl⟩ := bareName_eq_ok_iff.mp hname
    by_cases hseen : (seen.any fun earlier => earlier.1 == withoutSign pair.1) = true
    · rw [if_pos hseen] at hnoted
      cases hnoted
      exact .inr ⟨by simpa using hseen, rfl⟩
    · rw [if_neg hseen] at hnoted
      cases hnoted

/-- Pairs that have no bare names have a fault. -/
theorem nameFault_of_normalizePairs {pairs : List (String × Value)} {fault : ParameterFault}
    (h : normalizePairs pairs = .error fault) : NameFault pairs fault := by
  replace h : (pairs.foldlM noteBare [] >>= fun reversed => pure reversed.reverse) = .error fault := h
  rcases bind_eq_error_iff.mp h with hfold | ⟨_, _, hpure⟩
  · obtain ⟨before, pair, after, mid, hpairs, hbefore, hpair⟩ := exists_of_foldlM_eq_error hfold
    have hnormal : normalizePairs before = .ok mid.reverse := bind_eq_ok_iff.mpr ⟨mid, hbefore, rfl⟩
    obtain ⟨hdistinct, hbare⟩ := normalizePairs_eq_ok_iff.mp hnormal
    rcases noteBare_eq_error hpair with ⟨hempty, rfl⟩ | ⟨hseen, rfl⟩
    · exact .empty hpairs hdistinct hempty
    · refine .duplicate hpairs hdistinct ?_
      rw [← hbare, List.map_reverse, List.mem_reverse]
      exact hseen
  · cases hpure

/-! ## The arguments of each statement -/

/-- The statements of a script with their arguments: each has the pairs that it references under
their bare names, in the order of the caller, and its names differ. A name that no statement
references is nowhere. -/
structure BoundByName (script : String) (pairs : List (String × Value))
    (bound : List BoundStatement) : Prop where
  texts : bound.map BoundStatement.sql = (splitStatements script).1
  arguments : ∀ statement ∈ bound, statement.arguments =
    .named ((barePairs pairs).filter fun pair => ReferencedIn statement.sql pair.1)
  nodup : ∀ statement ∈ bound, ∀ own, statement.arguments = .named own → (own.map Prod.fst).Nodup
  unreferenced : ∀ name, (∀ text ∈ (splitStatements script).1, ¬ ReferencedIn text name) →
    ∀ statement ∈ bound, ∀ own, statement.arguments = .named own → name ∉ own.map Prod.fst

/-- That each statement has the pairs that it references says the rest. -/
theorem BoundByName.of_arguments {script : String} {pairs : List (String × Value)}
    {bound : List BoundStatement} (hdistinct : DistinctNames pairs)
    (htexts : bound.map BoundStatement.sql = (splitStatements script).1)
    (harguments : ∀ statement ∈ bound, statement.arguments =
      .named ((barePairs pairs).filter fun pair => ReferencedIn statement.sql pair.1)) :
    BoundByName script pairs bound where
  texts := htexts
  arguments := harguments
  nodup statement hmem own hown := by
    cases (harguments statement hmem).symm.trans hown
    exact hdistinct.nodup.sublist (List.filter_sublist.map _)
  unreferenced name hnone statement hmem own hown hname := by
    cases (harguments statement hmem).symm.trans hown
    obtain ⟨pair, hpair, rfl⟩ := List.mem_map.mp hname
    refine hnone statement.sql ?_ (of_decide_eq_true (List.mem_filter.mp hpair).2)
    rw [← htexts]
    exact List.mem_map_of_mem hmem

/-- Statements whose placeholders were read get the pairs that they reference. -/
theorem bindNamed_arguments {texts : List String} {shaped : List ShapedStatement}
    (hshaped : texts.mapM shapeStatement = .ok shaped) {pairs : List (String × Value)}
    (hdistinct : DistinctNames pairs) :
    ∃ bound, bindNamed shaped pairs = .ok bound ∧ ∀ statement ∈ bound, statement.arguments =
      .named ((barePairs pairs).filter fun pair => ReferencedIn statement.sql pair.1) := by
  have hnormal := mapError_eq_ok_iff (f := Error.malformedParameter).mpr
    (normalizePairs_eq_ok_iff.mpr ⟨hdistinct, rfl⟩)
  refine ⟨_, bind_eq_ok_iff.mpr ⟨_, hnormal, rfl⟩, fun statement hmem => ?_⟩
  obtain ⟨shape, hshape, rfl⟩ := List.mem_map.mp hmem
  refine congrArg Arguments.named (List.filter_congr fun pair _ => ?_)
  rw [Bool.eq_iff_iff, decide_eq_true_iff]
  exact Placeholders.references_iff (read_of_mem_shaped hshaped hshape)

/-- If the placeholders of a script can be read, it is bound to arguments with names exactly if
their names can be used. Each statement then gets the pairs that it references. -/
theorem named_values_go_where_referenced {script : String} (pairs : List (String × Value))
    (hread : ∀ text ∈ (splitStatements script).1, (Placeholders.read text).isOk = true) :
    (DistinctNames pairs → ∃ bound, bindScript script (.named pairs) = .ok bound ∧
      BoundByName script pairs bound) ∧
    (¬ DistinctNames pairs → ∃ fault,
      bindScript script (.named pairs) = .error (.malformedParameter fault) ∧
        NameFault pairs fault) := by
  have hshapes : ((splitStatements script).1.mapM shapeStatement).isOk = true := by
    rw [mapM_isOk_iff]
    intro text hmem
    rw [shapeStatement, isOk_mapError, isOk_map]
    exact hread text hmem
  obtain ⟨shaped, hshaped⟩ := isOk_iff.mp hshapes
  have hbind : bindScript script (.named pairs) = bindNamed shaped pairs := by
    unfold bindScript
    rw [hshaped]
    rfl
  constructor
  · intro hdistinct
    obtain ⟨bound, hbound, harguments⟩ := bindNamed_arguments hshaped hdistinct
    rw [← hbind] at hbound
    exact ⟨bound, hbound, .of_arguments hdistinct (bindScript_texts hbound) harguments⟩
  · intro hnot
    cases hnormal : normalizePairs pairs with
    | ok normal => exact absurd (normalizePairs_eq_ok_iff.mp hnormal).1 hnot
    | error fault =>
      refine ⟨fault, ?_, nameFault_of_normalizePairs hnormal⟩
      rw [hbind, bindNamed, hnormal]
      rfl

/-- Names of which one has signs and parentheses, of which one is not referenced, and two that are
the same without their signs. -/
theorem named_values_go_of_three_statements :
    (∀ text ∈ (splitStatements "SELECT :a, $a::b(c); SELECT @b, $a; SELECT 1").1,
        (Placeholders.read text).isOk = true) ∧
      (∃ bound, bindScript "SELECT :a, $a::b(c); SELECT @b, $a; SELECT 1"
          (.named [("$a::b(c)", .text "x"), ("b", .null), (":a", .null), ("@d", .null)]) =
            .ok bound ∧
        BoundByName "SELECT :a, $a::b(c); SELECT @b, $a; SELECT 1"
          [("$a::b(c)", .text "x"), ("b", .null), (":a", .null), ("@d", .null)] bound) ∧
      ∃ fault, bindScript "SELECT :a, $a::b(c); SELECT @b, $a; SELECT 1"
          (.named [(":a", .null), ("@a", .null)]) = .error (.malformedParameter fault) ∧
        NameFault [(":a", .null), ("@a", .null)] fault := by
  have hread : ∀ text ∈ (splitStatements "SELECT :a, $a::b(c); SELECT @b, $a; SELECT 1").1,
      (Placeholders.read text).isOk = true := by
    decide +kernel
  have hdistinct : DistinctNames
      [("$a::b(c)", .text "x"), ("b", .null), (":a", .null), ("@d", .null)] :=
    ⟨by decide +kernel, by decide +kernel⟩
  have hclash : ¬ DistinctNames [(":a", .null), ("@a", .null)] := by
    intro hdistinct
    exact absurd hdistinct.nodup (by decide +kernel)
  exact ⟨hread, (named_values_go_where_referenced _ hread).1 hdistinct,
    (named_values_go_where_referenced _ hread).2 hclash⟩

/-- What the statements of a script get: the pairs that they reference, in the order of the
caller. -/
example : (bindScript "SELECT :a, $a::b(c); SELECT @b, $a; SELECT 1" (.named
    [("$a::b(c)", .text "x"), ("b", .null), (":a", .null), ("@d", .null)])).toOption =
      some [⟨"SELECT :a, $a::b(c)", .named [("a::b(c)", .text "x"), ("a", .null)]⟩,
        ⟨"SELECT @b, $a", .named [("b", .null), ("a", .null)]⟩, ⟨"SELECT 1", .named []⟩] := by
  decide +kernel

end SqlStream
