import SqlStream.Proofs.PositionalArguments

/-!
# Prepared statements

A statement that was prepared is bound like the text it was prepared from: that text has this one
statement, and the statement by itself has it too (`Sql.splitStatements_of_mem`). The number of
values that a prepared statement says it takes is the number that it is bound to; only a statement
that explains can be bound to fewer.
-/

namespace SqlStream

open SqlStream.Sql

/-! ## One statement -/

/-- To prepare a text is to find one statement in it and to read its placeholders. -/
theorem prepare_eq_ok_iff {sql : String} {prepared : Prepared} :
    prepare sql = .ok prepared ↔ (splitStatements sql).1 = [prepared.sql] ∧
      Placeholders.read prepared.sql = .ok prepared.placeholders := by
  unfold prepare
  constructor
  · intro h
    split at h
    · next statement hstatement =>
      split at h
      · next placeholders hread =>
        cases h
        exact ⟨hstatement, hread⟩
      · cases h
    · cases h
  · rintro ⟨hstatement, hread⟩
    simp only [hstatement, hread]

/-- Only the statements of a script matter to binding. -/
theorem bindScript_congr {sql other : String}
    (h : (splitStatements sql).1 = (splitStatements other).1) (arguments : Arguments) :
    bindScript sql arguments = bindScript other arguments := by
  rw [bindScript, bindScript, h]

/-- A statement alone is bound to as many values as it has numbers. One that explains may get fewer,
and values behind those are left. -/
theorem bindPositional_singleton (statement : ShapedStatement) (values : List Value) :
    bindPositional [statement] values =
      if statement.2.positionalCount ≤ values.length ∨ isExplain statement.1 = true then
        .ok [⟨statement.1, .positional
          (values.take (min statement.2.positionalCount values.length))⟩]
      else .error (.missingParameters statement.2.positionalCount values.length) := by
  rw [bindPositional_cons]
  cases htaken : takeValues statement values with
  | ok taken =>
    obtain ⟨rfl, hplain⟩ := takeValues_eq_ok htaken
    have henough : statement.2.positionalCount ≤ values.length ∨ isExplain statement.1 = true := by
      cases hexplain : isExplain statement.1 with
      | false => exact .inl (hplain hexplain)
      | true => exact .inr rfl
    rw [if_pos henough, List.splitAt_eq]
    rfl
  | error error =>
    obtain ⟨rfl, hexplain, hshort⟩ := takeValues_eq_error htaken
    have hnot : ¬ (statement.2.positionalCount ≤ values.length ∨ isExplain statement.1 = true) := by
      rw [hexplain]
      simpa using hshort
    rw [if_neg hnot]

/-- What was prepared is bound to values by position. -/
theorem bindScript_of_prepare {sql : String} {prepared : Prepared} (h : prepare sql = .ok prepared)
    (values : List Value) :
    bindScript sql (.positional values) =
      bindPositional [(prepared.sql, prepared.placeholders)] values := by
  obtain ⟨hstatement, hread⟩ := prepare_eq_ok_iff.mp h
  have hshaped : shapeStatement prepared.sql = .ok (prepared.sql, prepared.placeholders) :=
    shapeStatement_eq_ok_iff.mpr ⟨rfl, hread⟩
  refine bindScript_positional ?_ values
  rw [hstatement, mapM_eq_ok_iff, List.map_singleton, List.map_singleton, hshaped]

/-! ## Prepared and bound -/

/-- A text that can be prepared and its prepared statement are bound alike, whatever the arguments,
and to that one statement; the statement is prepared as itself. If it says how many values it takes,
it can be bound to values by position exactly if there are as many, or if it explains, and then it
gets the first ones of them, no more than it takes. -/
theorem prepared_binds_alike {sql : String} {prepared : Prepared} (h : prepare sql = .ok prepared) :
    (∀ arguments, bindScript sql arguments = bindScript prepared.sql arguments ∧
      ∀ bound, bindScript sql arguments = .ok bound → ∃ own, bound = [⟨prepared.sql, own⟩]) ∧
    prepare prepared.sql = .ok prepared ∧
    ∀ count, prepared.parameterCount = some count → ∀ values : List Value,
      ((∃ bound, bindScript sql (.positional values) = .ok bound) ↔
        count ≤ values.length ∨ isExplain prepared.sql = true) ∧
      ∀ bound, bindScript sql (.positional values) = .ok bound →
        bound = [⟨prepared.sql, .positional (values.take (min count values.length))⟩] := by
  obtain ⟨hstatement, hread⟩ := prepare_eq_ok_iff.mp h
  have hmem : prepared.sql ∈ (splitStatements sql).1 := by
    rw [hstatement]
    exact List.mem_singleton.mpr rfl
  have hagain := splitStatements_of_mem hmem
  refine ⟨fun arguments => ⟨bindScript_congr (hstatement.trans hagain.symm) arguments, ?_⟩,
    prepare_eq_ok_iff.mpr ⟨hagain, hread⟩, fun count hcount values => ?_⟩
  · intro bound hbound
    have htexts := bindScript_texts hbound
    rw [hstatement] at htexts
    obtain ⟨statement, rfl, htext⟩ := List.map_eq_singleton_iff.mp htexts
    exact ⟨statement.arguments, by rw [← htext]⟩
  · rw [Prepared.parameterCount] at hcount
    split at hcount
    · cases hcount
    · obtain rfl := Option.some.inj hcount
      rw [bindScript_of_prepare h, bindPositional_singleton]
      split
      · next henough =>
        refine ⟨iff_of_true ⟨_, rfl⟩ henough, ?_⟩
        rintro _ ⟨⟩
        rfl
      · next hshort =>
        refine ⟨iff_of_false ?_ hshort, nofun⟩
        rintro ⟨_, ⟨⟩⟩

/-- A text with stray separators and comments around an explaining statement, which gets the one
value that there is for its two placeholders. -/
theorem prepared_binds_alike_of_explain :
    prepare "; EXPLAIN SELECT ?, ?2 -- both\n;" =
      .ok ⟨"EXPLAIN SELECT ?, ?2", ⟨[1, 2], []⟩⟩ ∧
    prepare "EXPLAIN SELECT ?, ?2" = .ok ⟨"EXPLAIN SELECT ?, ?2", ⟨[1, 2], []⟩⟩ ∧
    ∃ bound, bindScript "; EXPLAIN SELECT ?, ?2 -- both\n;" (.positional [.integer 7]) = .ok bound ∧
      bound = [⟨"EXPLAIN SELECT ?, ?2", .positional [.integer 7]⟩] := by
  have hcensus : Placeholders.census "EXPLAIN SELECT ?, ?2" = .ok ⟨2, [2, 1], []⟩ := by
    decide +kernel
  have hprepare : prepare "; EXPLAIN SELECT ?, ?2 -- both\n;" =
      .ok ⟨"EXPLAIN SELECT ?, ?2", ⟨[1, 2], []⟩⟩ :=
    prepare_eq_ok_iff.mpr ⟨by decide +kernel,
      Placeholders.read_of_census hcensus (by decide) (by decide) (by decide)⟩
  obtain ⟨-, hagain, hcount⟩ := prepared_binds_alike hprepare
  obtain ⟨hiff, hbound⟩ := hcount 2 rfl [.integer 7]
  obtain ⟨bound, hok⟩ := hiff.mpr (.inr (by decide +kernel))
  exact ⟨hprepare, hagain, bound, hok, hbound bound hok⟩

end SqlStream
