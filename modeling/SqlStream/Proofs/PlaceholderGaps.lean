import Mathlib.Data.List.Perm.Subperm
import SqlStream.Proofs.PositionalArguments

/-!
# Placeholders whose numbers leave gaps

A statement takes one value for each distinct number, and the server puts the values in by position:
the first one for number one, and so on. So a placeholder gets a value if its number is at most the
count of distinct numbers, and all of them get one exactly if the numbers leave no gap
(`bound_values_reach_iff`). Behind a gap the last placeholders go without.
-/

namespace SqlStream

open SqlStream.Sql

/-! ## Gaps -/

/-- True of numbers that, from one on, go up to the largest without one left out. -/
def NoGap (numbers : List Nat) : Prop :=
  ∀ last ∈ numbers, ∀ number, 0 < number → number ≤ last → number ∈ numbers

/-- Distinct positive numbers are none larger than their count exactly if they leave no gap. -/
theorem le_length_iff_noGap {numbers : List Nat} (hdistinct : numbers.Nodup)
    (hpositive : ∀ number ∈ numbers, 0 < number) :
    (∀ number ∈ numbers, number ≤ numbers.length) ↔ NoGap numbers := by
  constructor
  · intro hle last hlast number hnumber hbelow
    -- so many distinct numbers up to their count are all the numbers up to it
    have hsubset : numbers ⊆ List.range' 1 numbers.length := by
      intro other hother
      have := hpositive other hother
      have := hle other hother
      rw [List.mem_range'_1]
      omega
    have hperm : numbers.Perm (List.range' 1 numbers.length) :=
      (List.subperm_of_subset hdistinct hsubset).perm_of_length_le (by simp)
    rw [hperm.mem_iff, List.mem_range'_1]
    have := hle last hlast
    omega
  · intro hgap last hlast
    -- the numbers up to the last one are all among them
    have hsubset : List.range' 1 last ⊆ numbers := by
      intro number hnumber
      rw [List.mem_range'_1] at hnumber
      exact hgap last hlast number (by omega) (by omega)
    have hlength := (List.subperm_of_subset List.nodup_range' hsubset).length_le
    rwa [List.length_range'] at hlength

/-! ## Numbers of a statement -/

/-- A placeholder that is written with a number has a positive one. -/
theorem Sql.Placeholder.pos_of_read {text : List Char} {number : Nat}
    (h : Placeholder.read text = .ok (.indexed number)) : 0 < number := by
  unfold Placeholder.read at h
  split at h
  case h_2 digits _ =>
    split at h
    · split at h
      · cases h
        assumption
      · cases h
    · cases h
  all_goals cases h

/-- All numbers of placeholders are positive. -/
theorem Sql.Placeholder.pos_of_mem_numbers {texts : List (List Char)} {highest number : Nat}
    (h : some number ∈ Placeholder.numbers highest (readTexts texts)) : 0 < number := by
  induction texts generalizing highest with
  | nil => cases h
  | cons text texts ih =>
    rw [readTexts, List.filterMap_cons] at h
    cases hread : Placeholder.read text with
    | error fault =>
      rw [hread] at h
      exact ih h
    | ok placeholder =>
      rw [hread] at h
      cases placeholder with
      | anonymous =>
        rcases List.mem_cons.mp h with hfirst | hrest
        · cases hfirst
          exact Nat.succ_pos highest
        · exact ih hrest
      | indexed index =>
        rcases List.mem_cons.mp h with hfirst | hrest
        · cases hfirst
          exact pos_of_read hread
        · exact ih hrest
      | named name =>
        rcases List.mem_cons.mp h with hfirst | hrest
        · cases hfirst
        · exact ih hrest

variable {placeholders : Placeholders}

theorem Sql.Placeholders.pos_of_mem_indices {sql : String}
    (hread : Placeholders.read sql = .ok placeholders) {number : Nat}
    (h : number ∈ placeholders.indices) : 0 < number :=
  Placeholder.pos_of_mem_numbers (((indices_spec hread).2 number).mp h)

theorem Sql.Placeholders.nodup_indices {sql : String}
    (hread : Placeholders.read sql = .ok placeholders) : placeholders.indices.Nodup :=
  (indices_spec hread).1.imp Nat.ne_of_lt

/-! ## Values by their numbers -/

/-- The value that the server puts in for a number, where the values are numbered from one on. -/
def BoundStatement.valueAt (statement : BoundStatement) (number : Nat) : Option Value :=
  statement.values[number - 1]?

theorem BoundStatement.isSome_valueAt_iff {statement : BoundStatement} {number : Nat}
    (hnumber : 0 < number) :
    (statement.valueAt number).isSome = true ↔ number ≤ statement.values.length := by
  rw [valueAt, isSome_getElem?]
  omega

/-- What the placeholders of a statement get by their numbers. -/
structure Reached (statement : BoundStatement) (placeholders : Placeholders) : Prop where
  /-- There is one value for each distinct number. -/
  length_values : statement.values.length = placeholders.positionalCount
  /-- The placeholders up to that count get a value. -/
  isSome_valueAt_iff : ∀ number ∈ placeholders.indices,
    (statement.valueAt number).isSome = true ↔ number ≤ placeholders.positionalCount
  /-- There are enough values for all of them exactly if the numbers leave no gap. -/
  all_iff : (∀ number ∈ placeholders.indices, number ≤ statement.values.length) ↔
    NoGap placeholders.indices

theorem reached_of_length {statement : BoundStatement}
    (hread : Placeholders.read statement.sql = .ok placeholders)
    (hlength : statement.values.length = placeholders.positionalCount) :
    Reached statement placeholders where
  length_values := hlength
  isSome_valueAt_iff number hnumber := by
    rw [statement.isSome_valueAt_iff (Placeholders.pos_of_mem_indices hread hnumber), hlength]
  all_iff := by
    rw [hlength]
    exact le_length_iff_noGap (Placeholders.nodup_indices hread)
      fun number => Placeholders.pos_of_mem_indices hread

/-- Each statement that is bound is one of those that values were handed out to. -/
theorem Sliced.mem {statements : List ShapedStatement} {values : List Value}
    {bound : List BoundStatement} (h : Sliced statements values bound) {statement : BoundStatement}
    (hmem : statement ∈ bound) (hplain : isExplain statement.sql = false) :
    ∃ shaped ∈ statements, shaped.1 = statement.sql ∧
      statement.values.length = shaped.2.positionalCount := by
  obtain ⟨index, hindex, rfl⟩ := List.mem_iff_getElem.mp hmem
  have hlt : index < statements.length := h.length_eq ▸ hindex
  have hshaped : statements[index]? = some statements[index] := List.getElem?_eq_getElem hlt
  have hslice := h.slice index _ hshaped
  rw [List.getElem?_eq_getElem hindex, Option.some.injEq] at hslice
  rw [hslice] at hplain ⊢
  have hfull := h.full index _ hshaped hplain
  have hle := leftBefore_le statements values.length index
  refine ⟨_, List.getElem_mem hlt, rfl, ?_⟩
  show List.length (List.take _ _) = _
  rw [List.length_take, List.length_drop, hfull]
  omega

/-- Every statement of a script that positional values are bound to, and that explains nothing, gets
one value for each distinct number of its placeholders; they are enough for all placeholders exactly
if the numbers leave no gap. -/
theorem bound_values_reach_iff {sql : String} {values : List Value} {bound : List BoundStatement}
    (hbound : bindScript sql (.positional values) = .ok bound) :
    bound.map BoundStatement.sql = (splitStatements sql).1 ∧
      ∀ statement ∈ bound, isExplain statement.sql = false →
        ∃ placeholders, Placeholders.read statement.sql = .ok placeholders ∧
          Reached statement placeholders := by
  obtain ⟨statements, hshaped, hhanded⟩ := bind_eq_ok_iff.mp hbound
  have hsliced : Sliced statements values bound :=
    (handedOut_bindPositional statements values).sliced bound hhanded
  refine ⟨bindScript_texts hbound, fun statement hmem hplain => ?_⟩
  obtain ⟨shaped, hshape, hsql, hlength⟩ := hsliced.mem hmem hplain
  have hread : Placeholders.read statement.sql = .ok shaped.2 :=
    hsql ▸ read_of_mem_shaped hshaped hshape
  exact ⟨shaped.2, hread, reached_of_length hread hlength⟩

/-- The first statement has the numbers one and two. The second has one, five and six, takes three
values, and its placeholders five and six get none. -/
theorem bound_values_reach_of_mixed :
    let values : List Value := [.null, .null, .null, .null, .null]
    let full : BoundStatement := ⟨"SELECT ?2, ?1", .positional [.null, .null]⟩
    let short : BoundStatement := ⟨"SELECT ?5, ?, ?1", .positional [.null, .null, .null]⟩
    bindScript "SELECT ?2, ?1; SELECT ?5, ?, ?1" (.positional values) = .ok [full, short] ∧
      isExplain full.sql = false ∧ Reached full ⟨[1, 2], []⟩ ∧ NoGap [1, 2] ∧
      isExplain short.sql = false ∧ Reached short ⟨[1, 5, 6], []⟩ ∧ ¬ NoGap [1, 5, 6] := by
  intro values full short
  have hfull : isExplain full.sql = false := by decide +kernel
  have hshort : isExplain short.sql = false := by decide +kernel
  have hcensusFull : Placeholders.census full.sql = .ok ⟨2, [1, 2], []⟩ := by decide +kernel
  have hreadFull : Placeholders.read full.sql = .ok ⟨[1, 2], []⟩ :=
    Placeholders.read_of_census hcensusFull (by decide) (by decide) (by decide)
  have hcensusShort : Placeholders.census short.sql = .ok ⟨6, [1, 6, 5], []⟩ := by decide +kernel
  have hreadShort : Placeholders.read short.sql = .ok ⟨[1, 5, 6], []⟩ :=
    Placeholders.read_of_census hcensusShort (by decide) (by decide) (by decide)
  have hsplit : (splitStatements "SELECT ?2, ?1; SELECT ?5, ?, ?1").1 = [full.sql, short.sql] := by
    decide +kernel
  have hshapedFull : shapeStatement full.sql = .ok (full.sql, ⟨[1, 2], []⟩) :=
    shapeStatement_eq_ok_iff.mpr ⟨rfl, hreadFull⟩
  have hshapedShort : shapeStatement short.sql = .ok (short.sql, ⟨[1, 5, 6], []⟩) :=
    shapeStatement_eq_ok_iff.mpr ⟨rfl, hreadShort⟩
  have hbound : bindScript "SELECT ?2, ?1; SELECT ?5, ?, ?1" (.positional values) =
      .ok [full, short] := by
    have hshaped : (splitStatements "SELECT ?2, ?1; SELECT ?5, ?, ?1").1.mapM shapeStatement =
        .ok [(full.sql, ⟨[1, 2], []⟩), (short.sql, ⟨[1, 5, 6], []⟩)] := by
      rw [hsplit, mapM_eq_ok_iff, List.map_cons, List.map_singleton, hshapedFull, hshapedShort]
      rfl
    rw [bindScript_positional hshaped]
    decide +kernel
  obtain ⟨-, hreached⟩ := bound_values_reach_iff hbound
  obtain ⟨_, hread, hfirst⟩ := hreached full (by simp) hfull
  cases hreadFull.symm.trans hread
  obtain ⟨_, hread, hsecond⟩ := hreached short (by simp) hshort
  cases hreadShort.symm.trans hread
  exact ⟨hbound, hfull, hfirst, hfirst.all_iff.mp (by decide), hshort, hsecond,
    fun hgap => absurd (hsecond.all_iff.mpr hgap) (by decide)⟩

/-- A single placeholder with the number two takes one of two values, which goes to number one. -/
theorem gap_leaves_placeholder_without_value :
    let statement : BoundStatement := ⟨"SELECT ?2", .positional [.integer 7]⟩
    bindScript "SELECT ?2" (.positional [.integer 7, .integer 8]) = .ok [statement] ∧
      isExplain statement.sql = false ∧
      Placeholders.read statement.sql = .ok ⟨[2], []⟩ ∧
      ¬ 2 ≤ statement.values.length ∧ statement.valueAt 2 = none := by
  refine ⟨?_, by decide +kernel, ?_, by decide, rfl⟩
  · decide +kernel
  · decide +kernel

end SqlStream
