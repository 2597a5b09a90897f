import SqlStream.Proofs.Connection.Calls
import SqlStream.Proofs.Sql.PlaceholderNumbers
import SqlStream.Proofs.Sql.Relexing

/-!
# Positional arguments

The values of a script are handed out from left to right: each statement takes as many as it has
distinct numbers, and only one that explains may take fewer. `HandedOut` says what comes of that:
which values a statement gets, and which statement is the first to go short. If all placeholders are
bare, the values of the script stand for its placeholders in the order of the text.
-/

namespace SqlStream

open SqlStream.Sql

/-! ## What is left before a statement -/

/-- The number of values left before a statement, where each one before it took as many as it wants,
or all that were left. -/
def leftBefore (statements : List ShapedStatement) (available index : Nat) : Nat :=
  (statements.take index).foldl
    (fun left statement => left - min statement.2.positionalCount left) available

/-- True if the statement at an index wants more values than are left and is no `EXPLAIN`. -/
def GoesShort (statements : List ShapedStatement) (available index : Nat) : Prop :=
  ∃ statement, statements[index]? = some statement ∧ isExplain statement.1 = false ∧
    leftBefore statements available index < statement.2.positionalCount

@[simp] theorem leftBefore_zero (statements : List ShapedStatement) (available : Nat) :
    leftBefore statements available 0 = available :=
  rfl

@[simp] theorem leftBefore_succ (statement : ShapedStatement) (statements : List ShapedStatement)
    (available index : Nat) :
    leftBefore (statement :: statements) available (index + 1) =
      leftBefore statements (available - min statement.2.positionalCount available) index :=
  rfl

/-- There are never more values left than there were. -/
theorem leftBefore_le (statements : List ShapedStatement) (available index : Nat) :
    leftBefore statements available index ≤ available := by
  induction statements generalizing available index with
  | nil => simp [leftBefore]
  | cons statement statements ih =>
    cases index with
    | zero => exact Nat.le_refl _
    | succ index => exact Nat.le_trans (ih _ index) (Nat.sub_le _ _)

/-- The first statement goes short if it wants more values than there are and does not explain. -/
theorem goesShort_zero {statement : ShapedStatement} {statements : List ShapedStatement}
    {available : Nat} : GoesShort (statement :: statements) available 0 ↔
      isExplain statement.1 = false ∧ available < statement.2.positionalCount := by
  simp [GoesShort]

/-- A later statement goes short among the values that the first one leaves. -/
theorem goesShort_succ {statement : ShapedStatement} {statements : List ShapedStatement}
    {available index : Nat} : GoesShort (statement :: statements) available (index + 1) ↔
      GoesShort statements (available - min statement.2.positionalCount available) index := by
  simp [GoesShort]

/-! ## One statement -/

/-- The values that a statement gets by their position. -/
def BoundStatement.values (statement : BoundStatement) : List Value :=
  match statement.arguments with
  | .positional values => values
  | .named _ => []

/-- A statement takes the values in front, as many as it wants or all of them. -/
theorem takeValues_eq_ok {statement : ShapedStatement} {left : List Value}
    {taken : List Value × List Value} (h : takeValues statement left = .ok taken) :
    taken = left.splitAt (min statement.2.positionalCount left.length) ∧
      (isExplain statement.1 = false → statement.2.positionalCount ≤ left.length) := by
  simp only [takeValues] at h
  split at h
  · next hle =>
    cases h
    exact ⟨by rw [Nat.min_eq_left hle], fun _ => hle⟩
  · next hlt =>
    split at h
    · next hexplain =>
      cases h
      refine ⟨?_, fun hplain => by rw [hexplain] at hplain; cases hplain⟩
      rw [Nat.min_eq_right (Nat.le_of_not_le hlt)]
      simp
    · cases h

/-- A statement that takes no values goes short. -/
theorem takeValues_eq_error {statement : ShapedStatement} {left : List Value} {error : Error}
    (h : takeValues statement left = .error error) :
    error = .missingParameters statement.2.positionalCount left.length ∧
      isExplain statement.1 = false ∧ left.length < statement.2.positionalCount := by
  simp only [takeValues] at h
  split at h
  · cases h
  · next hlt =>
    split at h
    · cases h
    · next hexplain =>
      cases h
      exact ⟨rfl, by simpa using hexplain, Nat.lt_of_not_le hlt⟩

/-! ## One statement after another -/

@[simp] theorem bindPositional_nil (values : List Value) : bindPositional [] values = .ok [] :=
  rfl

/-- Hands values to one more statement. -/
def bindNext (state : List Value × List BoundStatement) (statement : ShapedStatement) :
    Except Error (List Value × List BoundStatement) := do
  let taken ← takeValues statement state.1
  return (taken.2, ⟨statement.1, .positional taken.1⟩ :: state.2)

/-- What was bound before stays behind what is bound next. -/
theorem foldlM_bindNext (statements : List ShapedStatement) (left : List Value)
    (found : List BoundStatement) :
    statements.foldlM bindNext (left, found) =
      (statements.foldlM bindNext (left, [])).map fun state => (state.1, state.2 ++ found) := by
  induction statements generalizing left found with
  | nil => rfl
  | cons statement statements ih =>
    rw [List.foldlM_cons, List.foldlM_cons]
    unfold bindNext
    cases takeValues statement left with
    | error error => rfl
    | ok taken =>
      let bound : BoundStatement := ⟨statement.1, .positional taken.1⟩
      show statements.foldlM bindNext (taken.2, bound :: found) =
        (statements.foldlM bindNext (taken.2, [bound])).map _
      rw [ih, ih taken.2 [bound]]
      cases statements.foldlM bindNext (taken.2, []) with
      | error error => rfl
      | ok last => simp [Except.map]

/-- The first statement takes its values, and the others are bound with what it leaves. -/
theorem bindPositional_cons (statement : ShapedStatement) (statements : List ShapedStatement)
    (values : List Value) :
    bindPositional (statement :: statements) values =
      match takeValues statement values with
      | .ok taken =>
        (bindPositional statements taken.2).map (⟨statement.1, .positional taken.1⟩ :: ·)
      | .error error => .error error := by
  show ((statement :: statements).foldlM bindNext (values, []) >>= fun bound =>
    pure bound.2.reverse) = _
  rw [List.foldlM_cons]
  unfold bindNext
  cases takeValues statement values with
  | error error => rfl
  | ok taken =>
    let bound : BoundStatement := ⟨statement.1, .positional taken.1⟩
    show (statements.foldlM bindNext (taken.2, [bound]) >>= fun bound => pure bound.2.reverse) =
      (statements.foldlM bindNext (taken.2, []) >>= fun bound => pure bound.2.reverse).map _
    rw [foldlM_bindNext]
    cases statements.foldlM bindNext (taken.2, []) with
    | error error => rfl
    | ok last =>
      show Except.ok (last.2 ++ [bound]).reverse = Except.ok (bound :: last.2.reverse)
      rw [List.reverse_append]
      rfl

/-! ## What comes of handing out -/

/-- Statements with the values that they get, one after another. -/
structure Sliced (statements : List ShapedStatement) (values : List Value)
    (bound : List BoundStatement) : Prop where
  length_eq : bound.length = statements.length
  /-- Each statement gets the values in front of those that are left. -/
  slice : ∀ index statement, statements[index]? = some statement →
    let left := leftBefore statements values.length index
    bound[index]? = some ⟨statement.1, .positional
      ((values.drop (values.length - left)).take (min statement.2.positionalCount left))⟩
  /-- Each statement gets as many values as it wants, unless it explains. -/
  full : ∀ index statement, statements[index]? = some statement → isExplain statement.1 = false →
    min statement.2.positionalCount (leftBefore statements values.length index) =
      statement.2.positionalCount
  /-- All values that are handed out are the first ones, in their order. -/
  isPrefix : bound.flatMap BoundStatement.values <+: values

theorem Sliced.nil (values : List Value) : Sliced [] values [] where
  length_eq := rfl
  slice := by simp
  full := by simp
  isPrefix := List.nil_prefix

/-- A first statement takes the values in front; the others are sliced from those behind them. -/
theorem Sliced.cons {statement : ShapedStatement} {statements : List ShapedStatement}
    {values : List Value} {bound : List BoundStatement} {count : Nat}
    (hcount : min statement.2.positionalCount values.length = count)
    (hplain : isExplain statement.1 = false → statement.2.positionalCount ≤ values.length)
    (hrest : Sliced statements (values.drop count) bound) :
    Sliced (statement :: statements) values
      (⟨statement.1, .positional (values.take count)⟩ :: bound) where
  length_eq := congrArg (· + 1) hrest.length_eq
  slice index next hnext := by
    cases index with
    | zero =>
      obtain rfl := Option.some.inj hnext
      simp [hcount]
    | succ index =>
      have hslice := hrest.slice index next hnext
      have hle := leftBefore_le statements (values.length - count) index
      -- what is dropped before the statement is dropped in two steps
      have hoffset : count + (values.length - count -
            leftBefore statements (values.length - count) index) =
          values.length - leftBefore statements (values.length - count) index := by
        omega
      simp only [List.length_drop, List.drop_drop, hoffset] at hslice
      simp only [List.getElem?_cons_succ, leftBefore_succ, hcount, hslice]
  full index next hnext hexplain := by
    cases index with
    | zero =>
      obtain rfl := Option.some.inj hnext
      exact Nat.min_eq_left (hplain hexplain)
    | succ index =>
      have hfull := hrest.full index next hnext hexplain
      rwa [List.length_drop, ← hcount] at hfull
  isPrefix := by
    obtain ⟨rest, hvalues⟩ := hrest.isPrefix
    refine ⟨rest, ?_⟩
    rw [List.flatMap_cons, List.append_assoc, hvalues]
    exact List.take_append_drop _ values

/-- What comes of handing out values to statements. -/
structure HandedOut (statements : List ShapedStatement) (values : List Value)
    (outcome : Except Error (List BoundStatement)) : Prop where
  /-- There are bound statements exactly if no statement goes short. -/
  isOk_iff : outcome.isOk = true ↔ ∀ index, ¬ GoesShort statements values.length index
  sliced : ∀ bound, outcome = .ok bound → Sliced statements values bound
  /-- The first statement that goes short decides the error. -/
  error_eq : ∀ error, outcome = .error error → ∃ index statement,
    statements[index]? = some statement ∧ GoesShort statements values.length index ∧
    (∀ earlier < index, ¬ GoesShort statements values.length earlier) ∧
    error = .missingParameters statement.2.positionalCount
      (leftBefore statements values.length index)

theorem HandedOut.nil (values : List Value) : HandedOut [] values (.ok []) where
  isOk_iff := by simp [GoesShort, Except.isOk, Except.toBool]
  sliced := by
    rintro _ ⟨⟩
    exact .nil values
  error_eq := nofun

/-- A statement that goes short ends the handing out. -/
theorem HandedOut.short {statement : ShapedStatement} {statements : List ShapedStatement}
    {values : List Value} {error : Error} (h : takeValues statement values = .error error) :
    HandedOut (statement :: statements) values (.error error) := by
  obtain ⟨rfl, hshort⟩ := takeValues_eq_error h
  have hzero : GoesShort (statement :: statements) values.length 0 := goesShort_zero.mpr hshort
  exact
    { isOk_iff := ⟨nofun, fun hnone => absurd hzero (hnone 0)⟩
      sliced := nofun
      error_eq := by
        rintro _ ⟨⟩
        exact ⟨0, statement, rfl, hzero, nofun, rfl⟩ }

/-- A statement that takes its values leaves the others to the statements behind it. -/
theorem HandedOut.cons {statement : ShapedStatement} {statements : List ShapedStatement}
    {values : List Value} {taken : List Value × List Value}
    {outcome : Except Error (List BoundStatement)} (h : takeValues statement values = .ok taken)
    (hrest : HandedOut statements taken.2 outcome) :
    HandedOut (statement :: statements) values
      (outcome.map (⟨statement.1, .positional taken.1⟩ :: ·)) := by
  obtain ⟨rfl, hplain⟩ := takeValues_eq_ok h
  rw [List.splitAt_eq] at hrest ⊢
  have hzero : ¬ GoesShort (statement :: statements) values.length 0 := by
    rw [goesShort_zero]
    rintro ⟨hexplain, hshort⟩
    exact absurd (hplain hexplain) (Nat.not_le.mpr hshort)
  have hsucc : ∀ index, GoesShort (statement :: statements) values.length (index + 1) ↔
      GoesShort statements
        (values.drop (min statement.2.positionalCount values.length)).length index := by
    intro index
    rw [goesShort_succ, List.length_drop]
  constructor
  · rw [isOk_map, hrest.isOk_iff]
    constructor
    · intro hnone index
      cases index with
      | zero => exact hzero
      | succ index => exact fun hshort => hnone index ((hsucc index).mp hshort)
    · exact fun hnone index hshort => hnone (index + 1) ((hsucc index).mpr hshort)
  · intro bound hbound
    cases outcome with
    | error error => cases hbound
    | ok rest =>
      cases hbound
      exact .cons rfl hplain (hrest.sliced rest rfl)
  · intro error herror
    cases outcome with
    | ok rest => cases herror
    | error cause =>
      cases herror
      obtain ⟨index, next, hnext, hshort, hfirst, rfl⟩ := hrest.error_eq _ rfl
      refine ⟨index + 1, next, hnext, (hsucc index).mpr hshort, ?_, ?_⟩
      · intro earlier hearlier
        cases earlier with
        | zero => exact hzero
        | succ earlier =>
          exact fun h => hfirst earlier (Nat.lt_of_succ_lt_succ hearlier) ((hsucc earlier).mp h)
      · rw [leftBefore_succ, List.length_drop]

/-- To hand out values to statements is to hand them to one after another. -/
theorem handedOut_bindPositional (statements : List ShapedStatement) (values : List Value) :
    HandedOut statements values (bindPositional statements values) := by
  induction statements generalizing values with
  | nil => exact .nil values
  | cons statement statements ih =>
    rw [bindPositional_cons]
    cases htaken : takeValues statement values with
    | error error => exact .short htaken
    | ok taken => exact .cons htaken (ih taken.2)

/-! ## A running offset -/

/-- What is left of `available` values behind an offset; nothing if the offset is past them. -/
def checkedLeft (available offset : Nat) : Option Nat :=
  if offset ≤ available then some (available - offset) else none

/-- Hands out values by an offset that runs through them. There is an outcome only if the offset
never is past the values. -/
def bindByOffset (values : List Value) (offset : Nat) :
    List ShapedStatement → Option (Except Error (List BoundStatement))
  | [] => some (.ok [])
  | statement :: statements =>
    let needed := statement.2.positionalCount
    let handOut (count : Nat) : Option (Except Error (List BoundStatement)) :=
      let bound : BoundStatement := ⟨statement.1, .positional ((values.drop offset).take count)⟩
      (bindByOffset values (offset + count) statements).map fun outcome =>
        outcome.map (bound :: ·)
    match checkedLeft values.length offset with
    | none => none
    | some left =>
      if needed ≤ left then handOut needed
      else if isExplain statement.1 then handOut left
      else some (.error (.missingParameters needed left))

/-- An offset that runs through the values never is past them, and hands out the same values. -/
theorem bindByOffset_eq {values : List Value} {offset : Nat} (hoffset : offset ≤ values.length)
    (statements : List ShapedStatement) :
    bindByOffset values offset statements =
      some (bindPositional statements (values.drop offset)) := by
  induction statements generalizing offset with
  | nil => rfl
  | cons statement statements ih =>
    have hleft : checkedLeft values.length offset = some (values.drop offset).length := by
      rw [checkedLeft, if_pos hoffset, List.length_drop]
    -- a slice of what is left moves the offset to the values behind the slice
    have hnext : ∀ count ≤ (values.drop offset).length,
        bindByOffset values (offset + count) statements =
          some (bindPositional statements ((values.drop offset).drop count)) := by
      intro count hcount
      rw [List.length_drop] at hcount
      rw [ih (by omega), List.drop_drop]
    rw [bindByOffset, bindPositional_cons, hleft, takeValues]
    simp only
    by_cases hneeded : statement.2.positionalCount ≤ (values.drop offset).length
    · rw [if_pos hneeded, if_pos hneeded, hnext _ hneeded, List.splitAt_eq]
      rfl
    · rw [if_neg hneeded, if_neg hneeded]
      by_cases hexplain : isExplain statement.1 = true
      · rw [if_pos hexplain, if_pos hexplain, hnext _ (Nat.le_refl _), List.take_length,
          List.drop_length]
        rfl
      · rw [if_neg hexplain, if_neg hexplain]

/-! ## Bare placeholders -/

/-- The placeholders of a span, by their tokens in the script. -/
def spanParameters (span : Span) : List Token :=
  parameterTokens span.ownTokens

/-- The placeholders of a statement with the values that it gets for their numbers. -/
def boundParameters (span : Span) (statement : BoundStatement) : List (Token × Option Value) :=
  ((spanParameters span).zip (placeholderNumbers (spanParameters span))).map fun numbered =>
    (numbered.1, numbered.2.bind fun number => statement.values[number - 1]?)

/-- The placeholders of a script whose placeholders are all bare, and that explains nothing. -/
structure BareScript (sql : String) : Prop where
  allBare : AllBare (parameterTokens (tokens sql))
  plain : ∀ statement ∈ (splitStatements sql).1, isExplain statement = false

/-- The placeholders of a script are those of its spans, one after another. -/
theorem flatMap_spanParameters {source : List Token} {spans : List Span}
    (h : FaithfulSplit source spans) : spans.flatMap spanParameters = parameterTokens source := by
  have hsplit := congrArg parameterTokens h.concatenated
  have hown : parameterTokens (spans.flatMap Span.ownTokens) = spans.flatMap spanParameters := by
    rw [parameterTokens, List.filter_flatMap]
    rfl
  rw [← hown, hsplit, parameterTokens, List.filter_filter]
  -- a placeholder separates nothing
  refine List.filter_congr fun token _ => ?_
  by_cases hkind : token.kind = .parameter <;> simp [separates, hkind]

/-- A statement with bare placeholders wants one value for each. -/
theorem shapeStatement_of_allBare {span : Span} (h : AllBare (spanParameters span)) :
    shapeStatement span.text =
      .ok (span.text, ⟨List.range' 1 (spanParameters span).length, []⟩) := by
  have hshift : spanParameters span =
      (parameterTokens (tokens span.text)).map (Token.shift span.start) := by
    rw [spanParameters, Span.ownTokens, parameterTokens, List.filter_map]
    rfl
  have hown : AllBare (parameterTokens (tokens span.text)) :=
    { bare := fun token hmem => h.bare (token.shift span.start)
        (hshift ▸ List.mem_map_of_mem hmem)
      fits := by simpa [hshift] using h.fits }
  rw [shapeStatement, hown.read_eq, hshift, List.length_map]
  rfl

/-- The values that a statement gets for its bare placeholders, in their order. -/
theorem boundParameters_of_allBare {span : Span} (h : AllBare (spanParameters span))
    {values : List Value} (hlength : values.length = (spanParameters span).length) (sql : String) :
    boundParameters span ⟨sql, .positional values⟩ =
      ((spanParameters span).zip values).map fun filled => (filled.1, some filled.2) := by
  rw [boundParameters, h.placeholderNumbers_eq]
  refine List.ext_getElem (by simp [hlength]) fun index hindex _ => ?_
  have hvalue : index < values.length := by
    rw [hlength]
    simpa using hindex
  -- the placeholder at an index has the number behind it
  simp [BoundStatement.values, hvalue]

/-- A statement and its bare placeholders. -/
def bareShape (span : Span) : ShapedStatement :=
  (span.text, ⟨List.range' 1 (spanParameters span).length, []⟩)

@[simp] theorem positionalCount_bareShape (span : Span) :
    (bareShape span).2.positionalCount = (spanParameters span).length :=
  List.length_range'

/-- Bare placeholders get the values in the order of the text, over all statements. -/
theorem flatMap_boundParameters {spans : List Span} {values : List Value}
    {bound : List BoundStatement} (hbare : ∀ span ∈ spans, AllBare (spanParameters span))
    (hplain : ∀ span ∈ spans, isExplain span.text = false)
    (hbound : bindPositional (spans.map bareShape) values = .ok bound) :
    (spans.zip bound).flatMap (fun each => boundParameters each.1 each.2) =
      ((spans.flatMap spanParameters).zip values).map fun filled => (filled.1, some filled.2) := by
  induction spans generalizing values bound with
  | nil => simp
  | cons span spans ih =>
    rw [List.map_cons, bindPositional_cons] at hbound
    cases htaken : takeValues (bareShape span) values with
    | error error =>
      rw [htaken] at hbound
      cases hbound
    | ok taken =>
      rw [htaken] at hbound
      obtain ⟨rfl, hlength⟩ := takeValues_eq_ok htaken
      replace hlength := hlength (hplain span List.mem_cons_self)
      rw [Nat.min_eq_left hlength, List.splitAt_eq, positionalCount_bareShape] at hbound
      rw [positionalCount_bareShape] at hlength
      cases hrest : bindPositional (spans.map bareShape)
          (values.drop (spanParameters span).length) with
      | error error =>
        simp only [hrest] at hbound
        cases hbound
      | ok rest =>
        simp only [hrest] at hbound
        cases hbound
        have hspans := ih (fun other hmem => hbare other (List.mem_cons_of_mem _ hmem))
          (fun other hmem => hplain other (List.mem_cons_of_mem _ hmem)) hrest
        have hown := boundParameters_of_allBare (hbare span List.mem_cons_self)
          (List.length_take_of_le hlength) (bareShape span).1
        rw [List.zip_cons_cons, List.flatMap_cons, hspans, hown, List.flatMap_cons, ← List.map_append,
          ← List.zip_append (List.length_take_of_le hlength).symm, List.take_append_drop]

/-- Without statements that explain, values are enough if there are as many as bare placeholders. -/
theorem isOk_bindPositional_bareShape_iff {spans : List Span} (values : List Value)
    (hplain : ∀ span ∈ spans, isExplain span.text = false) :
    (bindPositional (spans.map bareShape) values).isOk = true ↔
      (spans.flatMap spanParameters).length ≤ values.length := by
  induction spans generalizing values with
  | nil => exact iff_of_true rfl (Nat.zero_le _)
  | cons span spans ih =>
    have hrest := fun values => ih values fun other hmem => hplain other (List.mem_cons_of_mem _ hmem)
    rw [List.map_cons, bindPositional_cons, List.flatMap_cons, List.length_append]
    cases htaken : takeValues (bareShape span) values with
    | error error =>
      obtain ⟨_, _, hshort⟩ := takeValues_eq_error htaken
      rw [positionalCount_bareShape] at hshort
      exact iff_of_false Bool.false_ne_true (by omega)
    | ok taken =>
      obtain ⟨rfl, hlength⟩ := takeValues_eq_ok htaken
      replace hlength := hlength (hplain span List.mem_cons_self)
      rw [positionalCount_bareShape] at hlength
      simp only [isOk_map, hrest, List.splitAt_eq, List.length_drop, positionalCount_bareShape,
        Nat.min_eq_left hlength]
      omega

/-- A script with bare placeholders is bound by its statements and their numbers of placeholders. -/
theorem BareScript.bindScript_eq {sql : String} (h : BareScript sql) (values : List Value) :
    ∃ spans : List Span, spans.map Span.text = (splitStatements sql).1 ∧
      FaithfulSplit (tokens sql) spans ∧ (∀ span ∈ spans, AllBare (spanParameters span)) ∧
      bindScript sql (.positional values) = bindPositional (spans.map bareShape) values := by
  obtain ⟨bodies, hdivision, hstatements⟩ := splitStatements_division sql
  obtain ⟨spans, htexts, hsplit, _⟩ := hdivision.faithfulSplit (relexes_lexemes sql.toList) 0
  have hfaithful : FaithfulSplit (tokens sql) spans := hsplit
  have hspans : spans.map Span.text = (splitStatements sql).1 := htexts.trans hstatements.symm
  have hparameters := flatMap_spanParameters hfaithful
  have hbare : ∀ span ∈ spans, AllBare (spanParameters span) := by
    intro span hmem
    have hsub : (spanParameters span).Sublist (parameterTokens (tokens sql)) := by
      rw [← hparameters, List.flatMap_def]
      exact List.sublist_flatten_of_mem (List.mem_map_of_mem hmem)
    exact ⟨fun token htoken => h.allBare.bare token (hsub.subset htoken),
      Nat.lt_of_le_of_lt hsub.length_le h.allBare.fits⟩
  refine ⟨spans, hspans, hfaithful, hbare, ?_⟩
  refine bindScript_positional ?_ values
  rw [mapM_eq_ok_iff, ← hspans, List.map_map, List.map_map]
  exact List.map_congr_left fun span hmem => shapeStatement_of_allBare (hbare span hmem)

/-- True if the values of a script stand for its placeholders in the order of the text. -/
structure FilledInOrder (sql : String) (values : List Value) : Prop where
  isOk_iff : (bindScript sql (.positional values)).isOk = true ↔
    (parameterTokens (tokens sql)).length ≤ values.length
  /-- The values that placeholders get by their numbers, over all statements. -/
  filled : ∀ bound, bindScript sql (.positional values) = .ok bound →
    ∃ spans : List Span, spans.map Span.text = (splitStatements sql).1 ∧
      FaithfulSplit (tokens sql) spans ∧
      (spans.zip bound).flatMap (fun each => boundParameters each.1 each.2) =
        ((parameterTokens (tokens sql)).zip values).map fun filled => (filled.1, some filled.2)

/-- In a bare script the values stand for the placeholders in the order of the text. -/
theorem BareScript.filledInOrder {sql : String} (h : BareScript sql) (values : List Value) :
    FilledInOrder sql values := by
  obtain ⟨spans, htexts, hfaithful, hbare, hbind⟩ := h.bindScript_eq values
  have hplain : ∀ span ∈ spans, isExplain span.text = false :=
    fun span hmem => h.plain _ (htexts ▸ List.mem_map_of_mem hmem)
  have hparameters := flatMap_spanParameters hfaithful
  refine ⟨?_, fun bound hbound => ⟨spans, htexts, hfaithful, ?_⟩⟩
  · rw [hbind, ← hparameters, isOk_bindPositional_bareShape_iff values hplain]
  · rw [← hparameters]
    exact flatMap_boundParameters hbare hplain (hbind ▸ hbound)

/-- Positional values are handed out to the statements of a script from left to right, by an offset
that is never past them; only a statement that explains may go short. If all placeholders are bare
and nothing is explained, the values stand for the placeholders in the order of the text. -/
theorem positional_arguments_in_order (sql : String) (values : List Value) :
    (∀ statements, (splitStatements sql).1.mapM shapeStatement = .ok statements →
      HandedOut statements values (bindScript sql (.positional values)) ∧
      bindByOffset values 0 statements = some (bindScript sql (.positional values))) ∧
    (BareScript sql → FilledInOrder sql values) := by
  refine ⟨fun statements hshaped => ?_, fun h => h.filledInOrder values⟩
  rw [bindScript_positional hshaped]
  exact ⟨handedOut_bindPositional statements values, bindByOffset_eq (Nat.zero_le _) statements⟩

/-- A statement that explains takes the last value, so that the one behind it goes short; as the
last one it may go short itself; and three values for three bare placeholders. -/
theorem positional_arguments_in_order_of_three :
    let explained : List ShapedStatement := [("EXPLAIN ?, ?", ⟨[1, 2], []⟩), ("?", ⟨[1], []⟩)]
    (splitStatements "EXPLAIN ?, ?; ?").1.mapM shapeStatement = .ok explained ∧
      HandedOut explained [.null] (bindScript "EXPLAIN ?, ?; ?" (.positional [.null])) ∧
      (bindScript "EXPLAIN ?, ?; ?" (.positional [.null])).isOk = false ∧
      bindScript "?; EXPLAIN ?, ?" (.positional [.null, .text "a"]) =
        .ok [⟨"?", .positional [.null]⟩, ⟨"EXPLAIN ?, ?", .positional [.text "a"]⟩] ∧
      BareScript "?, ?; ?" ∧
      (bindScript "?, ?; ?" (.positional [.null, .text "a", .text "b"])).isOk = true ∧
      (bindScript "?, ?; ?" (.positional [.null, .text "a"])).isOk = false := by
  intro explained
  have hpairCensus : Placeholders.census "EXPLAIN ?, ?" = .ok ⟨2, [2, 1], []⟩ := by decide +kernel
  have hpair : shapeStatement "EXPLAIN ?, ?" = .ok ("EXPLAIN ?, ?", ⟨[1, 2], []⟩) :=
    shapeStatement_eq_ok_iff.mpr
      ⟨rfl, Placeholders.read_of_census hpairCensus (by decide) (by decide) (by decide)⟩
  have hsingleCensus : Placeholders.census "?" = .ok ⟨1, [1], []⟩ := by decide +kernel
  have hsingle : shapeStatement "?" = .ok ("?", ⟨[1], []⟩) :=
    shapeStatement_eq_ok_iff.mpr
      ⟨rfl, Placeholders.read_of_census hsingleCensus (by decide) (by decide) (by decide)⟩
  have hsplit : (splitStatements "EXPLAIN ?, ?; ?").1 = ["EXPLAIN ?, ?", "?"] := by decide +kernel
  have hshaped : (splitStatements "EXPLAIN ?, ?; ?").1.mapM shapeStatement = .ok explained := by
    rw [hsplit, mapM_eq_ok_iff, List.map_cons, List.map_singleton, hpair, hsingle]
    rfl
  have hbare : BareScript "?, ?; ?" :=
    { allBare := ⟨by decide +kernel, by decide +kernel⟩
      plain := by decide +kernel }
  have hcount : (parameterTokens (tokens "?, ?; ?")).length = 3 := by decide +kernel
  have hexplained := ((positional_arguments_in_order _ [.null]).1 explained hshaped).1
  have hshort : GoesShort explained 1 1 := ⟨_, rfl, by decide +kernel, by decide⟩
  have hlast : bindScript "?; EXPLAIN ?, ?" (.positional [.null, .text "a"]) =
      .ok [⟨"?", .positional [.null]⟩, ⟨"EXPLAIN ?, ?", .positional [.text "a"]⟩] := by
    have hswapped : (splitStatements "?; EXPLAIN ?, ?").1 = ["?", "EXPLAIN ?, ?"] := by
      decide +kernel
    have hshapes : (splitStatements "?; EXPLAIN ?, ?").1.mapM shapeStatement =
        .ok [("?", ⟨[1], []⟩), ("EXPLAIN ?, ?", ⟨[1, 2], []⟩)] := by
      rw [hswapped, mapM_eq_ok_iff, List.map_cons, List.map_singleton, hpair, hsingle]
      rfl
    rw [bindScript_positional hshapes]
    decide +kernel
  refine ⟨hshaped, hexplained, ?_, hlast, hbare, ?_, ?_⟩
  · exact Bool.eq_false_iff.mpr fun hok => hexplained.isOk_iff.mp hok 1 hshort
  · exact ((positional_arguments_in_order _ _).2 hbare).isOk_iff.mpr (Nat.le_of_eq hcount)
  · refine Bool.eq_false_iff.mpr fun hok => ?_
    have hle := ((positional_arguments_in_order _ _).2 hbare).isOk_iff.mp hok
    rw [hcount] at hle
    exact absurd hle (by decide)

end SqlStream
