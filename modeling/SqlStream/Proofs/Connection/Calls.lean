import SqlStream.Proofs.Batch.Fates
import SqlStream.Proofs.Call

/-!
# Scripts on a connection as one call on its stream

A script of several statements is bound, put into one batch and sent. What `query`, `execute` and
`executeScript` do is that one call on the stream (`batchCall`); the rest of the connection stays as
it is.
-/

namespace SqlStream

open SqlStream.Sql SqlStream.Wire

/-! ## The statements that are bound -/

/-- Positional values are handed out to all statements in their order. -/
theorem bindPositional_texts {statements : List ShapedStatement} {values : List Value}
    {bound : List BoundStatement} (h : bindPositional statements values = .ok bound) :
    bound.map BoundStatement.sql = statements.map Prod.fst := by
  obtain ⟨last, hlast, hbound⟩ := bind_eq_ok_iff.mp h
  cases hbound
  -- each statement is put in front of those bound before it
  suffices hfold : ∀ (state : List Value × List BoundStatement),
      statements.foldlM (fun state statement => do
        let taken ← takeValues statement state.1
        return (taken.2, ⟨statement.1, .positional taken.1⟩ :: state.2)) state = .ok last →
      last.2.map BoundStatement.sql =
        (statements.map Prod.fst).reverse ++ state.2.map BoundStatement.sql by
    rw [List.map_reverse, hfold _ hlast]
    simp
  clear hlast h
  induction statements with
  | nil =>
    rintro state hstate
    cases hstate
    rfl
  | cons statement statements ih =>
    intro state hstate
    rw [List.foldlM_cons] at hstate
    obtain ⟨next, hnext, hstate⟩ := bind_eq_ok_iff.mp hstate
    obtain ⟨taken, _, hnext⟩ := bind_eq_ok_iff.mp hnext
    cases hnext
    rw [ih _ hstate]
    simp

/-- A statement is read with its placeholders, and keeps its text. -/
theorem shapeStatement_eq_ok_iff {sql : String} {shaped : ShapedStatement} :
    shapeStatement sql = .ok shaped ↔ shaped.1 = sql ∧ Placeholders.read sql = .ok shaped.2 := by
  unfold shapeStatement
  cases Placeholders.read sql with
  | error fault => exact ⟨nofun, nofun⟩
  | ok placeholders =>
    constructor
    · intro h
      cases h
      exact ⟨rfl, rfl⟩
    · rintro ⟨rfl, h⟩
      cases h
      rfl

/-- Statements that were read keep what was read of them. -/
theorem read_of_mem_shaped {texts : List String} {statements : List ShapedStatement}
    (h : texts.mapM shapeStatement = .ok statements) {shaped : ShapedStatement}
    (hmem : shaped ∈ statements) : Placeholders.read shaped.1 = .ok shaped.2 := by
  obtain ⟨text, -, htext⟩ := mem_of_mapM_eq_ok h hmem
  obtain ⟨rfl, hread⟩ := shapeStatement_eq_ok_iff.mp htext
  exact hread

/-- A script whose statements were read hands its values out to them. -/
theorem bindScript_positional {sql : String} {statements : List ShapedStatement}
    (h : (splitStatements sql).1.mapM shapeStatement = .ok statements) (values : List Value) :
    bindScript sql (.positional values) = bindPositional statements values := by
  rw [bindScript, h]
  rfl

/-- The statements of a script keep their texts and their order when they are bound. -/
theorem bindScript_texts {sql : String} {arguments : Arguments} {bound : List BoundStatement}
    (h : bindScript sql arguments = .ok bound) :
    bound.map BoundStatement.sql = (splitStatements sql).1 := by
  obtain ⟨shaped, hshaped, hbound⟩ := bind_eq_ok_iff.mp h
  have htexts : shaped.map Prod.fst = (splitStatements sql).1 := by
    have htext : ∀ sql shaped, shapeStatement sql = .ok shaped → shaped.1 = id sql :=
      fun _ _ h => (shapeStatement_eq_ok_iff.mp h).1
    rw [map_eq_of_mapM_eq_ok htext hshaped, List.map_id]
  cases arguments with
  | positional values => rw [bindPositional_texts hbound, htexts]
  | named pairs =>
    obtain ⟨normal, _, hnamed⟩ := bind_eq_ok_iff.mp hbound
    cases hnamed
    rw [List.map_map, ← htexts]
    rfl

/-- As many statements are bound as the script has. -/
theorem bindScript_length {sql : String} {arguments : Arguments} {bound : List BoundStatement}
    (h : bindScript sql arguments = .ok bound) : bound.length = (splitStatements sql).1.length := by
  rw [← bindScript_texts h, List.length_map]

/-- Whether a script controls transactions is seen from the statements that are bound. -/
theorem bindScript_any_control {sql : String} {arguments : Arguments} {bound : List BoundStatement}
    (h : bindScript sql arguments = .ok bound) :
    (bound.any fun statement => isTransactionControl statement.sql) =
      (splitStatements sql).1.any isTransactionControl := by
  rw [← bindScript_texts h, List.any_map]
  rfl

/-- A statement is sent with its text. -/
theorem buildStatement_text {sql : String} {arguments : Arguments} {wantRows : Bool}
    {statement : Statement} (h : buildStatement (.text sql) arguments wantRows = .ok statement) :
    statement.sql = some sql := by
  cases arguments with
  | positional values =>
    obtain ⟨encoded, _, hstatement⟩ := bind_eq_ok_iff.mp h
    cases hstatement
    rfl
  | named pairs =>
    obtain ⟨encoded, _, hstatement⟩ := bind_eq_ok_iff.mp h
    cases hstatement
    rfl

/-! ## One call on the stream -/

/-- Runs statements as a batch in which all must succeed. -/
def batchCall {τ : Type} [Transport τ] (statements : List BoundStatement)
    (wantRows transactional keepRollback : Bool) : Call τ (List ResultSet) := do
  let built ← Call.ofExcept (statements.mapM (Connection.buildBound wantRows))
  let fates ← executeBatch ⟨built, transactional⟩ keepRollback
  Call.ofExcept (collectResults ((statements.map BoundStatement.sql).zip fates))

namespace Connection

variable {τ : Type} {connection : Connection τ} {sql : String} {arguments : Arguments}
  {bound : List BoundStatement}

theorem runOn_bind_ok (hbound : bindScript sql arguments = .ok bound) :
    (Connection.bind (τ := τ) sql arguments).runOn connection = (.ok bound, connection) := by
  rw [Connection.bind, Call.runOn_withStatement, Call.runOn_ofExcept, hbound]
  rfl

theorem runOn_bind_error {error : Error} (hbound : bindScript sql arguments = .error error) :
    (Connection.bind (τ := τ) sql arguments).runOn connection =
      (.error (error.withStatement sql), connection) := by
  rw [Connection.bind, Call.runOn_withStatement, Call.runOn_ofExcept, hbound]
  rfl

variable [Transport τ]

theorem runOn_runBatch (connection : Connection τ) (statements : List BoundStatement)
    (wantRows transactional : Bool) :
    (runBatch statements wantRows transactional).runOn connection =
      (onStream (batchCall statements wantRows transactional
        connection.options.schemaDb)).runOn connection := by
  unfold runBatch batchCall
  cases statements.mapM (buildBound wantRows) with
  | error error => rfl
  | ok built =>
    simp only [Call.runOn_ofExcept_bind, Call.runOn_get_bind, runOn_onStream]
    simp only [Call.runOn_bind, runOn_onStream]
    cases (executeBatch ⟨built, transactional⟩ connection.options.schemaDb).runOn
      connection.stream with
    | mk result after => cases result <;> rfl

/-- A script that is bound is a batch, unless it has fewer than two statements. -/
theorem runOn_run (hbound : bindScript sql arguments = .ok bound)
    (hmany : 2 ≤ (splitStatements sql).1.length) (wantRows : Bool) :
    (run sql arguments wantRows).runOn connection =
      (onStream (batchCall bound wantRows false connection.options.schemaDb)).runOn connection := by
  rw [← bindScript_length hbound] at hmany
  unfold run
  rw [Call.runOn_bind_ok (runOn_bind_ok hbound)]
  match bound, hmany with
  | first :: second :: rest, _ => exact runOn_runBatch connection _ _ _

/-- A script that cannot be bound is not sent. -/
theorem runOn_run_error {error : Error} (hbound : bindScript sql arguments = .error error)
    (wantRows : Bool) :
    (run sql arguments wantRows).runOn connection =
      (.error (error.withStatement sql), connection) := by
  unfold run
  rw [Call.runOn_bind_error (runOn_bind_error hbound)]

/-- A small script that is bound is a batch; it is a transaction if there is none yet and the script
controls none. -/
theorem runOn_executeSmallScript (hbound : bindScript sql .none = .ok bound)
    (hmany : 2 ≤ (splitStatements sql).1.length) :
    (executeSmallScript sql).runOn connection =
      (Summary.aggregate <$> onStream (batchCall bound false
        (!connection.inTransaction && !(splitStatements sql).1.any isTransactionControl)
        connection.options.schemaDb)).runOn connection := by
  rw [← bindScript_any_control hbound]
  rw [← bindScript_length hbound] at hmany
  unfold executeSmallScript
  rw [Call.runOn_bind_ok (runOn_bind_ok hbound)]
  match bound, hmany with
  | first :: second :: rest, _ =>
    dsimp only
    rw [Call.runOn_get_bind, bind_pure_comp, Call.runOn_map, Call.runOn_map, runOn_runBatch]

/-- A small script that cannot be bound is not sent. -/
theorem runOn_executeSmallScript_error {error : Error}
    (hbound : bindScript sql .none = .error error) :
    (executeSmallScript sql).runOn connection = (.error (error.withStatement sql), connection) := by
  unfold executeSmallScript
  rw [Call.runOn_bind_error (runOn_bind_error hbound)]

end Connection

end SqlStream
