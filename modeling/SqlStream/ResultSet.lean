import SqlStream.Session

/-!
# Result sets

What statements gave, with decoded values: rows by index and by the name of a column, a cursor over
the results of several statements, and their summary.
-/

namespace SqlStream

open SqlStream.Text

/-- What one statement gave. -/
structure ResultSet where
  columns : List Wire.Column := []
  rows : List (List Value) := []
  affectedRowCount : UInt64 := 0
  lastInsertRowid : Option Int64 := none
  replicationIndex : Option UInt64 := none
  rowsRead : Option UInt64 := none
  rowsWritten : Option UInt64 := none
  queryDurationMs : Option Binary64 := none
  deriving DecidableEq

/-- A row with the columns of its result. -/
structure Row where
  columns : List Wire.Column
  values : List Value
  deriving DecidableEq

namespace ResultSet

/-- The declared types of the first `count` columns; a column that is missing has none. -/
def declaredTypes (columns : List Wire.Column) (count : Nat) : List (Option String) :=
  (columns.map Wire.Column.declaredType ++
    List.replicate (count - columns.length) none).take count

/-- The values of a row. -/
def decodeRow (columns : List Wire.Column) (row : List Wire.Value) :
    Except DecodeFault (List Value) :=
  (row.zip (declaredTypes columns row.length)).mapM fun cell => Value.decode cell.1 cell.2

/-- The id of the last row that a statement put in. -/
def decodeRowid (text : String) : Except DecodeFault Int64 :=
  (readInt64 text).mapError (.rowid text)

/-- What a statement gave, with its values decoded. Of several faults the first in a row is
reported, and that of the row id last. -/
def decode (result : Wire.StatementResult) : Except DecodeFault ResultSet := do
  let rows ← result.rows.mapM (decodeRow result.columns)
  let lastInsertRowid ← result.lastInsertRowid.mapM decodeRowid
  return {
    columns := result.columns
    rows
    affectedRowCount := result.affectedRowCount
    lastInsertRowid
    replicationIndex := result.replicationIndex
    rowsRead := result.rowsRead
    rowsWritten := result.rowsWritten
    queryDurationMs := result.queryDurationMs }

/-- The row at an index. -/
def row? (set : ResultSet) (index : Nat) : Option Row :=
  set.rows[index]?.map fun values => ⟨set.columns, values⟩

end ResultSet

namespace Row

/-- The value at an index. -/
def getIndex? (row : Row) (index : Nat) : Option Value :=
  row.values[index]?

/-- True of a column with a name, in any mixture of cases. -/
def isNamed (name : String) (column : Wire.Column) : Bool :=
  column.name.any fun own => sameIgnoringCase own.toList name.toList

/-- The value in the first column with a name. -/
def get? (row : Row) (name : String) : Option Value := do
  let index ← row.columns.findIdx? (isNamed name)
  row.getIndex? index

/-- The integer in the first column with a name. -/
def getInteger? (row : Row) (name : String) : Option Int64 :=
  match row.get? name with
  | some (.integer n) => some n
  | _ => none

/-- The double in the first column with a name. -/
def getFloat? (row : Row) (name : String) : Option Binary64 :=
  match row.get? name with
  | some (.float x) => some x
  | _ => none

/-- The text in the first column with a name. -/
def getText? (row : Row) (name : String) : Option String :=
  match row.get? name with
  | some (.text s) => some s
  | _ => none

end Row

/-! ## Summaries -/

/-- What one or more statements did: the number of rows they changed, the last row id above zero and
the largest replication index. -/
structure Summary where
  affectedRowCount : UInt64 := 0
  lastInsertRowid : Option Int64 := none
  replicationIndex : Option UInt64 := none
  deriving DecidableEq

namespace Summary

/-- A row id, if it is above zero. -/
def positiveRowid (rowid : Option Int64) : Option Int64 :=
  rowid.filter fun id => 0 < id.toInt

/-- Adds what a further statement did. -/
def add (summary : Summary) (set : ResultSet) : Summary where
  affectedRowCount := summary.affectedRowCount + set.affectedRowCount
  lastInsertRowid := (positiveRowid set.lastInsertRowid).or summary.lastInsertRowid
  replicationIndex := maxIndex summary.replicationIndex set.replicationIndex

/-- What statements did, in their order. -/
def aggregate (sets : List ResultSet) : Summary :=
  sets.foldl add {}

end Summary

/-! ## Cursors -/

/-- A cursor over the results of several statements, one after another. -/
structure Rows where
  sets : List ResultSet
  /-- The result the cursor is in. -/
  current : Nat := 0
  /-- The row that comes next in it. -/
  cursor : Nat := 0
  deriving DecidableEq

namespace Rows

/-- The columns of the result the cursor is in. -/
def columns (rows : Rows) : List Wire.Column :=
  match rows.sets[rows.current]? with
  | some set => set.columns
  | none => []

/-- The next row of the result the cursor is in, and the cursor behind it. -/
def nextRow (rows : Rows) : Option Row × Rows :=
  match rows.sets[rows.current]?.bind fun set => set.row? rows.cursor with
  | some row => (some row, { rows with cursor := rows.cursor + 1 })
  | none => (none, rows)

/-- True if there is a result behind the one the cursor is in. -/
def hasNextSet (rows : Rows) : Bool :=
  rows.current + 1 < rows.sets.length

/-- Moves to the next result, if there is one. -/
def nextSet (rows : Rows) : Bool × Rows :=
  if rows.hasNextSet then (true, { rows with current := rows.current + 1, cursor := 0 })
  else (false, rows)

/-- What all statements did. -/
def summary (rows : Rows) : Summary :=
  .aggregate rows.sets

end Rows

/-- The fate of one step of a batch. -/
inductive StepOutcome where
  | executed (set : ResultSet)
  | failed (error : Wire.ServerError)
  /-- The condition of the step did not hold. -/
  | skipped
  deriving DecidableEq

end SqlStream
