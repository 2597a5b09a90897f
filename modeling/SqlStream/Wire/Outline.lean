import SqlStream.Binary64.Decimal
import SqlStream.Text.Outline
import SqlStream.Wire.Reply

/-!
# Outlines of replies

The parts of replies as one-line texts, for messages about replies that came at the wrong time.
-/

namespace SqlStream.Wire

open SqlStream.Text

/-- Doubles are outlined with a point in place from `0.0001` to below `1e16`, only a negative
exponent has a sign, and a tie goes away from zero. -/
def outlineStyle : Binary64.DecimalStyle := ⟨-4, false, .away⟩

/-- The outline of a double. -/
def outlineBinary64 (x : Binary64) : String :=
  if x.isFinite then String.ofList (x.text outlineStyle) else x.specialName

/-- The outline of a 64-bit integer without sign. -/
def outlineUInt64 (n : UInt64) : String :=
  Outline.integer n.toNat

/-- The outline of a value. -/
def Value.outline : Value → String
  | null => "Null"
  | integer digits => Outline.record "Integer" [("value", Outline.quoted digits)]
  | float x => Outline.record "Float" [("value", outlineBinary64 x)]
  | text s => Outline.record "Text" [("value", Outline.quoted s)]
  | blob encoded => Outline.record "Blob" [("base64", Outline.quoted encoded)]

/-- The outline of an error. -/
def ServerError.outline (error : ServerError) : String :=
  Outline.record "WireError"
    [("message", Outline.quoted error.message), ("code", Outline.option Outline.quoted error.code)]

/-- The outline of a column. -/
def Column.outline (column : Column) : String :=
  Outline.record "Col"
    [("name", Outline.option Outline.quoted column.name),
      ("decltype", Outline.option Outline.quoted column.declaredType)]

/-- The outline of what a statement gave. -/
def StatementResult.outline (result : StatementResult) : String :=
  Outline.record "StmtResult"
    [("cols", Outline.list Column.outline result.columns),
      ("rows", Outline.list (Outline.list Value.outline) result.rows),
      ("affected_row_count", outlineUInt64 result.affectedRowCount),
      ("last_insert_rowid", Outline.option Outline.quoted result.lastInsertRowid),
      ("replication_index", Outline.option outlineUInt64 result.replicationIndex),
      ("rows_read", Outline.option outlineUInt64 result.rowsRead),
      ("rows_written", Outline.option outlineUInt64 result.rowsWritten),
      ("query_duration_ms", Outline.option outlineBinary64 result.queryDurationMs)]

/-- The outline of what a batch gave. -/
def BatchResult.outline (result : BatchResult) : String :=
  Outline.record "BatchResult"
    [("step_results", Outline.list (Outline.option StatementResult.outline) result.stepResults),
      ("step_errors", Outline.list (Outline.option ServerError.outline) result.stepErrors),
      ("replication_index", Outline.option outlineUInt64 result.replicationIndex)]

/-! ## How doubles are written -/

example : outlineBinary64 ⟨0x4341c37937e08000⟩ = "1e16" := by decide +kernel

example : outlineBinary64 ⟨0x3ea4000000000000⟩ = "5.960464477539063e-7" := by decide +kernel

end SqlStream.Wire
