import SqlStream.Binding
import SqlStream.Script

/-!
# Connections

What a caller works with: a stream, its options, and whether a transaction was begun on it.
Statements, scripts and batches run on a connection; SQL text can be kept on the server and run by
its id.
-/

namespace SqlStream

open SqlStream.Sql SqlStream.Wire

/-- A stream and what the caller did on it. -/
structure Connection (τ : Type) where
  stream : τ
  options : Options := {}
  inTransaction : Bool := false
  /-- The id of the next text that the server is asked to keep. -/
  nextSqlId : Int32 := 0

/-- A statement that stands alone, and its placeholders. -/
structure Prepared where
  sql : String
  placeholders : Placeholders
  deriving DecidableEq

/-- The number of values that a prepared statement takes; `none` if it has placeholders with
names. -/
def Prepared.parameterCount (prepared : Prepared) : Option Nat :=
  if prepared.placeholders.hasNamed then none else some prepared.placeholders.positionalCount

/-- Requires a text to be one statement, and reads its placeholders. -/
def prepare (sql : String) : Except Error Prepared :=
  match (splitStatements sql).1 with
  | [statement] =>
    match Placeholders.read statement with
    | .ok placeholders => .ok ⟨statement, placeholders⟩
    | .error fault => .error ((Error.malformedParameter fault).withStatement sql)
  | statements => .error ((Error.statementCount statements.length).withStatement sql)

/-- A statement that a caller puts into a batch. -/
structure BatchStatement where
  sql : String
  arguments : Arguments
  wantRows : Bool
  deriving DecidableEq

namespace Connection

variable {τ : Type} [Transport τ]

/-- A connection with other options, which its stream takes over too. -/
def withOptions (connection : Connection τ) (options : Options) : Connection τ :=
  { connection with stream := Transport.configure options connection.stream, options }

/-- The state of the stream. -/
def session (connection : Connection τ) : Session :=
  Transport.session connection.stream

/-- A call on the stream. -/
def onStream {α : Type} (call : Call τ α) : Call (Connection τ) α :=
  ExceptT.mk fun connection =>
    let (result, stream) := call.runOn connection.stream
    (result, { connection with stream })

/-! ## Statements -/

/-- The wire form of a statement of a script; its error names it. -/
def buildBound (wantRows : Bool) (statement : BoundStatement) : Except Error Statement :=
  (buildStatement (.text statement.sql) statement.arguments wantRows).mapError
    (Error.withStatement statement.sql)

/-- Runs statements as a batch in which all must succeed. -/
def runBatch (statements : List BoundStatement) (wantRows transactional : Bool) :
    Call (Connection τ) (List ResultSet) := do
  let built ← Call.ofExcept (statements.mapM (buildBound wantRows))
  let options := (← get).options
  let fates ← onStream (executeBatch ⟨built, transactional⟩ options.schemaDb)
  Call.ofExcept (collectResults ((statements.map BoundStatement.sql).zip fates))

/-- Runs one statement of a script; its error names it. -/
def runSingle (statement : BoundStatement) (wantRows : Bool) :
    Call (Connection τ) ResultSet :=
  onStream (Call.withStatement statement.sql
    (executeStatement (.text statement.sql) statement.arguments wantRows))

/-- The statements of a script with their arguments; an error names the whole script. -/
def bind (sql : String) (arguments : Arguments) : Call (Connection τ) (List BoundStatement) :=
  Call.withStatement sql (Call.ofExcept (bindScript sql arguments))

/-- Runs a script: one statement by itself, more as a batch that is no transaction. -/
def run (sql : String) (arguments : Arguments) (wantRows : Bool) :
    Call (Connection τ) (List ResultSet) := do
  match ← bind sql arguments with
  | [] => return []
  | [statement] => return [← runSingle statement wantRows]
  | statements => runBatch statements wantRows false

/-- Runs a script for its rows. -/
def query (sql : String) (arguments : Arguments) : Call (Connection τ) Rows := do
  return { sets := ← run sql arguments true }

/-- Runs a script for what it does. -/
def execute (sql : String) (arguments : Arguments) : Call (Connection τ) Summary := do
  return .aggregate (← run sql arguments false)

/-- Runs a script that fits one message: one statement by itself, more as one transaction, unless
there is one already or the script has its own. -/
def executeSmallScript (sql : String) : Call (Connection τ) Summary := do
  match ← bind sql .none with
  | [] => return {}
  | [statement] => return .aggregate [← runSingle statement false]
  | statements =>
    let hasControl := statements.any fun statement => isTransactionControl statement.sql
    let transactional := !(← get).inTransaction && !hasControl
    return .aggregate (← runBatch statements false transactional)

/-- Runs a script without arguments as a whole or not at all. Scripts past the threshold run in
chunks. -/
def executeScript (sql : String) : Call (Connection τ) Summary := do
  let connection ← get
  if connection.options.chunkThresholdBytes < sql.utf8ByteSize then
    onStream (executeChunked sql connection.options.chunkSize (!connection.inTransaction))
  else executeSmallScript sql

/-- Runs statements as a batch and reports the outcome of each. -/
def batch (statements : List BatchStatement) (transactional : Bool) :
    Call (Connection τ) (List StepOutcome) := do
  let built ← Call.ofExcept (statements.mapM fun statement =>
    buildStatement (.text statement.sql) statement.arguments statement.wantRows)
  if built.isEmpty then return []
  let options := (← get).options
  let fates ← onStream (executeBatch ⟨built, transactional⟩ options.schemaDb)
  Call.ofExcept (fates.mapM StepFate.outcome)

/-! ## Transactions -/

/-- Notes whether a transaction is open. -/
def setInTransaction (inTransaction : Bool) : Call (Connection τ) Unit :=
  modify fun connection => { connection with inTransaction }

/-- Begins a transaction. -/
def beginTransaction : Call (Connection τ) Unit := do
  let _ ← execute "BEGIN" .none
  setInTransaction true

/-- Commits the transaction. -/
def commit : Call (Connection τ) Unit := do
  let _ ← execute "COMMIT" .none
  setInTransaction false

/-- Undoes the transaction. The connection is out of it even if the server reports an error. -/
def rollback : Call (Connection τ) Unit := do
  let leave (outcome : Except Error Summary) : Call (Connection τ) Unit := do
    setInTransaction false
    Call.ofExcept (outcome.map fun _ => ())
  leave (← observing (execute "ROLLBACK" .none))

/-! ## Kept text -/

/-- Asks the server to keep a text; its id. An id is used up even if the server refuses. -/
def storeSql (sql : String) : Call (Connection τ) Int32 := do
  let sqlId := (← get).nextSqlId
  modify fun connection => { connection with nextSqlId := sqlId + 1 }
  let _ ← Call.withStatement sql (onStream (Transport.send [.storeSql sql sqlId]))
  return sqlId

/-- Runs a text that the server keeps. -/
def executeStored (sqlId : Int32) (arguments : Arguments) (wantRows : Bool) :
    Call (Connection τ) ResultSet :=
  onStream (executeStatement (.stored sqlId) arguments wantRows)

/-- Asks the server to drop a text. -/
def closeSql (sqlId : Int32) : Call (Connection τ) Unit := do
  let _ ← onStream (Transport.send [.closeSql sqlId])

/-- Lets the stream go. -/
def close (connection : Connection τ) : Connection τ :=
  { connection with stream := Transport.close connection.stream, inTransaction := false }

end Connection

end SqlStream
