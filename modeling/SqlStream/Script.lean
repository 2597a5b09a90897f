import SqlStream.Arguments
import SqlStream.Batch
import SqlStream.Chunks
import SqlStream.Sql.Control
import SqlStream.Sql.Statement
import SqlStream.Transport

/-!
# Scripts in chunks

Scripts too large for one message run as a sequence of batches. The client keeps the transaction
itself, so statements of the script that begin or end one are left out. If anything fails, the
stream is closed and nothing is committed: the server then undoes what was done.
-/

namespace SqlStream

open SqlStream.Sql SqlStream.Wire

section

variable {τ : Type} [Transport τ]

/-- Requires the first answer to be that to a statement. -/
def expectExecute (responses : List Response) : Except Error StatementResult :=
  match responses.head? with
  | some (.execute result) => .ok result
  | _ => .error (.protocol (.unknownResponse 0 "execute"))

/-- Requires the first answer to be that to a batch. -/
def expectBatch (responses : List Response) : Except Error BatchResult :=
  match responses.head? with
  | some (.batch result) => .ok result
  | _ => .error (.protocol (.unknownResponse 0 "batch"))

/-- What a statement gave, with its values decoded. -/
def decodeResult (result : StatementResult) : Except Error ResultSet :=
  (ResultSet.decode result).mapError .undecodable

/-- Runs a statement. -/
def executeStatement (source : SqlSource) (arguments : Arguments) (wantRows : Bool) :
    Call τ ResultSet := do
  let statement ← Call.ofExcept (buildStatement source arguments wantRows)
  let responses ← Transport.send [.execute statement]
  let result ← Call.ofExcept (expectExecute responses)
  Call.ofExcept (decodeResult result)

/-- Runs a statement without arguments and without rows; its error names it. -/
def executePlain (sql : String) : Call τ ResultSet :=
  Call.withStatement sql (executeStatement (.text sql) .none false)

/-- Runs a batch; the fates of its statements. -/
def executeBatch (plan : BatchPlan) (keepRollback : Bool) : Call τ (List StepFate) := do
  let request ← Call.ofExcept plan.build
  let responses ← Transport.send [request]
  let result ← Call.ofExcept (expectBatch responses)
  Call.ofExcept (plan.callerFates result keepRollback)

/-- The results of statements that must all succeed. A failure names its statement, and statements
that did not run have no result. -/
def collectResults (statements : List (String × StepFate)) : Except Error (List ResultSet) := do
  let sets ← statements.mapM fun (sql, fate) =>
    match fate with
    | .succeeded result => (decodeResult result).map some
    | .failed error => .error ((Error.server error).withStatement sql)
    | .skipped => .ok none
  return sets.filterMap id

/-- Runs one chunk of a script. -/
def runChunk (statements : List String) : Call τ (List ResultSet) := do
  let built ← Call.ofExcept
    (statements.mapM fun sql => buildStatement (.text sql) .none false)
  let fates ← executeBatch ⟨built, false⟩ false
  Call.ofExcept (collectResults (statements.zip fates))

/-- Runs chunks one after another, and adds up what they did. -/
def runChunks (summary : Summary) : List (List String) → Call τ Summary
  | [] => return summary
  | chunk :: rest => do
    let sets ← runChunk chunk
    runChunks (sets.foldl Summary.add summary) rest

/-- Runs the statements of a script in chunks, with `wrap` as one transaction. -/
def runScript (statements : List String) (chunkSize : Nat) (wrap : Bool) : Call τ Summary := do
  if wrap then let _ ← executePlain (τ := τ) "BEGIN"
  let summary ← runChunks {} (chunks chunkSize statements)
  if wrap then let _ ← executePlain (τ := τ) "COMMIT"
  return summary

/-- Closes the stream if a call fails. -/
def closingOnError {α : Type} (call : Call τ α) : Call τ α :=
  tryCatch call fun error => do
    modify Transport.close
    throw error

/-- The statements of a script that run in chunks. -/
def chunkedStatements (sql : String) : List String :=
  (splitStatements sql).1.filter fun statement => !isTransactionControl statement

/-- Runs a script in chunks of at most `chunkSize` statements. A script of one statement needs no
transaction and no batch. -/
def executeChunked (sql : String) (chunkSize : Nat) (wrap : Bool) : Call τ Summary :=
  match chunkedStatements sql with
  | [] => return {}
  | [only] => do
    let set ← executePlain only
    return .aggregate [set]
  | statements => closingOnError (runScript statements chunkSize wrap)

end

end SqlStream
