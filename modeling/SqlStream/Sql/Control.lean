import SqlStream.Sql.Lexeme

/-!
# Statements that only control

`EXPLAIN` statements describe a statement and do not run it. Transaction control is a statement that
consists of `BEGIN`, `COMMIT`, `END` or `ROLLBACK` and of words that say which kind of transaction;
`ROLLBACK TO name` is none, because it stays inside its transaction.
-/

namespace SqlStream.Sql

/-- The classes of the tokens of a text. -/
def tokenKinds (sql : String) : List TokenKind :=
  (lexemes sql.toList).filterMap Lexeme.tokenKind?

/-- Statements that begin with `EXPLAIN`. -/
def isExplain (sql : String) : Bool :=
  (tokenKinds sql).head? = some (.keyword .EXPLAIN)

/-- The keywords that begin transaction control. -/
def Keyword.beginsControl : Keyword → Bool
  | BEGIN | COMMIT | END | ROLLBACK => true
  | _ => false

/-- The keywords that may follow in transaction control. -/
def Keyword.describesTransaction : Keyword → Bool
  | TRANSACTION | DEFERRED | IMMEDIATE | EXCLUSIVE => true
  | _ => false

/-- True of a keyword with a property. -/
def TokenKind.isKeywordWith (p : Keyword → Bool) : TokenKind → Bool
  | .keyword word => p word
  | _ => false

/-- Statements that begin or end a transaction and do nothing else. -/
def isTransactionControl (sql : String) : Bool :=
  match tokenKinds sql with
  | [] => false
  | first :: rest =>
    first.isKeywordWith Keyword.beginsControl &&
      rest.all (·.isKeywordWith Keyword.describesTransaction)

end SqlStream.Sql
