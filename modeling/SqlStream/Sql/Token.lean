import SqlStream.Text.Ascii

/-!
# Tokens of SQL text

The lexical classes that matter for finding statements and placeholders: literals, quoted names,
placeholders, separators and the few keywords that open transactions and trigger bodies. Every
other word is an opaque identifier and every other character an opaque operator.
-/

namespace SqlStream.Sql

open SqlStream.Text

/-- The keywords that decide where statements end and which of them control transactions. -/
inductive Keyword where
  | BEGIN | CASE | COMMIT | CREATE | DEFERRED | END | EXCLUSIVE | EXPLAIN
  | IMMEDIATE | ROLLBACK | TEMP | TEMPORARY | TRANSACTION | TRIGGER
  deriving DecidableEq, Repr

namespace Keyword

/-- The upper-case spelling of a keyword. -/
def spelling : Keyword → String
  | BEGIN => "BEGIN"
  | CASE => "CASE"
  | COMMIT => "COMMIT"
  | CREATE => "CREATE"
  | DEFERRED => "DEFERRED"
  | END => "END"
  | EXCLUSIVE => "EXCLUSIVE"
  | EXPLAIN => "EXPLAIN"
  | IMMEDIATE => "IMMEDIATE"
  | ROLLBACK => "ROLLBACK"
  | TEMP => "TEMP"
  | TEMPORARY => "TEMPORARY"
  | TRANSACTION => "TRANSACTION"
  | TRIGGER => "TRIGGER"

/-- Every keyword once. -/
def all : List Keyword :=
  [BEGIN, CASE, COMMIT, CREATE, DEFERRED, END, EXCLUSIVE, EXPLAIN,
    IMMEDIATE, ROLLBACK, TEMP, TEMPORARY, TRANSACTION, TRIGGER]

/-- The keyword that a word spells in any mixture of cases. -/
def ofWord? (word : List Char) : Option Keyword :=
  all.find? fun k => sameIgnoringCase k.spelling.toList word

end Keyword

/-- Lexical class of a token. -/
inductive TokenKind where
  | semicolon
  | keyword (word : Keyword)
  /-- A bare or quoted name, or any word that is no keyword. -/
  | identifier
  | stringLiteral
  | numericLiteral
  | blobLiteral
  /-- One of `?`, `?NNN`, `:name`, `@name`, `$name` and `#name`. -/
  | parameter
  | operator
  /-- A block comment that is still open at the end of the text. -/
  | unterminatedComment
  deriving DecidableEq, Repr

/-- The class of a word: a keyword if it spells one, else an identifier. -/
def TokenKind.ofWord (text : List Char) : TokenKind :=
  match Keyword.ofWord? text with
  | some word => .keyword word
  | none => .identifier

/-- A token and where its text starts, in bytes of UTF-8. -/
structure Token where
  kind : TokenKind
  start : Nat
  text : String
  deriving DecidableEq, Repr

/-- The byte offset just behind a token. -/
def Token.stop (token : Token) : Nat :=
  token.start + token.text.utf8ByteSize

end SqlStream.Sql
