import SqlStream.Arguments
import SqlStream.Sql.Control
import SqlStream.Sql.Statement

/-!
# Binding arguments to the statements of a script

One list of arguments serves a whole script. Positional values are handed out from left to right,
each statement taking as many as it has distinct indices; only a statement that explains may go
short. A value with a name goes to every statement that has a placeholder of that name.
-/

namespace SqlStream

open SqlStream.Sql

/-- A statement of a script and the arguments that it gets. -/
structure BoundStatement where
  sql : String
  arguments : Arguments
  deriving DecidableEq

/-- A statement of a script and its placeholders. -/
abbrev ShapedStatement := String × Placeholders

/-- The values that a statement takes from those that are left, and the rest. -/
def takeValues (statement : ShapedStatement) (left : List Value) :
    Except Error (List Value × List Value) :=
  let needed := statement.2.positionalCount
  let available := left.length
  if needed ≤ available then .ok (left.splitAt needed)
  else if isExplain statement.1 then .ok (left, [])
  else .error (.missingParameters needed available)

/-- Hands out positional values from left to right. -/
def bindPositional (statements : List ShapedStatement) (values : List Value) :
    Except Error (List BoundStatement) := do
  let bound ← statements.foldlM (fun (state : List Value × List BoundStatement) statement => do
    let taken ← takeValues statement state.1
    return (taken.2, ⟨statement.1, .positional taken.1⟩ :: state.2)) (values, [])
  return bound.2.reverse

/-- The pairs of a list by their bare names, which must be distinct. -/
def normalizePairs (pairs : List (String × Value)) :
    Except ParameterFault (List (String × Value)) := do
  let reversed ← pairs.foldlM (fun (seen : List (String × Value)) pair => do
    let name ← bareName pair.1
    if seen.any fun earlier => earlier.1 == name then throw (.duplicateName name)
    return (name, pair.2) :: seen) []
  return reversed.reverse

/-- Hands every statement the pairs whose names it has. -/
def bindNamed (statements : List ShapedStatement) (pairs : List (String × Value)) :
    Except Error (List BoundStatement) := do
  let pairs ← (normalizePairs pairs).mapError .malformedParameter
  return statements.map fun statement =>
    ⟨statement.1, .named (pairs.filter fun pair => statement.2.references pair.1)⟩

/-- A statement with its placeholders. -/
def shapeStatement (sql : String) : Except Error ShapedStatement :=
  ((Placeholders.read sql).map fun placeholders => (sql, placeholders)).mapError
    .malformedParameter

/-- The statements of a script with the arguments that each gets. -/
def bindScript (sql : String) (arguments : Arguments) : Except Error (List BoundStatement) := do
  let statements ← (splitStatements sql).1.mapM shapeStatement
  match arguments with
  | .positional values => bindPositional statements values
  | .named pairs => bindNamed statements pairs

end SqlStream
