import SqlStream.Sql.Lexeme
import SqlStream.Text.Numeral

/-!
# Placeholders of a statement

A placeholder stands for a value that is bound when the statement runs. `?NNN` is the placeholder
with that index and a bare `?` has one more than the largest index before it; `:name`, `@name` and
`$name` are known by their name without its sign.
-/

namespace SqlStream.Sql

open SqlStream.Text

/-- Why the placeholders of a statement, or the arguments for them, are refused. -/
inductive ParameterFault where
  /-- A bare `?` would need an index past the largest one. -/
  | tooManyPositional
  /-- A placeholder with an index of zero, an index too large, or the sign `#`. -/
  | badPlaceholder (text : String)
  /-- An argument list with both named and positional arguments. -/
  | mixedArguments
  /-- An argument whose name is empty without its sign. -/
  | emptyName
  /-- Two arguments whose names are equal without their signs. -/
  | duplicateName (name : String)
  deriving DecidableEq, Repr

/-- The wording of a fault. -/
def ParameterFault.message : ParameterFault → String
  | tooManyPositional => "too many positional parameters"
  | badPlaceholder text => text
  | mixedArguments => "positional and named arguments cannot be mixed"
  | emptyName => "named parameter name cannot be empty"
  | duplicateName name => "duplicate named parameter '" ++ name ++ "'"

/-- The largest index a placeholder can have. -/
def maxParameterIndex : Nat := UInt32.size - 1

/-- One placeholder as it is written. -/
inductive Placeholder where
  | anonymous
  | indexed (index : Nat)
  | named (name : String)
  deriving DecidableEq, Repr

/-- Reads the text of a parameter token. -/
def Placeholder.read (text : List Char) : Except ParameterFault Placeholder :=
  match text with
  | ['?'] => .ok .anonymous
  | '?' :: digits =>
    match readUnsigned maxParameterIndex digits with
    | .ok index =>
      if 0 < index then .ok (.indexed index) else .error (.badPlaceholder (String.ofList text))
    | .error _ => .error (.badPlaceholder (String.ofList text))
  | ':' :: name | '@' :: name | '$' :: name => .ok (.named (String.ofList name))
  | _ => .error (.badPlaceholder (String.ofList text))

/-- The placeholders of one statement. -/
structure Placeholders where
  /-- The distinct indices in ascending order. -/
  indices : List Nat
  /-- The distinct names in order of first use. -/
  names : List String
  deriving DecidableEq, Repr

namespace Placeholders

/-- The number of distinct indices. -/
def positionalCount (placeholders : Placeholders) : Nat :=
  placeholders.indices.length

/-- True if a placeholder has a name. -/
def hasNamed (placeholders : Placeholders) : Bool :=
  !placeholders.names.isEmpty

/-- True if a placeholder has this name. -/
def references (placeholders : Placeholders) (name : String) : Bool :=
  placeholders.names.contains name

/-- The indices and names met so far, last first, and the largest index. -/
structure Census where
  highest : Nat
  indices : List Nat
  names : List String
  deriving DecidableEq

/-- Counts one more placeholder. -/
def Census.add (census : Census) : Placeholder → Except ParameterFault Census
  | .anonymous =>
    let index := census.highest + 1
    if index ≤ maxParameterIndex then
      .ok { census with highest := index, indices := index :: census.indices }
    else .error .tooManyPositional
  | .indexed index =>
    .ok { census with highest := max census.highest index, indices := index :: census.indices }
  | .named name =>
    .ok (if census.names.contains name then census
      else { census with names := name :: census.names })

/-- The texts of the parameter tokens among lexemes. -/
def parameterTexts (xs : List Lexeme) : List (List Char) :=
  xs.filterMap fun x => if x.tokenKind? = some .parameter then some x.text else none

/-- The placeholders with all that a census counted. -/
def ofCensus (census : Census) : Placeholders where
  indices := (census.indices.mergeSort (· ≤ ·)).eraseReps
  names := census.names.reverse

/-- Reads the placeholders of a statement from left to right; the first fault is reported. -/
def read (sql : String) : Except ParameterFault Placeholders := do
  let census ← (parameterTexts (lexemes sql.toList)).foldlM
    (fun census text => do census.add (← Placeholder.read text)) ⟨0, [], []⟩
  return ofCensus census

end Placeholders

end SqlStream.Sql
