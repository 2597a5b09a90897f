import SqlStream.Error
import SqlStream.Wire.Request

/-!
# Arguments of statements

The values for the placeholders of a script, by position or by name. A name may be given with the
sign of its placeholder (`:`, `@` or `$`) or without.
-/

namespace SqlStream

/-- Values for placeholders. -/
inductive Arguments where
  | positional (values : List Value)
  | named (pairs : List (String × Value))
  deriving DecidableEq

/-- Takes one sign off the front of a name; nothing may be left of no name. -/
def bareName (name : String) : Except Sql.ParameterFault String :=
  match name.toList with
  | ':' :: [] | '@' :: [] | '$' :: [] | [] => .error .emptyName
  | ':' :: rest | '@' :: rest | '$' :: rest => .ok (String.ofList rest)
  | _ => .ok name

namespace Arguments

/-- No arguments. -/
def none : Arguments := positional []

/-- True if there is no value. -/
def isEmpty : Arguments → Bool
  | positional values => values.isEmpty
  | named pairs => pairs.isEmpty

/-- Arguments from a list in which some may have a name; all or none must have one. -/
def ofList (arguments : List (Option String × Value)) : Except Sql.ParameterFault Arguments :=
  let values := arguments.filterMap fun argument =>
    if argument.1.isNone then some argument.2 else .none
  let pairs := arguments.filterMap fun argument => argument.1.map fun name => (name, argument.2)
  if pairs.isEmpty then .ok (positional values)
  else if values.isEmpty then .ok (named pairs)
  else .error .mixedArguments

end Arguments

/-- A statement by its text or by the id of text that the server keeps. -/
inductive SqlSource where
  | text (sql : String)
  | stored (sqlId : Int32)
  deriving DecidableEq

/-- The wire form of a value. -/
def encodeValue (value : Value) : Except Error Wire.Value :=
  value.encode.mapError .unsupportedValue

/-- The wire form of an argument with a name. -/
def encodeNamed (pair : String × Value) : Except Error Wire.NamedArgument := do
  let name ← (bareName pair.1).mapError .malformedParameter
  let value ← encodeValue pair.2
  return ⟨name, value⟩

/-- The statement to send for a source and its arguments. -/
def buildStatement (source : SqlSource) (arguments : Arguments) (wantRows : Bool) :
    Except Error Wire.Statement := do
  let unbound : Wire.Statement :=
    match source with
    | .text sql => { sql := some sql, wantRows }
    | .stored sqlId => { sqlId := some sqlId, wantRows }
  match arguments with
  | .positional values =>
    let values ← values.mapM encodeValue
    return { unbound with arguments := values }
  | .named pairs =>
    let pairs ← pairs.mapM encodeNamed
    return { unbound with namedArguments := pairs }

end SqlStream
