import SqlStream.Text.Digits
import SqlStream.Text.Unprintable

/-!
# Outlines of data

One-line texts of structured data for error messages: records with the names of their fields, lists
in brackets, strings in quotes with everything escaped that would not show.
-/

namespace SqlStream.Text.Outline

/-- A character as it stands in a quoted string. -/
def quotedChar (c : Char) : List Char :=
  if c = '\x00' then ['\\', '0']
  else if c = '\t' then ['\\', 't']
  else if c = '\n' then ['\\', 'n']
  else if c = '\r' then ['\\', 'r']
  else if c = '"' then ['\\', '"']
  else if c = '\\' then ['\\', '\\']
  else if isUnprintable c then ['\\', 'u', '\x7b'] ++ Nat.toDigits 16 c.toNat ++ ['\x7d']
  else [c]

/-- A string in quotes. -/
def quoted (s : String) : String :=
  String.ofList ('"' :: s.toList.flatMap quotedChar ++ ['"'])

/-- An integer. -/
def integer (n : Int) : String :=
  String.ofList ((if n < 0 then ['-'] else []) ++ decimalDigits n.natAbs)

/-- A truth value. -/
def bool (b : Bool) : String :=
  if b then "true" else "false"

/-- A list. -/
def list {α : Type _} (outline : α → String) (xs : List α) : String :=
  "[" ++ ", ".intercalate (xs.map outline) ++ "]"

/-- A value that may be missing. -/
def option {α : Type _} (outline : α → String) : Option α → String
  | some x => "Some(" ++ outline x ++ ")"
  | none => "None"

/-- A record with at least one field. -/
def record (name : String) (fields : List (String × String)) : String :=
  name ++ " \x7b " ++ ", ".intercalate (fields.map fun field => field.1 ++ ": " ++ field.2) ++ " \x7d"

/-! ## What is escaped -/

example : quoted "a\"\n\u0301" = "\"a\\\"\\n\\u\x7b301\x7d\"" := by decide +kernel

example : quoted "\u0cc0\u3164\uff9e" = "\"\\u\x7bcc0\x7d\\u\x7b3164\x7d\uff9e\"" := by decide +kernel

end SqlStream.Text.Outline
