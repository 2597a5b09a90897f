import SqlStream.Text.Digits
import SqlStream.Time.Timestamp

/-!
# Timestamps as text

A timestamp is written in one layout, `YYYY-MM-DD HH:MM:SS[.fraction]±HH:MM`, and read in eleven: a
date alone, or a date and a time joined by a blank or a `T`, the time with or without seconds, the
seconds with or without a fraction, and those with seconds with or without an offset. A text
without an offset is in UTC, and a date alone is its midnight.
-/

namespace SqlStream.Time

open SqlStream.Text

/-! ## Writing -/

/-- The digits of a fraction of a second, without the zeros at its end. -/
def fractionDigits (nanosecond : Nat) : List Char :=
  ((fixedDigits 9 nanosecond).reverse.dropWhile fun c => c == '0').reverse

/-- Year, month and day; a year before zero has a minus sign. -/
def Date.text (date : Date) : List Char :=
  (if date.year < 0 then ['-'] else []) ++ fixedDigits 4 date.year.natAbs ++
    '-' :: fixedDigits 2 date.month ++ '-' :: fixedDigits 2 date.day

/-- Hour, minute and second, and the fraction if there is one. -/
def Clock.text (clock : Clock) : List Char :=
  fixedDigits 2 clock.hour ++ ':' :: fixedDigits 2 clock.minute ++
    ':' :: fixedDigits 2 clock.second ++
    (if clock.nanosecond = 0 then [] else '.' :: fractionDigits clock.nanosecond)

/-- Sign, hours and minutes; the seconds of an offset are not written. -/
def Offset.text (offset : Offset) : List Char :=
  (if offset.isNegative then '-' else '+') :: fixedDigits 2 offset.hours.natAbs ++
    ':' :: fixedDigits 2 offset.minutes.natAbs

/-- The text of a timestamp. -/
def Timestamp.format (timestamp : Timestamp) : String :=
  String.ofList
    (timestamp.date.text ++ ' ' :: timestamp.clock.text ++ timestamp.offset.text)

/-! ## Reading -/

/-- A part of a timestamp that a layout can hold. -/
inductive Field where
  | year | month | day | hour | minute | second
  /-- One digit or more, of which those behind the ninth do not count. -/
  | fraction
  /-- Sign, hours and minutes. -/
  | offset
  deriving DecidableEq, Repr

/-- A character that must stand in its place, or a part to read. -/
inductive LayoutItem where
  | literal (c : Char)
  | field (field : Field)
  deriving DecidableEq, Repr

/-- The items of a text from left to right. -/
abbrev Layout := List LayoutItem

/-- What has been read; parts that a layout does not hold are zero. -/
structure Parts where
  year : Int := 0
  month : Nat := 0
  day : Nat := 0
  hour : Nat := 0
  minute : Nat := 0
  second : Nat := 0
  nanosecond : Nat := 0
  offsetHours : Int := 0
  offsetMinutes : Int := 0
  deriving DecidableEq, Repr

/-- The timestamp with these parts, if there is one. -/
def Parts.timestamp? (parts : Parts) : Option Timestamp := do
  let date ← Date.ofParts? parts.year parts.month parts.day
  let clock ← Clock.ofParts? parts.hour parts.minute parts.second parts.nanosecond
  let offset ← Offset.ofParts? parts.offsetHours parts.offsetMinutes 0
  return ⟨date, clock, offset⟩

/-- Reads an optional sign; true for a minus. -/
def readOptionalSign : List Char → Bool × List Char
  | '-' :: rest => (true, rest)
  | '+' :: rest => (false, rest)
  | rest => (false, rest)

/-- Reads a sign; true for a minus. -/
def readSign? : List Char → Option (Bool × List Char)
  | '-' :: rest => some (true, rest)
  | '+' :: rest => some (false, rest)
  | _ => none

/-- A number with the sign that was read before it. -/
def withSign (negative : Bool) (n : Nat) : Int :=
  if negative then -(n : Int) else n

/-- The nanoseconds of a fraction with these digits. -/
def fractionValue (digits : List Char) : Nat :=
  digitsValue ((digits ++ List.replicate 9 '0').take 9)

/-- Reads a part of two digits. -/
def readPair (set : Nat → Parts) (s : List Char) : Option (Parts × List Char) :=
  (readFixed 2 s).map fun (n, rest) => (set n, rest)

/-- Reads one part from the front of a text. -/
def Field.read (parts : Parts) (s : List Char) : Field → Option (Parts × List Char)
  | year => do
    let (negative, s) := readOptionalSign s
    let (n, s) ← readFixed 4 s
    return ({ parts with year := withSign negative n }, s)
  | month => readPair (fun n => { parts with month := n }) s
  | day => readPair (fun n => { parts with day := n }) s
  | hour => readPair (fun n => { parts with hour := n }) s
  | minute => readPair (fun n => { parts with minute := n }) s
  | second => readPair (fun n => { parts with second := n }) s
  | fraction =>
    let digits := s.takeWhile Char.isDigit
    if digits.isEmpty then none
    else some ({ parts with nanosecond := fractionValue digits }, s.dropWhile Char.isDigit)
  | offset => do
    let (negative, s) ← readSign? s
    let (hours, s) ← readFixed 2 s
    match s with
    | ':' :: s =>
      let (minutes, s) ← readFixed 2 s
      return ({ parts with
        offsetHours := withSign negative hours
        offsetMinutes := withSign negative minutes }, s)
    | _ => none

/-- Reads one item from the front of a text. -/
def LayoutItem.read (parts : Parts) (s : List Char) : LayoutItem → Option (Parts × List Char)
  | literal c =>
    match s with
    | d :: rest => if c = d then some (parts, rest) else none
    | [] => none
  | .field f => f.read parts s

/-- Reads a whole text in a layout. -/
def Layout.read (parts : Parts) (s : List Char) : Layout → Option Parts
  | [] => if s.isEmpty then some parts else none
  | item :: items => do
    let (parts, s) ← item.read parts s
    Layout.read parts s items

namespace Layout

open LayoutItem

/-- Year, month and day. -/
def date : Layout :=
  [.field .year, literal '-', .field .month, literal '-', .field .day]

/-- A date and a time to the minute, joined by `joint`. -/
def minutes (joint : Char) : Layout :=
  date ++ [literal joint, .field .hour, literal ':', .field .minute]

/-- A date and a time to the second. -/
def seconds (joint : Char) : Layout :=
  minutes joint ++ [literal ':', .field .second]

/-- A date and a time with a fraction of a second. -/
def fractions (joint : Char) : Layout :=
  seconds joint ++ [literal '.', .field .fraction]

/-- The layouts in which timestamps are read. -/
def all : List Layout :=
  [fractions ' ' ++ [.field .offset], fractions 'T' ++ [.field .offset],
    seconds ' ' ++ [.field .offset], seconds 'T' ++ [.field .offset],
    fractions ' ', fractions 'T', seconds ' ', seconds 'T', minutes ' ', minutes 'T', date]

/-- The timestamp that a text gives in a layout. -/
def timestamp? (layout : Layout) (text : String) : Option Timestamp := do
  let parts ← layout.read {} text.toList
  parts.timestamp?

end Layout

/-- The timestamp that a text gives in the first layout that fits it. -/
def Timestamp.parse? (text : String) : Option Timestamp :=
  Layout.all.findSome? fun layout => layout.timestamp? text

/-! ## One layout for all -/

example : (Timestamp.parse? "2024-02-29T10:20:30.50-07:00").map Timestamp.format =
    some "2024-02-29 10:20:30.5-07:00" := by decide +kernel

example : (Timestamp.parse? "2024-02-29").map Timestamp.format =
    some "2024-02-29 00:00:00+00:00" := by decide +kernel

example : Timestamp.parse? "2024-02-30" = none := by decide +kernel

end SqlStream.Time
