/-!
# Timestamps

A local date and time of day with its offset from UTC, in the proleptic Gregorian calendar. The
types hold only what exists: a 30 February is no `Date` and a second 60 is no `Clock`.
-/

namespace SqlStream.Time

/-- Every fourth year has a leap day, save the centuries that 400 does not divide. -/
def isLeapYear (year : Int) : Bool :=
  year % 4 = 0 && (year % 100 ≠ 0 || year % 400 = 0)

/-- The number of days of a month. -/
def daysInMonth (year : Int) (month : Nat) : Nat :=
  if month = 2 then (if isLeapYear year then 29 else 28)
  else if month = 4 ∨ month = 6 ∨ month = 9 ∨ month = 11 then 30
  else 31

/-- A day of the calendar in a year of at most four digits. -/
structure Date where
  year : Int
  month : Nat
  day : Nat
  year_mem : -9999 ≤ year ∧ year ≤ 9999
  month_mem : 1 ≤ month ∧ month ≤ 12
  day_mem : 1 ≤ day ∧ day ≤ daysInMonth year month
  deriving DecidableEq

/-- The date with these parts, if there is one. -/
def Date.ofParts? (year : Int) (month day : Nat) : Option Date :=
  if hy : -9999 ≤ year ∧ year ≤ 9999 then
    if hm : 1 ≤ month ∧ month ≤ 12 then
      if hd : 1 ≤ day ∧ day ≤ daysInMonth year month then
        some ⟨year, month, day, hy, hm, hd⟩
      else none
    else none
  else none

/-- A time of day to the nanosecond. -/
structure Clock where
  hour : Nat
  minute : Nat
  second : Nat
  nanosecond : Nat
  hour_lt : hour < 24
  minute_lt : minute < 60
  second_lt : second < 60
  nanosecond_lt : nanosecond < 1000000000
  deriving DecidableEq

/-- The time of day with these parts, if there is one. -/
def Clock.ofParts? (hour minute second nanosecond : Nat) : Option Clock :=
  if h : hour < 24 ∧ minute < 60 ∧ second < 60 ∧ nanosecond < 1000000000 then
    some ⟨hour, minute, second, nanosecond, h.1, h.2.1, h.2.2.1, h.2.2.2⟩
  else none

/-- An offset from UTC. Its three parts have one sign, and its hours go up to 25. -/
structure Offset where
  hours : Int
  minutes : Int
  seconds : Int
  hours_mem : -25 ≤ hours ∧ hours ≤ 25
  minutes_mem : -59 ≤ minutes ∧ minutes ≤ 59
  seconds_mem : -59 ≤ seconds ∧ seconds ≤ 59
  one_sign : (0 ≤ hours ∧ 0 ≤ minutes ∧ 0 ≤ seconds) ∨
    (hours ≤ 0 ∧ minutes ≤ 0 ∧ seconds ≤ 0)
  deriving DecidableEq

/-- The offset with these parts, if there is one. -/
def Offset.ofParts? (hours minutes seconds : Int) : Option Offset :=
  if hh : -25 ≤ hours ∧ hours ≤ 25 then
    if hm : -59 ≤ minutes ∧ minutes ≤ 59 then
      if hs : -59 ≤ seconds ∧ seconds ≤ 59 then
        if h1 : (0 ≤ hours ∧ 0 ≤ minutes ∧ 0 ≤ seconds) ∨
            (hours ≤ 0 ∧ minutes ≤ 0 ∧ seconds ≤ 0) then
          some ⟨hours, minutes, seconds, hh, hm, hs, h1⟩
        else none
      else none
    else none
  else none

/-- No offset. -/
def Offset.utc : Offset :=
  ⟨0, 0, 0, by omega, by omega, by omega, by omega⟩

/-- True if the local time is behind UTC. -/
def Offset.isNegative (offset : Offset) : Bool :=
  offset.hours < 0 || offset.minutes < 0 || offset.seconds < 0

/-- A local date and time of day with its offset from UTC. -/
structure Timestamp where
  date : Date
  clock : Clock
  offset : Offset
  deriving DecidableEq

end SqlStream.Time
