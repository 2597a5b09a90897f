import Mathlib.Algebra.Group.Int.Defs
import Mathlib.Algebra.GroupWithZero.Nat
import SqlStream.Proofs.Time.ReadBack

/-!
# Instants

The point in time that a timestamp denotes, counted in nanoseconds. Timestamps with different
offsets may denote the same one. Years are counted in closed form, which agrees with the lengths of
the months (`daysBeforeYear_succ`).
-/

namespace SqlStream.Time

/-- The days from the first day of the year 1 to the first day of a year. -/
def daysBeforeYear (year : Int) : Int :=
  365 * (year - 1) + (year - 1) / 4 - (year - 1) / 100 + (year - 1) / 400

/-- The days of the first months of a year. -/
def daysOfMonths (year : Int) (months : Nat) : Nat :=
  ((List.range months).map fun i => daysInMonth year (i + 1)).sum

/-- A year has the days of its twelve months. -/
theorem daysBeforeYear_succ (year : Int) :
    daysBeforeYear (year + 1) = daysBeforeYear year + daysOfMonths year 12 := by
  have hyear : daysOfMonths year 12 = if isLeapYear year then 366 else 365 := by
    cases h : isLeapYear year <;> simp [daysOfMonths, List.range_succ, daysInMonth, h]
  rw [hyear, daysBeforeYear, daysBeforeYear]
  simp only [isLeapYear, Bool.and_eq_true, Bool.or_eq_true, decide_eq_true_eq]
  split <;> omega

/-- The number of a day, the first of the year 1 being the first. -/
def Date.dayNumber (date : Date) : Int :=
  daysBeforeYear date.year + daysOfMonths date.year (date.month - 1) + date.day

/-- The nanoseconds since midnight. -/
def Clock.nanoseconds (clock : Clock) : Nat :=
  ((clock.hour * 60 + clock.minute) * 60 + clock.second) * 10 ^ 9 + clock.nanosecond

/-- The seconds by which local time is ahead of UTC. -/
def Offset.inSeconds (offset : Offset) : Int :=
  (offset.hours * 60 + offset.minutes) * 60 + offset.seconds

/-- The instant of a timestamp, as the nanoseconds of UTC. -/
def Timestamp.instant (t : Timestamp) : Int :=
  (t.date.dayNumber * 86400 - t.offset.inSeconds) * 10 ^ 9 + t.clock.nanoseconds

/-- Without the seconds of its offset a timestamp is later by these. -/
theorem Timestamp.instant_toWholeMinutes (t : Timestamp) :
    t.toWholeMinutes.instant = t.instant + t.offset.seconds * 10 ^ 9 := by
  have hdate : t.toWholeMinutes.date = t.date := rfl
  have hclock : t.toWholeMinutes.clock = t.clock := rfl
  have hoffset : t.toWholeMinutes.offset.inSeconds = t.offset.inSeconds - t.offset.seconds := by
    simp only [toWholeMinutes, Offset.wholeMinutes, Offset.inSeconds]
    omega
  rw [instant, instant, hdate, hclock, hoffset]
  omega

/-! ## One instant in two offsets -/

example : Timestamp.instant ⟨⟨2024, 3, 1, by decide, by decide, by decide⟩,
    ⟨0, 30, 0, 0, by decide, by decide, by decide, by decide⟩,
    ⟨1, 0, 0, by decide, by decide, by decide, by decide⟩⟩ =
  Timestamp.instant ⟨⟨2024, 2, 29, by decide, by decide, by decide⟩,
    ⟨23, 30, 0, 0, by decide, by decide, by decide, by decide⟩, .utc⟩ := by decide

end SqlStream.Time
