import SqlStream.Proofs.Time.Instant
import SqlStream.Proofs.Value.RoundTrip

/-!
# Timestamps that are sent and come back

A timestamp comes back from a column that holds timestamps with its local date and time, whatever
they are, and with the hours and minutes of its offset. The seconds of an offset have no place in
the text, so that a timestamp that has some comes back as an instant that is later or earlier by
these (`timestamps_return`).
-/

namespace SqlStream.Value

/-- What is read from the text of a timestamp. -/
theorem decode_format {declaredType : Option String} (h : HoldsTimestamps declaredType)
    (t : Time.Timestamp) :
    decode (.text t.format) declaredType = .ok (timestamp t.toWholeMinutes) := by
  have hany := (any_isTimestampType_iff declaredType).mpr h
  rw [decode, ofText, if_pos hany, Time.Timestamp.parse?_format]

/-- Every timestamp can be sent, and in a column that holds timestamps it keeps its local date and
time and its offset up to the seconds of that. So it is the same instant exactly if its offset has
none, and otherwise one later by these seconds. -/
theorem timestamps_return {declaredType : Option String} (h : HoldsTimestamps declaredType)
    (t : Time.Timestamp) :
    ∃ back, Returns declaredType (timestamp t) (timestamp back) ∧
      back.date = t.date ∧ back.clock = t.clock ∧
      back.offset.hours = t.offset.hours ∧ back.offset.minutes = t.offset.minutes ∧
      back.offset.seconds = 0 ∧
      back.instant = t.instant + t.offset.seconds * 10 ^ 9 ∧
      (back.instant = t.instant ↔ t.offset.seconds = 0) := by
  have hinstant := t.instant_toWholeMinutes
  refine ⟨t.toWholeMinutes, ⟨_, rfl, decode_format h t⟩, rfl, rfl, rfl, rfl, rfl, hinstant, ?_⟩
  rw [hinstant]
  omega

/-- An offset of half an hour and half a minute behind UTC comes back as half an hour. -/
theorem timestamps_return_of_half_minute :
    HoldsTimestamps (some "TIMESTAMP") ∧
    ∃ back, Returns (some "TIMESTAMP")
        (timestamp ⟨⟨-44, 3, 15, by decide, by decide, by decide⟩,
          ⟨23, 59, 59, 500000000, by decide, by decide, by decide, by decide⟩,
          ⟨0, -30, -30, by decide, by decide, by decide, by decide⟩⟩)
        (timestamp back) ∧
      back.date.year = -44 ∧ back.offset.minutes = -30 ∧ back.offset.seconds = 0 := by
  have hholds : HoldsTimestamps (some "TIMESTAMP") := by decide
  obtain ⟨back, hback, hdate, -, -, hminutes, hseconds, -⟩ := timestamps_return hholds
    ⟨⟨-44, 3, 15, by decide, by decide, by decide⟩,
      ⟨23, 59, 59, 500000000, by decide, by decide, by decide, by decide⟩,
      ⟨0, -30, -30, by decide, by decide, by decide, by decide⟩⟩
  exact ⟨hholds, back, hback, congrArg Time.Date.year hdate, hminutes, hseconds⟩

/-- Not every timestamp comes back as the same instant: midnight and half a minute, with an offset
of half a minute, is midnight UTC, and comes back as half a minute past it. -/
theorem instant_not_kept : ¬ ∀ (t : Time.Timestamp) (wire : Wire.Value),
    encode (timestamp t) = .ok wire →
      ∃ back, decode wire (some "TIMESTAMP") = .ok (timestamp back) ∧ back.instant = t.instant := by
  intro hkept
  obtain ⟨back, hback, hinstant⟩ := hkept
    ⟨⟨2024, 1, 1, by decide, by decide, by decide⟩,
      ⟨0, 0, 30, 0, by decide, by decide, by decide, by decide⟩,
      ⟨0, 0, 30, by decide, by decide, by decide, by decide⟩⟩ _ rfl
  rw [decode_format (by decide)] at hback
  cases hback
  exact absurd hinstant (by decide)

end SqlStream.Value
