import SqlStream.Proofs.Value.Timestamps

/-!
# The canonical text of a timestamp

A timestamp may be read from texts of many layouts, but it is written in one. Texts have no place
for the seconds of an offset, so what is read has none (`exists_parse?_eq_iff`) and comes back whole
from what is written for it: reading a text and writing it again settles it
(`canonical_text_stable`).
-/

namespace SqlStream

/-! ## What texts stand for -/

namespace Time

/-- An offset has the seconds it is made of. -/
theorem Offset.seconds_of_ofParts? {hours minutes seconds : Int} {offset : Offset}
    (h : ofParts? hours minutes seconds = some offset) : offset.seconds = seconds := by
  simp only [ofParts?, Option.dite_none_right_eq_some] at h
  obtain ⟨_, _, _, _, hoffset⟩ := h
  cases hoffset
  rfl

/-- No layout has the seconds of an offset among its parts. -/
theorem Parts.offset_seconds_of_timestamp? {parts : Parts} {t : Timestamp}
    (h : parts.timestamp? = some t) : t.offset.seconds = 0 := by
  simp only [timestamp?, Option.bind_eq_bind, Option.bind_eq_some_iff] at h
  obtain ⟨date, -, clock, -, offset, hoffset, ht⟩ := h
  cases ht
  exact Offset.seconds_of_ofParts? hoffset

namespace Timestamp

/-- A timestamp that is read has an offset of whole minutes. -/
theorem offset_seconds_of_parse? {text : String} {t : Timestamp} (h : parse? text = some t) :
    t.offset.seconds = 0 := by
  obtain ⟨layout, -, hlayout⟩ := List.exists_of_findSome?_eq_some h
  obtain ⟨parts, -, hparts⟩ := Option.bind_eq_some_iff.mp hlayout
  exact Parts.offset_seconds_of_timestamp? hparts

/-- A timestamp with an offset of whole minutes keeps it. -/
theorem toWholeMinutes_eq_self {t : Timestamp} (h : t.offset.seconds = 0) :
    t.toWholeMinutes = t := by
  obtain ⟨date, clock, ⟨hours, minutes, seconds, _, _, _, _⟩⟩ := t
  obtain rfl : seconds = 0 := h
  rfl

/-- The timestamps that texts stand for are those whose offset has no seconds. -/
theorem exists_parse?_eq_iff (t : Timestamp) :
    (∃ text, parse? text = some t) ↔ t.offset.seconds = 0 := by
  constructor
  · rintro ⟨text, h⟩
    exact offset_seconds_of_parse? h
  · intro h
    exact ⟨t.format, by rw [parse?_format, toWholeMinutes_eq_self h]⟩

end Timestamp

end Time

/-! ## Written and read again -/

namespace Value

/-- Whatever its layout, a text that is read as a timestamp can be written again. The text that is
written is read as the same timestamp, with its local date, time and offset, and written as itself
from then on. So a timestamp from a column that holds timestamps can be sent as it is, and it comes
back from such a column unchanged. -/
theorem canonical_text_stable {text : String} {t : Time.Timestamp}
    (h : Time.Timestamp.parse? text = some t) :
    Time.Timestamp.parse? t.format = some t ∧
    (∀ back, Time.Timestamp.parse? t.format = some back → back.format = t.format) ∧
    ∀ declaredType, HoldsTimestamps declaredType →
      decode (.text text) declaredType = .ok (timestamp t) ∧
      encode (timestamp t) = .ok (.text t.format) ∧
      decode (.text t.format) declaredType = .ok (timestamp t) := by
  have hwhole : t.toWholeMinutes = t :=
    Time.Timestamp.toWholeMinutes_eq_self (Time.Timestamp.offset_seconds_of_parse? h)
  have hback : Time.Timestamp.parse? t.format = some t := by
    rw [Time.Timestamp.parse?_format, hwhole]
  refine ⟨hback, fun back hagain => ?_, fun declaredType hholds => ⟨?_, rfl, ?_⟩⟩
  · rw [hback] at hagain
    cases hagain
    rfl
  · have hany := (any_isTimestampType_iff declaredType).mpr hholds
    rw [decode, ofText, if_pos hany, h]
  · rw [decode_format hholds, hwhole]

/-- A text with a `T` and a zero at the end of its fraction is written with neither. -/
theorem canonical_text_stable_of_joint :
    ∃ t, Time.Timestamp.parse? "-0044-03-15T23:59:59.50-00:30" = some t ∧
      t.format = "-0044-03-15 23:59:59.5-00:30" ∧
      Time.Timestamp.parse? "-0044-03-15 23:59:59.5-00:30" = some t := by
  have hwritten : (Time.Timestamp.parse? "-0044-03-15T23:59:59.50-00:30").map
      Time.Timestamp.format = some "-0044-03-15 23:59:59.5-00:30" := by decide +kernel
  obtain ⟨t, hread, hformat⟩ := Option.map_eq_some_iff.mp hwritten
  obtain ⟨hagain, -⟩ := canonical_text_stable hread
  exact ⟨t, hread, hformat, hformat ▸ hagain⟩

end Value

end SqlStream
