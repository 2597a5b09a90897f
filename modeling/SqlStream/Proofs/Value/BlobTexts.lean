import SqlStream.Proofs.Text.Padding
import SqlStream.Value.Codec

/-!
# Texts of byte sequences

A byte sequence travels as base64 text. It is written in one way and read from that text with any
part of the padding that belongs behind it, in a column of any declared type; no other text is read.
-/

namespace SqlStream.Value

open SqlStream.Text

/-- A base64 text is read as a byte sequence or refused. -/
theorem decode_blob (text : String) (declaredType : Option String) :
    decode (.blob text) declaredType =
      match Base64.decode? text with
      | some bytes => .ok (blob bytes)
      | none => .error .base64 :=
  rfl

/-- A text is read as a blob exactly if it denotes bytes. -/
theorem decode_blob_eq_ok_iff {text : String} {declaredType : Option String} {value : Value} :
    decode (.blob text) declaredType = .ok value ↔
      ∃ bytes, value = blob bytes ∧ Base64.decode? text = some bytes := by
  rw [decode_blob]
  cases Base64.decode? text with
  | none => simp
  | some bytes => simp [eq_comm]

/-- A text is refused as a blob exactly if it denotes no bytes. -/
theorem decode_blob_eq_error_iff {text : String} {declaredType : Option String} :
    decode (.blob text) declaredType = .error .base64 ↔ Base64.decode? text = none := by
  rw [decode_blob]
  cases Base64.decode? text <;> simp

/-- A base64 text is read as a byte sequence exactly if it is the text that is written for it, with
some or all of the padding behind it that completes its last group, and a text for which there is no
such sequence is refused. Two texts that are read are read as the same bytes exactly if they are
equal up to padding. -/
theorem blob_texts_canonical (declaredType : Option String) :
    (∀ text value, decode (.blob text) declaredType = .ok value ↔
      ∃ bytes, value = blob bytes ∧ Base64.IsPadded (Base64.encode bytes) text) ∧
    (∀ text, decode (.blob text) declaredType = .error .base64 ↔
      ¬ ∃ bytes, Base64.IsPadded (Base64.encode bytes) text) ∧
    ∀ text other bytes others, decode (.blob text) declaredType = .ok (blob bytes) →
      decode (.blob other) declaredType = .ok (blob others) →
      (bytes = others ↔ Base64.unpadded text = Base64.unpadded other) := by
  have hread : ∀ text value, decode (.blob text) declaredType = .ok value ↔
      ∃ bytes, value = blob bytes ∧ Base64.IsPadded (Base64.encode bytes) text := by
    intro text value
    simp only [decode_blob_eq_ok_iff, Base64.decode?_eq_some_iff]
  refine ⟨hread, fun text => ?_, fun text other bytes others htext hother => ?_⟩
  · rw [decode_blob_eq_error_iff, Option.eq_none_iff_forall_ne_some, not_exists]
    simp only [ne_eq, Base64.decode?_eq_some_iff]
  · obtain ⟨_, ⟨⟩, hpadded⟩ := (hread text _).mp htext
    obtain ⟨_, ⟨⟩, hotherPadded⟩ := (hread other _).mp hother
    rw [Base64.unpadded_of_isPadded hpadded, Base64.unpadded_of_isPadded hotherPadded,
      String.toList_inj]
    exact Base64.encode_injective.eq_iff.symm

/-- Two bytes are read from their text with and without padding; with another last character or with
more padding there are none. -/
theorem blob_texts_canonical_of_two :
    decode (.blob "/wA") none = .ok (blob [255, 0]) ∧
    decode (.blob "/wA=") none = .ok (blob [255, 0]) ∧
    Base64.unpadded "/wA=" = Base64.unpadded "/wA" ∧
    ¬ ∃ bytes, Base64.IsPadded (Base64.encode bytes) "/wB" := by
  have hbare : decode (.blob "/wA") none = .ok (blob [255, 0]) := by decide +kernel
  have hpadded : decode (.blob "/wA=") none = .ok (blob [255, 0]) := by decide +kernel
  obtain ⟨-, hrefused, hsame⟩ := blob_texts_canonical none
  exact ⟨hbare, hpadded, (hsame _ _ _ _ hpadded hbare).mp rfl,
    (hrefused "/wB").mp (by decide +kernel)⟩

end SqlStream.Value
