import SqlStream.Proofs.Text.Base64
import SqlStream.Proofs.Text.Digits
import SqlStream.Value.Codec

/-!
# Values that are sent and come back

What a value is after it has been sent and read in a column of some declared type. Integers come
back from their decimal text (`readInt64_integerText`) and bytes from their base64 text, floats and
texts travel as they are. A text is a timestamp afterwards if it is one and the column holds
timestamps; nothing else depends on the column. Only infinities and NaNs cannot be sent.
-/

namespace SqlStream

open SqlStream.Text

/-! ## Infinities -/

namespace Binary64

/-- The infinity of a sign. -/
def infinity (negative : Bool) : Binary64 :=
  ofMagnitude negative infinityBits

theorem bits_infinity (negative : Bool) : (infinity negative).bits.toNat =
    (if negative then signWeight else 0) + infinityBits := by
  cases negative <;> rfl

/-- The doubles that are not finite are the NaNs and the two infinities. -/
theorem isFinite_eq_false_iff (x : Binary64) :
    x.isFinite = false ↔ x.isNaN = true ∨ ∃ negative, x = infinity negative := by
  have hfield : x.isFinite = false ↔ x.exponentField = exponentSize - 1 := by simp [isFinite]
  rw [hfield]
  constructor
  · intro h
    by_cases hfraction : x.fraction = 0
    · -- an infinity, of the sign that is set
      refine .inr ⟨x.isNegative, ?_⟩
      have hbits : x.bits.toNat = (infinity x.isNegative).bits.toNat := by
        have hsize := x.bits.toNat_lt
        have hexponent : x.bits.toNat / 2 ^ 52 % 2 ^ 11 = 2 ^ 11 - 1 := h
        have hrest : x.bits.toNat % 2 ^ 52 = 0 := hfraction
        have hinfinity : infinityBits = (2 ^ 11 - 1) * 2 ^ 52 := rfl
        have hweight : signWeight = 2 ^ 63 := rfl
        rw [bits_infinity, hinfinity, hweight]
        cases hsign : x.isNegative
        · have hlt : ¬2 ^ 63 ≤ x.bits.toNat := of_decide_eq_false hsign
          rw [if_neg Bool.false_ne_true]
          omega
        · have hle : 2 ^ 63 ≤ x.bits.toNat := of_decide_eq_true hsign
          rw [if_pos rfl]
          omega
      exact congrArg Binary64.mk (UInt64.toNat_inj.mp hbits)
    · exact .inl (by simp [isNaN, h, hfraction])
  · rintro (h | ⟨negative, rfl⟩)
    · simp only [isNaN, Bool.and_eq_true, decide_eq_true_eq] at h
      exact h.1
    · cases negative <;> rfl

end Binary64

/-! ## Integers -/

namespace Value

/-- Every integer is read back from its decimal text. -/
theorem readInt64_integerText (n : Int64) : readInt64 (integerText n) = .ok n := by
  have hlower := n.le_toInt
  have hupper := n.toInt_lt
  have hlimit : maxInt64 = 2 ^ 63 - 1 := rfl
  suffices hread : readSigned maxInt64 (integerText n).toList = .ok n.toInt by
    rw [readInt64, hread]
    exact congrArg Except.ok (Int64.ofInt_toInt n)
  rw [integerText, String.toList_ofList]
  by_cases hneg : n.toInt < 0
  · rw [if_pos hneg, List.singleton_append, readSigned_minus_decimalDigits (by omega)]
    exact congrArg Except.ok (by omega)
  · rw [if_neg hneg, List.nil_append, readSigned_decimalDigits (by omega)]
    exact congrArg Except.ok (by omega)

/-! ## Sent and read -/

/-- A value can be sent, and it is the value `back` when it is read in a column of a declared
type. -/
def Returns (declaredType : Option String) (sent back : Value) : Prop :=
  ∃ wire, encode sent = .ok wire ∧ decode wire declaredType = .ok back

/-- A column is declared to hold timestamps. -/
def HoldsTimestamps (declaredType : Option String) : Prop :=
  ∃ name, declaredType = some name ∧ (name.toLower = "timestamp" ∨ name.toLower = "datetime")

/-- A word in small letters is equal to a text up to case if the text in small letters is it. -/
theorem sameIgnoringCase_iff (word : String) (h : word.toList.map Char.toLower = word.toList)
    (s : String) : sameIgnoringCase word.toList s.toList = true ↔ s.toLower = word := by
  have hlower : s.toLower = s.map Char.toLower := rfl
  rw [sameIgnoringCase, beq_iff_eq, h, ← String.toList_inj, hlower, String.toList_map, eq_comm]

theorem any_isTimestampType_iff (declaredType : Option String) :
    declaredType.any isTimestampType = true ↔ HoldsTimestamps declaredType := by
  cases declaredType with
  | none => simp [HoldsTimestamps]
  | some name =>
    have htimestamp := sameIgnoringCase_iff "timestamp" (by decide) name
    have hdatetime := sameIgnoringCase_iff "datetime" (by decide) name
    rw [Option.any_some, isTimestampType, Bool.or_eq_true, htimestamp, hdatetime]
    simp only [HoldsTimestamps, Option.some.injEq, exists_eq_left']

instance (declaredType : Option String) : Decidable (HoldsTimestamps declaredType) :=
  decidable_of_iff _ (any_isTimestampType_iff declaredType)

theorem encode_float_eq_error_iff (x : Binary64) :
    (∃ fault, encode (float x) = .error fault) ↔
      x.isNaN = true ∨ ∃ negative, x = .infinity negative := by
  rw [← Binary64.isFinite_eq_false_iff, encode]
  cases x.isFinite <;> simp

/-- Null, every integer and every byte sequence is itself afterwards in any column, and so is every
finite float; NaNs and infinities are refused, and nothing else is. A text is itself
unless it is a timestamp for a column that holds timestamps, and then it is this timestamp. -/
theorem natives_return (declaredType : Option String) :
    Returns declaredType null null ∧
    (∀ n, Returns declaredType (integer n) (integer n)) ∧
    (∀ bytes, Returns declaredType (blob bytes) (blob bytes)) ∧
    (∀ x : Binary64, x.isNaN = false → (∀ negative, x ≠ .infinity negative) →
      Returns declaredType (float x) (float x)) ∧
    (∀ x : Binary64, (∃ fault, encode (float x) = .error fault) ↔
      x.isNaN = true ∨ ∃ negative, x = .infinity negative) ∧
    (∀ s, (∀ t, ¬ (HoldsTimestamps declaredType ∧ Time.Timestamp.parse? s = some t)) →
      Returns declaredType (text s) (text s)) ∧
    (∀ s t, HoldsTimestamps declaredType → Time.Timestamp.parse? s = some t →
      Returns declaredType (text s) (timestamp t)) := by
  refine ⟨⟨_, rfl, rfl⟩, fun n => ⟨_, rfl, ?integer⟩, fun bytes => ⟨_, rfl, ?blob⟩,
    fun x hnan hinfinity => ⟨.float x, ?float, rfl⟩, encode_float_eq_error_iff,
    fun s hno => ⟨_, rfl, ?text⟩, fun s t hholds hparse => ⟨_, rfl, ?timestamp⟩⟩
  case integer =>
    simp only [decode, readInt64_integerText]
  case blob =>
    simp only [decode, Base64.decode?_encode]
  case float =>
    have hfinite : x.isFinite = true := by
      rw [← Bool.not_eq_false, Binary64.isFinite_eq_false_iff]
      rintro (h | ⟨negative, h⟩)
      · exact absurd h (by rw [hnan]; decide)
      · exact hinfinity negative h
    rw [encode, if_pos hfinite]
  case text =>
    simp only [decode, ofText]
    split
    · rename_i hany
      cases hparse : Time.Timestamp.parse? s with
      | none => rfl
      | some t => exact absurd ⟨(any_isTimestampType_iff declaredType).mp hany, hparse⟩ (hno t)
    · rfl
  case timestamp =>
    simp only [decode, ofText, (any_isTimestampType_iff declaredType).mpr hholds, hparse, if_true]

/-- A column that holds timestamps turns a date into one, but no text that is none, and no
number. -/
theorem natives_return_of_date :
    Returns (some "DateTime") (text "2024-02-29")
      (timestamp ⟨⟨2024, 2, 29, by decide, by decide, by decide⟩,
        ⟨0, 0, 0, 0, by decide, by decide, by decide, by decide⟩, .utc⟩) ∧
    Returns (some "DateTime") (text "2024-02-30") (text "2024-02-30") ∧
    Returns (some "DateTime") (float ⟨0x3fe0000000000000⟩) (float ⟨0x3fe0000000000000⟩) := by
  have hholds : HoldsTimestamps (some "DateTime") := by decide
  obtain ⟨-, -, -, hfloat, -, htext, htimestamp⟩ := natives_return (some "DateTime")
  refine ⟨htimestamp _ _ hholds (by decide +kernel), htext _ ?_, hfloat _ (by decide) (by decide)⟩
  rintro t ⟨-, hparse⟩
  have hnone : Time.Timestamp.parse? "2024-02-30" = none := by decide +kernel
  rw [hnone] at hparse
  cases hparse

end Value

end SqlStream
