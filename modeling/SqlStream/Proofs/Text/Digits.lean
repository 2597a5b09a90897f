import Mathlib.Algebra.Group.Nat.Defs
import SqlStream.Text.Digits

/-!
# Numbers written and read back

Decimal digits read back as the number that they were written for: as many as it needs, within the
limits of the reader (`readSigned_decimalDigits`), or a fixed number of them
(`readFixed_fixedDigits`).
-/

namespace SqlStream.Text

/-- A digit is no sign. -/
theorem ne_sign_of_isDigit {c : Char} (h : c.isDigit = true) : c ≠ '-' ∧ c ≠ '+' := by
  constructor <;> rintro rfl <;> cases h

/-! ## As many digits as needed -/

/-- More digits do not make a number smaller. -/
theorem le_ofDigitChars (digits : List Char) (n : Nat) : n ≤ Nat.ofDigitChars 10 digits n := by
  induction digits generalizing n with
  | nil => exact Nat.le_refl _
  | cons c digits ih =>
    rw [Nat.ofDigitChars_cons]
    have := ih (10 * n + (c.toNat - '0'.toNat))
    omega

/-- A number is written in digits. -/
theorem isDigit_of_mem_decimalDigits {n : Nat} {c : Char} (h : c ∈ decimalDigits n) :
    c.isDigit = true :=
  Nat.isDigit_of_mem_toDigits (by decide) (by decide) h

/-- The first digit of a number. -/
theorem exists_decimalDigits_cons (n : Nat) :
    ∃ c cs, decimalDigits n = c :: cs ∧ c.isDigit = true := by
  obtain ⟨c, cs, h⟩ := List.exists_cons_of_ne_nil (Nat.toDigits_ne_nil (n := n) (b := 10))
  exact ⟨c, cs, h, isDigit_of_mem_decimalDigits (by rw [decimalDigits, h]; exact List.mem_cons_self)⟩

/-- Digits are read as their value, if that is within the limit. -/
theorem readDigits_eq_ok {limit : Nat} (overflow : NumeralFault) {digits : List Char} {n : Nat}
    (hdigits : ∀ c ∈ digits, c.isDigit = true) (hle : Nat.ofDigitChars 10 digits n ≤ limit) :
    readDigits limit overflow digits n = .ok (Nat.ofDigitChars 10 digits n) := by
  induction digits generalizing n with
  | nil => rfl
  | cons c digits ih =>
    obtain ⟨hc, hrest⟩ := List.forall_mem_cons.mp hdigits
    have hnext : n * 10 + digitValue c = 10 * n + (c.toNat - '0'.toNat) := by
      rw [Nat.mul_comm, digitValue]
    rw [Nat.ofDigitChars_cons] at hle ⊢
    have hlimit := Nat.le_trans (le_ofDigitChars digits _) hle
    rw [readDigits, if_pos hc, hnext, if_pos hlimit]
    exact ih hrest hle

/-- The digits of a number are read as this number, if it is within the limit. -/
theorem readDigits_decimalDigits {limit n : Nat} (overflow : NumeralFault) (h : n ≤ limit) :
    readDigits limit overflow (decimalDigits n) 0 = .ok n := by
  have hvalue : Nat.ofDigitChars 10 (decimalDigits n) 0 = n := Nat.ofDigitChars_ten_toDigits
  rw [readDigits_eq_ok overflow (fun _ => isDigit_of_mem_decimalDigits) (by rwa [hvalue]), hvalue]

/-- The digits of a number that is within the limit are a numeral of it. -/
theorem readSigned_decimalDigits {limit n : Nat} (h : n ≤ limit) :
    readSigned limit (decimalDigits n) = .ok (n : Int) := by
  have hread := readDigits_decimalDigits .tooLarge h
  obtain ⟨c, cs, heq, hc⟩ := exists_decimalDigits_cons n
  rw [heq] at hread ⊢
  obtain ⟨hminus, hplus⟩ := ne_sign_of_isDigit hc
  have hunsigned : readUnsigned limit (c :: cs) = .ok n := by
    unfold readUnsigned
    split <;> simp_all
  unfold readSigned
  split
  · simp_all
  · simp_all
  · rw [hunsigned]
    rfl

/-- So are the digits of its opposite behind a minus; there is one number more below zero. -/
theorem readSigned_minus_decimalDigits {limit n : Nat} (h : n ≤ limit + 1) :
    readSigned limit ('-' :: decimalDigits n) = .ok (-(n : Int)) := by
  have hread := readDigits_decimalDigits .tooSmall h
  obtain ⟨c, cs, heq, -⟩ := exists_decimalDigits_cons n
  rw [heq] at hread ⊢
  simp only [readSigned, hread]
  rfl

/-! ## A fixed number of digits -/

theorem isDigit_digitChar {n : Nat} (h : n < 10) : (digitChar n).isDigit = true := by
  revert n
  decide

/-- A digit stands for its number. -/
theorem digitValue_digitChar {n : Nat} (h : n < 10) : digitValue (digitChar n) = n := by
  revert n
  decide

@[simp] theorem length_fixedDigits (width n : Nat) : (fixedDigits width n).length = width := by
  induction width generalizing n with
  | zero => rfl
  | succ width ih => simp [fixedDigits, ih]

/-- A number of fixed width is written in digits. -/
theorem isDigit_of_mem_fixedDigits {width n : Nat} {c : Char} (h : c ∈ fixedDigits width n) :
    c.isDigit = true := by
  induction width generalizing n with
  | zero => cases h
  | succ width ih =>
    rw [fixedDigits, List.mem_append, List.mem_singleton] at h
    rcases h with h | rfl
    · exact ih h
    · exact isDigit_digitChar (Nat.mod_lt _ (by decide))

/-- A number of fixed width keeps its last digits. -/
theorem digitsValue_fixedDigits (width n : Nat) :
    digitsValue (fixedDigits width n) = n % 10 ^ width := by
  induction width generalizing n with
  | zero => rw [Nat.pow_zero, Nat.mod_one]; rfl
  | succ width ih =>
    have hlast := digitValue_digitChar (Nat.mod_lt n (by decide : 0 < 10))
    rw [fixedDigits, digitsValue, List.foldl_append, ← digitsValue, ih, List.foldl_cons,
      List.foldl_nil, hlast, Nat.pow_succ, Nat.mul_comm (10 ^ width) 10, Nat.mod_mul]
    omega

/-- A number of at most `width` digits is read back from its digits, whatever stands behind them. -/
theorem readFixed_fixedDigits {width n : Nat} (h : n < 10 ^ width) (rest : List Char) :
    readFixed width (fixedDigits width n ++ rest) = some (n, rest) := by
  have htake : (fixedDigits width n ++ rest).take width = fixedDigits width n :=
    List.take_left' (length_fixedDigits width n)
  have hdrop : (fixedDigits width n ++ rest).drop width = rest :=
    List.drop_left' (length_fixedDigits width n)
  have hall : (fixedDigits width n).all Char.isDigit = true :=
    List.all_eq_true.mpr fun _ => isDigit_of_mem_fixedDigits
  rw [readFixed, htake, hdrop, digitsValue_fixedDigits, Nat.mod_eq_of_lt h]
  exact if_pos ⟨length_fixedDigits width n, hall⟩

/-- What is read as some digits begins with one. -/
theorem any_head?_of_readFixed {width : Nat} {s : List Char} {next : Nat × List Char}
    (h : readFixed (width + 1) s = some next) : s.head?.any Char.isDigit = true := by
  simp only [readFixed, Option.ite_none_right_eq_some] at h
  obtain ⟨⟨hlength, hdigits⟩, -⟩ := h
  cases s with
  | nil => cases hlength
  | cons c s =>
    rw [List.take_succ_cons, List.all_cons, Bool.and_eq_true] at hdigits
    exact hdigits.1

end SqlStream.Text
