import Mathlib.Data.List.TakeWhile
import SqlStream.Proofs.Text.Digits
import SqlStream.Time.Layout

/-!
# Timestamps read back from their text

A timestamp is read back from its text, except for the seconds of its offset, which are not written
(`Timestamp.parse?_format`). Every part is read back from what is written for it, whatever stands
behind it; behind a fraction that must not be a digit. A layout is read item by item, so that
layouts with a common front read the same there (`Layout.readFront_append`).
-/

namespace SqlStream.Time

open SqlStream.Text

/-! ## Parts that fit together -/

/-- A date is read from its own parts. -/
theorem Date.ofParts?_eq (date : Date) :
    Date.ofParts? date.year date.month date.day = some date := by
  rw [ofParts?, dif_pos date.year_mem, dif_pos date.month_mem, dif_pos date.day_mem]

/-- A time of day is read from its own parts. -/
theorem Clock.ofParts?_eq (clock : Clock) :
    Clock.ofParts? clock.hour clock.minute clock.second clock.nanosecond = some clock :=
  dif_pos ⟨clock.hour_lt, clock.minute_lt, clock.second_lt, clock.nanosecond_lt⟩

/-- The hours and minutes of an offset have one sign without its seconds too. -/
theorem Offset.one_sign_without_seconds (offset : Offset) :
    (0 ≤ offset.hours ∧ 0 ≤ offset.minutes ∧ (0 : Int) ≤ 0) ∨
      (offset.hours ≤ 0 ∧ offset.minutes ≤ 0 ∧ (0 : Int) ≤ 0) := by
  have := offset.one_sign
  omega

/-- An offset without its seconds. -/
def Offset.wholeMinutes (offset : Offset) : Offset :=
  ⟨offset.hours, offset.minutes, 0, offset.hours_mem, offset.minutes_mem, utc.seconds_mem,
    offset.one_sign_without_seconds⟩

/-- An offset is read from its hours and minutes as one of whole minutes. -/
theorem Offset.ofParts?_eq (offset : Offset) :
    Offset.ofParts? offset.hours offset.minutes 0 = some offset.wholeMinutes := by
  rw [ofParts?, dif_pos offset.hours_mem, dif_pos offset.minutes_mem, dif_pos (by decide)]
  exact dif_pos offset.one_sign_without_seconds

/-- A month has at most 31 days. -/
theorem daysInMonth_le (year : Int) (month : Nat) : daysInMonth year month ≤ 31 := by
  unfold daysInMonth
  repeat' split
  all_goals decide

/-! ## Signs -/

/-- A sign is read as it is written. -/
theorem readSign?_sign (negative : Bool) (rest : List Char) :
    readSign? ((if negative then '-' else '+') :: rest) = some (negative, rest) := by
  cases negative <;> rfl

/-- A text that begins with a digit has no sign. -/
theorem readOptionalSign_digits {digits : List Char} (hne : digits ≠ [])
    (hdigits : ∀ c ∈ digits, c.isDigit = true) (rest : List Char) :
    readOptionalSign (digits ++ rest) = (false, digits ++ rest) := by
  obtain ⟨c, cs, rfl⟩ := List.exists_cons_of_ne_nil hne
  obtain ⟨hminus, hplus⟩ := ne_sign_of_isDigit (hdigits c List.mem_cons_self)
  rw [List.cons_append]
  unfold readOptionalSign
  split <;> simp_all

/-- A number is its absolute value with its sign. -/
theorem withSign_natAbs {n : Int} {negative : Bool} (hneg : negative = true → n ≤ 0)
    (hpos : negative = false → 0 ≤ n) : withSign negative n.natAbs = n := by
  cases negative
  · exact Int.natAbs_of_nonneg (hpos rfl)
  · have := hneg rfl
    exact (show -(n.natAbs : Int) = n by omega)

/-! ## Fractions -/

/-- Where a character is taken off the end of a text, only copies of it are missing. -/
theorem exists_eq_append_replicate (c : Char) (s : List Char) :
    ∃ n, s = (s.reverse.dropWhile fun d => d == c).reverse ++ List.replicate n c := by
  have hcopies : ∀ d ∈ s.reverse.takeWhile fun d => d == c, d = c := fun d hd =>
    beq_iff_eq.mp (List.mem_takeWhile_imp (p := fun d => d == c) hd)
  refine ⟨(s.reverse.takeWhile fun d => d == c).length, ?_⟩
  rw [← List.reverse_replicate, ← List.eq_replicate_of_mem hcopies, ← List.reverse_append,
    List.takeWhile_append_dropWhile, List.reverse_reverse]

/-- A text that is filled up to a length. -/
theorem take_append_replicate {s : List Char} {n length : Nat} (h : s.length + n = length)
    (c : Char) : (s ++ List.replicate length c).take length = s ++ List.replicate n c := by
  rw [List.take_append, List.take_of_length_le (by omega), List.take_replicate]
  congr 2
  omega

/-- A fraction of a second is written in digits. -/
theorem isDigit_of_mem_fractionDigits {nanosecond : Nat} {c : Char}
    (h : c ∈ fractionDigits nanosecond) : c.isDigit = true := by
  obtain ⟨zeros, heq⟩ := exists_eq_append_replicate '0' (fixedDigits 9 nanosecond)
  have hmem : c ∈ fixedDigits 9 nanosecond := by
    rw [heq]
    exact List.mem_append_left _ h
  exact isDigit_of_mem_fixedDigits hmem

/-- The digits of a fraction have its value. -/
theorem fractionValue_fractionDigits {nanosecond : Nat} (h : nanosecond < 10 ^ 9) :
    fractionValue (fractionDigits nanosecond) = nanosecond := by
  obtain ⟨zeros, heq⟩ := exists_eq_append_replicate '0' (fixedDigits 9 nanosecond)
  rw [← fractionDigits] at heq
  have hlength := congrArg List.length heq
  rw [length_fixedDigits, List.length_append, List.length_replicate] at hlength
  rw [fractionValue, take_append_replicate hlength.symm, ← heq, digitsValue_fixedDigits,
    Nat.mod_eq_of_lt h]

/-- A fraction of a second that is not zero has a digit. -/
theorem fractionDigits_ne_nil {nanosecond : Nat} (h : nanosecond < 10 ^ 9) (hne : nanosecond ≠ 0) :
    fractionDigits nanosecond ≠ [] := by
  intro hnil
  have hvalue := fractionValue_fractionDigits h
  rw [hnil, show fractionValue [] = 0 by decide] at hvalue
  exact hne hvalue.symm

/-! ## Items -/

section Items

variable (parts : Parts) (rest : List Char)

/-- A literal is read where it stands. -/
theorem read_literal (c : Char) :
    (LayoutItem.literal c).read parts (c :: rest) = some (parts, rest) :=
  if_pos rfl

/-- The parts of two digits are all read alike. -/
theorem readPair_fixedDigits (set : Nat → Parts) {n : Nat} (h : n < 100) :
    readPair set (fixedDigits 2 n ++ rest) = some (set n, rest) := by
  rw [readPair, readFixed_fixedDigits h]
  rfl

/-- A year is read as it is written. -/
theorem read_year (date : Date) :
    (LayoutItem.field .year).read parts
      ((if date.year < 0 then ['-'] else []) ++ (fixedDigits 4 date.year.natAbs ++ rest)) =
    some ({ parts with year := date.year }, rest) := by
  have hbound := date.year_mem
  have hread : readFixed 4 (fixedDigits 4 date.year.natAbs ++ rest) = some (date.year.natAbs, rest) :=
    readFixed_fixedDigits (by omega) rest
  have hsign : readOptionalSign
      ((if date.year < 0 then ['-'] else []) ++ (fixedDigits 4 date.year.natAbs ++ rest)) =
      (decide (date.year < 0), fixedDigits 4 date.year.natAbs ++ rest) := by
    by_cases hneg : date.year < 0
    · rw [if_pos hneg, decide_eq_true hneg]
      rfl
    · have hne : fixedDigits 4 date.year.natAbs ≠ [] :=
        List.ne_nil_of_length_pos (by rw [length_fixedDigits]; decide)
      rw [if_neg hneg, decide_eq_false hneg, List.nil_append]
      exact readOptionalSign_digits hne (fun _ => isDigit_of_mem_fixedDigits) rest
  have hyear : withSign (decide (date.year < 0)) date.year.natAbs = date.year :=
    withSign_natAbs (by simp; omega) (by simp)
  simp only [LayoutItem.read, Field.read, hsign, hread, hyear, Option.bind_eq_bind, Option.bind_some]
  rfl

/-- A fraction of a second is read as it is written, up to the first character that is no digit. -/
theorem read_fraction {nanosecond : Nat} (h : nanosecond < 10 ^ 9) (hne : nanosecond ≠ 0) {c : Char}
    (hc : c.isDigit = false) :
    (LayoutItem.field .fraction).read parts (fractionDigits nanosecond ++ c :: rest) =
    some ({ parts with nanosecond := nanosecond }, c :: rest) := by
  have htake : (fractionDigits nanosecond ++ c :: rest).takeWhile Char.isDigit =
      fractionDigits nanosecond := by
    rw [List.takeWhile_append_of_pos fun _ => isDigit_of_mem_fractionDigits,
      List.takeWhile_cons_of_neg (by simp [hc]), List.append_nil]
  have hdrop : (fractionDigits nanosecond ++ c :: rest).dropWhile Char.isDigit = c :: rest := by
    rw [List.dropWhile_append_of_pos fun _ => isDigit_of_mem_fractionDigits,
      List.dropWhile_cons_of_neg (by simp [hc])]
  simp only [LayoutItem.read, Field.read, htake, hdrop, fractionValue_fractionDigits h]
  rw [if_neg]
  simpa using fractionDigits_ne_nil h hne

/-- An offset is read by its hours and minutes. -/
theorem read_offset (offset : Offset) :
    (LayoutItem.field .offset).read parts (offset.text ++ rest) =
    some ({ parts with offsetHours := offset.hours, offsetMinutes := offset.minutes }, rest) := by
  have hsigns := offset.one_sign
  have hhours := offset.hours_mem
  have hminutes := offset.minutes_mem
  have hreadMinutes : readFixed 2 (fixedDigits 2 offset.minutes.natAbs ++ rest) =
      some (offset.minutes.natAbs, rest) := readFixed_fixedDigits (by omega) rest
  have hreadHours : ∀ behind, readFixed 2 (fixedDigits 2 offset.hours.natAbs ++ behind) =
      some (offset.hours.natAbs, behind) := readFixed_fixedDigits (by omega)
  have hneg : offset.isNegative = true → offset.hours ≤ 0 ∧ offset.minutes ≤ 0 := by
    simp [Offset.isNegative]
    omega
  have hpos : offset.isNegative = false → 0 ≤ offset.hours ∧ 0 ≤ offset.minutes := by
    simp [Offset.isNegative]
    omega
  have hsignedHours : withSign offset.isNegative offset.hours.natAbs = offset.hours :=
    withSign_natAbs (fun h => (hneg h).1) (fun h => (hpos h).1)
  have hsignedMinutes : withSign offset.isNegative offset.minutes.natAbs = offset.minutes :=
    withSign_natAbs (fun h => (hneg h).2) (fun h => (hpos h).2)
  simp only [Offset.text, List.cons_append, List.append_assoc, LayoutItem.read, Field.read,
    readSign?_sign, Option.bind_eq_bind, Option.bind_some]
  simp only [hreadHours, hreadMinutes, hsignedHours, hsignedMinutes, Option.bind_some]
  rfl

end Items

/-! ## Layouts -/

namespace Layout

variable {parts : Parts}

/-- Reads the items of a layout from the front of a text. -/
def readFront (parts : Parts) (s : List Char) : Layout → Option (Parts × List Char)
  | [] => some (parts, s)
  | item :: items => do
    let (parts, s) ← item.read parts s
    readFront parts s items

/-- Items that read one after the other. -/
theorem readFront_cons {item : LayoutItem} {items : Layout} {next : Parts} {s t : List Char}
    (h : item.read parts s = some (next, t)) :
    readFront parts s (item :: items) = readFront next t items := by
  rw [readFront, h]
  rfl

/-- A layout in two parts is read one part after the other. -/
theorem readFront_append {first items : Layout} {next : Parts} {s t : List Char}
    (h : readFront parts s first = some (next, t)) :
    readFront parts s (first ++ items) = readFront next t items := by
  induction first generalizing parts s with
  | nil =>
    cases h
    rfl
  | cons item first ih =>
    simp only [readFront, Option.bind_eq_bind, Option.bind_eq_some_iff] at h
    obtain ⟨⟨between, u⟩, hitem, hfirst⟩ := h
    rw [List.cons_append, readFront_cons hitem, ih hfirst]

/-- A layout reads a text if it reads it from the front and nothing is left. -/
theorem read_eq (layout : Layout) (s : List Char) :
    layout.read parts s = (readFront parts s layout).bind fun (next, t) =>
      if t.isEmpty then some next else none := by
  induction layout generalizing parts s with
  | nil => rfl
  | cons item items ih =>
    rw [Layout.read, readFront, Option.bind_eq_bind, Option.bind_eq_bind, Option.bind_assoc]
    congr 1
    funext next
    exact ih _

/-- A date is read from its text. -/
theorem readFront_date (date : Date) (rest : List Char) :
    readFront {} (date.text ++ rest) Layout.date =
    some ({ year := date.year, month := date.month, day := date.day }, rest) := by
  have hdays := daysInMonth_le date.year date.month
  have hmonth : date.month < 100 := Nat.lt_of_le_of_lt date.month_mem.2 (by decide)
  have hday : date.day < 100 := Nat.lt_of_le_of_lt (Nat.le_trans date.day_mem.2 hdays) (by decide)
  simp only [Date.text, Layout.date, List.append_assoc, List.cons_append]
  rw [readFront_cons (read_year ..)]
  simp only [readFront, LayoutItem.read, Field.read, readPair_fixedDigits _ _ hmonth,
    readPair_fixedDigits _ _ hday, if_true, Option.bind_eq_bind, Option.bind_some]

/-- The text of a date and a time to the second. -/
def secondsText (date : Date) (clock : Clock) : List Char :=
  date.text ++ ' ' :: fixedDigits 2 clock.hour ++ ':' :: fixedDigits 2 clock.minute ++
    ':' :: fixedDigits 2 clock.second

/-- So are a date and a time to the second. -/
theorem readFront_seconds (date : Date) (clock : Clock) (rest : List Char) :
    readFront {} (secondsText date clock ++ rest) (seconds ' ') =
    some ({ year := date.year, month := date.month, day := date.day, hour := clock.hour,
            minute := clock.minute, second := clock.second }, rest) := by
  have hhour : clock.hour < 100 := Nat.lt_trans clock.hour_lt (by decide)
  have hminute : clock.minute < 100 := Nat.lt_trans clock.minute_lt (by decide)
  have hsecond : clock.second < 100 := Nat.lt_trans clock.second_lt (by decide)
  simp only [secondsText, seconds, minutes, List.append_assoc, List.cons_append, List.nil_append]
  rw [readFront_append (readFront_date date _)]
  simp only [readFront, LayoutItem.read, Field.read, readPair_fixedDigits _ _ hhour,
    readPair_fixedDigits _ _ hminute, readPair_fixedDigits _ _ hsecond, if_true,
    Option.bind_eq_bind, Option.bind_some]

/-- A layout gives nothing if its items cannot be read. -/
theorem timestamp?_eq_none {layout : Layout} {text : String}
    (h : readFront {} text.toList layout = none) : layout.timestamp? text = none := by
  rw [timestamp?, read_eq, h]
  rfl

/-- A layout that reads a whole text gives what the parts make. -/
theorem timestamp?_eq {layout : Layout} {text : String} {parts : Parts}
    (h : readFront {} text.toList layout = some (parts, [])) :
    layout.timestamp? text = parts.timestamp? := by
  rw [timestamp?, read_eq, h]
  rfl

end Layout

/-! ## Timestamps -/

namespace Timestamp

/-- A timestamp without the seconds of its offset. -/
def toWholeMinutes (t : Timestamp) : Timestamp :=
  { t with offset := t.offset.wholeMinutes }

/-- The parts of a timestamp. -/
def parts (t : Timestamp) : Parts :=
  { year := t.date.year, month := t.date.month, day := t.date.day, hour := t.clock.hour,
    minute := t.clock.minute, second := t.clock.second, nanosecond := t.clock.nanosecond,
    offsetHours := t.offset.hours, offsetMinutes := t.offset.minutes }

/-- A timestamp is read from its own parts, with an offset of whole minutes. -/
theorem timestamp?_parts (t : Timestamp) : t.parts.timestamp? = some t.toWholeMinutes := by
  simp only [Parts.timestamp?, parts, t.date.ofParts?_eq, t.clock.ofParts?_eq, t.offset.ofParts?_eq]
  rfl

/-- A text is a date and a time to the second, a fraction if there is one, and the offset. -/
theorem toList_format (t : Timestamp) : t.format.toList =
    Layout.secondsText t.date t.clock ++
      ((if t.clock.nanosecond = 0 then [] else '.' :: fractionDigits t.clock.nanosecond) ++
        t.offset.text) := by
  simp only [format, Clock.text, Layout.secondsText, String.toList_ofList, List.append_assoc,
    List.cons_append]

open Layout

/-- A fraction is read from a text that has one. -/
theorem timestamp?_fractions {t : Timestamp} (h : t.clock.nanosecond ≠ 0) :
    Layout.timestamp? (fractions ' ' ++ [.field .offset]) t.format = some t.toWholeMinutes := by
  have hoffset : ∃ c rest, t.offset.text = c :: rest ∧ c.isDigit = false := by
    refine ⟨_, _, rfl, ?_⟩
    split <;> rfl
  obtain ⟨c, rest, htext, hc⟩ := hoffset
  suffices hread : readFront {} t.format.toList (fractions ' ' ++ [.field .offset]) =
      some (t.parts, []) by
    rw [timestamp?_eq hread, timestamp?_parts]
  rw [toList_format, if_neg h, fractions, List.append_assoc,
    readFront_append (readFront_seconds t.date t.clock _), List.cons_append, htext, List.cons_append,
    readFront_cons (read_literal ..), List.singleton_append,
    readFront_cons (read_fraction _ _ t.clock.nanosecond_lt h hc), ← htext,
    ← List.append_nil t.offset.text, readFront_cons (read_offset ..)]
  rfl

/-- A text without a fraction is not read as one with it. -/
theorem timestamp?_fractions_eq_none {t : Timestamp} (h : t.clock.nanosecond = 0) :
    Layout.timestamp? (fractions ' ' ++ [.field .offset]) t.format = none := by
  refine timestamp?_eq_none ?_
  rw [toList_format, if_pos h, fractions, List.append_assoc,
    readFront_append (readFront_seconds t.date t.clock _), List.nil_append, Offset.text]
  cases t.offset.isNegative <;> rfl

/-- No text is read in a layout with another joint. -/
theorem timestamp?_eq_none_of_joint (t : Timestamp) (items : Layout) :
    Layout.timestamp? (minutes 'T' ++ items) t.format = none := by
  refine timestamp?_eq_none ?_
  simp only [toList_format, secondsText, minutes, List.append_assoc]
  rw [readFront_append (readFront_date t.date _)]
  rfl

/-- A text without a fraction is read to the second. -/
theorem timestamp?_seconds {t : Timestamp} (h : t.clock.nanosecond = 0) :
    Layout.timestamp? (seconds ' ' ++ [.field .offset]) t.format = some t.toWholeMinutes := by
  suffices hread : readFront {} t.format.toList (seconds ' ' ++ [.field .offset]) =
      some (t.parts, []) by
    rw [timestamp?_eq hread, timestamp?_parts]
  rw [toList_format, if_pos h, readFront_append (readFront_seconds t.date t.clock _),
    List.nil_append, ← List.append_nil t.offset.text, readFront_cons (read_offset ..), parts, h]
  rfl

/-- A timestamp is read back from its text, except for the seconds of its offset. -/
theorem parse?_format (t : Timestamp) : parse? t.format = some t.toWholeMinutes := by
  rw [parse?, Layout.all]
  by_cases h : t.clock.nanosecond = 0
  · have hjoint : Layout.timestamp? (fractions 'T' ++ [.field .offset]) t.format = none := by
      rw [fractions, seconds, List.append_assoc, List.append_assoc]
      exact timestamp?_eq_none_of_joint t _
    rw [List.findSome?_cons, timestamp?_fractions_eq_none h, List.findSome?_cons, hjoint,
      List.findSome?_cons, timestamp?_seconds h]
  · rw [List.findSome?_cons, timestamp?_fractions h]

end Timestamp

end SqlStream.Time
