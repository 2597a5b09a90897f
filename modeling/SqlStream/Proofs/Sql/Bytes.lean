import SqlStream.Proofs.Sql.Offsets

/-!
# Bytes of a text

A text in UTF-8, byte by byte, with each byte as the character of its number. A character of ASCII
is its own byte, and all bytes of any other character are outside ASCII. Offsets in a text count
bytes; a *place* is an offset at which a character begins or the text ends, and a text can be cut
there and nowhere else.
-/

namespace SqlStream.Sql

open SqlStream.Text

/-! ## Bytes as characters -/

/-- The bytes of a character, each as the character of its number. -/
def bytesOfChar (c : Char) : List Char :=
  (String.utf8EncodeChar c).map Char.ofUInt8

/-- The bytes of a text, each as the character of its number. -/
def bytesOf (s : List Char) : List Char :=
  s.flatMap bytesOfChar

@[simp] theorem bytesOf_nil : bytesOf [] = [] := rfl

@[simp] theorem bytesOf_cons (c : Char) (s : List Char) :
    bytesOf (c :: s) = bytesOfChar c ++ bytesOf s :=
  rfl

@[simp] theorem bytesOf_append (s t : List Char) : bytesOf (s ++ t) = bytesOf s ++ bytesOf t :=
  List.flatMap_append

/-- The bytes of a text as it is stored, each as the character of its number. -/
def storedBytes (sql : String) : List Char :=
  sql.toUTF8.data.toList.map Char.ofUInt8

/-- The bytes that are stored for a text are those of its characters. -/
theorem storedBytes_eq (sql : String) : storedBytes sql = bytesOf sql.toList := by
  have hbytes : sql.toByteArray = (sql.toList.flatMap String.utf8EncodeChar).toByteArray := by
    have h := String.toByteArray_ofList (l := sql.toList)
    rwa [String.ofList_toList] at h
  rw [storedBytes, String.toUTF8_eq_toByteArray, hbytes, List.data_toByteArray, List.map_flatMap]
  rfl

@[simp] theorem length_bytesOfChar (c : Char) : (bytesOfChar c).length = c.utf8Size := by
  rw [bytesOfChar, List.length_map, String.length_utf8EncodeChar]

@[simp] theorem length_bytesOf (s : List Char) : (bytesOf s).length = byteLength s := by
  induction s with
  | nil => rfl
  | cons c s ih => simp [ih]

/-- A character of ASCII is its own byte. -/
theorem bytesOfChar_of_not_isWide {c : Char} (h : isWide c = false) : bytesOfChar c = [c] := by
  have hsmall : c.val.toNat < 128 := Nat.lt_of_not_le (of_decide_eq_false h)
  have hsize : c.utf8Size = 1 := Char.utf8Size_eq_one_iff.mpr (Nat.le_of_lt_succ hsmall)
  rw [bytesOfChar, String.utf8EncodeChar_eq_singleton hsize, List.map_singleton]
  congr 1
  refine Char.ext (UInt32.toNat_inj.mp ?_)
  show c.val.toNat % 256 = c.val.toNat
  omega

/-- An ASCII character is its own byte. -/
theorem bytesOf_cons_of_not_isWide {c : Char} (h : isWide c = false) (s : List Char) :
    bytesOf (c :: s) = c :: bytesOf s := by
  rw [bytesOf_cons, bytesOfChar_of_not_isWide h, List.singleton_append]

/-- An ASCII character has one byte. -/
theorem utf8Size_of_not_isWide {c : Char} (h : isWide c = false) : c.utf8Size = 1 := by
  rw [← length_bytesOfChar, bytesOfChar_of_not_isWide h, List.length_singleton]

/-- The bytes of any other character are outside ASCII. -/
theorem isWide_of_mem_bytesOfChar {c d : Char} (h : isWide c = true) (hmem : d ∈ bytesOfChar c) :
    isWide d = true := by
  have hlarge : 128 ≤ c.val.toNat := of_decide_eq_true h
  have hbyte : ∀ {n}, 128 ≤ n → n < 256 → isWide (Char.ofUInt8 (UInt8.ofNat n)) = true := by
    intro n hn hn'
    show decide (128 ≤ n % 256) = true
    exact decide_eq_true (by omega)
  rw [bytesOfChar, String.utf8EncodeChar, if_neg (by omega)] at hmem
  -- the first byte of a character says how many follow; each is at least 128
  split at hmem
  · simp only [List.map_cons, List.map_nil, List.mem_cons, List.not_mem_nil, or_false] at hmem
    rcases hmem with rfl | rfl <;> exact hbyte (by omega) (by omega)
  · split at hmem
    · simp only [List.map_cons, List.map_nil, List.mem_cons, List.not_mem_nil, or_false] at hmem
      rcases hmem with rfl | rfl | rfl <;> exact hbyte (by omega) (by omega)
    · simp only [List.map_cons, List.map_nil, List.mem_cons, List.not_mem_nil, or_false] at hmem
      rcases hmem with rfl | rfl | rfl | rfl <;> exact hbyte (by omega) (by omega)

/-- A character has at least one byte. -/
theorem exists_bytesOfChar_eq_cons (c : Char) : ∃ b bs, bytesOfChar c = b :: bs := by
  have hpos : 0 < (bytesOfChar c).length := by
    rw [length_bytesOfChar]
    exact c.utf8Size_pos
  exact List.length_pos_iff_exists_cons.mp hpos

/-- The bytes of two parts of a text are those of the text. -/
theorem bytesOf_take_append_drop (s : List Char) (n : Nat) :
    bytesOf (s.take n) ++ bytesOf (s.drop n) = bytesOf s := by
  rw [← bytesOf_append, List.take_append_drop]

/-- Characters at the front of a text, by their bytes. -/
theorem take_bytesOf (s : List Char) (n : Nat) :
    (bytesOf s).take (byteLength (s.take n)) = bytesOf (s.take n) := by
  rw [← bytesOf_take_append_drop s n, ← length_bytesOf, List.take_left]

/-- What stands behind characters at the front of a text, by its bytes. -/
theorem drop_bytesOf (s : List Char) (n : Nat) :
    (bytesOf s).drop (byteLength (s.take n)) = bytesOf (s.drop n) := by
  rw [← bytesOf_take_append_drop s n, ← length_bytesOf, List.drop_left]

/-! ## Places -/

/-- An offset at which a character begins or the text ends. -/
abbrev IsPlace (sql : String) (offset : Nat) : Prop :=
  String.Pos.Raw.IsValid sql ⟨offset⟩

/-- The offset behind the front of a text is a place. -/
theorem isPlace_of_append {sql : String} {s t : List Char} (h : sql.toList = s ++ t) :
    IsPlace sql (byteLength s) := by
  refine String.Pos.Raw.isValid_iff_exists_append.mpr ⟨String.ofList s, String.ofList t, ?_, ?_⟩
  · rw [← String.ofList_append, ← h, String.ofList_toList]
  · rw [← utf8ByteSize_ofList]
    rfl

end SqlStream.Sql
