import SqlStream.Proofs.Text.Base64
import SqlStream.Text.Trim

/-!
# Base64 texts up to padding

A text is read as bytes exactly if it is what is written for them, with some or all of the padding
behind it that completes its last group (`decode?_eq_some_iff`). Characters and groups are read from
nothing but what is written for them (`sextetChar_of_sextet?`, `sextetsOfBytes_of_bytesOfSextets?`):
the bits that a short last group leaves over are the only ones that could differ, and they are zero.
-/

namespace SqlStream.Text.Base64

/-! ## Characters and sextets -/

/-- Capital letters stand from `A` to `Z`. -/
theorem toNat_mem_of_isUpper {c : Char} (h : c.isUpper = true) :
    'A'.toNat ≤ c.toNat ∧ c.toNat ≤ 'Z'.toNat := by
  have hrange : 'A'.val ≤ c.val ∧ c.val ≤ 'Z'.val := of_decide_eq_true h
  exact hrange.imp UInt32.le_iff_toNat_le.mp UInt32.le_iff_toNat_le.mp

/-- Small letters stand from `a` to `z`. -/
theorem toNat_mem_of_isLower {c : Char} (h : c.isLower = true) :
    'a'.toNat ≤ c.toNat ∧ c.toNat ≤ 'z'.toNat := by
  have hrange : (decide ('a'.val ≤ c.val) && decide (c.val ≤ 'z'.val)) = true := h
  rw [Bool.and_eq_true, decide_eq_true_eq, decide_eq_true_eq] at hrange
  exact hrange.imp UInt32.le_iff_toNat_le.mp UInt32.le_iff_toNat_le.mp

/-- A character is the one so far behind the first of its class. -/
theorem ofNat_add_toNat_sub {first c : Char} (h : first.toNat ≤ c.toNat) :
    Char.ofNat (first.toNat + (c.toNat - first.toNat)) = c := by
  rw [Nat.add_sub_cancel' h, Char.ofNat_toNat]

/-- A character of the alphabet is what is written for its number. -/
theorem sextetChar_of_sextet? {c : Char} {n : Nat} (h : sextet? c = some n) :
    n < 64 ∧ sextetChar n = c := by
  have hranges : 'A'.toNat = 65 ∧ 'Z'.toNat = 90 ∧ 'a'.toNat = 97 ∧ 'z'.toNat = 122 ∧
      '0'.toNat = 48 ∧ '9'.toNat = 57 := by decide
  unfold sextet? at h
  split at h
  · next hupper =>
    obtain ⟨hfirst, hlast⟩ := toNat_mem_of_isUpper hupper
    cases h
    refine ⟨by omega, ?_⟩
    rw [sextetChar, if_pos (by omega), ofNat_add_toNat_sub hfirst]
  · split at h
    · next hlower =>
      obtain ⟨hfirst, hlast⟩ := toNat_mem_of_isLower hlower
      cases h
      refine ⟨by omega, ?_⟩
      rw [sextetChar, if_neg (by omega), if_pos (by omega), Nat.add_sub_cancel,
        ofNat_add_toNat_sub hfirst]
    · split at h
      · next hdigit =>
        obtain ⟨hfirst, hlast⟩ := Char.isDigit_iff_toNat.mp hdigit
        cases h
        refine ⟨by omega, ?_⟩
        rw [sextetChar, if_neg (by omega), if_neg (by omega), if_pos (by omega),
          Nat.add_sub_cancel, ofNat_add_toNat_sub hfirst]
      · -- one of the two signs
        split at h
        · next hplus =>
          cases h
          exact ⟨by decide, hplus.symm⟩
        · split at h
          · next hslash =>
            cases h
            exact ⟨by decide, hslash.symm⟩
          · cases h

/-! ## Groups -/

section Groups

variable {group : List Nat} {bytes : List UInt8}

theorem length_of_bytesOfSextets? (h : bytesOfSextets? group = some bytes) :
    0 < bytes.length ∧ group.length = bytes.length + 1 := by
  unfold bytesOfSextets? at h
  split at h
  · obtain ⟨-, hbytes⟩ := Option.ite_none_right_eq_some.mp h
    cases hbytes
    exact ⟨Nat.succ_pos _, rfl⟩
  · obtain ⟨-, hbytes⟩ := Option.ite_none_right_eq_some.mp h
    cases hbytes
    exact ⟨Nat.succ_pos _, rfl⟩
  · cases h
    exact ⟨Nat.succ_pos _, rfl⟩
  · cases h

/-- Bytes are written as the sextets that they were read from: all bits are in the bytes, but for
those left over, and these are zero. -/
theorem sextetsOfBytes_of_bytesOfSextets? (hlt : ∀ n ∈ group, n < 64)
    (h : bytesOfSextets? group = some bytes) : sextetsOfBytes bytes = group := by
  unfold bytesOfSextets? at h
  split at h
  · next p q =>
    obtain ⟨hzero, hbytes⟩ := Option.ite_none_right_eq_some.mp h
    cases hbytes
    simp only [List.forall_mem_cons] at hlt
    simp only [sextetsOfBytes, UInt8.toNat_ofNat', List.cons.injEq, and_true]
    omega
  · next p q r =>
    obtain ⟨hzero, hbytes⟩ := Option.ite_none_right_eq_some.mp h
    cases hbytes
    simp only [List.forall_mem_cons] at hlt
    simp only [sextetsOfBytes, UInt8.toNat_ofNat', List.cons.injEq, and_true]
    omega
  · next p q r s =>
    cases h
    simp only [List.forall_mem_cons] at hlt
    simp only [sextetsOfBytes, UInt8.toNat_ofNat', List.cons.injEq, and_true]
    omega
  · cases h

/-- Bytes read group by group, all but the last from four sextets, are in groups of three. -/
theorem chunks_bytes {sextets : List Nat} {groups : List (List UInt8)}
    (h : (chunks 4 sextets).mapM bytesOfSextets? = some groups) :
    chunks 3 groups.flatten = groups := by
  refine chunks_flatten ?_ ?_
  · intro bytes hbytes
    obtain ⟨group, hgroup, hread⟩ := Json.exists_of_mem_mapM (Json.mapM_dropLast h) hbytes
    have hlength := length_of_mem_dropLast_chunks hgroup
    have := (length_of_bytesOfSextets? hread).2
    omega
  · intro bytes hbytes
    obtain ⟨group, hgroup, hread⟩ := Json.exists_of_mem_mapM h hbytes
    have hlength := length_of_mem_chunks hgroup
    have := length_of_bytesOfSextets? hread
    omega

end Groups

/-! ## Texts -/

/-- The bytes of a text without padding. -/
def decodeData? (data : List Char) : Option (List UInt8) := do
  let sextets ← data.mapM sextet?
  let groups ← (chunks 4 sextets).mapM bytesOfSextets?
  return groups.flatten

/-- What is read as bytes is written for them. -/
theorem toList_encode_of_decodeData? {data : List Char} {bytes : List UInt8}
    (h : decodeData? data = some bytes) : (encode bytes).toList = data := by
  simp only [decodeData?, Option.bind_eq_bind, Option.bind_eq_some_iff] at h
  obtain ⟨sextets, hsextets, groups, hgroups, hbytes⟩ := h
  cases hbytes
  have hlt : ∀ n ∈ sextets, n < 64 := by
    intro n hn
    obtain ⟨c, -, hc⟩ := Json.exists_of_mem_mapM hsextets hn
    exact (sextetChar_of_sextet? hc).1
  have hdata : sextets.map sextetChar = data :=
    Json.map_of_mapM hsextets fun c _ n hc => (sextetChar_of_sextet? hc).2
  have hback : groups.map sextetsOfBytes = chunks 4 sextets := by
    refine Json.map_of_mapM hgroups fun group hgroup bytes hread => ?_
    refine sextetsOfBytes_of_bytesOfSextets? (fun n hn => hlt n ?_) hread
    rw [← flatten_chunks 4 sextets]
    exact List.mem_flatten_of_mem hgroup hn
  rw [encode, String.toList_ofList, chunks_bytes hgroups, ← List.map_flatMap, List.flatMap_def, hback,
    flatten_chunks, hdata]

/-! ## Padding -/

/-- True of a text with padding behind it: some or all of what completes its last group of four. -/
def IsPadded (bare text : String) : Prop :=
  ∃ padding room, padding ≤ room ∧ room < 4 ∧ 4 ∣ bare.toList.length + room ∧
    text.toList = bare.toList ++ List.replicate padding '='

theorem isPadded_iff {bare text : String} :
    IsPadded bare text ↔ ∃ padding ≤ paddingRoom bare.toList.length,
      text.toList = bare.toList ++ List.replicate padding '=' := by
  constructor
  · rintro ⟨padding, room, hle, hlt, hgroup, htext⟩
    refine ⟨padding, ?_, htext⟩
    rw [paddingRoom]
    omega
  · rintro ⟨padding, hle, htext⟩
    refine ⟨padding, _, hle, ?_, ?_, htext⟩
    · exact Nat.mod_lt _ (by decide)
    · rw [paddingRoom]
      omega

/-- Padding is looked at by itself, and the text in front of it is read as if there were none. -/
theorem decode?_eq_some_iff_split {text : String} {bytes : List UInt8} :
    decode? text = some bytes ↔
      decodeData? (text.toList.takeWhile fun c => c != '=') = some bytes ∧
      ∃ padding ≤ paddingRoom (text.toList.takeWhile fun c => c != '=').length,
        (text.toList.dropWhile fun c => c != '=') = List.replicate padding '=' := by
  rw [decode?, Option.ite_none_right_eq_some, Bool.and_eq_true, List.all_eq_true, decide_eq_true_eq,
    and_comm]
  refine and_congr Iff.rfl ?_
  constructor
  · rintro ⟨hall, hle⟩
    exact ⟨_, hle, List.eq_replicate_of_mem fun c hc => beq_iff_eq.mp (hall c hc)⟩
  · rintro ⟨padding, hle, hpadding⟩
    rw [hpadding, List.length_replicate]
    exact ⟨fun c hc => beq_iff_eq.mpr (List.eq_of_mem_replicate hc), hle⟩

/-- What is written holds no padding. -/
theorem takeWhile_encode (bytes : List UInt8) :
    ((encode bytes).toList.takeWhile fun c => c != '=') = (encode bytes).toList :=
  (toList_encode_of_decodeData? (decode?_eq_some_iff_split.mp (decode?_encode bytes)).1).symm

theorem decodeData?_encode (bytes : List UInt8) :
    decodeData? (encode bytes).toList = some bytes := by
  rw [← takeWhile_encode]
  exact (decode?_eq_some_iff_split.mp (decode?_encode bytes)).1

/-- A text is read as bytes exactly if it is what is written for them, up to padding. -/
theorem decode?_eq_some_iff {text : String} {bytes : List UInt8} :
    decode? text = some bytes ↔ IsPadded (encode bytes) text := by
  rw [decode?_eq_some_iff_split, isPadded_iff]
  constructor
  · rintro ⟨hdata, padding, hle, hpadding⟩
    rw [← toList_encode_of_decodeData? hdata] at hle
    refine ⟨padding, hle, ?_⟩
    rw [toList_encode_of_decodeData? hdata, ← hpadding, List.takeWhile_append_dropWhile]
  · rintro ⟨padding, hle, htext⟩
    have hbare : ∀ c ∈ (encode bytes).toList, (c != '=') = true :=
      List.takeWhile_eq_self_iff.mp (takeWhile_encode bytes)
    have htake : (text.toList.takeWhile fun c => c != '=') = (encode bytes).toList := by
      rw [htext, List.takeWhile_append_of_pos hbare, List.takeWhile_replicate,
        if_neg (by decide), List.append_nil]
    have hdrop : (text.toList.dropWhile fun c => c != '=') = List.replicate padding '=' := by
      rw [htext, List.dropWhile_append_of_pos hbare, List.dropWhile_replicate, if_neg (by decide)]
    rw [htake, hdrop]
    exact ⟨decodeData?_encode bytes, padding, hle, rfl⟩

theorem encode_injective : Function.Injective encode := by
  intro bytes others h
  have hread := decode?_encode bytes
  rw [h, decode?_encode] at hread
  exact (Option.some.inj hread).symm

/-- A text without the padding at its end. -/
def unpadded (text : String) : List Char :=
  trimEndOf (fun c => c == '=') text.toList

theorem unpadded_of_isPadded {text : String} {bytes : List UInt8}
    (h : IsPadded (encode bytes) text) : unpadded text = (encode bytes).toList := by
  obtain ⟨padding, -, htext⟩ := isPadded_iff.mp h
  have hbare : ((encode bytes).toList.reverse.dropWhile fun c => c == '=') =
      (encode bytes).toList.reverse := by
    refine List.dropWhile_eq_self_iff.mpr fun hpos => ?_
    have hfirst := List.takeWhile_eq_self_iff.mp (takeWhile_encode bytes) _
      (List.mem_reverse.mp (List.getElem_mem hpos))
    simpa using hfirst
  rw [unpadded, trimEndOf, htext, List.reverse_append, List.reverse_replicate,
    List.dropWhile_append_of_pos (fun c hc => beq_iff_eq.mpr (List.eq_of_mem_replicate hc)), hbare,
    List.reverse_reverse]

end SqlStream.Text.Base64
