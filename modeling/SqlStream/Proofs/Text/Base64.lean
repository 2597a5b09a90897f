import Mathlib.Data.List.TakeWhile
import SqlStream.Proofs.Json.Members
import SqlStream.Text.Base64

/-!
# Bytes from their base64 text

Every byte sequence is read back from its text. Three bytes make four sextets, and the bits that a
shorter last group leaves over are zero, so the groups of sextets are those that the groups of bytes
were written as (`chunks_sextets`), each read back by itself (`bytesOfSextets?_sextetsOfBytes`).
-/

namespace SqlStream.Text.Base64

/-! ## Characters and sextets -/

/-- A sextet is read from the character that is written for it. -/
theorem sextet?_sextetChar {n : Nat} (h : n < 64) : sextet? (sextetChar n) = some n := by
  revert n
  decide

/-- No sextet is written as padding. -/
theorem sextetChar_ne_padding {n : Nat} (h : n < 64) : sextetChar n ≠ '=' := by
  revert n
  decide

/-- A sextet has six bits. -/
theorem lt_of_mem_sextetsOfBytes {group : List UInt8} {n : Nat} (h : n ∈ sextetsOfBytes group) :
    n < 64 := by
  have hbyte : ∀ a : UInt8, a.toNat < 256 := UInt8.toNat_lt
  unfold sextetsOfBytes at h
  split at h
  · rename_i a
    have := hbyte a
    simp at h
    omega
  · rename_i a b
    have := hbyte a
    have := hbyte b
    simp at h
    omega
  · rename_i a b c
    have := hbyte a
    have := hbyte b
    have := hbyte c
    simp at h
    omega
  · cases h

/-! ## Groups -/

/-- One to three bytes are read back from their sextets. -/
theorem bytesOfSextets?_sextetsOfBytes {group : List UInt8} (hpos : 0 < group.length)
    (hle : group.length ≤ 3) : bytesOfSextets? (sextetsOfBytes group) = some group := by
  have hbyte : ∀ (a : UInt8) (n : Nat), n = a.toNat → UInt8.ofNat n = a := by
    rintro a _ rfl
    exact UInt8.ofNat_toNat
  match group, hpos, hle with
  | [a], _, _ =>
    have := a.toNat_lt
    simp only [sextetsOfBytes, bytesOfSextets?]
    rw [if_pos (by omega), hbyte a _ (by omega)]
  | [a, b], _, _ =>
    have := a.toNat_lt
    have := b.toNat_lt
    simp only [sextetsOfBytes, bytesOfSextets?]
    rw [if_pos (by omega), hbyte a _ (by omega), hbyte b _ (by omega)]
  | [a, b, c], _, _ =>
    have := a.toNat_lt
    have := b.toNat_lt
    have := c.toNat_lt
    simp only [sextetsOfBytes, bytesOfSextets?]
    rw [hbyte a _ (by omega), hbyte b _ (by omega), hbyte c _ (by omega)]

/-- A group of bytes has one sextet more than bytes. -/
theorem length_sextetsOfBytes {group : List UInt8} (hpos : 0 < group.length)
    (hle : group.length ≤ 3) : (sextetsOfBytes group).length = group.length + 1 := by
  match group, hpos, hle with
  | [_], _, _ | [_, _], _, _ | [_, _, _], _, _ => rfl

/-- The sextets of bytes, in groups of four, are those of the bytes in groups of three. -/
theorem chunks_sextets (bytes : List UInt8) :
    chunks 4 ((chunks 3 bytes).flatMap sextetsOfBytes) = (chunks 3 bytes).map sextetsOfBytes := by
  rw [List.flatMap_def]
  refine chunks_flatten ?_ ?_
  · intro sextets hmem
    rw [← List.map_dropLast] at hmem
    obtain ⟨group, hgroup, rfl⟩ := List.mem_map.mp hmem
    have hlength : group.length = 3 := length_of_mem_dropLast_chunks hgroup
    rw [length_sextetsOfBytes (by omega) (by omega), hlength]
  · intro sextets hmem
    obtain ⟨group, hgroup, rfl⟩ := List.mem_map.mp hmem
    obtain ⟨hpos, hle⟩ := length_of_mem_chunks hgroup
    rw [length_sextetsOfBytes hpos hle]
    exact ⟨Nat.succ_pos _, Nat.succ_le_succ hle⟩

/-- Every byte sequence is read back from its text. -/
theorem decode?_encode (bytes : List UInt8) : decode? (encode bytes) = some bytes := by
  have hlt : ∀ n ∈ (chunks 3 bytes).flatMap sextetsOfBytes, n < 64 := by
    intro n hn
    obtain ⟨group, -, hmem⟩ := List.mem_flatMap.mp hn
    exact lt_of_mem_sextetsOfBytes hmem
  have htext : (encode bytes).toList = ((chunks 3 bytes).flatMap sextetsOfBytes).map sextetChar := by
    rw [encode, String.toList_ofList, List.map_flatMap]
  have hdata : ∀ c ∈ (encode bytes).toList, (c != '=') = true := by
    intro c hc
    rw [htext] at hc
    obtain ⟨n, hn, rfl⟩ := List.mem_map.mp hc
    exact bne_iff_ne.mpr (sextetChar_ne_padding (hlt n hn))
  have hsextets : (encode bytes).toList.mapM sextet? =
      some ((chunks 3 bytes).flatMap sextetsOfBytes) := by
    rw [Json.mapM_eq_some_iff, htext, List.map_map]
    exact List.map_congr_left fun n hn => sextet?_sextetChar (hlt n hn)
  have hgroups : ((chunks 3 bytes).map sextetsOfBytes).mapM bytesOfSextets? =
      some (chunks 3 bytes) := by
    rw [Json.mapM_eq_some_iff, List.map_map]
    refine List.map_congr_left fun group hgroup => ?_
    obtain ⟨hpos, hle⟩ := length_of_mem_chunks hgroup
    exact bytesOfSextets?_sextetsOfBytes hpos hle
  -- no character is padding
  have htake : (encode bytes).toList.takeWhile (fun c => c != '=') = (encode bytes).toList :=
    List.takeWhile_eq_self_iff.mpr hdata
  have hdrop : (encode bytes).toList.dropWhile (fun c => c != '=') = [] :=
    List.dropWhile_eq_nil_iff.mpr hdata
  rw [decode?, htake, hdrop, hsextets]
  simp [chunks_sextets, hgroups, flatten_chunks]

end SqlStream.Text.Base64
