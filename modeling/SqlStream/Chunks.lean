/-!
# Chunks of a list

A list cut into pieces of equal length, the last of which may be shorter.
-/

namespace SqlStream

/-- The pieces of a list that are `size + 1` long, the last one possibly shorter, and none empty. -/
def chunksOfSucc {α : Type _} (size : Nat) (xs : List α) : List (List α) :=
  (go xs []).reverse
where
  go (xs : List α) (found : List (List α)) : List (List α) :=
    match xs with
    | [] => found
    | x :: rest => go (rest.drop size) ((x :: rest.take size) :: found)
  termination_by xs.length
  decreasing_by
    simp only [List.length_drop, List.length_cons]
    omega

/-- The pieces of a list of the given size; a size of zero counts as one. -/
def chunks {α : Type _} (size : Nat) (xs : List α) : List (List α) :=
  chunksOfSucc (size - 1) xs

theorem chunksOfSucc_go {α : Type _} (size : Nat) (xs : List α) (found : List (List α)) :
    chunksOfSucc.go size xs found = (chunksOfSucc size xs).reverse ++ found := by
  suffices h : ∀ n, ∀ xs : List α, xs.length ≤ n →
      ∀ found, chunksOfSucc.go size xs found = chunksOfSucc.go size xs [] ++ found by
    simpa [chunksOfSucc] using h xs.length xs (Nat.le_refl _) found
  intro n
  induction n with
  | zero =>
    intro xs hs found
    have : xs = [] := List.eq_nil_of_length_eq_zero (by omega)
    subst this
    simp [chunksOfSucc.go]
  | succ n ih =>
    intro xs hs found
    cases xs with
    | nil => simp [chunksOfSucc.go]
    | cons x rest =>
      have hlen : (rest.drop size).length ≤ n := by
        simp at hs ⊢
        omega
      rw [chunksOfSucc.go, chunksOfSucc.go, ih _ hlen, ih _ hlen [_]]
      simp

@[simp] theorem chunksOfSucc_nil {α : Type _} (size : Nat) :
    chunksOfSucc size ([] : List α) = [] := by
  simp [chunksOfSucc, chunksOfSucc.go]

theorem chunksOfSucc_cons {α : Type _} (size : Nat) (x : α) (rest : List α) :
    chunksOfSucc size (x :: rest) =
      (x :: rest.take size) :: chunksOfSucc size (rest.drop size) := by
  rw [chunksOfSucc, chunksOfSucc.go]
  simp [chunksOfSucc_go]

/-- Induction along the pieces of a list. -/
theorem chunksOfSucc_induction {α : Type _} {size : Nat} {motive : List α → List (List α) → Prop}
    (nil : motive [] [])
    (cons : ∀ x rest, motive (rest.drop size) (chunksOfSucc size (rest.drop size)) →
      motive (x :: rest) ((x :: rest.take size) :: chunksOfSucc size (rest.drop size)))
    (xs : List α) : motive xs (chunksOfSucc size xs) := by
  match xs with
  | [] =>
    rw [chunksOfSucc_nil]
    exact nil
  | x :: rest =>
    rw [chunksOfSucc_cons]
    exact cons x rest (chunksOfSucc_induction nil cons (rest.drop size))
termination_by xs.length
decreasing_by
  simp only [List.length_drop, List.length_cons]
  omega

/-! ## Chunks are the list, cut -/

/-- The chunks put together are the list. -/
theorem flatten_chunks {α : Type _} (size : Nat) (xs : List α) : (chunks size xs).flatten = xs := by
  unfold chunks
  induction xs using @chunksOfSucc_induction _ (size - 1) with
  | nil => rfl
  | cons x rest ih => rw [List.flatten_cons, ih, List.cons_append, List.take_append_drop]

/-- Chunks are neither empty nor longer than the given size. -/
theorem length_of_mem_chunks {α : Type _} {size : Nat} {xs chunk : List α}
    (h : chunk ∈ chunks size xs) : 0 < chunk.length ∧ chunk.length ≤ max size 1 := by
  unfold chunks at h
  induction xs using @chunksOfSucc_induction _ (size - 1) with
  | nil => cases h
  | cons x rest ih =>
    rcases List.mem_cons.mp h with rfl | h
    · rw [List.length_cons, List.length_take]
      omega
    · exact ih h

/-- Chunks that others follow have the given size. -/
theorem length_of_mem_dropLast_chunks {α : Type _} {size : Nat} {xs chunk : List α}
    (h : chunk ∈ (chunks size xs).dropLast) : chunk.length = max size 1 := by
  unfold chunks at h
  induction xs using @chunksOfSucc_induction _ (size - 1) with
  | nil => cases h
  | cons x rest ih =>
    cases hrest : chunksOfSucc (size - 1) (rest.drop (size - 1)) with
    | nil =>
      rw [hrest] at h
      cases h
    | cons next others =>
      rw [hrest, List.dropLast_cons_cons] at h
      rcases List.mem_cons.mp h with rfl | h
      · have hlong : size - 1 < rest.length := by
          refine Nat.lt_of_not_le fun hle => ?_
          rw [List.drop_eq_nil_of_le hle, chunksOfSucc_nil] at hrest
          cases hrest
        rw [List.length_cons, List.length_take]
        omega
      · exact ih (by rwa [hrest])

/-- A piece of full length in front of a list is the first of its chunks. -/
theorem chunks_append {α : Type _} {size : Nat} {piece : List α} (h : piece.length = size)
    (hpos : 0 < size) (xs : List α) : chunks size (piece ++ xs) = piece :: chunks size xs := by
  cases piece with
  | nil =>
    subst h
    cases hpos
  | cons x piece =>
    have hsize : size - 1 = piece.length := by
      rw [List.length_cons] at h
      omega
    rw [chunks, chunks, hsize, List.cons_append, chunksOfSucc_cons, List.take_left, List.drop_left]

/-- A list that is not empty and no longer than a chunk is one chunk. -/
theorem chunks_eq_singleton {α : Type _} {size : Nat} {xs : List α} (hpos : 0 < xs.length)
    (h : xs.length ≤ size) : chunks size xs = [xs] := by
  cases xs with
  | nil => cases hpos
  | cons x xs =>
    rw [List.length_cons] at h
    rw [chunks, chunksOfSucc_cons, List.take_of_length_le (by omega), List.drop_of_length_le (by omega),
      chunksOfSucc_nil]

/-- Pieces that are not empty, the last one of which may be shorter than the given size, are the
chunks of the list that they make up. -/
theorem chunks_flatten {α : Type _} {size : Nat} {pieces : List (List α)}
    (hfull : ∀ piece ∈ pieces.dropLast, piece.length = size)
    (hpieces : ∀ piece ∈ pieces, 0 < piece.length ∧ piece.length ≤ size) :
    chunks size pieces.flatten = pieces := by
  induction pieces with
  | nil => exact chunksOfSucc_nil _
  | cons piece pieces ih =>
    obtain ⟨⟨hpos, hle⟩, hrest⟩ := List.forall_mem_cons.mp hpieces
    rw [List.flatten_cons]
    cases pieces with
    | nil => rw [List.flatten_nil, List.append_nil, chunks_eq_singleton hpos hle]
    | cons next others =>
      rw [List.dropLast_cons_cons] at hfull
      obtain ⟨hpiece, hothers⟩ := List.forall_mem_cons.mp hfull
      rw [chunks_append hpiece (Nat.lt_of_lt_of_le hpos hle), ih hothers hrest]

/-! ## The first chunks of a list -/

/-- The first chunks put together are the front of the list. -/
theorem flatten_prefix_of_prefix_chunks {α : Type _} {size : Nat} {xs : List α}
    {first : List (List α)} (h : first <+: chunks size xs) : first.flatten <+: xs := by
  obtain ⟨rest, hrest⟩ := h
  refine ⟨rest.flatten, ?_⟩
  rw [← List.flatten_append, hrest, flatten_chunks]

/-- The first chunks are all chunks if they hold the whole list. -/
theorem length_eq_of_prefix_chunks_iff {α : Type _} {size : Nat} {xs : List α}
    {first : List (List α)} (h : first <+: chunks size xs) :
    first.length = (chunks size xs).length ↔ first.flatten = xs := by
  constructor
  · intro hlength
    rw [h.eq_of_length hlength, flatten_chunks]
  · intro hflatten
    obtain ⟨rest, hrest⟩ := h
    have hnil : rest.flatten = [] := by
      have hwhole := flatten_chunks size xs
      rw [← hrest, List.flatten_append, hflatten] at hwhole
      exact List.append_right_eq_self.mp hwhole
    cases rest with
    | nil => rw [← hrest, List.append_nil]
    | cons chunk rest =>
      -- a further chunk would hold something, because chunks are not empty
      have hmem : chunk ∈ chunks size xs := by
        rw [← hrest]
        exact List.mem_append_right _ List.mem_cons_self
      have hpos := (length_of_mem_chunks hmem).1
      rw [List.flatten_cons, List.append_eq_nil_iff] at hnil
      rw [hnil.1] at hpos
      exact absurd hpos (Nat.lt_irrefl 0)

/-- Of the first chunks, all but the last have the given size. -/
theorem length_of_mem_dropLast_of_prefix_chunks {α : Type _} {size : Nat} {xs chunk : List α}
    {first : List (List α)} (h : first <+: chunks size xs) (hmem : chunk ∈ first.dropLast) :
    chunk.length = max size 1 := by
  obtain ⟨rest, hrest⟩ := h
  suffices hchunk : chunk ∈ (chunks size xs).dropLast from length_of_mem_dropLast_chunks hchunk
  rw [← hrest]
  by_cases hnil : rest = []
  · rwa [hnil, List.append_nil]
  · rw [List.dropLast_append_of_ne_nil hnil]
    exact List.mem_append_left _ ((List.dropLast_prefix first).subset hmem)

end SqlStream
