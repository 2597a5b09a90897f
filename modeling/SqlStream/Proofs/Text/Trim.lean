import Mathlib.Data.List.DropRight
import SqlStream.Text.Trim

/-!
# What trimming leaves

Trimming leaves a part of the text. A text without white space at its ends is left whole
(`HasBareEnds`), and words at the ends are dropped exactly if they stand there.
-/

namespace SqlStream.Text

variable {p : Char → Bool} {s t word : List Char}

/-! ## Trimming -/

/-- What is trimmed at the end begins the text. -/
theorem trimEndOf_prefix_self (p : Char → Bool) (s : List Char) : trimEndOf p s <+: s :=
  s.rdropWhile_prefix p

/-- Trimming a second time changes nothing. -/
theorem trimEndOf_trimEndOf (p : Char → Bool) (s : List Char) :
    trimEndOf p (trimEndOf p s) = trimEndOf p s :=
  List.rdropWhile_idempotent p s

/-- A text is not trimmed at an end that stays. -/
theorem trimEndOf_concat_of_not {c : Char} (hc : p c = false) (s : List Char) :
    trimEndOf p (s ++ [c]) = s ++ [c] :=
  List.rdropWhile_concat_neg p s c (by simp [hc])

/-- Of two texts, the first is trimmed only if nothing of the second stays. -/
theorem trimEndOf_append (p : Char → Bool) (s t : List Char) :
    trimEndOf p (s ++ t) = if t.all p then trimEndOf p s else s ++ trimEndOf p t := by
  induction t using List.reverseRecOn with
  | nil => simp
  | append_singleton t c ih =>
    rw [← List.append_assoc]
    by_cases hc : p c = true
    · have hdrop : ∀ r, trimEndOf p (r ++ [c]) = trimEndOf p r := fun r =>
        List.rdropWhile_concat_pos p r c hc
      rw [hdrop, hdrop, ih]
      simp [hc]
    · rw [trimEndOf_concat_of_not (by simpa using hc), trimEndOf_concat_of_not (by simpa using hc)]
      simp [hc]

/-- Nothing stays exactly if all can go. -/
theorem trimEndOf_eq_nil_iff : trimEndOf p s = [] ↔ ∀ c ∈ s, p c = true :=
  List.rdropWhile_eq_nil_iff

/-- A first character that stays keeps its place in front. -/
theorem trimEndOf_cons_of_not {c : Char} (hc : p c = false) (s : List Char) :
    trimEndOf p (c :: s) = c :: trimEndOf p s := by
  have hc' : trimEndOf p [c] = [c] := trimEndOf_concat_of_not hc []
  rw [← List.singleton_append, trimEndOf_append]
  split
  · next hall => rw [(trimEndOf_eq_nil_iff (s := s)).mpr (by simpa using hall), hc']
  · rfl

/-- A part of a text is no longer than the text, when both are trimmed. -/
theorem length_trimEndOf_mono (h : t <:+: s) :
    (trimEndOf p t).length ≤ (trimEndOf p s).length := by
  obtain ⟨before, behind, rfl⟩ := h
  have hbefore : (trimEndOf p t).length ≤ (trimEndOf p (before ++ t)).length := by
    rw [trimEndOf_append]
    split
    · next hall =>
      rw [trimEndOf_eq_nil_iff.mpr (by simpa using hall)]
      exact Nat.zero_le _
    · simp
  refine hbefore.trans ?_
  rw [trimEndOf_append p (before ++ t)]
  split
  · exact Nat.le_refl _
  · have := (trimEndOf_prefix_self p (before ++ t)).length_le
    rw [List.length_append]
    omega

/-- What stays is a part of the text. -/
theorem trimSpace_infix_self (s : List Char) : trimSpace s <:+: s :=
  (trimEndOf_prefix_self _ _).isInfix.trans (List.dropWhile_suffix _).isInfix

/-- White space at the end does not matter. -/
theorem trimSpace_concat_of_isWhiteSpace {c : Char} (hc : isWhiteSpace c = true) (s : List Char) :
    trimSpace (s ++ [c]) = trimSpace s := by
  unfold trimSpace
  rw [List.dropWhile_append]
  split
  · next hnil => simp [List.isEmpty_iff.mp hnil, hc]
  · exact List.rdropWhile_concat_pos isWhiteSpace _ c hc

/-- White space in front does not matter. -/
theorem trimSpace_cons_of_isWhiteSpace {c : Char} (hc : isWhiteSpace c = true) (s : List Char) :
    trimSpace (c :: s) = trimSpace s := by
  rw [trimSpace, List.dropWhile_cons_of_pos hc, trimSpace]

/-- True of texts without white space at their ends. -/
structure HasBareEnds (s : List Char) : Prop where
  front : ∀ c, s.head? = some c → isWhiteSpace c = false
  last : ∀ c, s.getLast? = some c → isWhiteSpace c = false

/-- A text with bare ends stays as it is. -/
theorem HasBareEnds.trimSpace_eq (h : HasBareEnds s) : trimSpace s = s := by
  have hfront : s.dropWhile isWhiteSpace = s := by
    cases s with
    | nil => rfl
    | cons c s => exact List.dropWhile_cons_of_neg (by simp [h.front c rfl])
  rw [trimSpace, hfront]
  refine List.rdropWhile_eq_self_iff.mpr fun hne => ?_
  simp [h.last _ (List.getLast?_eq_some_getLast hne)]

/-- White space at an end hides more than the characters at the end that may be dropped. -/
theorem length_trimEndOf_trimSpace_lt (hp : ∀ c, isWhiteSpace c = true → p c = false)
    (h : ¬ HasBareEnds s) : (trimEndOf p (trimSpace s)).length < (trimEndOf p s).length := by
  by_cases hlast : ∃ c, s.getLast? = some c ∧ isWhiteSpace c = true
  · obtain ⟨c, hc, hspace⟩ := hlast
    obtain ⟨s, rfl⟩ := List.getLast?_eq_some_iff.mp hc
    rw [trimEndOf_concat_of_not (hp c hspace), trimSpace_concat_of_isWhiteSpace hspace]
    have hspaces := (trimSpace_infix_self s).length_le
    have hdropped := (trimEndOf_prefix_self p (trimSpace s)).length_le
    rw [List.length_append, List.length_singleton]
    omega
  · obtain ⟨c, s, rfl, hspace⟩ : ∃ c rest, s = c :: rest ∧ isWhiteSpace c = true := by
      cases s with
      | nil => exact absurd ⟨by simp, by simp⟩ h
      | cons c s =>
        refine ⟨c, s, rfl, Classical.byContradiction fun hfront => h ⟨?_, fun d hd => ?_⟩⟩
        · simpa using hfront
        · simpa using fun hspace => hlast ⟨d, hd, hspace⟩
    rw [trimSpace_cons_of_isWhiteSpace hspace, trimEndOf_cons_of_not (hp c hspace), List.length_cons]
    have := length_trimEndOf_mono (p := p) (trimSpace_infix_self s)
    omega

/-! ## Words at the ends -/

/-- A text without a word in front is what the word is in front of. -/
theorem dropFront?_eq_some_iff : dropFront? word s = some t ↔ s = word ++ t := by
  unfold dropFront?
  constructor
  · intro h
    split at h
    · next hword =>
      obtain ⟨rest, rfl⟩ := List.isPrefixOf_iff_prefix.mp hword
      simpa using h
    · cases h
  · rintro rfl
    rw [if_pos (List.isPrefixOf_iff_prefix.mpr (List.prefix_append _ _)), List.drop_left]

/-- A text without a word at its end is what the word is behind. -/
theorem dropEnd?_eq_some_iff : dropEnd? word s = some t ↔ s = t ++ word := by
  unfold dropEnd?
  constructor
  · intro h
    split at h
    · next hword =>
      obtain ⟨rest, rfl⟩ := List.isSuffixOf_iff_suffix.mp hword
      simpa using h
    · cases h
  · rintro rfl
    rw [if_pos (List.isSuffixOf_iff_suffix.mpr (List.suffix_append _ _))]
    simp

end SqlStream.Text
