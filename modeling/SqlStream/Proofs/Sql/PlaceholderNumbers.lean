import Mathlib.Data.List.Sort
import SqlStream.Proofs.Sql.Placeholders

/-!
# Numbers of placeholders

A placeholder without a name has a number: the one it is written with, or one more than the largest
before it. The indices that `Placeholders.read` collects are these numbers, each once and in
ascending order. If all placeholders of a statement are bare, they are numbered from one on.
-/

namespace SqlStream.Sql

open SqlStream.Text

/-! ## Numbers -/

/-- The numbers of placeholders, where `highest` is the largest number before them. Those with a
name have none. -/
def Placeholder.numbers (highest : Nat) : List Placeholder → List (Option Nat)
  | [] => []
  | .anonymous :: rest => some (highest + 1) :: numbers (highest + 1) rest
  | .indexed index :: rest => some index :: numbers (max highest index) rest
  | .named _ :: rest => none :: numbers highest rest

/-- The tokens that are placeholders. -/
def parameterTokens (source : List Token) : List Token :=
  source.filter fun token => token.kind = .parameter

/-- The placeholders that texts are read as, without those that cannot be read. -/
def readTexts (texts : List (List Char)) : List Placeholder :=
  texts.filterMap fun text => (Placeholder.read text).toOption

/-- The numbers of the placeholders of a statement, one after another. -/
def placeholderNumbers (parameters : List Token) : List (Option Nat) :=
  Placeholder.numbers 0 (readTexts (parameters.map fun token => token.text.toList))

@[simp] theorem parameterTokens_append (source other : List Token) :
    parameterTokens (source ++ other) = parameterTokens source ++ parameterTokens other :=
  List.filter_append ..

/-- The texts that are read are those of the parameter tokens. -/
theorem parameterTexts_eq (offset : Nat) (xs : List Lexeme) :
    Placeholders.parameterTexts xs =
      (parameterTokens (tokensFrom offset xs)).map fun token => token.text.toList := by
  induction xs generalizing offset with
  | nil => rfl
  | cons x xs ih =>
    rw [tokensFrom_cons, parameterTokens_append, List.map_append, ← ih,
      Placeholders.parameterTexts, List.filterMap_cons]
    cases hkind : x.tokenKind? with
    | none => simp [Lexeme.tokenAt?, hkind, parameterTokens, Placeholders.parameterTexts]
    | some kind =>
      by_cases hparameter : kind = .parameter
      · simp [Lexeme.tokenAt?, hkind, hparameter, parameterTokens, Placeholders.parameterTexts]
      · simp [Lexeme.tokenAt?, hkind, hparameter, parameterTokens, Placeholders.parameterTexts]

/-! ## Each number once -/

theorem eraseRepsBy_loop {first : Nat} {rest : List Nat}
    (hsorted : (first :: rest).Pairwise (· ≤ ·)) (acc : List Nat) :
    ∃ kept, List.eraseRepsBy.loop (· == ·) first rest acc = acc.reverse ++ first :: kept ∧
      (first :: kept).Pairwise (· < ·) ∧ ∀ n, n ∈ first :: kept ↔ n ∈ first :: rest := by
  induction rest generalizing first acc with
  | nil => exact ⟨[], by simp [List.eraseRepsBy.loop], List.pairwise_singleton _ _, by simp⟩
  | cons next rest ih =>
    obtain ⟨hfirst, hrest⟩ := List.pairwise_cons.mp hsorted
    rw [List.eraseRepsBy.loop]
    by_cases heq : first = next
    · -- the same number again is left out
      subst heq
      obtain ⟨kept, hloop, hkept, hmem⟩ := ih hrest acc
      exact ⟨kept, by simpa using hloop, hkept, fun n => by rw [hmem n]; simp⟩
    · obtain ⟨kept, hloop, hkept, hmem⟩ := ih hrest (first :: acc)
      have hlt : first < next := Nat.lt_of_le_of_ne (hfirst next List.mem_cons_self) heq
      refine ⟨next :: kept, ?_, List.pairwise_cons.mpr ⟨fun n hn => ?_, hkept⟩, fun n => ?_⟩
      · rw [beq_false_of_ne heq]
        simpa using hloop
      · have hnext := List.pairwise_cons.mp hrest
        rcases List.mem_cons.mp ((hmem n).mp hn) with rfl | hn
        · exact hlt
        · exact Nat.lt_of_lt_of_le hlt (hnext.1 n hn)
      · rw [List.mem_cons, hmem n, List.mem_cons (a := n) (b := first)]

/-- Without repetitions a sorted list is strictly sorted and has the same members. -/
theorem eraseReps_of_pairwise {numbers : List Nat} (hsorted : numbers.Pairwise (· ≤ ·)) :
    numbers.eraseReps.Pairwise (· < ·) ∧ ∀ n, n ∈ numbers.eraseReps ↔ n ∈ numbers := by
  cases numbers with
  | nil => exact ⟨.nil, fun n => Iff.rfl⟩
  | cons first rest =>
    obtain ⟨kept, hloop, hkept, hmem⟩ := eraseRepsBy_loop hsorted []
    have heq : (first :: rest).eraseReps = first :: kept := hloop
    exact heq ▸ ⟨hkept, hmem⟩

namespace Placeholders

/-- The indices of a census, each once and in ascending order. -/
theorem indices_ofCensus (census : Census) :
    (ofCensus census).indices.Pairwise (· < ·) ∧
      ∀ n, n ∈ (ofCensus census).indices ↔ n ∈ census.indices := by
  have hsorted : (census.indices.mergeSort (· ≤ ·)).Pairwise (· ≤ ·) := by
    have htrans : ∀ a b c : Nat, decide (a ≤ b) = true → decide (b ≤ c) = true →
        decide (a ≤ c) = true := fun a b c hab hbc =>
      decide_eq_true (Nat.le_trans (of_decide_eq_true hab) (of_decide_eq_true hbc))
    have htotal : ∀ a b : Nat, (decide (a ≤ b) || decide (b ≤ a)) = true := fun a b => by
      simpa using Nat.le_total a b
    exact (List.pairwise_mergeSort htrans htotal census.indices).imp of_decide_eq_true
  obtain ⟨hstrict, hmem⟩ := eraseReps_of_pairwise hsorted
  exact ⟨hstrict, fun n => (hmem n).trans List.mem_mergeSort⟩

/-- They are the one ascending list of the numbers that were counted. -/
theorem indices_ofCensus_eq {census : Census} {indices : List Nat}
    (hsorted : indices.Pairwise (· < ·)) (hsub : ∀ n ∈ indices, n ∈ census.indices)
    (hall : ∀ n ∈ census.indices, n ∈ indices) : (ofCensus census).indices = indices := by
  obtain ⟨hstrict, hmem⟩ := indices_ofCensus census
  exact hstrict.eq_of_mem_iff hsorted fun n => (hmem n).trans ⟨hall n, hsub n⟩

/-- What is counted in a statement from left to right. -/
def census (sql : String) : Except ParameterFault Census :=
  (parameterTexts (lexemes sql.toList)).foldlM
    (fun census text => do census.add (← Placeholder.read text)) ⟨0, [], []⟩

/-- A statement whose census is known has the placeholders that it counted. -/
theorem read_of_census {sql : String} {counted : Census} {indices : List Nat}
    (hcensus : census sql = .ok counted) (hsorted : indices.Pairwise (· < ·))
    (hsub : ∀ n ∈ indices, n ∈ counted.indices) (hall : ∀ n ∈ counted.indices, n ∈ indices) :
    read sql = .ok ⟨indices, counted.names.reverse⟩ := by
  have hread : read sql = .ok (ofCensus counted) := bind_eq_ok_iff.mpr ⟨counted, hcensus, rfl⟩
  rw [hread, ← indices_ofCensus_eq hsorted hsub hall, ofCensus]

/-- A census collects the numbers of the placeholders that it reads. -/
theorem indices_of_foldlM {texts : List (List Char)} {census last : Census}
    (h : texts.foldlM (fun census text => do census.add (← Placeholder.read text)) census =
      .ok last) :
    last.indices =
      ((Placeholder.numbers census.highest (readTexts texts)).filterMap id).reverse ++
        census.indices := by
  induction texts generalizing census with
  | nil =>
    cases h
    rfl
  | cons text texts ih =>
    rw [List.foldlM_cons] at h
    obtain ⟨next, hnext, hrest⟩ := bind_eq_ok_iff.mp h
    obtain ⟨placeholder, hread, hadd⟩ := bind_eq_ok_iff.mp hnext
    have htexts : readTexts (text :: texts) = placeholder :: readTexts texts := by
      rw [readTexts, List.filterMap_cons, hread]
      rfl
    rw [ih hrest, htexts]
    cases placeholder with
    | anonymous =>
      by_cases hroom : census.highest + 1 ≤ maxParameterIndex
      · obtain rfl := Except.ok.inj ((if_pos hroom).symm.trans hadd)
        simp [Placeholder.numbers]
      · cases (if_neg hroom).symm.trans hadd
    | indexed index =>
      cases hadd
      simp [Placeholder.numbers]
    | named name =>
      obtain rfl := Except.ok.inj hadd
      by_cases hseen : census.names.contains name = true
      · rw [if_pos hseen]
        simp [Placeholder.numbers]
      · rw [if_neg hseen]
        simp [Placeholder.numbers]

/-- The indices of a statement are the numbers of its placeholders, each once and in ascending
order. -/
theorem indices_spec {sql : String} {placeholders : Placeholders} (h : read sql = .ok placeholders) :
    placeholders.indices.Pairwise (· < ·) ∧
      ∀ n, n ∈ placeholders.indices ↔ some n ∈ placeholderNumbers (parameterTokens (tokens sql)) := by
  obtain ⟨census, hcensus, hplaceholders⟩ := bind_eq_ok_iff.mp h
  cases hplaceholders
  obtain ⟨hstrict, hmem⟩ := indices_ofCensus census
  refine ⟨hstrict, fun n => (hmem n).trans ?_⟩
  rw [indices_of_foldlM hcensus, parameterTexts_eq 0, placeholderNumbers, List.append_nil,
    List.mem_reverse, List.mem_filterMap]
  simp [tokens]

/-! ## Bare placeholders -/

/-- Bare placeholders are numbered one after another. -/
theorem numbers_replicate_anonymous (highest count : Nat) :
    Placeholder.numbers highest (List.replicate count .anonymous) =
      (List.range' (highest + 1) count).map some := by
  induction count generalizing highest with
  | zero => rfl
  | succ count ih => rw [List.replicate_succ, Placeholder.numbers, ih, List.range'_succ]; rfl

/-- Bare placeholders are counted as long as there are numbers for them. -/
theorem foldlM_anonymous (count : Nat) (census : Census)
    (hfits : census.highest + count ≤ maxParameterIndex) :
    ∃ last, (List.replicate count ['?']).foldlM
      (fun census text => do census.add (← Placeholder.read text)) census = .ok last ∧
      last.names = census.names := by
  induction count generalizing census with
  | zero => exact ⟨census, rfl, rfl⟩
  | succ count ih =>
    have hroom : census.highest + 1 ≤ maxParameterIndex := by omega
    obtain ⟨last, hlast, hnames⟩ := ih
      { census with
        highest := census.highest + 1
        indices := (census.highest + 1) :: census.indices } (by simp only; omega)
    refine ⟨last, ?_, hnames⟩
    rw [List.replicate_succ, List.foldlM_cons]
    refine bind_eq_ok_iff.mpr ⟨_, ?_, hlast⟩
    exact bind_eq_ok_iff.mpr ⟨.anonymous, rfl, if_pos hroom⟩

end Placeholders

/-- True of tokens whose placeholders are all bare, and no more than there are numbers for them. -/
structure AllBare (parameters : List Token) : Prop where
  bare : ∀ token ∈ parameters, token.text = "?"
  fits : parameters.length < UInt32.size

namespace AllBare

variable {parameters : List Token}

theorem texts_eq (h : AllBare parameters) :
    (parameters.map fun token => token.text.toList) = List.replicate parameters.length ['?'] := by
  refine List.eq_replicate_iff.mpr ⟨List.length_map _, fun text htext => ?_⟩
  obtain ⟨token, hmem, rfl⟩ := List.mem_map.mp htext
  rw [h.bare token hmem]
  rfl

/-- Bare placeholders have the numbers from one on. -/
theorem placeholderNumbers_eq (h : AllBare parameters) :
    placeholderNumbers parameters = (List.range' 1 parameters.length).map some := by
  rw [placeholderNumbers, h.texts_eq, readTexts, List.filterMap_replicate]
  exact Placeholders.numbers_replicate_anonymous 0 parameters.length

/-- A statement with bare placeholders can be read, and has the numbers from one on. -/
theorem read_eq {sql : String} (h : AllBare (parameterTokens (tokens sql))) :
    Placeholders.read sql =
      .ok ⟨List.range' 1 (parameterTokens (tokens sql)).length, []⟩ := by
  have hfits : 0 + (parameterTokens (tokens sql)).length ≤ UInt32.size - 1 := by
    have := h.fits
    omega
  obtain ⟨last, hlast, hnames⟩ := Placeholders.foldlM_anonymous _ ⟨0, [], []⟩ hfits
  have hread : Placeholders.read sql = .ok (Placeholders.ofCensus last) := by
    refine bind_eq_ok_iff.mpr ⟨last, ?_, rfl⟩
    have htexts : Placeholders.parameterTexts (lexemes sql.toList) =
        List.replicate (parameterTokens (tokens sql)).length ['?'] :=
      (parameterTexts_eq 0 _).trans h.texts_eq
    rw [htexts]
    exact hlast
  obtain ⟨hstrict, hmem⟩ := Placeholders.indices_spec hread
  have hindices : (Placeholders.ofCensus last).indices =
      List.range' 1 (parameterTokens (tokens sql)).length := by
    refine hstrict.eq_of_mem_iff List.pairwise_lt_range' fun n => ?_
    rw [hmem, h.placeholderNumbers_eq]
    simp
  have hnone : (Placeholders.ofCensus last).names = [] := by
    rw [Placeholders.ofCensus, hnames]
    rfl
  rw [hread, ← hindices, ← hnone]

end AllBare

end SqlStream.Sql
