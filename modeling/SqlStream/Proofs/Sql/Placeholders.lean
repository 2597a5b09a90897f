import SqlStream.Proofs.Batch.Fates
import SqlStream.Proofs.Sql.Offsets

/-!
# Placeholders and their names

A statement has a placeholder of a name if one of its tokens is that name behind a sign. The names
that `Placeholders.read` collects are those (`Placeholders.references_iff`).
-/

namespace SqlStream.Sql

/-- The signs of the placeholders that have a name. -/
def nameSigns : List Char := [':', '@', '$']

/-- True of the names of the placeholders in a statement: their texts without the sign. -/
def ReferencedIn (sql name : String) : Prop :=
  ∃ token ∈ tokens sql, token.kind = .parameter ∧
    ∃ sign ∈ nameSigns, token.text.toList = sign :: name.toList

-- the signs are gone through by name: there are other ways to decide for all characters
instance (sql name : String) : Decidable (ReferencedIn sql name) :=
  have (token : Token) : Decidable (∃ sign ∈ nameSigns, token.text.toList = sign :: name.toList) :=
    List.decidableBEx _ nameSigns
  List.decidableBEx (fun token : Token => token.kind = .parameter ∧
    ∃ sign ∈ nameSigns, token.text.toList = sign :: name.toList) (tokens sql)

/-- A placeholder with a name is a sign and the name. -/
theorem Placeholder.read_eq_named_iff {text : List Char} {name : String} :
    Placeholder.read text = .ok (.named name) ↔ ∃ sign ∈ nameSigns, text = sign :: name.toList := by
  constructor
  · intro h
    unfold read at h
    split at h
    · cases h
    · split at h
      · split at h <;> cases h
      · cases h
    case h_3 rest => cases h; exact ⟨':', by simp [nameSigns], by simp⟩
    case h_4 rest => cases h; exact ⟨'@', by simp [nameSigns], by simp⟩
    case h_5 rest => cases h; exact ⟨'$', by simp [nameSigns], by simp⟩
    · cases h
  · rintro ⟨sign, hsign, rfl⟩
    simp only [nameSigns, List.mem_cons, List.not_mem_nil, or_false] at hsign
    rcases hsign with rfl | rfl | rfl <;> simp [read]

/-! ## Counting -/

/-- One more placeholder adds its name, if it has one. -/
theorem Placeholders.Census.mem_names_add {census next : Census} {placeholder : Placeholder}
    (h : census.add placeholder = .ok next) {name : String} :
    name ∈ next.names ↔ name ∈ census.names ∨ placeholder = .named name := by
  cases placeholder with
  | anonymous =>
    by_cases hroom : census.highest + 1 ≤ maxParameterIndex
    · obtain rfl := Except.ok.inj ((if_pos hroom).symm.trans h)
      simp
    · cases (if_neg hroom).symm.trans h
  | indexed index =>
    cases h
    simp
  | named other =>
    obtain rfl := Except.ok.inj h
    by_cases hseen : census.names.contains other = true
    · have hmem : other ∈ census.names := by simpa using hseen
      rw [if_pos hseen, Placeholder.named.injEq]
      exact ⟨.inl, fun hname => hname.elim id fun heq => heq ▸ hmem⟩
    · rw [if_neg hseen, List.mem_cons, Placeholder.named.injEq, or_comm, eq_comm]

/-- A census counts the names of all placeholders that it reads. -/
theorem Placeholders.mem_names_of_foldlM {texts : List (List Char)} {census last : Census}
    (h : texts.foldlM (fun census text => do census.add (← Placeholder.read text)) census = .ok last)
    {name : String} :
    name ∈ last.names ↔
      name ∈ census.names ∨ ∃ text ∈ texts, Placeholder.read text = .ok (.named name) := by
  induction texts generalizing census with
  | nil =>
    cases h
    simp
  | cons text texts ih =>
    rw [List.foldlM_cons] at h
    obtain ⟨next, hnext, hrest⟩ := bind_eq_ok_iff.mp h
    obtain ⟨placeholder, hread, hadd⟩ := bind_eq_ok_iff.mp hnext
    rw [ih hrest, Census.mem_names_add hadd, or_assoc]
    simp [hread]

/-- The texts of the parameters are those of the parameter tokens. -/
theorem Placeholders.mem_parameterTexts_iff (offset : Nat) {xs : List Lexeme} {text : List Char} :
    text ∈ parameterTexts xs ↔
      ∃ token ∈ tokensFrom offset xs, token.kind = .parameter ∧ token.text.toList = text := by
  induction xs generalizing offset with
  | nil => simp [parameterTexts]
  | cons x xs ih =>
    rw [tokensFrom_cons, parameterTexts, List.filterMap_cons]
    simp only [List.mem_append, or_and_right, exists_or]
    rw [← ih (offset + byteLength x.text)]
    by_cases hkind : x.tokenKind? = some .parameter
    · simp [hkind, Lexeme.tokenAt?, parameterTexts, eq_comm]
    · simp only [if_neg hkind]
      refine (or_iff_right ?_).symm
      rintro ⟨token, htoken, hparameter, -⟩
      obtain ⟨kind, hsome, rfl⟩ := Option.map_eq_some_iff.mp (Option.mem_toList.mp htoken)
      exact hkind (hparameter ▸ hsome)

/-- A statement references the names of its placeholders. -/
theorem Placeholders.references_iff {sql : String} {placeholders : Placeholders}
    (h : Placeholders.read sql = .ok placeholders) {name : String} :
    placeholders.references name = true ↔ ReferencedIn sql name := by
  obtain ⟨census, hcensus, hplaceholders⟩ := bind_eq_ok_iff.mp h
  cases hplaceholders
  show census.names.reverse.contains name = true ↔ _
  rw [List.contains_iff_mem, List.mem_reverse, mem_names_of_foldlM hcensus]
  simp only [Placeholder.read_eq_named_iff, mem_parameterTexts_iff 0, ReferencedIn,
    List.not_mem_nil, false_or]
  constructor
  · rintro ⟨_, ⟨token, htoken, hkind, rfl⟩, hsign⟩
    exact ⟨token, htoken, hkind, hsign⟩
  · rintro ⟨token, htoken, hkind, hsign⟩
    exact ⟨_, ⟨token, htoken, hkind, rfl⟩, hsign⟩

end SqlStream.Sql
