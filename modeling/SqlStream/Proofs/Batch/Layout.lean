import SqlStream.Batch

/-!
# The layout of batches

The steps of a transactional batch, by index, and the steps that their conditions refer to. On the
wire a reference has 32 bits. A batch is built exactly if that is enough for all references in it
(`BatchPlan.build_eq`, `BatchPlan.references_lt`), and a batch that is no transaction always is.
-/

namespace SqlStream

open SqlStream.Wire

/-! ## Steps -/

namespace BatchPlan

variable (statements : List Statement)

/-- `BEGIN` runs in any case. -/
theorem steps_begin :
    (BatchPlan.steps ⟨statements, true⟩)[0]? = some ⟨plainStatement "BEGIN", none⟩ :=
  rfl

/-- The statements and `COMMIT` each run if the step before succeeded. -/
theorem steps_chained {index : Nat} (hindex : index ≤ statements.length) :
    ∃ statement, (BatchPlan.steps ⟨statements, true⟩)[index + 1]? =
      some ⟨statement, some (.ok index)⟩ := by
  let chained := statements ++ [plainStatement "COMMIT"]
  have hlt : index < chained.length := by
    rw [List.length_append, List.length_singleton]
    omega
  refine ⟨chained[index], ?_⟩
  show ((_ :: chainedSteps chained) ++ [_])[index + 1]? = _
  have hlength : (chainedSteps chained).length = chained.length := by
    rw [chainedSteps, List.length_map, List.length_zipIdx]
  rw [List.cons_append, List.getElem?_cons_succ, List.getElem?_append_left (by rwa [hlength]),
    chainedSteps, List.getElem?_map, List.getElem?_zipIdx, List.getElem?_eq_getElem hlt]
  simp

/-- `ROLLBACK` runs if `COMMIT` did not succeed. -/
theorem steps_rollback :
    (BatchPlan.steps ⟨statements, true⟩)[statements.length + 2]? =
      some ⟨plainStatement "ROLLBACK", some (.not (.ok (statements.length + 1)))⟩ := by
  let chained := statements ++ [plainStatement "COMMIT"]
  show ((_ :: chainedSteps chained) ++ [_])[statements.length + 2]? = _
  have hlength : (chainedSteps chained).length = statements.length + 1 := by
    rw [chainedSteps, List.length_map, List.length_zipIdx, List.length_append,
      List.length_singleton]
  rw [List.getElem?_append_right (Nat.le_of_eq (by rw [List.length_cons, hlength])),
    List.length_cons, hlength, Nat.sub_self]
  rfl

/-- A transaction adds three steps to its statements. -/
theorem length_steps : (BatchPlan.steps ⟨statements, true⟩).length = statements.length + 3 := by
  simp [BatchPlan.steps, chainedSteps]

/-- The steps of a transaction end with `COMMIT` and `ROLLBACK`. -/
theorem steps_eq_append :
    BatchPlan.steps ⟨statements, true⟩ =
      (⟨plainStatement "BEGIN", none⟩ :: chainedSteps statements) ++
        ([⟨plainStatement "COMMIT", some (.ok statements.length)⟩] ++
          [⟨plainStatement "ROLLBACK", some (.not (.ok (statements.length + 1)))⟩]) := by
  have hchained : chainedSteps (statements ++ [plainStatement "COMMIT"]) =
      chainedSteps statements ++ [⟨plainStatement "COMMIT", some (.ok statements.length)⟩] := by
    rw [chainedSteps, List.zipIdx_append, List.map_append, chainedSteps]
    simp
  show (_ :: chainedSteps (statements ++ [plainStatement "COMMIT"])) ++ _ = _
  rw [hchained]
  simp [BatchPlan.commitIndex]

/-- Without a transaction, the steps of a batch are its statements. -/
theorem steps_plain :
    BatchPlan.steps ⟨statements, false⟩ = statements.map fun statement => ⟨statement, none⟩ :=
  rfl

end BatchPlan

/-! ## References to steps -/

mutual

/-- The steps that a condition refers to. -/
def Wire.Condition.references : Condition → List Nat
  | .ok step => [step]
  | .not condition => condition.references
  | .and conditions => Wire.Condition.allReferences conditions
  | .or conditions => Wire.Condition.allReferences conditions

/-- The steps that several conditions refer to. -/
def Wire.Condition.allReferences : List Condition → List Nat
  | [] => []
  | condition :: rest => condition.references ++ Wire.Condition.allReferences rest

end

/-- The steps that the condition of a step refers to. -/
def Wire.BatchStep.references (step : BatchStep) : List Nat :=
  (step.condition.map Condition.references).getD []

namespace BatchPlan

/-- True of a batch in which 32 bits are enough for every reference to a step. -/
def Fits (plan : BatchPlan) : Prop :=
  plan.transactional = true → plan.commitIndex < UInt32.size

instance (plan : BatchPlan) : Decidable plan.Fits :=
  inferInstanceAs (Decidable (_ → _))

theorem fits_plain (statements : List Statement) : Fits ⟨statements, false⟩ :=
  nofun

theorem fits_transactional {statements : List Statement} :
    Fits ⟨statements, true⟩ ↔ statements.length + 1 < UInt32.size :=
  ⟨fun h => h rfl, fun h _ => h⟩

/-- Of the first indices the first that is too large is refused. -/
theorem forM_checkStepIndex (count : Nat) :
    (List.range count).forM checkStepIndex =
      if count ≤ UInt32.size then .ok () else .error (.batchTooLarge (UInt32.size + 1)) := by
  induction count with
  | zero => rfl
  | succ count ih =>
    have happend : (List.range (count + 1)).forM checkStepIndex =
        (List.range count).forM checkStepIndex >>= fun _ => checkStepIndex count := by
      rw [List.range_succ, List.forM_eq_forM, List.forM_append]
      simp
    rw [happend, ih]
    rcases Nat.lt_trichotomy count UInt32.size with hlt | rfl | hgt
    · rw [if_pos (Nat.le_of_lt hlt), if_pos (Nat.succ_le_of_lt hlt)]
      exact if_pos hlt
    · rw [if_pos (Nat.le_refl _), if_neg (Nat.not_succ_le_self _)]
      show checkStepIndex UInt32.size = _
      rw [checkStepIndex, if_neg (Nat.lt_irrefl _)]
    · rw [if_neg (Nat.not_le.mpr hgt), if_neg (by omega)]
      rfl

example : checkStepIndex (UInt32.size - 1) = .ok () ∧
    checkStepIndex UInt32.size = .error (.batchTooLarge (UInt32.size + 1)) :=
  ⟨rfl, rfl⟩

/-- A batch is built if 32 bits are enough for its references; else the first reference for which
they are not is refused. -/
theorem build_eq (plan : BatchPlan) :
    plan.build =
      if plan.Fits then .ok plan.request else .error (.batchTooLarge (UInt32.size + 1)) := by
  obtain ⟨statements, transactional⟩ := plan
  cases transactional with
  | false => rw [if_pos (fits_plain statements)]; rfl
  | true =>
    show ((List.range (statements.length + 1 + 1)).forM checkStepIndex >>= fun _ => _) = _
    rw [forM_checkStepIndex]
    by_cases hfits : Fits ⟨statements, true⟩
    · rw [if_pos hfits, if_pos (Nat.succ_le_of_lt (fits_transactional.mp hfits))]
      rfl
    · rw [if_neg hfits, if_neg (mt Nat.lt_of_succ_le (mt fits_transactional.mpr hfits))]
      rfl

theorem build_of_fits {plan : BatchPlan} (h : plan.Fits) : plan.build = .ok plan.request := by
  rw [build_eq, if_pos h]

theorem build_of_not_fits {plan : BatchPlan} (h : ¬ plan.Fits) :
    plan.build = .error (.batchTooLarge (UInt32.size + 1)) := by
  rw [build_eq, if_neg h]

/-- In a batch that is built, every reference to a step is a number of 32 bits. -/
theorem references_lt {plan : BatchPlan} (h : plan.Fits) {step : BatchStep}
    (hstep : step ∈ plan.steps) {index : Nat} (hindex : index ∈ step.references) :
    index < UInt32.size := by
  obtain ⟨statements, transactional⟩ := plan
  cases transactional with
  | false =>
    obtain ⟨statement, _, rfl⟩ := List.mem_map.mp hstep
    cases hindex
  | true =>
    have hcommit := fits_transactional.mp h
    obtain ⟨place, hplace, hget⟩ := List.getElem_of_mem hstep
    rw [length_steps] at hplace
    have hsome : (BatchPlan.steps ⟨statements, true⟩)[place]? = some step :=
      List.getElem?_eq_some_iff.mpr ⟨_, hget⟩
    match place with
    | 0 =>
      cases hsome
      cases hindex
    | place + 1 =>
      rcases Nat.lt_or_eq_of_le (Nat.le_of_lt_succ (Nat.lt_of_succ_lt_succ hplace)) with
        hlt | rfl
      · obtain ⟨statement, hchained⟩ := steps_chained statements (Nat.le_of_lt_succ hlt)
        cases hchained.symm.trans hsome
        cases List.mem_singleton.mp hindex
        omega
      · cases (steps_rollback statements).symm.trans hsome
        cases List.mem_singleton.mp hindex
        exact hcommit

end BatchPlan

end SqlStream
