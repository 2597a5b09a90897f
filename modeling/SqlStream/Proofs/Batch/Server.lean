import SqlStream.Proofs.Batch.Fates
import SqlStream.Proofs.Batch.Layout

/-!
# Servers that run batches

A server runs the steps of a batch one after another and evaluates the condition of each on the
steps before it (`ServerRun`). Whether a step that runs succeeds or fails is up to the server. In
the batch of a transaction, a step runs exactly if all steps before it succeeded, and `ROLLBACK`
runs exactly if `COMMIT` was not carried out (`ServerRun.ran_iff`, `ServerRun.rollback_ran_iff`).
-/

namespace SqlStream

open SqlStream.Wire

/-! ## Conditions -/

mutual

/-- True of a condition that holds, where `succeeded` tells which steps ran and succeeded. -/
def Wire.Condition.holds (succeeded : Nat → Bool) : Condition → Bool
  | .ok step => succeeded step
  | .not condition => !condition.holds succeeded
  | .and conditions => Wire.Condition.allHold succeeded conditions
  | .or conditions => Wire.Condition.anyHolds succeeded conditions

/-- True if all of several conditions hold. -/
def Wire.Condition.allHold (succeeded : Nat → Bool) : List Condition → Bool
  | [] => true
  | condition :: rest => condition.holds succeeded && Wire.Condition.allHold succeeded rest

/-- True if one of several conditions holds. -/
def Wire.Condition.anyHolds (succeeded : Nat → Bool) : List Condition → Bool
  | [] => false
  | condition :: rest => condition.holds succeeded || Wire.Condition.anyHolds succeeded rest

end

/-- True of a step that ran and succeeded. -/
def StepFate.isSuccess : StepFate → Bool
  | succeeded _ => true
  | _ => false

/-- True of a step that runs behind steps with the given fates. -/
def Wire.BatchStep.mayRun (step : BatchStep) (before : List StepFate) : Bool :=
  step.condition.all fun condition =>
    condition.holds fun index => before[index]?.any StepFate.isSuccess

/-! ## Runs -/

/-- The fates that a server may give to steps, behind steps with the fates `before`. -/
inductive ServerRunFrom : List StepFate → List BatchStep → List StepFate → Prop where
  | done {before : List StepFate} : ServerRunFrom before [] []
  /-- A step that may run succeeds or fails, as the server will have it. -/
  | ran {before fates : List StepFate} {step : BatchStep} {steps : List BatchStep}
      {fate : StepFate} : step.mayRun before = true → fate ≠ .skipped →
      ServerRunFrom (before ++ [fate]) steps fates →
      ServerRunFrom before (step :: steps) (fate :: fates)
  | skipped {before fates : List StepFate} {step : BatchStep} {steps : List BatchStep} :
      step.mayRun before = false → ServerRunFrom (before ++ [.skipped]) steps fates →
      ServerRunFrom before (step :: steps) (.skipped :: fates)

/-- The fates that a server may give to the steps of a batch. -/
def ServerRun (steps : List BatchStep) (fates : List StepFate) : Prop :=
  ServerRunFrom [] steps fates

/-- True of a step that ran. -/
def RanAt (fates : List StepFate) (index : Nat) : Prop :=
  ∃ fate, fates[index]? = some fate ∧ fate ≠ .skipped

/-- True of a step that ran and succeeded. -/
def SucceededAt (fates : List StepFate) (index : Nat) : Prop :=
  ∃ result, fates[index]? = some (.succeeded result)

/-- True of a step that ran and failed. -/
def FailedAt (fates : List StepFate) (index : Nat) : Prop :=
  ∃ error, fates[index]? = some (.failed error)

/-- A step ran if it succeeded or failed. -/
theorem ranAt_iff {fates : List StepFate} {index : Nat} :
    RanAt fates index ↔ SucceededAt fates index ∨ FailedAt fates index := by
  unfold RanAt SucceededAt FailedAt
  cases fates[index]? with
  | none => simp
  | some fate => cases fate <;> simp

theorem succeededAt_iff {fates : List StepFate} {index : Nat} :
    SucceededAt fates index ↔ fates[index]?.any StepFate.isSuccess = true := by
  unfold SucceededAt
  cases fates[index]? with
  | none => simp
  | some fate => cases fate <;> simp [StepFate.isSuccess]

/-- Every step has a fate. -/
theorem ServerRunFrom.length_eq {before fates : List StepFate} {steps : List BatchStep}
    (h : ServerRunFrom before steps fates) : fates.length = steps.length := by
  induction h with
  | done => rfl
  | ran _ _ _ ih => rw [List.length_cons, List.length_cons, ih]
  | skipped _ _ ih => rw [List.length_cons, List.length_cons, ih]

/-- A step runs if its condition holds of the steps before it. -/
theorem ServerRunFrom.ranAt_iff_mayRun {before fates : List StepFate} {steps : List BatchStep}
    (h : ServerRunFrom before steps fates) {index : Nat} {step : BatchStep}
    (hstep : steps[index]? = some step) :
    RanAt fates index ↔ step.mayRun (before ++ fates.take index) = true := by
  -- the fates before a step grow along the run, so the index counts down to the step
  induction h generalizing index with
  | done => simp at hstep
  | @ran before fates first steps fate hmay hfate _ ih =>
    cases index with
    | zero =>
      cases hstep
      simpa [RanAt, hmay] using hfate
    | succ index =>
      rw [List.getElem?_cons_succ] at hstep
      have hnext := ih hstep
      rwa [List.append_assoc, List.singleton_append] at hnext
  | @skipped before fates first steps hmay _ ih =>
    cases index with
    | zero =>
      cases hstep
      simp [RanAt, hmay]
    | succ index =>
      rw [List.getElem?_cons_succ] at hstep
      have hnext := ih hstep
      rwa [List.append_assoc, List.singleton_append] at hnext

/-- Up to a first one, all numbers below a bound have a property. -/
theorem exists_first_failure (P : Nat → Prop) (bound : Nat) :
    ∃ first ≤ bound, (∀ index < first, P index) ∧ (first < bound → ¬ P first) := by
  induction bound with
  | zero => exact ⟨0, Nat.le_refl 0, by simp, by simp⟩
  | succ bound ih =>
    obtain ⟨first, hle, hbefore, hfirst⟩ := ih
    by_cases hstop : first < bound
    · exact ⟨first, by omega, hbefore, fun _ => hfirst hstop⟩
    · obtain rfl : first = bound := by omega
      by_cases hbound : P first
      · refine ⟨first + 1, Nat.le_refl _, fun index hindex => ?_, by simp⟩
        rcases Nat.lt_or_eq_of_le (Nat.le_of_lt_succ hindex) with hlt | rfl
        · exact hbefore index hlt
        · exact hbound
      · exact ⟨first, by omega, hbefore, fun _ => hbound⟩

/-! ## The batch of a transaction -/

namespace ServerRun

variable {statements : List Statement} {fates : List StepFate}

/-- Whether a step succeeded is known before the next step. -/
theorem succeededAt_take {index : Nat} :
    ((fates.take (index + 1))[index]?.any StepFate.isSuccess) = true ↔ SucceededAt fates index := by
  rw [List.getElem?_take, if_pos (Nat.lt_succ_self index), succeededAt_iff]

/-- `BEGIN` runs. -/
theorem begin_ran (h : ServerRun (BatchPlan.steps ⟨statements, true⟩) fates) : RanAt fates 0 := by
  rw [h.ranAt_iff_mayRun (BatchPlan.steps_begin statements)]
  rfl

/-- A statement runs if the step before it succeeded; so does `COMMIT`. -/
theorem ran_iff_previous (h : ServerRun (BatchPlan.steps ⟨statements, true⟩) fates) {index : Nat}
    (hindex : index ≤ statements.length) : RanAt fates (index + 1) ↔ SucceededAt fates index := by
  obtain ⟨statement, hstep⟩ := BatchPlan.steps_chained statements hindex
  rw [h.ranAt_iff_mayRun hstep, List.nil_append]
  exact succeededAt_take

/-- A statement runs if all steps before it succeeded; so does `COMMIT`. -/
theorem ran_iff (h : ServerRun (BatchPlan.steps ⟨statements, true⟩) fates) {index : Nat}
    (hindex : index ≤ statements.length) :
    RanAt fates (index + 1) ↔ ∀ earlier ≤ index, SucceededAt fates earlier := by
  rw [h.ran_iff_previous hindex]
  constructor
  · intro hsucceeded
    induction index with
    | zero =>
      intro earlier hle
      rwa [Nat.le_zero.mp hle]
    | succ index ih =>
      -- a step that succeeded ran, so the one before it succeeded too
      have hran : RanAt fates (index + 1) := ranAt_iff.mpr (.inl hsucceeded)
      have hbefore := ih (by omega) ((h.ran_iff_previous (by omega)).mp hran)
      intro earlier hle
      rcases Nat.lt_or_eq_of_le hle with hlt | rfl
      · exact hbefore earlier (by omega)
      · exact hsucceeded
  · exact fun hall => hall index (Nat.le_refl index)

/-- `ROLLBACK` runs if `COMMIT` did not run and succeed. -/
theorem rollback_ran_iff (h : ServerRun (BatchPlan.steps ⟨statements, true⟩) fates) :
    RanAt fates (statements.length + 2) ↔ ¬ SucceededAt fates (statements.length + 1) := by
  rw [h.ranAt_iff_mayRun (BatchPlan.steps_rollback statements), List.nil_append,
    ← succeededAt_take]
  show (!_) = true ↔ _
  rw [Bool.not_eq_true', Bool.not_eq_true]
  rfl

/-- A batch that was run has a fate for each of its steps. -/
theorem length_eq (h : ServerRun (BatchPlan.steps ⟨statements, true⟩) fates) :
    fates.length = statements.length + 3 := by
  rw [ServerRunFrom.length_eq h, BatchPlan.length_steps]

/-- `BEGIN` succeeds unless it fails. -/
theorem begin_succeeded (h : ServerRun (BatchPlan.steps ⟨statements, true⟩) fates)
    (hfailed : ¬ FailedAt fates 0) : SucceededAt fates 0 :=
  (ranAt_iff.mp h.begin_ran).resolve_right hfailed

/-- `COMMIT` succeeds if nothing fails. -/
theorem commit_succeeded_iff (h : ServerRun (BatchPlan.steps ⟨statements, true⟩) fates) :
    SucceededAt fates (statements.length + 1) ↔
      ∀ index ≤ statements.length + 1, ¬ FailedAt fates index := by
  have hexclusive : ∀ {index}, SucceededAt fates index → ¬ FailedAt fates index := by
    rintro index ⟨result, hresult⟩ ⟨error, herror⟩
    cases hresult.symm.trans herror
  constructor
  · intro hcommit index hle
    have hall := (h.ran_iff (Nat.le_refl _)).mp (ranAt_iff.mpr (.inl hcommit))
    rcases Nat.lt_or_eq_of_le hle with hlt | rfl
    · exact hexclusive (hall index (by omega))
    · exact hexclusive hcommit
  · -- each step that does not fail lets the next one run
    intro hnone
    suffices hall : ∀ index ≤ statements.length + 1, SucceededAt fates index from
      hall _ (Nat.le_refl _)
    intro index hle
    induction index with
    | zero => exact h.begin_succeeded (hnone 0 hle)
    | succ index ih =>
      have hran := (h.ran_iff_previous (by omega)).mpr (ih (by omega))
      exact (ranAt_iff.mp hran).resolve_right (hnone _ hle)

/-- Behind `BEGIN`, statements succeed up to a first one that fails, and no further one runs. -/
theorem exists_first_failed (h : ServerRun (BatchPlan.steps ⟨statements, true⟩) fates)
    (hbegin : SucceededAt fates 0) :
    ∃ first ≤ statements.length, (∀ index < first, SucceededAt fates (index + 1)) ∧
      (first < statements.length → FailedAt fates (first + 1)) ∧
      ∀ index, first < index → index < statements.length → fates[index + 1]? = some .skipped := by
  obtain ⟨first, hle, hbefore, hfirst⟩ :=
    exists_first_failure (fun index => SucceededAt fates (index + 1)) statements.length
  refine ⟨first, hle, hbefore, fun hlt => ?_, fun index hbehind hlt => ?_⟩
  · have hran : RanAt fates (first + 1) := by
      refine (h.ran_iff hle).mpr ?_
      intro earlier hearlier
      cases earlier with
      | zero => exact hbegin
      | succ earlier => exact hbefore earlier hearlier
    exact (ranAt_iff.mp hran).resolve_left (hfirst hlt)
  · -- the first that failed is among the steps that would have to succeed
    have hnot : ¬ RanAt fates (index + 1) := fun hran =>
      hfirst (by omega) ((h.ran_iff (by omega)).mp hran (first + 1) hbehind)
    have hin : index + 1 < fates.length := by
      rw [h.length_eq]
      omega
    rw [List.getElem?_eq_getElem hin]
    refine congrArg some (Decidable.byContradiction fun hne => hnot ?_)
    exact ⟨_, List.getElem?_eq_getElem hin, hne⟩

end ServerRun

end SqlStream
