import SqlStream.Proofs.Batch.Fates

/-!
# Fates by index

A reply to a batch decides the fate of each step by its index (`BatchResult.Decides`), and
statements have the fates of their own steps, however long the lists of the reply are
(`ReadByIndex`). Where the fate of `ROLLBACK` is kept, it comes behind those of the statements.
-/

namespace SqlStream

open SqlStream.Wire

namespace Wire.BatchResult

/-- True of a reply without an error at an index. -/
def NoErrorAt (reply : BatchResult) (step : Nat) : Prop :=
  ∀ error, reply.stepErrors[step]? ≠ some (some error)

/-- What a reply says of the step at an index. -/
inductive Decides (reply : BatchResult) (step : Nat) : StepFate → Prop where
  | failed {error : ServerError} :
      reply.stepErrors[step]? = some (some error) → Decides reply step (.failed error)
  | succeeded {result : StatementResult} : reply.NoErrorAt step →
      reply.stepResults[step]? = some (some result) → Decides reply step (.succeeded result)
  | skipped : reply.NoErrorAt step →
      (∀ result, reply.stepResults[step]? ≠ some (some result)) → Decides reply step .skipped

/-- Fates of as many steps, one after another, from the one at an index on. -/
structure DecidesAll (reply : BatchResult) (first count : Nat) (fates : List StepFate) : Prop where
  length_eq : fates.length = count
  decides (index : Nat) (h : index < fates.length) : reply.Decides (index + first) fates[index]

variable {reply : BatchResult} {step : Nat}

/-- A step has the error that stands at its index. -/
theorem errorAt_eq_some_iff {error : ServerError} :
    reply.errorAt step = some error ↔ reply.stepErrors[step]? = some (some error) :=
  Option.join_eq_some_iff

/-- A step has the result that stands at its index. -/
theorem resultAt_eq_some_iff {result : StatementResult} :
    reply.resultAt step = some result ↔ reply.stepResults[step]? = some (some result) :=
  Option.join_eq_some_iff

/-- A step has no error if none stands at its index. -/
theorem errorAt_eq_none_iff : reply.errorAt step = none ↔ reply.NoErrorAt step := by
  rw [Option.eq_none_iff_forall_ne_some]
  exact forall_congr' fun error => not_congr errorAt_eq_some_iff

/-- A step has no result if none stands at its index. -/
theorem resultAt_eq_none_iff :
    reply.resultAt step = none ↔ ∀ result, reply.stepResults[step]? ≠ some (some result) := by
  rw [Option.eq_none_iff_forall_ne_some]
  exact forall_congr' fun result => not_congr resultAt_eq_some_iff

/-- The fate that is read at an index is the one decided there. -/
theorem decides_fateAt (reply : BatchResult) (step : Nat) :
    reply.Decides step (reply.fateAt step) := by
  cases hfate : reply.fateAt step with
  | failed error => exact .failed (errorAt_eq_some_iff.mp (fateAt_eq_failed.mp hfate))
  | succeeded result =>
    obtain ⟨hnone, hresult⟩ := fateAt_eq_succeeded.mp hfate
    exact .succeeded (errorAt_eq_none_iff.mp hnone) (resultAt_eq_some_iff.mp hresult)
  | skipped =>
    obtain ⟨hnone, hresult⟩ := fateAt_eq_skipped.mp hfate
    exact .skipped (errorAt_eq_none_iff.mp hnone) (resultAt_eq_none_iff.mp hresult)

/-- The fates of the steps from one on are decided by the reply. -/
theorem decidesAll_map_fateAt (reply : BatchResult) (first count : Nat) :
    reply.DecidesAll first count
      ((List.range count).map fun index => reply.fateAt (index + first)) where
  length_eq := by rw [List.length_map, List.length_range]
  decides index h := by
    rw [List.getElem_map, List.getElem_range]
    exact reply.decides_fateAt (index + first)

end Wire.BatchResult

/-! ## The fates of the statements -/

section

variable {statements : List Statement} {reply : BatchResult} {error : ServerError}

/-- A transaction of which `BEGIN` failed gives no fates. -/
theorem callerFates_of_begin_failed (hbegin : reply.errorAt 0 = some error) (keepRollback : Bool) :
    BatchPlan.callerFates ⟨statements, true⟩ reply keepRollback =
      .error (addedStepFailure "BEGIN" error) := by
  show (checkAddedStep "BEGIN" (stepFates (statements.length + 3) reply).head? >>= fun _ => _) = _
  rw [stepFates_eq, map_fateAt_range, List.head?_cons, BatchResult.fateAt_eq_failed.mpr hbegin]
  rfl

/-- Nor does one of which `BEGIN` did not fail, but `COMMIT` did. -/
theorem callerFates_of_commit_failed (hbegin : reply.errorAt 0 = none)
    (hcommit : reply.errorAt (statements.length + 1) = some error) (keepRollback : Bool) :
    BatchPlan.callerFates ⟨statements, true⟩ reply keepRollback =
      .error (addedStepFailure "COMMIT" error) := by
  have hchecked : checkAddedStep "BEGIN" (some (reply.fateAt 0)) = .ok () :=
    checkAddedStep_eq_ok_iff.mpr hbegin
  have hlength : ((List.range statements.length).map fun index =>
      reply.fateAt (index + 1)).length = statements.length := by
    rw [List.length_map, List.length_range]
  show (checkAddedStep "BEGIN" (stepFates (statements.length + 3) reply).head? >>= fun _ =>
    checkAddedStep "COMMIT" (stepFates (statements.length + 3) reply).tail[statements.length]? >>=
      fun _ => _) = _
  rw [stepFates_eq, map_fateAt_range, List.head?_cons, List.tail_cons, hchecked,
    List.getElem?_append_right (Nat.le_of_eq hlength), hlength, Nat.sub_self,
    BatchResult.fateAt_eq_failed.mpr hcommit]
  rfl

/-- Whether the fate of `ROLLBACK` is kept only adds it behind the others. -/
theorem BatchPlan.callerFates_kept (plan : BatchPlan) (reply : BatchResult) (keepRollback : Bool) :
    plan.callerFates reply keepRollback = (plan.callerFates reply false).map fun fates => fates ++
      if plan.transactional && keepRollback then [reply.fateAt (plan.statements.length + 2)]
      else [] := by
  obtain ⟨statements, transactional⟩ := plan
  cases transactional with
  | false =>
    rw [callerFates_plain, callerFates_plain]
    simp [Except.map]
  | true =>
    cases hbegin : reply.errorAt 0 with
    | some error =>
      rw [callerFates_of_begin_failed hbegin, callerFates_of_begin_failed hbegin]
      rfl
    | none =>
      cases hcommit : reply.errorAt (statements.length + 1) with
      | some error =>
        rw [callerFates_of_commit_failed hbegin hcommit,
          callerFates_of_commit_failed hbegin hcommit]
        rfl
      | none =>
        rw [callerFates_transactional.mpr ⟨hbegin, hcommit, rfl⟩,
          callerFates_transactional.mpr ⟨hbegin, hcommit, rfl⟩]
        simp [Except.map]

end

/-- How a reply to a batch of statements is read, whatever the lengths of its two lists. -/
structure ReadByIndex (statements : List Statement) (reply : BatchResult) (keepRollback : Bool) :
    Prop where
  plain : ∃ fates, BatchPlan.callerFates ⟨statements, false⟩ reply keepRollback = .ok fates ∧
    reply.DecidesAll 0 statements.length fates
  begin_failed {error : ServerError} : reply.stepErrors[0]? = some (some error) →
    BatchPlan.callerFates ⟨statements, true⟩ reply keepRollback =
      .error (.inStatement "BEGIN" (.server error))
  commit_failed {error : ServerError} : reply.NoErrorAt 0 →
    reply.stepErrors[statements.length + 1]? = some (some error) →
    BatchPlan.callerFates ⟨statements, true⟩ reply keepRollback =
      .error (.inStatement "COMMIT" (.server error))
  transactional : reply.NoErrorAt 0 → reply.NoErrorAt (statements.length + 1) →
    ∃ fates rollback, BatchPlan.callerFates ⟨statements, true⟩ reply keepRollback =
        .ok (if keepRollback then fates ++ [rollback] else fates) ∧
      reply.DecidesAll 1 statements.length fates ∧ reply.Decides (statements.length + 2) rollback

/-- All that a caller gets from a batch is read by index. -/
theorem readByIndex (statements : List Statement) (reply : BatchResult) (keepRollback : Bool) :
    ReadByIndex statements reply keepRollback where
  plain := ⟨_, callerFates_plain statements reply keepRollback, reply.decidesAll_map_fateAt 0 _⟩
  begin_failed hbegin :=
    callerFates_of_begin_failed (BatchResult.errorAt_eq_some_iff.mpr hbegin) keepRollback
  commit_failed hbegin hcommit :=
    callerFates_of_commit_failed (BatchResult.errorAt_eq_none_iff.mpr hbegin)
      (BatchResult.errorAt_eq_some_iff.mpr hcommit) keepRollback
  transactional hbegin hcommit := by
    refine ⟨_, _, callerFates_transactional.mpr ⟨BatchResult.errorAt_eq_none_iff.mpr hbegin,
      BatchResult.errorAt_eq_none_iff.mpr hcommit, ?_⟩, reply.decidesAll_map_fateAt 1 _,
      reply.decides_fateAt _⟩
    cases keepRollback <;> simp

end SqlStream
