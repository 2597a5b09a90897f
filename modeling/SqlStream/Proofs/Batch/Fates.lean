import SqlStream.Script

/-!
# What a reply says of the steps of a batch

A reply has two lists, of errors and of results, and either may be shorter or longer than the batch.
Read by index, they give each step its fate (`stepFates_eq`). Statements that must all succeed give
their results exactly if no step failed and all values can be read; a step that did not run gives
none (`collectResults_eq_ok_iff`).
-/

namespace SqlStream

open SqlStream.Wire

/-- The error that a reply reports for a step. -/
def Wire.BatchResult.errorAt (reply : BatchResult) (step : Nat) : Option ServerError :=
  reply.stepErrors[step]?.join

/-- The result that a reply reports for a step. -/
def Wire.BatchResult.resultAt (reply : BatchResult) (step : Nat) : Option StatementResult :=
  reply.stepResults[step]?.join

/-- The fate of a step in a reply. -/
def Wire.BatchResult.fateAt (reply : BatchResult) (step : Nat) : StepFate :=
  .ofReply (reply.errorAt step) (reply.resultAt step)

/-- A list that is padded has the same entries, up to its length. -/
theorem getElem?_padTo {α : Type _} {length index : Nat} (xs : List (Option α))
    (h : index < length) : (padTo length xs)[index]? = some xs[index]?.join := by
  rw [padTo, List.getElem?_append, List.length_take]
  by_cases hin : index < xs.length
  · rw [if_pos (by omega), List.getElem?_take, if_pos h, List.getElem?_eq_getElem hin]
    rfl
  · rw [if_neg (by omega), List.getElem?_replicate, if_pos (by omega),
      List.getElem?_eq_none (by omega)]
    rfl

theorem length_padTo {α : Type _} (length : Nat) (xs : List (Option α)) :
    (padTo length xs).length = length := by
  rw [padTo, List.length_append, List.length_take, List.length_replicate]
  omega

/-- Steps have the fates that the reply reports at their indices. -/
theorem stepFates_eq (count : Nat) (reply : BatchResult) :
    stepFates count reply = (List.range count).map reply.fateAt := by
  refine List.ext_getElem? ?_
  intro step
  rw [stepFates, List.getElem?_zipWith, List.getElem?_map]
  by_cases h : step < count
  · rw [getElem?_padTo _ h, getElem?_padTo _ h, List.getElem?_range h]
    rfl
  · have hpadded : (padTo count reply.stepErrors)[step]? = none :=
      List.getElem?_eq_none (by rw [length_padTo]; omega)
    have hrange : (List.range count)[step]? = none :=
      List.getElem?_eq_none (by rw [List.length_range]; omega)
    rw [hpadded, hrange]
    rfl

/-! ## The fate of one step -/

/-- A step has an error if it failed. -/
theorem Wire.BatchResult.fateAt_eq_failed {reply : BatchResult} {step : Nat} {error : ServerError} :
    reply.fateAt step = .failed error ↔ reply.errorAt step = some error := by
  rw [fateAt]
  cases reply.errorAt step <;> cases reply.resultAt step <;> simp [StepFate.ofReply]

/-- A step has a result and no error if it succeeded. -/
theorem Wire.BatchResult.fateAt_eq_succeeded {reply : BatchResult} {step : Nat}
    {result : StatementResult} : reply.fateAt step = .succeeded result ↔
      reply.errorAt step = none ∧ reply.resultAt step = some result := by
  rw [fateAt]
  cases reply.errorAt step <;> cases reply.resultAt step <;> simp [StepFate.ofReply]

/-- A step has neither if it did not run. -/
theorem Wire.BatchResult.fateAt_eq_skipped {reply : BatchResult} {step : Nat} :
    reply.fateAt step = .skipped ↔ reply.errorAt step = none ∧ reply.resultAt step = none := by
  rw [fateAt]
  cases reply.errorAt step <;> cases reply.resultAt step <;> simp [StepFate.ofReply]

/-- The decoded result of a step that succeeded. -/
def StepFate.set? : StepFate → Option ResultSet
  | succeeded result => (ResultSet.decode result).toOption
  | _ => none

/-- A fate that fails no call: the step did not fail, and what it gave can be decoded. -/
def StepFate.Sound : StepFate → Prop
  | succeeded result => ∃ set, ResultSet.decode result = .ok set
  | failed _ => False
  | skipped => True

/-- A step has a sound fate if no error is reported for it and its result, if any, can be
decoded. -/
theorem Wire.BatchResult.sound_fateAt_iff {reply : BatchResult} {step : Nat} :
    (reply.fateAt step).Sound ↔ reply.errorAt step = none ∧
      ∀ result, reply.resultAt step = some result → ∃ set, ResultSet.decode result = .ok set := by
  rw [fateAt]
  cases reply.errorAt step <;> cases reply.resultAt step <;> simp [StepFate.ofReply, StepFate.Sound]

/-! ## The results of all steps -/

/-- Of two calls in `Except`, the second gives the result. -/
theorem bind_eq_ok_iff {ε α β : Type _} {first : Except ε α} {next : α → Except ε β} {b : β} :
    (first >>= next) = .ok b ↔ ∃ a, first = .ok a ∧ next a = .ok b := by
  cases first <;> simp [bind, Except.bind]

/-- Of two calls in `Except` the first fails, or the second does. -/
theorem bind_eq_error_iff {ε α β : Type _} {first : Except ε α} {next : α → Except ε β} {error : ε} :
    (first >>= next) = .error error ↔
      first = .error error ∨ ∃ a, first = .ok a ∧ next a = .error error := by
  cases first <;> simp [bind, Except.bind]

/-- Where errors are put into other words, the results are the same. -/
theorem mapError_eq_ok_iff {ε ε' α : Type _} {f : ε → ε'} {result : Except ε α} {a : α} :
    result.mapError f = .ok a ↔ result = .ok a := by
  cases result with
  | error error => exact iff_of_false nofun nofun
  | ok b =>
    show Except.ok b = Except.ok a ↔ _
    rw [Except.ok.injEq, Except.ok.injEq]

/-- Where errors are put into other words, each comes from an error. -/
theorem mapError_eq_error_iff {ε ε' α : Type _} {f : ε → ε'} {result : Except ε α} {error : ε'} :
    result.mapError f = .error error ↔ ∃ cause, result = .error cause ∧ f cause = error := by
  cases result with
  | error cause =>
    show Except.error (f cause) = Except.error error ↔ _
    simp
  | ok a => exact iff_of_false nofun nofun

/-- Where results are put into other words, the errors are the same. -/
theorem map_eq_error_iff {ε α β : Type _} {f : α → β} {result : Except ε α} {error : ε} :
    result.map f = .error error ↔ result = .error error := by
  cases result with
  | error cause =>
    show Except.error cause = Except.error error ↔ _
    rw [Except.error.injEq, Except.error.injEq]
  | ok a => exact iff_of_false nofun nofun

theorem isOk_iff {ε α : Type _} {result : Except ε α} :
    result.isOk = true ↔ ∃ a, result = .ok a := by
  cases result <;> simp [Except.isOk, Except.toBool]

theorem isOk_map {ε α β : Type _} (f : α → β) (result : Except ε α) :
    (result.map f).isOk = result.isOk := by
  cases result <;> rfl

theorem isOk_mapError {ε ε' α : Type _} (f : ε → ε') (result : Except ε α) :
    (result.mapError f).isOk = result.isOk := by
  cases result <;> rfl

/-- A result is known once it is known as an option, where errors cannot be compared. -/
theorem eq_ok_of_toOption {ε α : Type _} {result : Except ε α} {a : α}
    (h : result.toOption = some a) : result = .ok a := by
  cases result with
  | error error => cases h
  | ok b => rw [Option.some.inj h]

/-- A step in `Except` done for each element of a list gives results if it does for each. -/
theorem mapM_eq_ok_iff {ε α β : Type _} {f : α → Except ε β} {xs : List α} {ys : List β} :
    xs.mapM f = .ok ys ↔ xs.map f = ys.map .ok := by
  induction xs generalizing ys with
  | nil => cases ys <;> simp [pure, Except.pure]
  | cons x xs ih =>
    rw [List.mapM_cons]
    cases hx : f x with
    | error error => cases ys <;> simp [bind, Except.bind, hx]
    | ok y =>
      cases hxs : xs.mapM f with
      | error error => cases ys <;> simp [bind, Except.bind, hx, ← ih, hxs]
      | ok rest => cases ys <;> simp [bind, Except.bind, pure, Except.pure, hx, ← ih, hxs]

/-- What each result of a list comes from. -/
theorem mem_of_mapM_eq_ok {ε α β : Type _} {f : α → Except ε β} {xs : List α} {ys : List β}
    (h : xs.mapM f = .ok ys) {y : β} (hy : y ∈ ys) : ∃ x ∈ xs, f x = .ok y := by
  have hmem : Except.ok y ∈ xs.map f := by
    rw [mapM_eq_ok_iff.mp h]
    exact List.mem_map_of_mem hy
  obtain ⟨x, hx, hfx⟩ := List.mem_map.mp hmem
  exact ⟨x, hx, hfx⟩

/-- There are results if each element has one. -/
theorem mapM_isOk_iff {ε α β : Type _} {f : α → Except ε β} {xs : List α} :
    (xs.mapM f).isOk = true ↔ ∀ x ∈ xs, (f x).isOk = true := by
  induction xs with
  | nil => simp [isOk_iff, pure, Except.pure]
  | cons x xs ih =>
    rw [List.mapM_cons, List.forall_mem_cons, ← ih]
    cases hx : f x with
    | error error => simp [bind, Except.bind, Except.isOk, Except.toBool]
    | ok y =>
      cases hxs : xs.mapM f <;> simp [bind, Except.bind, pure, Except.pure, Except.isOk, Except.toBool]

/-- What is known of each result holds of the results in their order. -/
theorem map_eq_of_mapM_eq_ok {ε α β γ : Type _} {f : α → Except ε β} {p : β → γ} {q : α → γ}
    {xs : List α} {ys : List β} (hf : ∀ x y, f x = .ok y → p y = q x) (h : xs.mapM f = .ok ys) :
    ys.map p = xs.map q := by
  rw [mapM_eq_ok_iff] at h
  induction xs generalizing ys with
  | nil => rw [List.map_eq_nil_iff.mp h.symm, List.map_nil, List.map_nil]
  | cons x xs ih =>
    obtain ⟨y, rest, rfl, hx, hrest⟩ := List.map_eq_cons_iff.mp h.symm
    rw [List.map_cons, List.map_cons, hf x y hx.symm, ih hrest.symm]

/-- The same, where it is known of each element when it gives a result and which. -/
theorem mapM_eq_ok_iff_of {ε α β : Type _} {f : α → Except ε β} {P : α → Prop} {g : α → β}
    {xs : List α} {ys : List β} (hf : ∀ x y, f x = .ok y ↔ P x ∧ y = g x) :
    xs.mapM f = .ok ys ↔ (∀ x ∈ xs, P x) ∧ ys = xs.map g := by
  rw [mapM_eq_ok_iff]
  induction xs generalizing ys with
  | nil => simp
  | cons x xs ih =>
    cases ys with
    | nil => simp
    | cons y ys =>
      rw [List.map_cons, List.map_cons, List.map_cons, List.cons_eq_cons, List.cons_eq_cons,
        List.forall_mem_cons, ih, hf]
      exact ⟨fun ⟨⟨hx, hy⟩, hxs, hys⟩ => ⟨⟨hx, hxs⟩, hy, hys⟩,
        fun ⟨⟨hx, hxs⟩, hy, hys⟩ => ⟨⟨hx, hy⟩, hxs, hys⟩⟩

theorem decodeResult_eq_ok_iff {result : StatementResult} {set : ResultSet} :
    decodeResult result = .ok set ↔ ResultSet.decode result = .ok set := by
  rw [decodeResult, mapError_eq_ok_iff]

/-- What a statement that must succeed gives. -/
def StepFate.collect (sql : String) : StepFate → Except Error (Option ResultSet)
  | succeeded result => (decodeResult result).map some
  | failed error => .error ((Error.server error).withStatement sql)
  | skipped => .ok none

theorem collectResults_eq (statements : List (String × StepFate)) :
    collectResults statements =
      (List.filterMap id) <$>
        statements.mapM fun statement => StepFate.collect statement.1 statement.2 := by
  show (statements.mapM _ >>= fun sets => pure (sets.filterMap id)) = _
  rw [bind_pure_comp]
  refine congrArg (fun collect => List.filterMap id <$> statements.mapM collect)
    (funext fun statement => ?_)
  obtain ⟨sql, fate⟩ := statement
  cases fate <;> rfl

theorem StepFate.collect_eq_ok_iff {sql : String} {fate : StepFate} {set : Option ResultSet} :
    fate.collect sql = .ok set ↔ fate.Sound ∧ set = fate.set? := by
  cases fate with
  | succeeded result =>
    show (decodeResult result).map some = .ok set ↔ (∃ found, ResultSet.decode result = .ok found) ∧
      set = (ResultSet.decode result).toOption
    cases hdecode : ResultSet.decode result with
    | error fault =>
      rw [decodeResult, hdecode]
      exact iff_of_false nofun (by simp)
    | ok found =>
      rw [decodeResult_eq_ok_iff.mpr hdecode]
      simp [Except.map, Except.toOption, eq_comm]
  | failed error => simp [collect, Sound]
  | skipped => simp [collect, Sound, set?, eq_comm]

/-- Statements that must all succeed give the results of those that ran, if all fates are sound. -/
theorem collectResults_eq_ok_iff {statements : List (String × StepFate)} {sets : List ResultSet} :
    collectResults statements = .ok sets ↔
      (∀ statement ∈ statements, statement.2.Sound) ∧
        sets = statements.filterMap fun statement => statement.2.set? := by
  have hall : ∀ found, (statements.mapM fun statement => statement.2.collect statement.1) =
      .ok found ↔ (∀ statement ∈ statements, statement.2.Sound) ∧
        found = statements.map fun statement => statement.2.set? :=
    fun found => mapM_eq_ok_iff_of fun _ _ => StepFate.collect_eq_ok_iff
  rw [collectResults_eq]
  cases hcollected : statements.mapM fun statement => statement.2.collect statement.1 with
  | error error =>
    refine iff_of_false (fun h => by cases h) fun ⟨hsound, _⟩ => ?_
    cases hcollected.symm.trans ((hall _).mpr ⟨hsound, rfl⟩)
  | ok found =>
    obtain ⟨hsound, rfl⟩ := (hall found).mp hcollected
    show Except.ok (List.filterMap id (statements.map _)) = .ok sets ↔ _
    rw [Except.ok.injEq, List.filterMap_map, eq_comm]
    exact ⟨fun h => ⟨hsound, h⟩, fun h => h.2⟩

/-- What comes behind the last of the names has none and is passed over. -/
theorem zip_append_of_length_eq {α β : Type _} {xs : List α} {ys : List β}
    (h : xs.length = ys.length) (more : List β) : xs.zip (ys ++ more) = xs.zip ys := by
  rw [← List.append_nil xs, List.zip_append h, List.zip_nil_left, List.append_nil, List.append_nil]

/-! ## The fates of the statements of a batch -/

/-- A step that the client added is refused if it failed. -/
theorem checkAddedStep_eq_ok_iff {sql : String} {reply : BatchResult} {step : Nat} {u : Unit} :
    checkAddedStep sql (some (reply.fateAt step)) = .ok u ↔ reply.errorAt step = none := by
  rw [BatchResult.fateAt]
  cases reply.errorAt step <;> cases reply.resultAt step <;> simp [StepFate.ofReply, checkAddedStep]

/-- Without a transaction, the steps of a batch are its statements. -/
theorem callerFates_plain (statements : List Statement) (reply : BatchResult) (keepRollback : Bool) :
    BatchPlan.callerFates ⟨statements, false⟩ reply keepRollback =
      .ok ((List.range statements.length).map reply.fateAt) := by
  rw [← stepFates_eq]
  rfl

/-- The fates of a transaction are those of `BEGIN`, of its statements, of `COMMIT` and of
`ROLLBACK`. -/
theorem map_fateAt_range (count : Nat) (reply : BatchResult) :
    (List.range (count + 3)).map reply.fateAt = reply.fateAt 0 ::
      (((List.range count).map fun index => reply.fateAt (index + 1)) ++
        [reply.fateAt (count + 1), reply.fateAt (count + 2)]) := by
  rw [List.range_succ, List.range_succ, List.range_succ_eq_map]
  simp

/-- In a transaction, the statements have the fates of the steps behind the first, unless `BEGIN` or
`COMMIT` failed. -/
theorem callerFates_transactional {statements : List Statement} {reply : BatchResult}
    {keepRollback : Bool} {fates : List StepFate} :
    BatchPlan.callerFates ⟨statements, true⟩ reply keepRollback = .ok fates ↔
      reply.errorAt 0 = none ∧ reply.errorAt (statements.length + 1) = none ∧
        fates = ((List.range statements.length).map fun index => reply.fateAt (index + 1)) ++
          if keepRollback then [reply.fateAt (statements.length + 2)] else [] := by
  let count := statements.length
  let callers := (List.range count).map fun index => reply.fateAt (index + 1)
  have hlength : callers.length = count := by rw [List.length_map, List.length_range]
  have hall : stepFates (count + 3) reply = reply.fateAt 0 ::
      (callers ++ [reply.fateAt (count + 1), reply.fateAt (count + 2)]) := by
    rw [stepFates_eq, map_fateAt_range]
  have hcommit : (callers ++ [reply.fateAt (count + 1), reply.fateAt (count + 2)])[count]? =
      some (reply.fateAt (count + 1)) := by
    rw [List.getElem?_append_right (Nat.le_of_eq hlength), hlength, Nat.sub_self]
    rfl
  have htake : (callers ++ [reply.fateAt (count + 1), reply.fateAt (count + 2)]).take count =
      callers := List.take_left' hlength
  have hdrop : (callers ++ [reply.fateAt (count + 1), reply.fateAt (count + 2)]).drop (count + 1) =
      [reply.fateAt (count + 2)] := by
    rw [← hlength, List.drop_append]
    simp
  show (checkAddedStep "BEGIN" (stepFates (count + 3) reply).head? >>= fun _ =>
    checkAddedStep "COMMIT" (stepFates (count + 3) reply).tail[count]? >>= fun _ =>
      Except.ok _) = .ok fates ↔ _
  rw [hall, List.head?_cons, List.tail_cons, hcommit, htake, hdrop]
  constructor
  · intro h
    obtain ⟨_, hbegin, h⟩ := bind_eq_ok_iff.mp h
    obtain ⟨_, hend, h⟩ := bind_eq_ok_iff.mp h
    refine ⟨checkAddedStep_eq_ok_iff.mp hbegin, checkAddedStep_eq_ok_iff.mp hend, ?_⟩
    cases keepRollback <;> simpa [callers, eq_comm] using h
  · rintro ⟨hbegin, hend, rfl⟩
    refine bind_eq_ok_iff.mpr ⟨(), checkAddedStep_eq_ok_iff.mpr hbegin, ?_⟩
    refine bind_eq_ok_iff.mpr ⟨(), checkAddedStep_eq_ok_iff.mpr hend, ?_⟩
    cases keepRollback <;> simp [callers, count]

/-- The index of the first statement among the steps of a batch. -/
def BatchPlan.firstCaller (plan : BatchPlan) : Nat :=
  if plan.transactional then 1 else 0

/-- The fates that a reply reports for the statements of a batch. -/
def BatchPlan.reportedFates (plan : BatchPlan) (reply : BatchResult) : List StepFate :=
  (List.range plan.statements.length).map fun index => reply.fateAt (index + plan.firstCaller)

/-- True of a reply in which no step that begins or ends the transaction of a batch failed. -/
def BatchPlan.AddedSound (plan : BatchPlan) (reply : BatchResult) : Prop :=
  plan.transactional = true → reply.errorAt 0 = none ∧ reply.errorAt plan.commitIndex = none

@[simp] theorem BatchPlan.length_reportedFates (plan : BatchPlan) (reply : BatchResult) :
    (plan.reportedFates reply).length = plan.statements.length := by
  rw [reportedFates, List.length_map, List.length_range]

/-- The fates of the statements are those reported, with that of `ROLLBACK` behind them if it is
kept, unless `BEGIN` or `COMMIT` failed. -/
theorem BatchPlan.callerFates_eq_ok_iff {plan : BatchPlan} {reply : BatchResult}
    {keepRollback : Bool} {fates : List StepFate} :
    plan.callerFates reply keepRollback = .ok fates ↔
      plan.AddedSound reply ∧ fates = plan.reportedFates reply ++
        if plan.transactional && keepRollback then [reply.fateAt (plan.statements.length + 2)]
        else [] := by
  obtain ⟨statements, transactional⟩ := plan
  cases transactional with
  | false =>
    rw [callerFates_plain, Except.ok.injEq]
    simp [AddedSound, reportedFates, firstCaller, eq_comm]
  | true =>
    rw [callerFates_transactional]
    simp [AddedSound, reportedFates, firstCaller, commitIndex, and_assoc]

/-- A batch in which all must succeed gives the results of the statements that ran, if no step that
was added failed and all fates are sound. -/
theorem BatchPlan.collect_eq_ok_iff {plan : BatchPlan} {reply : BatchResult} {keepRollback : Bool}
    {names : List String} (hnames : names.length = plan.statements.length)
    {sets : List ResultSet} :
    (plan.callerFates reply keepRollback >>= fun fates => collectResults (names.zip fates)) =
        .ok sets ↔
      plan.AddedSound reply ∧ (∀ fate ∈ plan.reportedFates reply, fate.Sound) ∧
        sets = (plan.reportedFates reply).filterMap StepFate.set? := by
  have hlength : (plan.reportedFates reply).length = names.length := by
    rw [length_reportedFates, hnames]
  -- a fate behind those of the statements is that of `ROLLBACK`
  have hzip : ∀ more, names.zip (plan.reportedFates reply ++ more) =
      names.zip (plan.reportedFates reply) := zip_append_of_length_eq hlength.symm
  have hfates : (names.zip (plan.reportedFates reply)).map Prod.snd = plan.reportedFates reply :=
    List.map_snd_zip (Nat.le_of_eq hlength)
  have hsound : (∀ statement ∈ names.zip (plan.reportedFates reply), statement.2.Sound) ↔
      ∀ fate ∈ plan.reportedFates reply, fate.Sound := by
    rw [← hfates, List.forall_mem_map, hfates]
  have hsets : ((names.zip (plan.reportedFates reply)).filterMap fun statement =>
      statement.2.set?) = (plan.reportedFates reply).filterMap StepFate.set? := by
    rw [← hfates, List.filterMap_map, hfates]
    rfl
  rw [bind_eq_ok_iff]
  constructor
  · rintro ⟨fates, hfates, hcollect⟩
    obtain ⟨hadded, rfl⟩ := callerFates_eq_ok_iff.mp hfates
    rw [hzip, collectResults_eq_ok_iff, hsound, hsets] at hcollect
    exact ⟨hadded, hcollect⟩
  · rintro ⟨hadded, hcollect⟩
    refine ⟨_, callerFates_eq_ok_iff.mpr ⟨hadded, rfl⟩, ?_⟩
    rw [hzip, collectResults_eq_ok_iff, hsound, hsets]
    exact hcollect

end SqlStream
