import SqlStream.Connection
import SqlStream.Proofs.Batch.Layout

/-!
# What calls do to a state

The result of a call and the state behind it, for each way calls are put together. A call that fails
changes the state too, so that the state of a failed step is the one the next handler sees.
-/

namespace SqlStream

open SqlStream.Sql SqlStream.Wire

namespace Call

variable {σ α β : Type}

@[simp] theorem runOn_pure (a : α) (state : σ) : (pure a : Call σ α).runOn state = (.ok a, state) :=
  rfl

@[simp] theorem runOn_throw (error : Error) (state : σ) :
    (throw error : Call σ α).runOn state = (.error error, state) :=
  rfl

@[simp] theorem runOn_ofExcept (result : Except Error α) (state : σ) :
    (Call.ofExcept result).runOn state = (result, state) :=
  rfl

@[simp] theorem runOn_get (state : σ) : (get : Call σ σ).runOn state = (.ok state, state) :=
  rfl

@[simp] theorem runOn_modify (f : σ → σ) (state : σ) :
    (modify f : Call σ PUnit).runOn state = (.ok ⟨⟩, f state) :=
  rfl

@[simp] theorem runOn_set (state next : σ) :
    (set next : Call σ PUnit).runOn state = (.ok ⟨⟩, next) :=
  rfl

/-- A call after another runs where that one succeeded. -/
theorem runOn_bind (first : Call σ α) (next : α → Call σ β) (state : σ) :
    (first >>= next).runOn state =
      match first.runOn state with
      | (.ok a, after) => (next a).runOn after
      | (.error error, after) => (.error error, after) := by
  show (ExceptT.bindCont next (first.runOn state).1) (first.runOn state).2 = _
  obtain ⟨result, after⟩ := first.runOn state
  cases result <;> rfl

/-- A call that succeeds hands its result and the state to the next one. -/
theorem runOn_bind_ok {first : Call σ α} {state after : σ} {a : α}
    (h : first.runOn state = (.ok a, after)) (next : α → Call σ β) :
    (first >>= next).runOn state = (next a).runOn after := by
  rw [runOn_bind, h]

/-- A call that fails is not followed by the next one. -/
theorem runOn_bind_error {first : Call σ α} {state after : σ} {error : Error}
    (h : first.runOn state = (.error error, after)) (next : α → Call σ β) :
    (first >>= next).runOn state = (.error error, after) := by
  rw [runOn_bind, h]

/-- A result as the first call of two. -/
@[simp] theorem runOn_ofExcept_bind (result : Except Error α) (next : α → Call σ β) (state : σ) :
    (Call.ofExcept result >>= next).runOn state =
      match result with
      | .ok a => (next a).runOn state
      | .error error => (.error error, state) := by
  rw [runOn_bind, runOn_ofExcept]
  cases result <;> rfl

/-- A result after another is one result. -/
theorem ofExcept_bind (result : Except Error α) (next : α → Except Error β) :
    (Call.ofExcept (σ := σ) result >>= fun a => Call.ofExcept (next a)) =
      Call.ofExcept (result >>= next) := by
  cases result <;> rfl

/-- A result that is there is handed on. -/
theorem ofExcept_ok_bind (a : α) (next : α → Call σ β) :
    (Call.ofExcept (.ok a) >>= next) = next a :=
  rfl

/-- Behind an error nothing is done. -/
theorem ofExcept_error_bind (error : Error) (next : α → Call σ β) :
    (Call.ofExcept (.error error) >>= next) = Call.ofExcept (.error error) :=
  rfl

@[simp] theorem runOn_get_bind (next : σ → Call σ β) (state : σ) :
    (get >>= next).runOn state = (next state).runOn state :=
  rfl

@[simp] theorem runOn_map (f : α → β) (call : Call σ α) (state : σ) :
    (f <$> call).runOn state = ((call.runOn state).1.map f, (call.runOn state).2) := by
  rw [runOn, ExceptT.run_map, StateT.run_map]
  rfl

/-- A call that only changes the result of another succeeds with it. -/
theorem runOn_map_eq_ok {f : α → β} {call : Call σ α} {state after : σ} {b : β} :
    (f <$> call).runOn state = (.ok b, after) ↔ ∃ a, call.runOn state = (.ok a, after) ∧ f a = b := by
  rw [runOn_map]
  cases call.runOn state with
  | mk result next =>
    cases result with
    | error error => simp [Except.map]
    | ok a =>
      simp only [Except.map, Prod.mk.injEq, Except.ok.injEq]
      exact ⟨fun ⟨hb, hafter⟩ => ⟨a, ⟨rfl, hafter⟩, hb⟩, fun ⟨_, ⟨ha, hafter⟩, hb⟩ =>
        ⟨ha ▸ hb, hafter⟩⟩

@[simp] theorem runOn_withStatement (sql : String) (call : Call σ α) (state : σ) :
    (withStatement sql call).runOn state =
      ((call.runOn state).1.mapError (Error.withStatement sql), (call.runOn state).2) :=
  rfl

/-- A handler sees the state that the failed call left. -/
theorem runOn_tryCatch (call : Call σ α) (handler : Error → Call σ α) (state : σ) :
    (tryCatch call handler : Call σ α).runOn state =
      match call.runOn state with
      | (.ok a, after) => (.ok a, after)
      | (.error error, after) => (handler error).runOn after := by
  unfold runOn
  rw [ExceptT.run_tryCatch, StateT.run_bind]
  cases StateT.run (ExceptT.run call) state with
  | mk result after => cases result <;> rfl

/-- What came of a call, as a result of its own. -/
theorem runOn_observing (call : Call σ α) (state : σ) :
    (observing call).runOn state = (.ok (call.runOn state).1, (call.runOn state).2) := by
  show (tryCatch _ _ : Call σ (Except Error α)).runOn state = _
  rw [runOn_tryCatch, runOn_bind]
  cases call.runOn state with
  | mk result after => cases result <;> rfl

end Call

/-- A call whose stream is closed if it fails. -/
theorem runOn_closingOnError {τ α : Type} [Transport τ] (call : Call τ α) (stream : τ) :
    (closingOnError call).runOn stream =
      match call.runOn stream with
      | (.ok a, after) => (.ok a, after)
      | (.error error, after) => (.error error, Transport.close after) := by
  rw [closingOnError, Call.runOn_tryCatch]
  obtain ⟨result, after⟩ := call.runOn stream
  cases result <;> rfl

/-- A batch that is built is sent, and its answer is read. -/
theorem executeBatch_of_fits {τ : Type} [Transport τ] {plan : BatchPlan} (h : plan.Fits)
    (keepRollback : Bool) :
    executeBatch (τ := τ) plan keepRollback = Transport.send [plan.request] >>= fun responses =>
      Call.ofExcept (expectBatch responses) >>= fun reply =>
        Call.ofExcept (plan.callerFates reply keepRollback) := by
  rw [executeBatch, BatchPlan.build_of_fits h, Call.ofExcept_ok_bind]

/-- Of a batch that is not built, nothing is sent. -/
theorem executeBatch_of_not_fits {τ : Type} [Transport τ] {plan : BatchPlan} (h : ¬ plan.Fits)
    (keepRollback : Bool) :
    executeBatch (τ := τ) plan keepRollback =
      Call.ofExcept (.error (.batchTooLarge (UInt32.size + 1))) := by
  rw [executeBatch, BatchPlan.build_of_not_fits h]
  rfl

namespace Connection

variable {τ α β : Type}

/-- A call on the stream of a connection changes nothing else of it. -/
@[simp] theorem runOn_onStream (call : Call τ α) (connection : Connection τ) :
    (onStream call).runOn connection =
      ((call.runOn connection.stream).1,
        { connection with stream := (call.runOn connection.stream).2 }) :=
  rfl

/-- Two calls on the stream, one after the other, are one. -/
theorem onStream_bind (first : Call τ α) (next : α → Call τ β) :
    onStream (first >>= next) = onStream first >>= fun a => onStream (next a) := by
  refine funext fun connection => ?_
  show (onStream (first >>= next)).runOn connection = (onStream first >>= _).runOn connection
  rw [runOn_onStream, Call.runOn_bind, Call.runOn_bind, runOn_onStream]
  cases first.runOn connection.stream with
  | mk result after => cases result <;> rfl

/-- A result that needs no stream is the same on the connection. -/
theorem onStream_ofExcept (result : Except Error α) :
    onStream (τ := τ) (Call.ofExcept result) = Call.ofExcept result :=
  rfl

/-- A value is the same on the connection. -/
theorem onStream_pure (a : α) : onStream (τ := τ) (pure a) = pure a :=
  rfl

/-- A function of the result may be applied on the stream or on the connection. -/
theorem onStream_map (f : α → β) (call : Call τ α) :
    onStream (f <$> call) = f <$> onStream call := by
  rw [← bind_pure_comp, onStream_bind, ← bind_pure_comp]
  rfl

end Connection

end SqlStream
