import SqlStream.Proofs.Batch.ByIndex
import SqlStream.Proofs.Connection.Runs

/-!
# The option that keeps `ROLLBACK`

With `schemaDb` the fate of `ROLLBACK` comes behind the fates of the statements of a transactional
batch. Calls that give results pass it over, and no call does anything else with the option. So
these calls give the same with the option and without it, whatever was called before
(`SchemaDbUnseen`).
-/

namespace SqlStream

open SqlStream.Sql SqlStream.Wire

/-! ## Results without the fate of `ROLLBACK` -/

/-- Results have the names of the statements, so a fate behind them is passed over. -/
theorem BatchPlan.collect_kept {plan : BatchPlan} {names : List String}
    (hnames : names.length = plan.statements.length) (reply : BatchResult) (keepRollback : Bool) :
    (plan.callerFates reply keepRollback >>= fun fates => collectResults (names.zip fates)) =
      (plan.callerFates reply false >>= fun fates => collectResults (names.zip fates)) := by
  rw [callerFates_kept plan reply keepRollback]
  cases hfates : plan.callerFates reply false with
  | error error => rfl
  | ok fates =>
    obtain ⟨_, hreported⟩ := callerFates_eq_ok_iff.mp hfates
    have hlength : names.length = fates.length := by
      rw [hreported, hnames]
      simp
    show collectResults (names.zip (fates ++ _)) = collectResults (names.zip fates)
    rw [zip_append_of_length_eq hlength]

section

variable {τ : Type} [Transport τ]

/-- A batch call is the same whether or not the fate of `ROLLBACK` is kept. -/
theorem batchCall_kept (statements : List BoundStatement)
    (wantRows transactional keepRollback other : Bool) :
    batchCall (τ := τ) statements wantRows transactional keepRollback =
      batchCall statements wantRows transactional other := by
  unfold batchCall
  cases hbuilt : statements.mapM (Connection.buildBound wantRows) with
  | error error => rw [Call.ofExcept_error_bind, Call.ofExcept_error_bind]
  | ok built =>
    have hlength : (statements.map BoundStatement.sql).length =
        (BatchPlan.mk built transactional).statements.length := by
      have hmap := congrArg List.length (mapM_eq_ok_iff.mp hbuilt)
      rw [List.length_map, List.length_map] at hmap
      rw [List.length_map, hmap]
    simp only [Call.ofExcept_ok_bind, executeBatch, bind_assoc, Call.ofExcept_bind]
    simp only [BatchPlan.collect_kept hlength _ keepRollback, BatchPlan.collect_kept hlength _ other]

/-- A call with arguments is the same whether or not the fate of `ROLLBACK` is kept. -/
theorem argumentsCall_kept (sql : String) (arguments : Arguments)
    (wantRows keepRollback other : Bool) :
    argumentsCall (τ := τ) sql arguments wantRows keepRollback =
      argumentsCall sql arguments wantRows other := by
  unfold argumentsCall
  refine congrArg _ (funext fun statements => ?_)
  match statements with
  | [] => rfl
  | [_] => rfl
  | _ :: _ :: _ => exact batchCall_kept _ _ _ _ _

/-- A call of bound statements is the same whether or not the fate of `ROLLBACK` is kept. -/
theorem boundCall_kept (statements : List BoundStatement)
    (inTransaction keepRollback other : Bool) :
    boundCall (τ := τ) statements inTransaction keepRollback =
      boundCall statements inTransaction other := by
  match statements with
  | [] => rfl
  | [_] => rfl
  | _ :: _ :: _ => exact congrArg (Summary.aggregate <$> ·) (batchCall_kept _ _ _ _ _)

/-- Of the options, a script looks at those for chunks only. -/
theorem scriptCall_kept {options other : Options}
    (h : options.withSchemaDb false = other.withSchemaDb false) (sql : String)
    (inTransaction : Bool) :
    scriptCall (τ := τ) sql options inTransaction = scriptCall sql other inTransaction := by
  obtain ⟨-, hthreshold, hsize, -⟩ := Options.mk.inj h
  unfold scriptCall
  rw [hthreshold, hsize]
  simp only [boundCall_kept _ _ options.schemaDb other.schemaDb]

/-- A call whose outcomes the caller gets leaves the same stream, whether or not that of `ROLLBACK`
is among them. -/
theorem stream_outcomesCall_kept (statements : List BatchStatement)
    (transactional keepRollback other : Bool) (stream : τ) :
    ((outcomesCall statements transactional keepRollback).runOn stream).2 =
      ((outcomesCall statements transactional other).runOn stream).2 := by
  unfold outcomesCall
  cases statements.mapM fun statement =>
      buildStatement (.text statement.sql) statement.arguments statement.wantRows with
  | error error => rw [Call.ofExcept_error_bind, Call.ofExcept_error_bind]
  | ok built =>
    by_cases hempty : built.isEmpty = true
    · simp only [Call.ofExcept_ok_bind, if_pos hempty]
    · -- behind the exchange, the stream is not touched
      simp only [Call.ofExcept_ok_bind, if_neg hempty, executeBatch, bind_assoc,
        Call.ofExcept_bind]
      cases BatchPlan.build ⟨built, transactional⟩ with
      | error error => rfl
      | ok request =>
        simp only [Call.ofExcept_ok_bind, Call.runOn_bind]
        cases (Transport.send [request]).runOn stream with
        | mk result after => cases result <;> rfl

end

/-! ## Streams that differ in the option -/

/-- Streams that cannot be told apart, among them those that got options which differ in whether the
fate of `ROLLBACK` is kept. -/
structure HidesSchemaDb {τ : Type} [Transport τ] (R : τ → τ → Prop) : Prop extends Simulation R where
  configured (options : Options) (stream : τ) :
    R (Transport.configure (options.withSchemaDb true) stream)
      (Transport.configure (options.withSchemaDb false) stream)

namespace Http.Stream

variable {σ : Type} {options : Options} {stream : Stream σ}

/-- Streams that differ in their options only, but not in how long they wait for a reply. -/
def SameTimeout (stream other : Stream σ) : Prop :=
  stream.options.timeoutMs = other.options.timeoutMs ∧
    other = { stream with options := other.options }

/-- Options with the same timeout leave a stream its timeout. -/
theorem sameTimeout_withOptions (htimeout : stream.options.timeoutMs = options.timeoutMs) :
    SameTimeout stream { stream with options } :=
  ⟨htimeout, rfl⟩

/-- Settling an exchange does not look at the options. -/
theorem settle_withOptions (sent : List Request) (reply : HttpReply) (stream : Stream σ)
    (options : Options) :
    settle sent reply { stream with options } =
      ((settle sent reply stream).1, { (settle sent reply stream).2 with options }) := by
  unfold settle
  cases readReply reply <;> rfl

/-- Settling an exchange keeps the options. -/
theorem options_settle (sent : List Request) (reply : HttpReply) (stream : Stream σ) :
    (settle sent reply stream).2.options = stream.options := by
  unfold settle
  cases readReply reply <;> rfl

variable [Server σ]

/-- Posting a body keeps the options. -/
theorem options_post (body : PipelineRequest) (stream : Stream σ) :
    (post body stream).2.options = stream.options := by
  obtain ⟨server, hserver⟩ := post_eq_with_server body stream
  rw [hserver]

/-- Posting a body looks at the timeout among the options only. -/
theorem post_withOptions (body : PipelineRequest) (stream : Stream σ)
    (htimeout : stream.options.timeoutMs = options.timeoutMs) :
    post body { stream with options } =
      ((post body stream).1, { (post body stream).2 with options }) := by
  have hrequest : httpRequest { stream with options } body = stream.httpRequest body := by
    unfold httpRequest
    rw [htimeout]
  cases hobstacle : Server.obstacle? σ (stream.httpRequest body) with
  | none => rw [post_of_no_obstacle hobstacle, post_of_no_obstacle (hrequest ▸ hobstacle), hrequest]
  | some message => rw [post_of_obstacle hobstacle, post_of_obstacle (hrequest ▸ hobstacle)]

/-- Of its options a stream looks at how long to wait only. -/
theorem hidesSchemaDb : HidesSchemaDb (SameTimeout (σ := σ)) where
  send {stream other} requests hsame := by
    obtain ⟨htimeout, hother⟩ := hsame
    generalize other.options = options at htimeout hother
    subst hother
    show ((send requests).runOn stream).1 = ((send requests).runOn { stream with options }).1 ∧
      SameTimeout ((send requests).runOn stream).2
        ((send requests).runOn { stream with options }).2
    by_cases hclosed : stream.session.isClosed = true
    · rw [runOn_send_of_isClosed hclosed, runOn_send_of_isClosed (by exact hclosed)]
      exact ⟨rfl, sameTimeout_withOptions htimeout⟩
    · have hopen : stream.session.isClosed = false := by simpa using hclosed
      have hway : underWay { stream with options } = { stream.underWay with options } := rfl
      rw [runOn_send_of_not_isClosed hopen, runOn_send_of_not_isClosed (by exact hopen), hway]
      simp only [post_withOptions _ stream.underWay htimeout, settle_withOptions,
        true_and]
      refine sameTimeout_withOptions ?_
      rw [options_settle, options_post]
      exact htimeout
  close {stream other} hsame := by
    obtain ⟨htimeout, hother⟩ := hsame
    generalize other.options = options at htimeout hother
    subst hother
    have hway : underWay { stream with options } = { stream.underWay with options } := rfl
    show SameTimeout (close stream) (close { stream with options })
    cases hbaton : stream.session.baton with
    | none =>
      rw [close_of_no_baton hbaton, close_of_no_baton (by exact hbaton), hway]
      exact sameTimeout_withOptions htimeout
    | some baton =>
      rw [close_of_baton hbaton, close_of_baton (by exact hbaton), hway,
        post_withOptions _ stream.underWay htimeout]
      refine sameTimeout_withOptions ?_
      rw [options_post]
      exact htimeout
  configure options hsame := by
    obtain ⟨-, hother⟩ := hsame
    rw [hother]
    exact ⟨rfl, rfl⟩
  configured _ _ := ⟨rfl, rfl⟩

end Http.Stream

/-- Streams over a channel take over no options. -/
theorem Channel.Stream.hidesSchemaDb {σ : Type} [Peer σ] : HidesSchemaDb (@Eq (Stream σ)) where
  send requests hsame := by rw [hsame]; exact ⟨rfl, rfl⟩
  close hsame := by rw [hsame]
  configure options hsame := hsame
  configured _ _ := rfl

/-! ## Connections that differ in the option -/

/-- Connections that differ only in whether the fate of `ROLLBACK` is kept, on streams that cannot
be told apart. -/
structure Connection.Alike {τ : Type} (R : τ → τ → Prop) (kept dropped : Connection τ) : Prop where
  stream : R kept.stream dropped.stream
  options : kept.options.withSchemaDb false = dropped.options.withSchemaDb false
  inTransaction : kept.inTransaction = dropped.inTransaction
  nextSqlId : kept.nextSqlId = dropped.nextSqlId

namespace Connection.Alike

variable {τ : Type} {R : τ → τ → Prop} {kept dropped : Connection τ}

/-- Behind a call, connections note the same. -/
theorem noted (h : Alike R kept dropped) (call : ConnectionCall) (succeeded : Bool)
    {stream other : τ} (hstream : R stream other) :
    Alike R ((call.noted succeeded kept.notes).on stream)
      ((call.noted succeeded dropped.notes).on other) := by
  cases call with
  | beginTransaction =>
    exact ⟨hstream, h.options, congrArg (if succeeded then true else ·) h.inTransaction, h.nextSqlId⟩
  | commit =>
    exact ⟨hstream, h.options, congrArg (if succeeded then false else ·) h.inTransaction,
      h.nextSqlId⟩
  | rollback => exact ⟨hstream, h.options, rfl, h.nextSqlId⟩
  | close => exact ⟨hstream, h.options, rfl, h.nextSqlId⟩
  | storeSql sql => exact ⟨hstream, h.options, h.inTransaction, congrArg (· + 1) h.nextSqlId⟩
  | withOptions options => exact ⟨hstream, rfl, h.inTransaction, h.nextSqlId⟩
  | _ => exact ⟨hstream, h.options, h.inTransaction, h.nextSqlId⟩

variable [Transport τ]

/-- Connections that differ in the option only are alike. -/
theorem withOptions (hR : HidesSchemaDb R) (connection : Connection τ) (options : Options) :
    Alike R (connection.withOptions (options.withSchemaDb true))
      (connection.withOptions (options.withSchemaDb false)) where
  stream := hR.configured options connection.stream
  options := rfl
  inTransaction := rfl
  nextSqlId := rfl

/-- A call does the same on the streams of both, unless its caller gets all outcomes. -/
theorem streamCall_eq (h : Alike R kept dropped) {call : ConnectionCall}
    (hcall : ∀ statements transactional, call ≠ .batch statements transactional) :
    call.streamCall (τ := τ) kept.notes = call.streamCall dropped.notes := by
  unfold ConnectionCall.streamCall
  cases call with
  | query sql arguments =>
    simp only [argumentsCall_kept _ _ _ kept.notes.options.schemaDb dropped.notes.options.schemaDb]
  | execute sql arguments =>
    simp only [argumentsCall_kept _ _ _ kept.notes.options.schemaDb dropped.notes.options.schemaDb]
  | executeScript sql =>
    show (fun _ => ()) <$> scriptCall sql kept.options kept.inTransaction =
      (fun _ => ()) <$> scriptCall sql dropped.options dropped.inTransaction
    rw [scriptCall_kept h.options, h.inTransaction]
  | batch statements transactional => exact absurd rfl (hcall statements transactional)
  | storeSql sql =>
    show (fun _ => ()) <$> Call.withStatement sql (Transport.send [.storeSql sql kept.nextSqlId]) =
      (fun _ => ()) <$> Call.withStatement sql (Transport.send [.storeSql sql dropped.nextSqlId])
    rw [h.nextSqlId]
  | _ => rfl

/-- A call leaves connections that differ in the option only. -/
theorem after (hR : Simulation R) (h : Alike R kept dropped) (call : ConnectionCall) :
    Alike R (call.after kept) (call.after dropped) := by
  unfold ConnectionCall.after
  rw [ConnectionCall.runOn_run, ConnectionCall.runOn_run]
  have hsimulated := (call.sameCall dropped.notes).simulates hR h.stream
  by_cases hbatch : ∃ statements transactional, call = .batch statements transactional
  · obtain ⟨statements, transactional, rfl⟩ := hbatch
    have hkept : ((ConnectionCall.streamCall kept.notes (.batch statements transactional)).runOn
          kept.stream).2 =
        ((ConnectionCall.streamCall dropped.notes (.batch statements transactional)).runOn
          kept.stream).2 := by
      unfold ConnectionCall.streamCall
      rw [Call.runOn_map, Call.runOn_map]
      exact stream_outcomesCall_kept _ _ _ _ _
    -- what is noted behind a batch does not depend on whether it succeeds
    rw [← hkept] at hsimulated
    exact h.noted (.batch statements transactional) true hsimulated.2
  · rw [h.streamCall_eq fun statements transactional hcall => hbatch ⟨_, _, hcall⟩]
    dsimp only
    rw [hsimulated.1]
    exact h.noted call _ hsimulated.2

/-- So do several calls. -/
theorem afterCalls (hR : Simulation R) (h : Alike R kept dropped) (calls : List ConnectionCall) :
    Alike R (kept.afterCalls calls) (dropped.afterCalls calls) := by
  induction calls generalizing kept dropped with
  | nil => exact h
  | cons call calls ih => exact ih (h.after hR call)

/-- A script with its arguments gives the same on both. -/
theorem run_eq (hR : Simulation R) (h : Alike R kept dropped) (sql : String)
    (arguments : Arguments) (wantRows : Bool) :
    ((Connection.run sql arguments wantRows).runOn kept).1 =
      ((Connection.run sql arguments wantRows).runOn dropped).1 := by
  rw [runOn_run_eq, runOn_run_eq, runOn_onStream, runOn_onStream,
    argumentsCall_kept _ _ _ kept.options.schemaDb dropped.options.schemaDb]
  exact ((sameCall_argumentsCall sql arguments wantRows _).simulates hR h.stream).1

/-- A script without arguments does. -/
theorem executeScript_eq (hR : Simulation R) (h : Alike R kept dropped) (sql : String) :
    ((Connection.executeScript sql).runOn kept).1 =
      ((Connection.executeScript sql).runOn dropped).1 := by
  rw [runOn_executeScript_eq, runOn_executeScript_eq, runOn_onStream, runOn_onStream,
    scriptCall_kept h.options, h.inTransaction]
  exact ((sameCall_scriptCall sql _ _).simulates hR h.stream).1

end Connection.Alike

/-! ## Calls that give results -/

section

variable {τ α β : Type} [Transport τ]

/-- A call that gives the same on a connection that keeps the fate of `ROLLBACK` and on one that
does not, whatever was called before. -/
def Unseen (call : Call (Connection τ) α) : Prop :=
  ∀ (connection : Connection τ) (options : Options) (before : List ConnectionCall),
    (call.runOn ((connection.withOptions (options.withSchemaDb true)).afterCalls before)).1 =
      (call.runOn ((connection.withOptions (options.withSchemaDb false)).afterCalls before)).1

/-- A function of a result does not see what the result does not. -/
theorem Unseen.map {call : Call (Connection τ) α} (h : Unseen call) (f : α → β) :
    Unseen (f <$> call) := by
  intro connection options before
  rw [Call.runOn_map, Call.runOn_map, h connection options before]

/-- A call with equal results on alike connections does not see the option. -/
theorem Unseen.of_alike {R : τ → τ → Prop} (hR : HidesSchemaDb R) {call : Call (Connection τ) α}
    (h : ∀ {kept dropped}, Connection.Alike R kept dropped →
      (call.runOn kept).1 = (call.runOn dropped).1) : Unseen call := by
  intro connection options before
  have halike := Connection.Alike.withOptions hR connection options
  exact h (halike.afterCalls hR.toSimulation before)

/-- The calls that give results do not see whether the fate of `ROLLBACK` is kept. -/
structure SchemaDbUnseen (τ : Type) [Transport τ] : Prop where
  query (sql : String) (arguments : Arguments) : Unseen (Connection.query (τ := τ) sql arguments)
  execute (sql : String) (arguments : Arguments) : Unseen (Connection.execute (τ := τ) sql arguments)
  executeScript (sql : String) : Unseen (Connection.executeScript (τ := τ) sql)

/-- Over a transport that hides the option no call that gives a result sees it. -/
theorem schemaDbUnseen {R : τ → τ → Prop} (hR : HidesSchemaDb R) : SchemaDbUnseen τ where
  query sql arguments := by
    unfold Connection.query
    rw [bind_pure_comp]
    exact (Unseen.of_alike hR fun h => h.run_eq hR.toSimulation sql arguments true).map _
  execute sql arguments := by
    unfold Connection.execute
    rw [bind_pure_comp]
    exact (Unseen.of_alike hR fun h => h.run_eq hR.toSimulation sql arguments false).map _
  executeScript sql := .of_alike hR fun h => h.executeScript_eq hR.toSimulation sql

end

/-- Replies to batches are read by index, and calls that give results never see whether the fate of
`ROLLBACK` is kept. What the servers do is arbitrary. -/
theorem callers_read_by_index (σ π : Type) [Http.Server σ] [Channel.Peer π]
    (statements : List Statement) (reply : BatchResult) (keepRollback : Bool) :
    ReadByIndex statements reply keepRollback ∧
      SchemaDbUnseen (Http.Stream σ) ∧ SchemaDbUnseen (Channel.Stream π) :=
  ⟨readByIndex statements reply keepRollback, schemaDbUnseen Http.Stream.hidesSchemaDb,
    schemaDbUnseen Channel.Stream.hidesSchemaDb⟩

end SqlStream
