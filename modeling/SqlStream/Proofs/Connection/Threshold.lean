import SqlStream.Proofs.Batch.Database
import SqlStream.Proofs.Connection.TransactionFlag
import SqlStream.Proofs.PositionalArguments

/-!
# Scripts on both sides of the threshold

A script past the threshold runs in chunks between `BEGIN` and `COMMIT` of the client, and what the
client takes for control is left out (`runAll_of_large`). Up to the threshold, a script that has
such statements runs as it stands (`runAll_of_small_control`). So on a server on which nothing
fails, both leave the same behind if these two runs do. They do on a server that keeps one
transaction and on which the client recognises what controls it, unless the script undoes something
or leaves a transaction open (`threshold_unseen_iff`).
-/

namespace SqlStream

open SqlStream.Sql SqlStream.Wire

/-! ## Exchanges in which nothing fails -/

/-- An exchange in which nothing fails: the state of the server before it and behind it. The answer
arrives and can be decoded. -/
inductive Exchange.Performs {ς : Type} (engine : Engine ς) : Exchange → ς → ς → Prop where
  | executed {statement : Statement} {result : StatementResult} {set : ResultSet}
      {before after : ς} : ResultSet.decode result = .ok set →
      engine before statement = some after →
      Performs engine ⟨[.execute statement], .ok [.execute result]⟩ before after
  | ran {batch : Batch} {reply : BatchResult} {fates : List StepFate} {before after : ς} :
      BatchPerforms engine [] before batch.steps fates after → reply.Reports fates →
      (∀ result, .succeeded result ∈ fates → ∃ set, ResultSet.decode result = .ok set) →
      Performs engine ⟨[.batch batch], .ok [.batch reply]⟩ before after

/-- Exchanges one after another in which nothing fails. -/
inductive Performed {ς : Type} (engine : Engine ς) : List Exchange → ς → ς → Prop where
  | nil {state : ς} : Performed engine [] state state
  | cons {exchange : Exchange} {log : List Exchange} {before next after : ς} :
      exchange.Performs engine before next → Performed engine log next after →
      Performed engine (exchange :: log) before after

section

variable {ς : Type} {engine : Engine ς} {before after : ς}

/-- An exchange in which nothing fails gives what was asked for. -/
theorem Exchange.Performs.succeeded {exchange : Exchange}
    (h : exchange.Performs engine before after) : exchange.Succeeded := by
  cases h with
  | executed hset => exact ⟨_, _, _, rfl, rfl, .execute hset⟩
  | @ran batch reply fates _ _ hperforms hreports hdecodable =>
    refine ⟨_, _, _, rfl, rfl, .batch fun step hstep => ?_⟩
    rw [← hperforms.serverRunFrom.length_eq] at hstep
    have hfate := List.getElem?_eq_getElem hstep
    have hreported := hreports step _ hfate
    rcases hperforms.fate_eq (List.getElem_mem hstep) with ⟨result, hresult⟩ | hskipped
    · rw [hresult] at hreported
      refine ⟨hreported.1, fun given hgiven => ?_⟩
      cases hreported.2.symm.trans hgiven
      exact hdecodable result (hresult ▸ List.getElem_mem hstep)
    · rw [hskipped] at hreported
      refine ⟨hreported.1, fun given hgiven => ?_⟩
      cases hreported.2.symm.trans hgiven

namespace Performed

variable {log rest : List Exchange}

/-- A log in two parts takes the server from one state to another and on. -/
theorem split (h : Performed engine (log ++ rest) before after) :
    ∃ next, Performed engine log before next ∧ Performed engine rest next after := by
  induction log generalizing before with
  | nil => exact ⟨before, .nil, h⟩
  | cons exchange log ih =>
    cases h with
    | cons hexchange hlog =>
      obtain ⟨next, hfirst, hrest⟩ := ih hlog
      exact ⟨next, .cons hexchange hfirst, hrest⟩

/-- A log of one exchange is that exchange. -/
theorem of_singleton {exchange : Exchange} (h : Performed engine [exchange] before after) :
    exchange.Performs engine before after := by
  cases h with
  | cons hexchange hnil =>
    cases hnil
    exact hexchange

end Performed

/-! ## What is done in a row -/

/-- Where nothing fails, a plan is carried out as a whole. -/
theorem Attempt.complete_of_performed {plan : List Request} {log : List Exchange} {complete : Bool}
    (h : Attempt plan log complete) (hlog : Performed engine log before after) :
    complete = true := by
  cases complete with
  | true => rfl
  | false =>
    obtain ⟨earlier, failing, rfl, _, hfailed⟩ := h.failed_last
    obtain ⟨_, _, hlast⟩ := hlog.split
    exact absurd hlast.of_singleton.succeeded hfailed

/-- A statement that is sent by itself is carried out. -/
theorem Attempt.run_of_performed {sql : String} {log : List Exchange}
    (h : Attempt [plainRequest sql] log true) (hlog : Performed engine log before after) :
    engine before (plainStatement sql) = some after := by
  cases h with
  | next _ hrest =>
    cases hrest
    cases hlog.of_singleton with
    | executed _ hrun => exact hrun

/-- Chunks do what their statements do one after another. -/
theorem Attempt.runAll_of_chunks {pieces : List (List String)} {log : List Exchange}
    (h : Attempt (pieces.map chunkRequest) log true)
    (hlog : Performed engine log before after) :
    engine.runAll (pieces.flatten.map plainStatement) before = some after := by
  induction pieces generalizing log before with
  | nil =>
    cases h
    cases hlog
    rfl
  | cons chunk pieces ih =>
    cases h with
    | next _ hattempt =>
      cases hlog with
      | cons hexchange hrest =>
        rw [← request_chunkPlan] at hexchange
        rw [List.flatten_cons, List.map_append, Engine.runAll_append]
        cases hexchange with
        | ran hperforms => exact ⟨_, hperforms.runAll_of_plain, ih hattempt hrest⟩

/-- A script in chunks does what its statements do between `BEGIN` and `COMMIT`. -/
theorem Attempt.runAll_of_script {statements : List String} {chunkSize : Nat} {log : List Exchange}
    {complete : Bool} (h : Attempt (scriptPlan statements chunkSize true) log complete)
    (hlog : Performed engine log before after) :
    engine.runAll (framed (statements.map plainStatement)) before = some after := by
  rw [h.complete_of_performed hlog] at h
  obtain ⟨opening, behind, rfl, hopening, hbehind⟩ := h.split_complete
  obtain ⟨batches, closing, rfl, hbatches, hclosing⟩ := hbehind.split_complete
  obtain ⟨begun, hbegun, hlog⟩ := hlog.split
  obtain ⟨ran, hran, hcommitted⟩ := hlog.split
  have hall := hbatches.runAll_of_chunks hran
  rw [flatten_chunks] at hall
  exact Engine.runAll_cons.mpr ⟨begun, hopening.run_of_performed hbegun,
    Engine.runAll_concat.mpr ⟨ran, hall, hclosing.run_of_performed hcommitted⟩⟩

end

/-! ## Scripts without arguments -/

/-- If there are no values, no statement is bound to any. -/
theorem bindPositional_nil_values {statements : List ShapedStatement} {bound : List BoundStatement}
    (h : bindPositional statements [] = .ok bound) :
    ∀ statement ∈ bound, statement.arguments = .none := by
  induction statements generalizing bound with
  | nil =>
    cases h
    simp
  | cons shaped statements ih =>
    rw [bindPositional_cons] at h
    cases htaken : takeValues shaped [] with
    | error error =>
      rw [htaken] at h
      cases h
    | ok taken =>
      -- of no values, a statement takes none and leaves none
      obtain rfl : taken = ([], []) := by simpa using (takeValues_eq_ok htaken).1
      rw [htaken] at h
      dsimp only at h
      cases hrest : bindPositional statements [] with
      | error error =>
        rw [hrest] at h
        cases h
      | ok rest =>
        rw [hrest] at h
        cases h
        rw [List.forall_mem_cons]
        exact ⟨rfl, ih hrest⟩

/-- Without arguments, the statements of a script are bound to no values. -/
theorem bindScript_none {sql : String} {bound : List BoundStatement}
    (h : bindScript sql .none = .ok bound) :
    bound = (splitStatements sql).1.map fun text => ⟨text, .none⟩ := by
  obtain ⟨_, _, hpositional⟩ := bind_eq_ok_iff.mp h
  have hnone : ∀ statement ∈ bound, (⟨statement.sql, .none⟩ : BoundStatement) = statement := by
    intro statement hmem
    rw [← bindPositional_nil_values hpositional statement hmem]
  rw [← bindScript_texts h, List.map_map]
  exact (List.map_id _).symm.trans (List.map_congr_left hnone).symm

/-! ## The two routes -/

/-- True of a script that can go as one batch: no statement of it asks for values, and if the client
puts it into a transaction, its statements are not too many for one. -/
structure Batchable (sql : String) : Prop where
  binds : (bindScript sql .none).isOk = true
  fits : BatchPlan.Fits ⟨(splitStatements sql).1.map plainStatement,
    !(splitStatements sql).1.any isTransactionControl⟩

section

variable {τ : Type} [Transport τ]

/-- A script that is past the threshold sends the requests of its plan. -/
theorem traces_scriptCall_large {sql : String} {options : Options} {inTransaction : Bool}
    (hlarge : options.chunkThresholdBytes < sql.utf8ByteSize)
    (hmany : 2 ≤ (chunkedStatements sql).length) :
    Traces (scriptCall (τ := τ) sql options inTransaction) (scriptCall sql options inTransaction)
      fun new result => Attempt
        (scriptPlan (chunkedStatements sql) options.chunkSize (!inTransaction)) new result.isOk := by
  unfold scriptCall
  rw [if_pos hlarge, if_pos hlarge]
  exact traces_chunkedScript _ _ hmany

/-- A script that fits a message is one batch of its statements. -/
theorem traces_scriptCall_small {sql : String} {options : Options} {inTransaction : Bool}
    (hsmall : sql.utf8ByteSize ≤ options.chunkThresholdBytes)
    (hmany : 2 ≤ (splitStatements sql).1.length) (hbatch : Batchable sql) :
    Traces (scriptCall (τ := τ) sql options inTransaction) (scriptCall sql options inTransaction)
      fun new _ => ∃ outcome, new = [⟨[BatchPlan.request
        ⟨(splitStatements sql).1.map plainStatement,
          !inTransaction && !(splitStatements sql).1.any isTransactionControl⟩], outcome⟩] := by
  obtain ⟨bound, hbound⟩ := isOk_iff.mp hbatch.binds
  have hcontrol := bindScript_any_control hbound
  have hbuilt : bound.mapM (Connection.buildBound false) =
      .ok ((splitStatements sql).1.map plainStatement) := by
    rw [bindScript_none hbound, mapM_eq_ok_iff, List.map_map, List.map_map]
    rfl
  rw [← bindScript_length hbound] at hmany
  unfold scriptCall
  rw [if_neg (Nat.not_lt.mpr hsmall), if_neg (Nat.not_lt.mpr hsmall), hbound]
  show Traces (boundCall bound _ _) (boundCall bound _ _) _
  match bound, hmany with
  | first :: second :: rest, _ =>
    have hfits : BatchPlan.Fits ⟨(splitStatements sql).1.map plainStatement,
        !inTransaction && !(splitStatements sql).1.any isTransactionControl⟩ :=
      fun htransactional => hbatch.fits (Bool.and_elim_right htransactional)
    simp only [boundCall, hcontrol]
    refine ((traces_batchCall_of_built hbuilt hfits _).map Summary.aggregate).mono ?_
    rintro new result ⟨_, hsent, _⟩
    exact hsent

/-- The exchanges of a script are those of its one call on the stream. -/
theorem exchangesOf_script {sql : String} (connection : Connection τ)
    {P : List Exchange → Except Error Summary → Prop}
    (h : Traces (scriptCall (τ := τ) sql connection.options connection.inTransaction)
      (scriptCall sql connection.options connection.inTransaction) P) :
    ∃ result, P (exchangesOf [.script sql] connection) result := by
  obtain ⟨new, hnew, hrun⟩ := h connection.stream []
  have hlog : exchangesOf [.script sql] connection = new := by
    show ((TransactionCall.script sql).after (connection.withLog [])).stream.log = new
    rw [TransactionCall.after, TransactionCall.runOn_run]
    show (((fun _ => ()) <$> scriptCall sql connection.options
      connection.inTransaction : Call (Logged τ) Unit).runOn ⟨connection.stream, []⟩).2.log = new
    rw [Call.runOn_map, hrun]
    rfl
  exact ⟨_, hlog ▸ hnew⟩

variable {connection : Connection τ} {sql : String} {ς : Type} {engine : Engine ς}
  {before after : ς}

/-- Past the threshold, the statements of a script that the client does not take for control run
between `BEGIN` and `COMMIT`. -/
theorem runAll_of_large (hlarge : connection.options.chunkThresholdBytes < sql.utf8ByteSize)
    (hmany : 2 ≤ (chunkedStatements sql).length) (hnone : connection.inTransaction = false)
    (hlog : Performed engine (exchangesOf [.script sql] connection) before after) :
    engine.runAll (framed ((chunkedStatements sql).map plainStatement)) before = some after := by
  obtain ⟨result, hattempt⟩ :=
    exchangesOf_script connection (traces_scriptCall_large hlarge hmany)
  rw [hnone] at hattempt
  exact hattempt.runAll_of_script hlog

/-- A script of which the client takes nothing for control is in chunks what it is as a whole. -/
theorem chunkedStatements_of_no_control
    (hcontrol : (splitStatements sql).1.any isTransactionControl = false) :
    chunkedStatements sql = (splitStatements sql).1 :=
  List.filter_eq_self.mpr fun text hmem => by simpa using List.any_eq_false.mp hcontrol text hmem

section

variable (hsmall : sql.utf8ByteSize ≤ connection.options.chunkThresholdBytes)
  (hmany : 2 ≤ (chunkedStatements sql).length) (hbatch : Batchable sql)
  (hnone : connection.inTransaction = false)
  (hlog : Performed engine (exchangesOf [.script sql] connection) before after)

include hsmall hmany hbatch hnone hlog

/-- Up to the threshold, the statements of a script run as they stand if the client takes one of
them for control. -/
theorem runAll_of_small_control
    (hcontrol : (splitStatements sql).1.any isTransactionControl = true) :
    engine.runAll ((splitStatements sql).1.map plainStatement) before = some after := by
  obtain ⟨_, outcome, hsent⟩ := exchangesOf_script connection
    (traces_scriptCall_small hsmall (hmany.trans (List.length_filter_le _ _)) hbatch)
  rw [hsent, hnone, hcontrol] at hlog
  cases hlog.of_singleton with
  | ran hperforms => exact hperforms.runAll_of_plain

/-- Else they run between `BEGIN` and `COMMIT`, as they do in chunks. -/
theorem runAll_of_small_no_control
    (hcontrol : (splitStatements sql).1.any isTransactionControl = false) :
    engine.runAll (framed ((chunkedStatements sql).map plainStatement)) before = some after := by
  rw [chunkedStatements_of_no_control hcontrol] at hmany ⊢
  obtain ⟨_, outcome, hsent⟩ :=
    exchangesOf_script connection (traces_scriptCall_small hsmall hmany hbatch)
  rw [hsent, hnone, hcontrol] at hlog
  cases hlog.of_singleton with
  | ran hperforms => exact hperforms.runAll_of_transactional

end

end

/-! ## The two routes compared -/

section

variable {τ σ : Type} [Transport τ] [Transport σ] {first : Connection τ} {second : Connection σ}
  {sql : String} {ς : Type} {engine : Engine ς} {before left right : ς}

/-- A script past the threshold leaves behind what it leaves behind up to it if the client takes
nothing in it for control, or if the two runs come to the same. -/
theorem large_eq_small_iff (hlarge : first.options.chunkThresholdBytes < sql.utf8ByteSize)
    (hsmall : sql.utf8ByteSize ≤ second.options.chunkThresholdBytes)
    (hmany : 2 ≤ (chunkedStatements sql).length) (hbatch : Batchable sql)
    (hfirst : first.inTransaction = false) (hsecond : second.inTransaction = false)
    (hleft : Performed engine (exchangesOf [.script sql] first) before left)
    (hright : Performed engine (exchangesOf [.script sql] second) before right) :
    left = right ↔ (splitStatements sql).1.any isTransactionControl = false ∨
      engine.runAll ((splitStatements sql).1.map plainStatement) before =
        engine.runAll (framed ((chunkedStatements sql).map plainStatement)) before := by
  have hchunked := runAll_of_large hlarge hmany hfirst hleft
  cases hcontrol : (splitStatements sql).1.any isTransactionControl with
  | true =>
    have hwhole := runAll_of_small_control hsmall hmany hbatch hsecond hright hcontrol
    rw [hwhole, hchunked, Option.some.injEq, or_iff_right (by simp), eq_comm]
  | false =>
    have hwhole := runAll_of_small_no_control hsmall hmany hbatch hsecond hright hcontrol
    exact iff_of_true (Option.some.inj (hchunked.symm.trans hwhole)) (.inl rfl)

/-- Two connections on the same side of their thresholds leave the same behind. -/
theorem eq_of_same_side
    (hside : first.options.chunkThresholdBytes < sql.utf8ByteSize ↔
      second.options.chunkThresholdBytes < sql.utf8ByteSize)
    (hmany : 2 ≤ (chunkedStatements sql).length) (hbatch : Batchable sql)
    (hfirst : first.inTransaction = false) (hsecond : second.inTransaction = false)
    (hleft : Performed engine (exchangesOf [.script sql] first) before left)
    (hright : Performed engine (exchangesOf [.script sql] second) before right) : left = right := by
  by_cases hlarge : first.options.chunkThresholdBytes < sql.utf8ByteSize
  · have hleft := runAll_of_large hlarge hmany hfirst hleft
    have hright := runAll_of_large (hside.mp hlarge) hmany hsecond hright
    exact Option.some.inj (hleft.symm.trans hright)
  · have hfirstSmall := Nat.le_of_not_lt hlarge
    have hsecondSmall := Nat.le_of_not_lt (mt hside.mpr hlarge)
    cases hcontrol : (splitStatements sql).1.any isTransactionControl with
    | true =>
      have hleft := runAll_of_small_control hfirstSmall hmany hbatch hfirst hleft hcontrol
      have hright := runAll_of_small_control hsecondSmall hmany hbatch hsecond hright hcontrol
      exact Option.some.inj (hleft.symm.trans hright)
    | false =>
      have hleft := runAll_of_small_no_control hfirstSmall hmany hbatch hfirst hleft hcontrol
      have hright := runAll_of_small_no_control hsecondSmall hmany hbatch hsecond hright hcontrol
      exact Option.some.inj (hleft.symm.trans hright)

/-- Whatever a server makes of statements, a script leaves the same behind on two connections
exactly if it is past both thresholds or neither, if the client takes nothing in it for control, or
if its statements as they stand come to the same as those in chunks between `BEGIN` and `COMMIT`. -/
theorem same_behind_iff (hmany : 2 ≤ (chunkedStatements sql).length)
    (hbatch : Batchable sql)
    (hfirst : first.inTransaction = false) (hsecond : second.inTransaction = false)
    (hleft : Performed engine (exchangesOf [.script sql] first) before left)
    (hright : Performed engine (exchangesOf [.script sql] second) before right) :
    left = right ↔
      (first.options.chunkThresholdBytes < sql.utf8ByteSize ↔
        second.options.chunkThresholdBytes < sql.utf8ByteSize) ∨
      (splitStatements sql).1.any isTransactionControl = false ∨
      engine.runAll ((splitStatements sql).1.map plainStatement) before =
        engine.runAll (framed ((chunkedStatements sql).map plainStatement)) before := by
  by_cases hlargeFirst : first.options.chunkThresholdBytes < sql.utf8ByteSize <;>
    by_cases hlargeSecond : second.options.chunkThresholdBytes < sql.utf8ByteSize
  · have hside := iff_of_true hlargeFirst hlargeSecond
    exact iff_of_true (eq_of_same_side hside hmany hbatch hfirst hsecond hleft hright) (.inl hside)
  · rw [or_iff_right fun hside => hlargeSecond (hside.mp hlargeFirst)]
    exact large_eq_small_iff hlargeFirst (Nat.le_of_not_lt hlargeSecond) hmany hbatch hfirst hsecond
      hleft hright
  · rw [or_iff_right fun hside => hlargeFirst (hside.mpr hlargeSecond), eq_comm]
    exact large_eq_small_iff hlargeSecond (Nat.le_of_not_lt hlargeFirst) hmany hbatch hsecond hfirst
      hright hleft
  · have hside := iff_of_false hlargeFirst hlargeSecond
    exact iff_of_true (eq_of_same_side hside hmany hbatch hfirst hsecond hleft hright) (.inl hside)

end

/-! ## Servers on which the client recognises what controls transactions -/

/-- True of texts of which the client takes those for control that control the transaction of a
server. -/
def Dialect.Recognised (dialect : Dialect) (texts : List String) : Prop :=
  ∀ text ∈ texts, dialect.kind text = .other ↔ isTransactionControl text = false

/-- What names something is not taken for control, even if it begins with a word of control: of
`COMMIT TRANSACTION t` the client knows nothing. -/
theorem isTransactionControl_of_name {sql : String} (hname : .identifier ∈ tokenKinds sql) :
    isTransactionControl sql = false := by
  unfold isTransactionControl
  cases hkinds : tokenKinds sql with
  | nil => rfl
  | cons front rest =>
    rw [hkinds] at hname
    rcases List.mem_cons.mp hname with rfl | hname
    · rfl
    · have hrest : (rest.all (·.isKeywordWith Keyword.describesTransaction)) = false :=
        List.all_eq_false.mpr ⟨_, hname, Bool.false_ne_true⟩
      simp [hrest]

namespace Dialect.Recognised

variable {dialect : Dialect} {sql : String} (h : dialect.Recognised (splitStatements sql).1)

include h

/-- In chunks runs what does not control the transaction. -/
theorem controlFree_chunkedStatements :
    dialect.ControlFree ((chunkedStatements sql).map plainStatement) := by
  refine controlFree_plain fun text hmem => ?_
  obtain ⟨hmem, hcontrol⟩ := List.mem_filter.mp hmem
  exact (h text hmem).mpr (by simpa using hcontrol)

/-- All of it does. -/
theorem filter_other :
    ((splitStatements sql).1.map plainStatement).filter (dialect.kindOf · = .other) =
      (chunkedStatements sql).map plainStatement := by
  rw [List.filter_map, chunkedStatements]
  refine congrArg _ (List.filter_congr fun text hmem => ?_)
  show decide (dialect.kind text = .other) = _
  rw [Bool.eq_iff_iff, decide_eq_true_iff, h text hmem, Bool.not_eq_true']

/-- In chunks, all effects of a script are committed. -/
theorem committed_of_chunked {committed : List Statement} {after : Database}
    (hrun : dialect.engine.runAll (framed ((chunkedStatements sql).map plainStatement))
      ⟨committed, none⟩ = some after) :
    after = ⟨committed ++ (chunkedStatements sql).map plainStatement, none⟩ :=
  all_committed_of_framed h.controlFree_chunkedStatements hrun

/-- As it stands, they are if the script undoes nothing and leaves no transaction open. -/
theorem committed_of_whole_iff {committed : List Statement} {after : Database}
    (hrun : dialect.engine.runAll ((splitStatements sql).1.map plainStatement) ⟨committed, none⟩ =
      some after) :
    after = ⟨committed ++ (chunkedStatements sql).map plainStatement, none⟩ ↔
      KeepsEffects ((splitStatements sql).1.map dialect.kind) := by
  rw [← h.filter_other, ← map_kindOf_plainStatement]
  exact all_committed_iff hrun

/-- A script without control undoes nothing and leaves no transaction open. -/
theorem keepsEffects_of_no_control
    (hcontrol : (splitStatements sql).1.any isTransactionControl = false) :
    KeepsEffects ((splitStatements sql).1.map dialect.kind) := by
  have hfree : dialect.ControlFree ((splitStatements sql).1.map plainStatement) :=
    chunkedStatements_of_no_control hcontrol ▸ h.controlFree_chunkedStatements
  rw [← map_kindOf_plainStatement]
  exact hfree.keepsEffects

end Dialect.Recognised

section

variable {τ σ : Type} [Transport τ] [Transport σ] {first : Connection τ} {second : Connection σ}
  {sql : String} {dialect : Dialect} {committed : List Statement} {left right : Database}

/-- Past one threshold and up to the other, a script leaves the same behind if it undoes nothing and
leaves no transaction open. -/
theorem large_eq_small_iff_keepsEffects
    (hlarge : first.options.chunkThresholdBytes < sql.utf8ByteSize)
    (hsmall : sql.utf8ByteSize ≤ second.options.chunkThresholdBytes)
    (hmany : 2 ≤ (chunkedStatements sql).length) (hbatch : Batchable sql)
    (hfirst : first.inTransaction = false) (hsecond : second.inTransaction = false)
    (hrecognised : dialect.Recognised (splitStatements sql).1)
    (hleft : Performed dialect.engine (exchangesOf [.script sql] first) ⟨committed, none⟩ left)
    (hright : Performed dialect.engine (exchangesOf [.script sql] second) ⟨committed, none⟩ right) :
    left = right ↔ KeepsEffects ((splitStatements sql).1.map dialect.kind) := by
  rw [hrecognised.committed_of_chunked (runAll_of_large hlarge hmany hfirst hleft), eq_comm]
  cases hcontrol : (splitStatements sql).1.any isTransactionControl with
  | true =>
    exact hrecognised.committed_of_whole_iff
      (runAll_of_small_control hsmall hmany hbatch hsecond hright hcontrol)
  | false =>
    have hwhole := runAll_of_small_no_control hsmall hmany hbatch hsecond hright hcontrol
    exact iff_of_true (hrecognised.committed_of_chunked hwhole)
      (hrecognised.keepsEffects_of_no_control hcontrol)

/-- On a server that keeps one transaction, whose control the client recognises, a script leaves the
same behind on two connections exactly if it is past both thresholds or neither, or if it undoes
nothing and leaves no transaction open. -/
theorem same_behind_iff_keepsEffects (hmany : 2 ≤ (chunkedStatements sql).length)
    (hbatch : Batchable sql)
    (hfirst : first.inTransaction = false) (hsecond : second.inTransaction = false)
    (hrecognised : dialect.Recognised (splitStatements sql).1)
    (hleft : Performed dialect.engine (exchangesOf [.script sql] first) ⟨committed, none⟩ left)
    (hright : Performed dialect.engine (exchangesOf [.script sql] second) ⟨committed, none⟩ right) :
    left = right ↔
      (first.options.chunkThresholdBytes < sql.utf8ByteSize ↔
        second.options.chunkThresholdBytes < sql.utf8ByteSize) ∨
      KeepsEffects ((splitStatements sql).1.map dialect.kind) := by
  by_cases hside : first.options.chunkThresholdBytes < sql.utf8ByteSize ↔
      second.options.chunkThresholdBytes < sql.utf8ByteSize
  · exact iff_of_true (eq_of_same_side hside hmany hbatch hfirst hsecond hleft hright) (.inl hside)
  · rw [or_iff_right hside]
    by_cases hlarge : first.options.chunkThresholdBytes < sql.utf8ByteSize
    · have hsmall := Nat.le_of_not_lt fun h => hside (iff_of_true hlarge h)
      exact large_eq_small_iff_keepsEffects hlarge hsmall hmany hbatch hfirst hsecond hrecognised
        hleft hright
    · have hsecondLarge : second.options.chunkThresholdBytes < sql.utf8ByteSize :=
        Classical.not_not.mp fun h => hside (iff_of_false hlarge h)
      rw [eq_comm]
      exact large_eq_small_iff_keepsEffects hsecondLarge (Nat.le_of_not_lt hlarge) hmany hbatch
        hsecond hfirst hrecognised hright hleft

end

/-- Outside of transactions, a script of several statements on whose run nothing fails leaves the
same behind on two connections, whatever their transports and options, exactly if it is past both
thresholds or neither, if the client takes nothing in it for control, or if its statements as they
stand come to the same as those in chunks between `BEGIN` and `COMMIT`. On a server that keeps one
transaction, whose control in the script the client recognises, they do exactly if the script undoes
nothing and leaves no transaction open. -/
theorem threshold_unseen_iff {τ σ : Type} [Transport τ] [Transport σ] {sql : String}
    (first : Connection τ) (second : Connection σ) (hmany : 2 ≤ (chunkedStatements sql).length)
    (hbatch : Batchable sql)
    (hfirst : first.inTransaction = false) (hsecond : second.inTransaction = false) :
    let texts := (splitStatements sql).1
    let sameSide := first.options.chunkThresholdBytes < sql.utf8ByteSize ↔
      second.options.chunkThresholdBytes < sql.utf8ByteSize
    (∀ {ς : Type} (engine : Engine ς) (before left right : ς),
      Performed engine (exchangesOf [.script sql] first) before left →
      Performed engine (exchangesOf [.script sql] second) before right →
      (left = right ↔ sameSide ∨ texts.any isTransactionControl = false ∨
        engine.runAll (texts.map plainStatement) before =
          engine.runAll (framed ((chunkedStatements sql).map plainStatement)) before)) ∧
    (∀ (dialect : Dialect) (committed : List Statement) (left right : Database),
      dialect.Recognised texts →
      Performed dialect.engine (exchangesOf [.script sql] first) ⟨committed, none⟩ left →
      Performed dialect.engine (exchangesOf [.script sql] second) ⟨committed, none⟩ right →
      (left = right ↔ sameSide ∨ KeepsEffects (texts.map dialect.kind))) := by
  intro texts sameSide
  constructor
  · intro ς engine before left right hleft hright
    exact same_behind_iff hmany hbatch hfirst hsecond hleft hright
  · intro dialect committed left right hrecognised hleft hright
    exact same_behind_iff_keepsEffects hmany hbatch hfirst hsecond hrecognised hleft hright

/-- A connection that sends its scripts in one message, and whose server runs a batch of four. -/
def preparedForWhole : Connection (Http.Stream Http.Prepared) where
  stream := .new ⟨[Http.answeringBatch "[\x7b\x7d,\x7b\x7d,\x7b\x7d,\x7b\x7d]"
    "[null,null,null,null]"]⟩ "http://localhost" ""

/-- A connection that sends all scripts in chunks, and whose server runs `BEGIN`, a batch of two and
`COMMIT`. -/
def preparedForChunked : Connection (Http.Stream Http.Prepared) where
  stream :=
    let executed := Http.answering "execute" "\x7b\x7d"
    .new ⟨[executed, Http.answeringBatch "[\x7b\x7d,\x7b\x7d]" "[null,null]", executed]⟩
      "http://localhost" ""
  options := { chunkThresholdBytes := 0 }

/-- Two statements that delete something. -/
def deletions : List String :=
  ["DELETE FROM a", "DELETE FROM b"]

theorem exchangesOf_whole_commit :
    exchangesOf [.script "BEGIN; DELETE FROM a; DELETE FROM b; COMMIT"] preparedForWhole =
      [⟨[BatchPlan.request ⟨(["BEGIN"] ++ deletions ++ ["COMMIT"]).map plainStatement, false⟩],
        .ok [.batch (.ofFates (.replicate 4 (.succeeded {})))]⟩] := by
  decide +kernel

theorem exchangesOf_whole_rollback :
    exchangesOf [.script "BEGIN; DELETE FROM a; DELETE FROM b; ROLLBACK"] preparedForWhole =
      [⟨[BatchPlan.request ⟨(["BEGIN"] ++ deletions ++ ["ROLLBACK"]).map plainStatement, false⟩],
        .ok [.batch (.ofFates (.replicate 4 (.succeeded {})))]⟩] := by
  decide +kernel

theorem exchangesOf_chunked {sql : String}
    (h : sql = "BEGIN; DELETE FROM a; DELETE FROM b; COMMIT" ∨
      sql = "BEGIN; DELETE FROM a; DELETE FROM b; ROLLBACK") :
    exchangesOf [.script sql] preparedForChunked =
      [⟨[plainRequest "BEGIN"], .ok [.execute {}]⟩,
        ⟨[chunkRequest deletions], .ok [.batch (.ofFates (.replicate 2 (.succeeded {})))]⟩,
        ⟨[plainRequest "COMMIT"], .ok [.execute {}]⟩] := by
  rcases h with rfl | rfl <;> decide +kernel

/-- A statement that does not fail may be answered with nothing. -/
theorem Exchange.Performs.of_run {ς : Type} {engine : Engine ς} {sql : String} {before after : ς}
    (h : engine before (plainStatement sql) = some after) :
    Exchange.Performs engine ⟨[plainRequest sql], .ok [.execute {}]⟩ before after :=
  .executed rfl h

/-- So may statements of a batch that do not fail. -/
theorem Exchange.Performs.of_runAll {ς : Type} {engine : Engine ς} {statements : List Statement}
    {before after : ς} (h : engine.runAll statements before = some after) :
    Exchange.Performs engine ⟨[BatchPlan.request ⟨statements, false⟩],
      .ok [.batch (.ofFates (.replicate statements.length (.succeeded {})))]⟩ before after := by
  refine .ran (.of_runAll h) (BatchResult.reports_ofFates _) fun result hmem => ?_
  cases List.eq_of_mem_replicate hmem
  exact ⟨_, rfl⟩

/-- The engine of servers that know a statement by its first word. -/
abbrev wordEngine : Engine Database :=
  Dialect.byFirstWord.engine

/-- In chunks the deletions are committed, whether or not the script undoes them. -/
theorem performed_chunked {sql : String}
    (h : sql = "BEGIN; DELETE FROM a; DELETE FROM b; COMMIT" ∨
      sql = "BEGIN; DELETE FROM a; DELETE FROM b; ROLLBACK") :
    Performed wordEngine (exchangesOf [.script sql] preparedForChunked) ⟨[], none⟩
      ⟨deletions.map plainStatement, none⟩ := by
  have hbegin : wordEngine ⟨[], none⟩ (plainStatement "BEGIN") = some ⟨[], some []⟩ := by
    decide +kernel
  have hdeletions : wordEngine.runAll (deletions.map plainStatement) ⟨[], some []⟩ =
      some ⟨[], some (deletions.map plainStatement)⟩ := by
    decide +kernel
  have hcommit : wordEngine ⟨[], some (deletions.map plainStatement)⟩ (plainStatement "COMMIT") =
      some ⟨deletions.map plainStatement, none⟩ := by
    decide +kernel
  rw [exchangesOf_chunked h, ← request_chunkPlan]
  exact .cons (.of_run hbegin) (.cons (.of_runAll hdeletions) (.cons (.of_run hcommit) .nil))

/-- As one batch, a script that commits its deletions keeps them. -/
theorem performed_whole_commit :
    Performed wordEngine
      (exchangesOf [.script "BEGIN; DELETE FROM a; DELETE FROM b; COMMIT"] preparedForWhole)
      ⟨[], none⟩ ⟨deletions.map plainStatement, none⟩ := by
  rw [exchangesOf_whole_commit]
  exact .cons (.of_runAll (by decide +kernel)) .nil

/-- As one batch, a script that undoes its deletions keeps nothing. -/
theorem performed_whole_rollback :
    Performed wordEngine
      (exchangesOf [.script "BEGIN; DELETE FROM a; DELETE FROM b; ROLLBACK"] preparedForWhole)
      ⟨[], none⟩ ⟨[], none⟩ := by
  rw [exchangesOf_whole_rollback]
  exact .cons (.of_runAll (by decide +kernel)) .nil

/-- A script between `BEGIN` and `COMMIT` of its own does the same on both sides of a threshold. -/
theorem threshold_unseen_of_commit :
    2 ≤ (chunkedStatements "BEGIN; DELETE FROM a; DELETE FROM b; COMMIT").length ∧
      Batchable "BEGIN; DELETE FROM a; DELETE FROM b; COMMIT" ∧
      preparedForWhole.inTransaction = false ∧ preparedForChunked.inTransaction = false ∧
      Dialect.byFirstWord.Recognised
        (splitStatements "BEGIN; DELETE FROM a; DELETE FROM b; COMMIT").1 ∧
      Performed wordEngine
        (exchangesOf [.script "BEGIN; DELETE FROM a; DELETE FROM b; COMMIT"] preparedForWhole)
        ⟨[], none⟩ ⟨deletions.map plainStatement, none⟩ ∧
      Performed wordEngine
        (exchangesOf [.script "BEGIN; DELETE FROM a; DELETE FROM b; COMMIT"] preparedForChunked)
        ⟨[], none⟩ ⟨deletions.map plainStatement, none⟩ ∧
      KeepsEffects ((splitStatements "BEGIN; DELETE FROM a; DELETE FROM b; COMMIT").1.map
        Dialect.byFirstWord.kind) ∧
      wordEngine.runAll
          ((splitStatements "BEGIN; DELETE FROM a; DELETE FROM b; COMMIT").1.map plainStatement)
          ⟨[], none⟩ =
        wordEngine.runAll (framed
          ((chunkedStatements "BEGIN; DELETE FROM a; DELETE FROM b; COMMIT").map plainStatement))
          ⟨[], none⟩ := by
  have hmany : 2 ≤ (chunkedStatements "BEGIN; DELETE FROM a; DELETE FROM b; COMMIT").length := by
    decide +kernel
  have hbatch : Batchable "BEGIN; DELETE FROM a; DELETE FROM b; COMMIT" :=
    ⟨by decide +kernel, by decide +kernel⟩
  have hcontrol : (splitStatements "BEGIN; DELETE FROM a; DELETE FROM b; COMMIT").1.any
      isTransactionControl = true := by
    decide +kernel
  have hrecognised : Dialect.byFirstWord.Recognised
      (splitStatements "BEGIN; DELETE FROM a; DELETE FROM b; COMMIT").1 := by
    unfold Dialect.Recognised
    decide +kernel
  have hchunked := performed_chunked (.inl rfl)
  obtain ⟨hengine, hdialect⟩ :=
    threshold_unseen_iff preparedForWhole preparedForChunked hmany hbatch rfl rfl
  have hkeeps := (hdialect _ _ _ _ hrecognised performed_whole_commit hchunked).mp rfl
  have hruns := (hengine _ _ _ _ performed_whole_commit hchunked).mp rfl
  refine ⟨hmany, hbatch, rfl, rfl, hrecognised, performed_whole_commit, hchunked,
    hkeeps.resolve_left (by decide), ?_⟩
  exact (hruns.resolve_left (by decide)).resolve_left (by simp [hcontrol])

/-- A script that undoes its deletions undoes nothing once it is past the threshold. -/
theorem threshold_seen_of_rollback :
    2 ≤ (chunkedStatements "BEGIN; DELETE FROM a; DELETE FROM b; ROLLBACK").length ∧
      Batchable "BEGIN; DELETE FROM a; DELETE FROM b; ROLLBACK" ∧
      preparedForWhole.inTransaction = false ∧ preparedForChunked.inTransaction = false ∧
      Performed wordEngine
        (exchangesOf [.script "BEGIN; DELETE FROM a; DELETE FROM b; ROLLBACK"] preparedForWhole)
        ⟨[], none⟩ ⟨[], none⟩ ∧
      Performed wordEngine
        (exchangesOf [.script "BEGIN; DELETE FROM a; DELETE FROM b; ROLLBACK"] preparedForChunked)
        ⟨[], none⟩ ⟨deletions.map plainStatement, none⟩ ∧
      Database.mk [] none ≠ ⟨deletions.map plainStatement, none⟩ :=
  ⟨by decide +kernel, ⟨by decide +kernel, by decide +kernel⟩, rfl, rfl, performed_whole_rollback,
    performed_chunked (.inr rfl), by decide⟩

/-- What the client takes for control keeps all effects here. But it does not know the named forms,
so the last deletion is committed in chunks only. -/
example :
    let sql := "BEGIN; DELETE FROM a; COMMIT TRANSACTION t; BEGIN; COMMIT; " ++
      "BEGIN TRANSACTION t; DELETE FROM b"
    wordEngine.runAll ((splitStatements sql).1.map plainStatement) ⟨[], none⟩ =
        some ⟨[plainStatement "DELETE FROM a"], some [plainStatement "DELETE FROM b"]⟩ ∧
      wordEngine.runAll (framed ((chunkedStatements sql).map plainStatement)) ⟨[], none⟩ =
        some ⟨deletions.map plainStatement, none⟩ := by
  decide +kernel

end SqlStream
