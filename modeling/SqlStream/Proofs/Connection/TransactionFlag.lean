import Mathlib.Data.List.Induction
import SqlStream.Proofs.Batch.TransactionBit
import SqlStream.Proofs.Connection.TransactionCalls
import SqlStream.Proofs.Connection.Transactional

/-!
# The transaction that a connection notes and the one on its server

A connection notes whether a transaction is open; it does not ask the server, which keeps one
transaction (`Exchange.Transacts`) and reads the texts of statements in its own way. As long as the
stream is open the two agree, provided that transactional batches are not run inside a transaction
and that nothing but `begin`, `commit` and `rollback` controls one. A transactional batch that runs
inside a transaction ends it on the server, and the connection does not note so
(`transaction_flag_agrees`).
-/

namespace SqlStream

open SqlStream.Sql SqlStream.Wire

/-! ## Exchanges with a server that keeps one transaction -/

/-- An exchange with a server that keeps one transaction: whether it is open before the exchange and
behind it. Answers arrive and can be decoded; on a closed stream nothing is sent. -/
inductive Exchange.Transacts (dialect : Dialect) : Exchange → Bool → Bool → Prop where
  | executed {statement : Statement} {result : StatementResult} {set : ResultSet}
      {before after : Bool} : ResultSet.decode result = .ok set →
      (dialect.kindOf statement).Runs before true after →
      Transacts dialect ⟨[.execute statement], .ok [.execute result]⟩ before after
  | failed {statement : Statement} {error : ServerError} {before after : Bool} :
      (dialect.kindOf statement).Runs before false after →
      Transacts dialect ⟨[.execute statement], .error (.server error)⟩ before after
  | ran {batch : Batch} {reply : BatchResult} {fates : List StepFate} {before after : Bool} :
      BatchRuns dialect [] before batch.steps fates after → reply.Reports fates →
      (∀ result, .succeeded result ∈ fates → ∃ set, ResultSet.decode result = .ok set) →
      Transacts dialect ⟨[.batch batch], .ok [.batch reply]⟩ before after
  /-- A batch that the server does not take runs no step. -/
  | notRun {batch : Batch} {error : ServerError} {isOpen : Bool} :
      Transacts dialect ⟨[.batch batch], .error (.server error)⟩ isOpen isOpen
  | notSent {requests : List Request} {isOpen : Bool} :
      Transacts dialect ⟨requests, .error .streamClosed⟩ isOpen isOpen

/-- Exchanges one after another with a server that keeps one transaction. -/
inductive Transacted (dialect : Dialect) : List Exchange → Bool → Bool → Prop where
  | nil {isOpen : Bool} : Transacted dialect [] isOpen isOpen
  | cons {exchange : Exchange} {log : List Exchange} {before next after : Bool} :
      exchange.Transacts dialect before next → Transacted dialect log next after →
      Transacted dialect (exchange :: log) before after

/-- True of exchanges that all took place. -/
def NoneRefused (log : List Exchange) : Prop :=
  ∀ exchange ∈ log, ¬ exchange.Refused

/-- Nothing is refused in two logs if nothing is in both. -/
theorem noneRefused_append {first rest : List Exchange} :
    NoneRefused (first ++ rest) ↔ NoneRefused first ∧ NoneRefused rest :=
  List.forall_mem_append

namespace Transacted

variable {dialect : Dialect} {log rest : List Exchange} {before after : Bool}

/-- A log in two parts takes the server from one transaction to another and on. -/
theorem split (h : Transacted dialect (log ++ rest) before after) :
    ∃ next, Transacted dialect log before next ∧ Transacted dialect rest next after := by
  induction log generalizing before with
  | nil => exact ⟨before, .nil, h⟩
  | cons exchange log ih =>
    cases h with
    | cons hexchange hlog =>
      obtain ⟨next, hfirst, hrest⟩ := ih hlog
      exact ⟨next, .cons hexchange hfirst, hrest⟩

/-- A log of one exchange is that exchange. -/
theorem of_singleton {exchange : Exchange} (h : Transacted dialect [exchange] before after) :
    exchange.Transacts dialect before after := by
  cases h with
  | cons hexchange hnil =>
    cases hnil
    exact hexchange

end Transacted

variable {dialect : Dialect}

/-! ## One exchange -/

/-- A statement that is sent succeeds or fails as its kind does. -/
theorem Exchange.Transacts.runs {statement : Statement}
    {outcome : Except Error (List Response)} {before after : Bool}
    (h : Exchange.Transacts dialect ⟨[.execute statement], outcome⟩ before after)
    (hsent : ¬ Exchange.Refused ⟨[.execute statement], outcome⟩) :
    ∃ succeeds, (succeeds = true ↔ Exchange.Succeeded ⟨[.execute statement], outcome⟩) ∧
      (dialect.kindOf statement).Runs before succeeds after := by
  cases h with
  | executed hset hruns =>
    exact ⟨true, iff_of_true rfl ⟨_, _, _, rfl, rfl, .execute hset⟩, hruns⟩
  | failed hruns =>
    refine ⟨false, iff_of_false Bool.false_ne_true ?_, hruns⟩
    rintro ⟨_, _, _, _, houtcome, _⟩
    cases houtcome
  | notSent => exact absurd rfl hsent

/-- An attempt at one statement succeeds or fails as the kind of the statement does. -/
theorem Attempt.runs {statement : Statement} {log : List Exchange}
    {succeeded before after : Bool} (h : Attempt [.execute statement] log succeeded)
    (hlog : Transacted dialect log before after) (hsent : NoneRefused log) :
    (dialect.kindOf statement).Runs before succeeded after := by
  cases h with
  | failed hfailed =>
    obtain ⟨succeeds, hiff, hruns⟩ := hlog.of_singleton.runs (hsent _ (List.mem_singleton_self _))
    rwa [← Bool.eq_false_iff.mpr (mt hiff.mp hfailed)]
  | next hsucceeded hrest =>
    cases hrest
    obtain ⟨succeeds, hiff, hruns⟩ := hlog.of_singleton.runs (hsent _ (List.mem_singleton_self _))
    rwa [← hiff.mpr hsucceeded]

/-- A batch without a transaction leaves that of the server as it is, if its statements do. -/
theorem Exchange.Transacts.unchanged_of_plain {statements : List Statement}
    {outcome : Except Error (List Response)} {before after : Bool}
    (h : Exchange.Transacts dialect ⟨[BatchPlan.request ⟨statements, false⟩], outcome⟩ before after)
    (hfree : dialect.ControlFree statements) : after = before := by
  cases h with
  | ran hruns => exact hruns.unchanged_of_plain hfree
  | notRun => rfl
  | notSent => rfl

/-- No transaction is open behind a transactional batch that was answered. -/
theorem Exchange.Transacts.closed_of_transactional {statements : List Statement}
    {outcome : Except Error (List Response)} {before after : Bool}
    (h : Exchange.Transacts dialect ⟨[BatchPlan.request ⟨statements, true⟩], outcome⟩ before after) :
    if outcome.isOk then after = false else after = before := by
  cases h with
  | ran hruns => exact hruns.closed_of_transactional
  | notRun => rfl
  | notSent => rfl

/-- A batch that is sent as no transaction leaves that of the server as it is. -/
theorem SentBatch.unchanged_of_plain {texts : List String} {log : List Exchange}
    {before after : Bool} (h : SentBatch texts false log)
    (hlog : Transacted dialect log before after)
    (hfree : ∀ text ∈ texts, dialect.kind text = .other) : after = before := by
  rcases h with rfl | ⟨statements, outcome, htexts, rfl⟩
  · cases hlog
    rfl
  · exact hlog.of_singleton.unchanged_of_plain (Dialect.controlFree_of_texts htexts hfree)

/-- A batch that is sent as a transaction leaves none open if there was none. -/
theorem SentBatch.closed_of_transactional {texts : List String} {log : List Exchange}
    {after : Bool} (h : SentBatch texts true log) (hlog : Transacted dialect log false after) :
    after = false := by
  rcases h with rfl | ⟨statements, outcome, htexts, rfl⟩
  · cases hlog
    rfl
  · have hclosed := hlog.of_singleton.closed_of_transactional
    split at hclosed
    · exact hclosed
    · exact hclosed

/-! ## Scripts -/

/-- Chunks leave the transaction as it is, if their statements do. -/
theorem Attempt.unchanged_of_chunks {pieces : List (List String)} {log : List Exchange}
    {complete before after : Bool} (h : Attempt (pieces.map chunkRequest) log complete)
    (hlog : Transacted dialect log before after)
    (hfree : ∀ text ∈ pieces.flatten, dialect.kind text = .other) : after = before := by
  induction pieces generalizing log before with
  | nil =>
    cases h
    cases hlog
    rfl
  | cons chunk pieces ih =>
    rw [List.flatten_cons, List.forall_mem_append] at hfree
    have hchunk : ∀ {outcome next},
        Exchange.Transacts dialect ⟨[chunkRequest chunk], outcome⟩ before next → next = before := by
      intro outcome next hexchange
      rw [← request_chunkPlan] at hexchange
      refine hexchange.unchanged_of_plain (Dialect.controlFree_of_texts ?_ hfree.1)
      rw [List.map_map]
      rfl
    cases h with
    | failed => exact hchunk hlog.of_singleton
    | next _ hattempt =>
      cases hlog with
      | cons hexchange hrest =>
        rw [hchunk hexchange] at hrest
        exact ih hattempt hrest hfree.2

/-- A script in chunks that went well leaves the transaction as it is: one that it began is
committed. -/
theorem Attempt.unchanged_of_script {statements : List String} {chunkSize : Nat} {wrap : Bool}
    {log : List Exchange} {before after : Bool}
    (h : Attempt (scriptPlan statements chunkSize wrap) log true)
    (hlog : Transacted dialect log before after) (hsent : NoneRefused log)
    (hfree : ∀ text ∈ statements, dialect.kind text = .other) : after = before := by
  obtain ⟨opening, behind, rfl, hopening, hbehind⟩ := h.split_complete
  obtain ⟨batches, closing, rfl, hbatches, hclosing⟩ := hbehind.split_complete
  obtain ⟨begun, hbegun, hlog⟩ := hlog.split
  obtain ⟨ran, hran, hcommitted⟩ := hlog.split
  have hchunks : ran = begun := hbatches.unchanged_of_chunks hran (by rwa [flatten_chunks])
  rw [noneRefused_append, noneRefused_append] at hsent
  cases wrap with
  | false =>
    cases hopening
    cases hclosing
    cases hbegun
    cases hcommitted
    exact hchunks
  | true =>
    have hbegin : StatementKind.Runs .begins before true begun :=
      dialect.kindOf_begin ▸ hopening.runs hbegun hsent.1
    have hcommit : StatementKind.Runs .commits ran true after :=
      dialect.kindOf_commit ▸ hclosing.runs hcommitted hsent.2.2
    cases hbegin
    cases hcommit
    rfl

/-- A script whose statements do not control transactions leaves that of the server as it is, unless
it runs in chunks and fails. -/
theorem ScriptExchanged.unchanged {sql : String} {options : Options} {log : List Exchange}
    {succeeded before after : Bool} (h : ScriptExchanged sql options before log succeeded)
    (hlog : Transacted dialect log before after) (hsent : NoneRefused log)
    (hfree : ∀ text ∈ (splitStatements sql).1, dialect.kind text = .other)
    (hchunks : options.chunkThresholdBytes < sql.utf8ByteSize →
      2 ≤ (chunkedStatements sql).length → succeeded = true) : after = before := by
  cases h with
  | nothing =>
    cases hlog
    rfl
  | @single statement text _ _ hmem htext hattempt =>
    have hkind : dialect.kindOf statement = .other := by
      rw [Dialect.kindOf, htext]
      exact hfree text hmem
    exact (hkind ▸ hattempt.runs hlog hsent).after_other
  | batch hsentBatch =>
    cases before with
    | true => exact hsentBatch.unchanged_of_plain hlog hfree
    | false =>
      -- what the client takes for control is none here, so with and without a transaction will do
      cases hcontrol : (splitStatements sql).1.any isTransactionControl with
      | true =>
        rw [hcontrol] at hsentBatch
        exact hsentBatch.unchanged_of_plain hlog hfree
      | false =>
        rw [hcontrol] at hsentBatch
        exact hsentBatch.closed_of_transactional hlog
  | chunked hlarge hmany hattempt =>
    rw [hchunks hlarge hmany] at hattempt
    refine hattempt.unchanged_of_script hlog hsent fun text hmem => ?_
    exact hfree text (List.mem_filter.mp hmem).1

/-! ## Calls -/

/-- True of calls that leave it to `begin`, `commit` and `rollback` to control transactions: to the
server the statements of scripts and plain batches do not, and no transactional batch is run inside
one. -/
def TransactionCall.Admissible (dialect : Dialect) (inTransaction : Bool) : TransactionCall → Prop
  | begin | commit | rollback => True
  | batch _ true => inTransaction = false
  | batch statements false => ∀ statement ∈ statements, dialect.kind statement.sql = .other
  | script sql => ∀ text ∈ (splitStatements sql).1, dialect.kind text = .other

/-- True of calls on a connection of which each is admissible when it is made. -/
def AllAdmissible {τ : Type} [Transport τ] (dialect : Dialect) (calls : List TransactionCall)
    (connection : Connection τ) : Prop :=
  AtEach (fun before call =>
    call.Admissible dialect (connectionAfter before connection).inTransaction) calls

/-- What a connection notes behind an admissible call is so on the server, if it was before. -/
theorem TransactionCall.Exchanged.noted_eq {call : TransactionCall} {options : Options}
    {log : List Exchange} {succeeded before after : Bool}
    (h : call.Exchanged options before log succeeded) (hlog : Transacted dialect log before after)
    (hsent : NoneRefused log) (hadmissible : call.Admissible dialect before)
    (hchunks : ∀ sql, call = .script sql → options.chunkThresholdBytes < sql.utf8ByteSize →
      2 ≤ (chunkedStatements sql).length → succeeded = true) :
    call.noted succeeded before = after := by
  cases call with
  | begin =>
    have hruns : StatementKind.Runs .begins before succeeded after :=
      dialect.kindOf_begin ▸ Attempt.runs h hlog hsent
    exact hruns.after_begin.symm
  | commit =>
    have hruns : StatementKind.Runs .commits before succeeded after :=
      dialect.kindOf_commit ▸ Attempt.runs h hlog hsent
    exact hruns.after_commit.symm
  | rollback =>
    have hruns : StatementKind.Runs .rollsBack before succeeded after :=
      dialect.kindOf_rollback ▸ Attempt.runs h hlog hsent
    exact hruns.after_rollback.symm
  | batch statements transactional =>
    cases transactional with
    | false =>
      refine (SentBatch.unchanged_of_plain h hlog fun text hmem => ?_).symm
      obtain ⟨statement, hstatement, rfl⟩ := List.mem_map.mp hmem
      exact hadmissible statement hstatement
    | true =>
      have hnone : before = false := hadmissible
      subst hnone
      exact (SentBatch.closed_of_transactional h hlog).symm
  | script sql => exact (ScriptExchanged.unchanged h hlog hsent hadmissible (hchunks sql rfl)).symm

section

variable {τ : Type} [Transport τ] [LawfulTransport τ]

/-- A script in chunks that fails closes its stream. -/
theorem TransactionCall.isOk_of_open_chunks {connection : Connection τ} {sql : String}
    (hlarge : connection.options.chunkThresholdBytes < sql.utf8ByteSize)
    (hmany : 2 ≤ (chunkedStatements sql).length)
    (hopen : ((script sql).after connection).session.isClosed = false) :
    ((script sql).run.runOn connection).1.isOk = true := by
  have hcall : (script sql).streamCall (τ := τ) connection.options connection.inTransaction =
      (fun _ => ()) <$> closingOnError (runScript (chunkedStatements sql)
        connection.options.chunkSize (!connection.inTransaction)) := by
    show _ <$> scriptCall sql connection.options connection.inTransaction = _
    rw [scriptCall, if_pos hlarge, executeChunked_eq _ _ hmany]
  rw [Connection.session, after, runOn_run, hcall] at hopen
  rw [runOn_run, hcall]
  simp only [Call.runOn_map, runOn_closingOnError] at hopen ⊢
  split at hopen
  · rfl
  · rw [LawfulTransport.isClosed_close] at hopen
    cases hopen

variable [SealedTransport τ]

/-- A stream that is open behind a call was open before it. -/
theorem TransactionCall.open_before {call : TransactionCall} {connection : Connection τ}
    (hopen : (call.after connection).session.isClosed = false) :
    connection.session.isClosed = false := by
  rw [← Bool.not_eq_true] at hopen ⊢
  exact fun hclosed => hopen (streamInvariant_isClosed.after call connection hclosed)

/-- As long as the stream is open, nothing was refused. -/
theorem noneRefused_exchangesOf {calls : List TransactionCall} {connection : Connection τ}
    (hopen : (connectionAfter calls connection).session.isClosed = false) :
    NoneRefused (exchangesOf calls connection) := by
  have hinvariant := streamInvariant_refused.connectionAfter calls (connection.withLog [])
    fun ⟨_, hmem, _⟩ => nomatch hmem
  rw [connectionAfter_withLog] at hinvariant
  intro exchange hmem hrefused
  cases hopen.symm.trans (hinvariant ⟨exchange, hmem, hrefused⟩)

/-- Behind admissible calls a connection notes the transaction of the server. -/
theorem noted_eq_of_admissible {connection : Connection τ} {calls : List TransactionCall}
    {isOpen : Bool}
    (hlog : Transacted dialect (exchangesOf calls connection) connection.inTransaction isOpen)
    (hadmissible : AllAdmissible dialect calls connection)
    (hopen : (connectionAfter calls connection).session.isClosed = false) :
    (connectionAfter calls connection).inTransaction = isOpen := by
  induction calls using List.reverseRecOn generalizing isOpen with
  | nil =>
    cases hlog
    rfl
  | append_singleton calls call ih =>
    obtain ⟨new, hexchanged, hnew⟩ := exchangesOf_concat calls call connection
    have hsent := noneRefused_exchangesOf hopen
    rw [hnew, noneRefused_append] at hsent
    rw [hnew] at hlog
    rw [connectionAfter_concat] at hopen ⊢
    obtain ⟨reached, hbefore, hafter⟩ := hlog.split
    obtain ⟨hearlier, hcall⟩ := AtEach.of_concat hadmissible
    -- what was noted before the call was so on the server
    obtain rfl := ih hbefore hearlier (TransactionCall.open_before hopen)
    rw [TransactionCall.inTransaction_after]
    refine hexchanged.noted_eq hafter hsent.2 hcall ?_
    rintro sql rfl hlarge hmany
    exact TransactionCall.isOk_of_open_chunks hlarge hmany hopen

omit [LawfulTransport τ] [SealedTransport τ] in
/-- A transactional batch that is answered inside a transaction ends it, and is not noted to. -/
theorem noted_of_nested_batch {connection : Connection τ} {statements : List BatchStatement}
    {before after : Bool} (hnoted : connection.inTransaction = true)
    (hlog : Transacted dialect (exchangesOf [.batch statements true] connection) before after)
    (hanswered : ∃ exchange ∈ exchangesOf [.batch statements true] connection,
      exchange.outcome.isOk = true) :
    (connectionAfter [.batch statements true] connection).inTransaction = true ∧
      after = false := by
  obtain ⟨new, hsent, hnew⟩ := exchangesOf_concat [] (.batch statements true) connection
  rw [List.nil_append, exchangesOf_nil, List.nil_append] at hnew
  rw [hnew] at hlog hanswered
  obtain ⟨exchange, hmem, hok⟩ := hanswered
  constructor
  · exact (TransactionCall.inTransaction_after _ _).trans hnoted
  · rcases hsent with rfl | ⟨built, outcome, _, rfl⟩
    · cases hmem
    · rw [List.mem_singleton.mp hmem] at hok
      have hclosed := hlog.of_singleton.closed_of_transactional
      rwa [if_pos hok] at hclosed

/-- Of a server that keeps one transaction, whatever it reads in the texts of statements, a
connection notes as long as its stream is open whether it is open, if transactional batches are not
run inside a transaction and the statements of scripts and plain batches do not control it. A
transactional batch that is answered inside a transaction leaves the connection to note one where
the server has none. -/
theorem transaction_flag_agrees (dialect : Dialect) (connection : Connection τ) :
    (∀ (calls : List TransactionCall) (isOpen : Bool),
      Transacted dialect (exchangesOf calls connection) connection.inTransaction isOpen →
      AllAdmissible dialect calls connection →
      (connectionAfter calls connection).session.isClosed = false →
      (connectionAfter calls connection).inTransaction = isOpen) ∧
    (∀ (statements : List BatchStatement) (before after : Bool),
      connection.inTransaction = true →
      Transacted dialect (exchangesOf [.batch statements true] connection) before after →
      (∃ exchange ∈ exchangesOf [.batch statements true] connection,
        exchange.outcome.isOk = true) →
      (connectionAfter [.batch statements true] connection).inTransaction = true ∧
        after = false) := by
  constructor
  · intro calls isOpen hlog hadmissible hopen
    exact noted_eq_of_admissible hlog hadmissible hopen
  · intro statements before after hnoted hlog hanswered
    exact noted_of_nested_batch hnoted hlog hanswered

end

/-- The reply that reports fates as they are. -/
def Wire.BatchResult.ofFates (fates : List StepFate) : BatchResult where
  stepResults := fates.map fun fate => match fate with
    | .succeeded result => some result
    | _ => none
  stepErrors := fates.map fun fate => match fate with
    | .failed error => some error
    | _ => none

/-- A report made of fates reports them. -/
theorem Wire.BatchResult.reports_ofFates (fates : List StepFate) : (ofFates fates).Reports fates := by
  intro index fate hfate
  rw [errorAt, resultAt, ofFates, List.getElem?_map, List.getElem?_map, hfate]
  cases fate with
  | succeeded result => exact ⟨rfl, rfl⟩
  | failed error => rfl
  | skipped => exact ⟨rfl, rfl⟩

/-- A statement to run in a batch. -/
def insertRow : BatchStatement :=
  ⟨"INSERT INTO t VALUES (1)", .none, false⟩

/-- The fates of the steps of a transactional batch of one statement inside a transaction. -/
def nestedFates : List StepFate :=
  [.failed ⟨"cannot start a transaction within a transaction", none⟩, .skipped, .skipped,
    .succeeded {}]

/-- The reply that reports them. -/
def nestedReply : Http.HttpReply :=
  Http.answeringBatch "[null,null,null,\x7b\x7d]"
    "[\x7b\"message\":\"cannot start a transaction within a transaction\"\x7d,null,null,null]"

/-- A connection whose server lets `BEGIN` succeed and gives this reply to a batch. -/
def preparedForNested : Connection (Http.Stream Http.Prepared) where
  stream := .new ⟨[Http.answering "execute" "\x7b\x7d", nestedReply]⟩ "http://localhost" ""

/-- A connection in a transaction, whose server gives this reply to a batch. -/
def preparedInTransaction : Connection (Http.Stream Http.Prepared) where
  stream := .new ⟨[nestedReply]⟩ "http://localhost" ""
  inTransaction := true

/-- A connection whose server lets `BEGIN` and a batch of two statements succeed. -/
def preparedForScript : Connection (Http.Stream Http.Prepared) where
  stream := .new ⟨[Http.answering "execute" "\x7b\x7d",
    Http.answeringBatch "[\x7b\x7d,\x7b\x7d]" "[null,null]"]⟩ "http://localhost" ""

/-- `BEGIN` succeeds where no transaction is open. -/
theorem transacts_begin (dialect : Dialect) :
    Exchange.Transacts dialect ⟨[plainRequest "BEGIN"], .ok [.execute {}]⟩ false true := by
  have hruns : (dialect.kindOf (plainStatement "BEGIN")).Runs false true true := by
    rw [dialect.kindOf_begin]
    exact .begun
  exact .executed rfl hruns

/-- Inside a transaction, `BEGIN` fails and `ROLLBACK` runs. -/
theorem transacts_nested (dialect : Dialect) : Exchange.Transacts dialect
    ⟨[BatchPlan.request ⟨[plainStatement insertRow.sql], true⟩],
      .ok [.batch (.ofFates nestedFates)]⟩ true false := by
  have hbegin : (dialect.kindOf (plainStatement "BEGIN")).Runs true false true := by
    rw [dialect.kindOf_begin]
    exact .notBegun
  have hrollback : (dialect.kindOf (plainStatement "ROLLBACK")).Runs true true false := by
    rw [dialect.kindOf_rollback]
    exact .rolledBack
  have hruns : BatchRuns dialect [] true
      (BatchPlan.steps ⟨[plainStatement insertRow.sql], true⟩) nestedFates false :=
    .ran rfl (by simp) hbegin (.skipped rfl (.skipped rfl (.ran rfl (by simp) hrollback .done)))
  refine .ran hruns (BatchResult.reports_ofFates nestedFates) ?_
  intro result hmem
  obtain rfl : result = {} := by simpa [nestedFates] using hmem
  exact ⟨_, rfl⟩

/-- Two statements leave the transaction open that they run in. -/
theorem transacts_two : Exchange.Transacts .byFirstWord
    ⟨[BatchPlan.request ⟨[plainStatement "a", plainStatement "b"], false⟩],
      .ok [.batch (.ofFates [.succeeded {}, .succeeded {}])]⟩ true true := by
  have hother : ∀ text ∈ ["a", "b"],
      (Dialect.byFirstWord.kindOf (plainStatement text)).Runs true true true := by
    intro text hmem
    have hkind : ∀ text ∈ ["a", "b"], Dialect.byFirstWord.kind text = .other := by decide +kernel
    rw [Dialect.kindOf_plainStatement, hkind text hmem]
    exact .other
  have hruns : BatchRuns .byFirstWord [] true
      (BatchPlan.steps ⟨[plainStatement "a", plainStatement "b"], false⟩)
        [.succeeded {}, .succeeded {}] true :=
    .ran rfl (by simp) (hother "a" (by simp)) (.ran rfl (by simp) (hother "b" (by simp)) .done)
  refine .ran hruns (BatchResult.reports_ofFates _) ?_
  intro result hmem
  obtain rfl : result = {} := by simpa using hmem
  exact ⟨_, rfl⟩

theorem exchangesOf_preparedForScript :
    exchangesOf [.begin, .script "a; b"] preparedForScript =
      [⟨[plainRequest "BEGIN"], .ok [.execute {}]⟩,
        ⟨[BatchPlan.request ⟨[plainStatement "a", plainStatement "b"], false⟩],
          .ok [.batch (.ofFates [.succeeded {}, .succeeded {}])]⟩] := by
  decide +kernel

theorem exchangesOf_preparedForNested :
    exchangesOf [.begin, .batch [insertRow] true] preparedForNested =
      [⟨[plainRequest "BEGIN"], .ok [.execute {}]⟩,
        ⟨[BatchPlan.request ⟨[plainStatement insertRow.sql], true⟩],
          .ok [.batch (.ofFates nestedFates)]⟩] := by
  decide +kernel

theorem exchangesOf_preparedInTransaction :
    exchangesOf [.batch [insertRow] true] preparedInTransaction =
      [⟨[BatchPlan.request ⟨[plainStatement insertRow.sql], true⟩],
        .ok [.batch (.ofFates nestedFates)]⟩] := by
  decide +kernel

/-- Inside a transaction a script keeps it and a nested batch ends it, and both are noted as
open. -/
theorem transaction_flag_agrees_of_script :
    ((connectionAfter [.begin, .script "a; b"] preparedForScript).session.isClosed = false ∧
      Transacted .byFirstWord (exchangesOf [.begin, .script "a; b"] preparedForScript) false true ∧
      (connectionAfter [.begin, .script "a; b"] preparedForScript).inTransaction = true) ∧
    (Transacted .byFirstWord (exchangesOf [.batch [insertRow] true] preparedInTransaction) true
        false ∧
      (connectionAfter [.batch [insertRow] true] preparedInTransaction).inTransaction = true) := by
  have hopen : (connectionAfter [.begin, .script "a; b"] preparedForScript).session.isClosed =
      false := by
    decide +kernel
  have hlog : Transacted .byFirstWord (exchangesOf [.begin, .script "a; b"] preparedForScript) false
      true := by
    rw [exchangesOf_preparedForScript]
    exact .cons (transacts_begin _) (.cons transacts_two .nil)
  have hadmissible : AllAdmissible .byFirstWord [.begin, .script "a; b"] preparedForScript := by
    have hfree : ∀ text ∈ (splitStatements "a; b").1,
        Dialect.byFirstWord.kind text = .other := by
      decide +kernel
    have hbegin : AllAdmissible .byFirstWord [.begin] preparedForScript :=
      (atEach_nil _).concat trivial
    exact hbegin.concat hfree
  have hnested : Transacted .byFirstWord
      (exchangesOf [.batch [insertRow] true] preparedInTransaction) true false := by
    rw [exchangesOf_preparedInTransaction]
    exact .cons (transacts_nested _) .nil
  refine ⟨⟨hopen, hlog, ?_⟩, hnested, ?_⟩
  · exact (transaction_flag_agrees .byFirstWord preparedForScript).1 _ true hlog hadmissible hopen
  · refine ((transaction_flag_agrees .byFirstWord preparedInTransaction).2 _ true false rfl hnested
      ?_).1
    rw [exchangesOf_preparedInTransaction]
    exact ⟨_, List.mem_singleton_self _, rfl⟩

/-- A transactional batch that is run inside a transaction ends it on the server, but the connection
still notes one. -/
theorem nested_batch_leaves_flag :
    Transacted .byFirstWord (exchangesOf [.begin, .batch [insertRow] true] preparedForNested) false
        false ∧
      (connectionAfter [.begin, .batch [insertRow] true] preparedForNested).session.isClosed =
        false ∧
      (connectionAfter [.begin, .batch [insertRow] true] preparedForNested).inTransaction =
        true := by
  refine ⟨?_, by decide +kernel⟩
  rw [exchangesOf_preparedForNested]
  exact .cons (transacts_begin _) (.cons (transacts_nested _) .nil)

end SqlStream
