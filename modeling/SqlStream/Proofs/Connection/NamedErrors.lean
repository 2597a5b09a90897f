import SqlStream.Proofs.Channel.AnyOrder
import SqlStream.Proofs.Connection.ClosedForGood

/-!
# Errors that name what met them

A script fails with an error that names one of its statements, the script itself, or the `BEGIN` or
`COMMIT` that the client added. The exception is a batch that fails as a whole
(`ConnectionCall.FailsAsBatch`): it is too large to be sent, no answer to it came, or the answer is
not what it should be. Such an error names nothing (`errors_name_statements`).
-/

namespace SqlStream

open SqlStream.Sql SqlStream.Wire

namespace Error

/-- True of the errors that name no statement. -/
def IsBare : Error → Prop
  | inStatement _ _ => False
  | _ => True

/-- True of the errors that name one of these texts, and name it once. -/
def Names (texts : List String) : Error → Prop
  | inStatement sql cause => sql ∈ texts ∧ cause.IsBare
  | _ => False

/-- True of the error of a batch that is too large to be sent. -/
def IsTooLarge : Error → Prop
  | batchTooLarge _ => True
  | _ => False

variable {texts others : List String} {error : Error}

/-- A batch that is too large is reported without a text. -/
theorem IsTooLarge.isBare (h : error.IsTooLarge) : error.IsBare := by
  cases error with
  | batchTooLarge steps => trivial
  | _ => exact h.elim

/-- What names a statement is not said of a batch that is too large. -/
theorem Names.not_isTooLarge (h : error.Names texts) : ¬ error.IsTooLarge := by
  cases error with
  | inStatement sql cause => exact id
  | _ => exact h.elim

/-- An error that names one of some texts names one of more texts. -/
theorem Names.mono (h : error.Names texts) (hsub : texts ⊆ others) : error.Names others := by
  cases error with
  | inStatement sql cause => exact ⟨hsub h.1, h.2⟩
  | _ => exact h.elim

/-- An error that names nothing yet names the statement that it is said to have met. -/
theorem IsBare.names_withStatement (h : error.IsBare) (sql : String) :
    (error.withStatement sql).Names [sql] := by
  cases error with
  | inStatement named cause => exact h.elim
  | _ => exact ⟨List.mem_singleton_self sql, trivial⟩

/-- An error that the client finds before sending names no statement. -/
theorem FoundLocally.isBare (h : error.FoundLocally) : error.IsBare := by
  cases h <;> trivial

/-- An error in the parameters names no statement. -/
theorem InParameters.isBare (h : error.InParameters) : error.IsBare := by
  cases h <;> trivial

/-- An error in the number or kind of the answers names no statement. -/
theorem InAnswers.isBare (h : error.InAnswers) : error.IsBare := by
  cases h <;> trivial

/-- An error of the stream names no statement. -/
theorem InStream.isBare (h : error.InStream) : error.IsBare := by
  cases h <;> trivial

/-- What a reply says of statements is that one of them failed, which is named, or else it names
none. -/
theorem InReply.names_or_isBare (h : error.InReply texts) :
    (error.Names texts ∧ ∃ failure, error.root = .server failure) ∨
      (error.IsBare ∧ ∀ failure, error.root ≠ .server failure) := by
  cases h with
  | protocol violation => exact .inr ⟨trivial, fun _ => nofun⟩
  | undecodable fault => exact .inr ⟨trivial, fun _ => nofun⟩
  | failed hmem failure => exact .inl ⟨⟨hmem, trivial⟩, failure, rfl⟩

/-- An error in a reply to requests that carry no statement names none. -/
theorem InReply.isBare (h : error.InReply []) : error.IsBare := by
  cases h with
  | protocol violation => trivial
  | undecodable fault => trivial
  | failed hmem failure => cases hmem

end Error

/-! ## Exchanges -/

/-- A transport that does not know statements: what goes wrong with an exchange names none. -/
class PlainTransport (τ : Type) [Transport τ] : Prop where
  isBare_of_failed (requests : List Request) (stream : τ) :
    FailsWith Error.IsBare ((Transport.send requests).runOn stream).1

instance {σ : Type} [Http.Server σ] : PlainTransport (Http.Stream σ) where
  isBare_of_failed requests stream error hfailed := by
    rcases Http.Stream.send_fails hfailed with ⟨hstream, _⟩ | hanswers
    · exact hstream.isBare
    · exact hanswers.isBare

instance {σ : Type} [Channel.Peer σ] : PlainTransport (Channel.Stream σ) where
  isBare_of_failed requests stream error hfailed := by
    rcases Channel.Stream.send_fails hfailed with ⟨hstream, _⟩ | hanswers
    · exact hstream.isBare
    · exact hanswers.isBare

/-- True of the exchange of a batch that fails as a whole with an error: there was no answer to it,
or what is wrong with the answer is not that a step failed. -/
def Exchange.FailsAsBatch (exchange : Exchange) (error : Error) : Prop :=
  (∃ batch, exchange.requests = [.batch batch]) ∧
    (exchange.outcome = .error error ∨
      exchange.outcome.isOk = true ∧ ∀ failure, error.root ≠ .server failure)

/-- True of an error behind an exchange that names one of these texts, unless the exchange is that
of a batch that failed as a whole. -/
def Exchange.FailsNaming (texts : List String) (exchange : Exchange) (error : Error) : Prop :=
  (error.Names texts ∧ ¬ exchange.FailsAsBatch error) ∨
    (error.IsBare ∧ exchange.FailsAsBatch error)

/-- A failing exchange that names one of some texts names one of more texts. -/
theorem Exchange.FailsNaming.mono {texts others : List String} {exchange : Exchange} {error : Error}
    (h : exchange.FailsNaming texts error) (hsub : texts ⊆ others) :
    exchange.FailsNaming others error :=
  h.imp_left fun hnamed => ⟨hnamed.1.mono hsub, hnamed.2⟩

/-- A call that fails behind its last exchange, with an error that names one of these texts unless a
batch failed as a whole. -/
def FailsBehind {α : Type} (texts : List String) (exchanges : List Exchange)
    (result : Except Error α) : Prop :=
  ∀ error, result = .error error → ∃ before exchange, exchanges = before ++ [exchange] ∧
    exchange.FailsNaming texts error

/-- A call that fails before its first exchange, with an error that names one of these texts unless
a batch is too large, or behind its last one. -/
def FailsNaming {α : Type} (texts : List String) (exchanges : List Exchange)
    (result : Except Error α) : Prop :=
  (exchanges = [] ∧ FailsWith (fun error => error.Names texts ∨ error.IsTooLarge) result) ∨
    FailsBehind texts exchanges result

namespace FailsBehind

variable {α β : Type} {texts others : List String} {exchanges : List Exchange}
  {result : Except Error α}

/-- A call that succeeds behind its exchanges fails nowhere. -/
theorem ok (a : α) : FailsBehind texts exchanges (.ok a) :=
  nofun

/-- A failure behind the exchanges keeps to a larger set of texts. -/
theorem mono (h : FailsBehind texts exchanges result) (hsub : texts ⊆ others) :
    FailsBehind others exchanges result := by
  intro error hfailed
  obtain ⟨before, exchange, hexchanges, hnaming⟩ := h error hfailed
  exact ⟨before, exchange, hexchanges, hnaming.mono hsub⟩

/-- A failure behind the exchanges is kept by a function of the result. -/
theorem map (h : FailsBehind texts exchanges result) (f : α → β) :
    FailsBehind texts exchanges (result.map f) :=
  fun error hfailed => h error (map_eq_error_iff.mp hfailed)

end FailsBehind

namespace FailsNaming

variable {α β : Type} {texts others : List String} {exchanges : List Exchange}
  {result : Except Error α}

/-- A failure that names a text keeps to a larger set of texts. -/
theorem mono (h : FailsNaming texts exchanges result) (hsub : texts ⊆ others) :
    FailsNaming others exchanges result := by
  rcases h with ⟨hnone, hnamed⟩ | hbehind
  · exact .inl ⟨hnone, FailsWith.mono hnamed fun _ h => h.imp_left fun hnames => hnames.mono hsub⟩
  · exact .inr (hbehind.mono hsub)

/-- A failure that names a text is kept by a function of the result. -/
theorem map (h : FailsNaming texts exchanges result) (f : α → β) :
    FailsNaming texts exchanges (result.map f) := by
  rcases h with ⟨hnone, hnamed⟩ | hbehind
  · exact .inl ⟨hnone, FailsWith.map hnamed f⟩
  · exact .inr (hbehind.map f)

end FailsNaming

section

variable {τ : Type}

namespace Traces

variable {α β : Type} {texts : List String}

/-- A result found without an exchange fails naming its texts. -/
theorem failsNaming_ofExcept {result : Except Error α} (h : FailsWith (Error.Names texts) result) :
    Traces (τ := τ) (Call.ofExcept result) (Call.ofExcept result) (FailsNaming texts) := by
  refine (Traces.ofExcept result).mono ?_
  rintro _ _ ⟨rfl, rfl⟩
  exact .inl ⟨rfl, h.mono fun _ => .inl⟩

/-- A value without an exchange fails nowhere. -/
theorem failsBehind_pure (a : α) :
    Traces (τ := τ) (Pure.pure a) (Pure.pure a) (FailsBehind texts) := by
  refine (Traces.pure a).mono ?_
  rintro _ _ ⟨rfl, rfl⟩
  exact .ok a

/-- A call that fails naming its texts does so under a function of its result. -/
theorem failsNaming_map {plain : Call τ α} {logged : Call (Logged τ) α}
    (h : Traces plain logged (FailsNaming texts)) (f : α → β) :
    Traces (f <$> plain) (f <$> logged) (FailsNaming texts) := by
  refine (h.map f).mono ?_
  rintro new _ ⟨outcome, hnaming, rfl⟩
  exact hnaming.map f

/-- If the second of two calls fails, it is its own last exchange that it fails behind. -/
theorem failsBehind_bind {first : Call τ α} {loggedFirst : Call (Logged τ) α} {next : α → Call τ β}
    {loggedNext : α → Call (Logged τ) β} (h : Traces first loggedFirst (FailsBehind texts))
    (hnext : ∀ a, Traces (next a) (loggedNext a) (FailsBehind texts)) :
    Traces (first >>= next) (loggedFirst >>= loggedNext) (FailsBehind texts) := by
  refine (h.bind hnext).mono ?_
  rintro new result (⟨cause, rfl, hfirst⟩ | ⟨log, rest, a, rfl, _, hrest⟩) error hfailed
  · cases hfailed
    exact hfirst cause rfl
  · obtain ⟨before, exchange, rfl, hnaming⟩ := hrest error hfailed
    exact ⟨log ++ before, exchange, (List.append_assoc _ _ _).symm, hnaming⟩

variable [Transport τ] [PlainTransport τ]

/-- One request, and a look at the answers. -/
theorem asking (request : Request) (read : List Response → Except Error α) :
    Traces (τ := τ) (Transport.send [request] >>= fun responses => Call.ofExcept (read responses))
      (Transport.send [request] >>= fun responses => Call.ofExcept (read responses))
      fun new result => ∃ outcome, new = [⟨[request], outcome⟩] ∧
        FailsWith Error.IsBare outcome ∧ result = outcome >>= read := by
  have hsend : Traces (τ := τ) (Transport.send [request]) (Transport.send [request])
      fun new outcome => new = [⟨[request], outcome⟩] ∧ FailsWith Error.IsBare outcome :=
    fun stream _ => ⟨_, ⟨rfl, PlainTransport.isBare_of_failed [request] stream⟩, rfl⟩
  refine (hsend.bind fun responses => Traces.ofExcept (read responses)).mono ?_
  rintro new _ (⟨error, rfl, rfl, hbare⟩ | ⟨_, _, responses, rfl, ⟨rfl, hbare⟩, rfl, rfl⟩)
  · exact ⟨_, rfl, hbare, rfl⟩
  · exact ⟨_, rfl, hbare, rfl⟩

/-- What is wrong with a statement names it. -/
theorem failsBehind_statement (statement : Statement) {read : List Response → Except Error α}
    (hread : ∀ responses, FailsWith (Error.InReply []) (read responses)) (sql : String) :
    Traces (τ := τ)
      (Call.withStatement sql (Transport.send [.execute statement] >>= fun responses =>
        Call.ofExcept (read responses)))
      (Call.withStatement sql (Transport.send [.execute statement] >>= fun responses =>
        Call.ofExcept (read responses)))
      (FailsBehind [sql]) := by
  refine ((asking (.execute statement) read).withStatement sql).mono ?_
  rintro _ _ ⟨_, ⟨outcome, rfl, hbare, rfl⟩, rfl⟩ error hfailed
  have hread : FailsWith Error.IsBare (outcome >>= read) :=
    hbare.bind fun responses => (hread responses).mono fun _ hreply => hreply.isBare
  have hnobatch : ¬ Exchange.FailsAsBatch ⟨[.execute statement], outcome⟩ error :=
    fun ⟨⟨_, hrequests⟩, _⟩ => nomatch hrequests
  obtain ⟨cause, hcause, rfl⟩ := mapError_eq_error_iff.mp hfailed
  exact ⟨[], _, rfl, .inl ⟨(hread cause hcause).names_withStatement sql, hnobatch⟩⟩

/-- What is wrong with a batch names the statement that failed, unless the batch failed as a
whole. -/
theorem failsBehind_batch (batch : Batch) {read : List Response → Except Error α}
    (hread : ∀ responses, FailsWith (Error.InReply texts) (read responses)) :
    Traces (τ := τ)
      (Transport.send [.batch batch] >>= fun responses => Call.ofExcept (read responses))
      (Transport.send [.batch batch] >>= fun responses => Call.ofExcept (read responses))
      (FailsBehind texts) := by
  refine (asking (.batch batch) read).mono ?_
  rintro _ _ ⟨outcome, rfl, hbare, rfl⟩ error hfailed
  refine ⟨[], _, rfl, ?_⟩
  cases outcome with
  | error cause =>
    -- no answer came
    cases hfailed
    exact .inr ⟨hbare error rfl, ⟨batch, rfl⟩, .inl rfl⟩
  | ok responses =>
    -- an answer names a statement where a step failed, and only there
    rcases (hread responses error hfailed).names_or_isBare with ⟨hnames, hstep⟩ | ⟨hbare, hwhole⟩
    · refine .inl ⟨hnames, ?_⟩
      rintro ⟨_, hnone | ⟨_, hwhole⟩⟩
      · cases hnone
      · obtain ⟨failure, hroot⟩ := hstep
        exact hwhole failure hroot
    · exact .inr ⟨hbare, ⟨batch, rfl⟩, .inr ⟨rfl, hwhole⟩⟩

end Traces

/-! ## Answers -/

/-- What is wrong with the answer to a statement names no statement by itself. -/
theorem readStatement_failsWith (responses : List Response) :
    FailsWith (Error.InReply []) (expectExecute responses >>= decodeResult) :=
  (expectExecute_failsWith [] responses).bind (decodeResult_failsWith [])

/-- What is wrong with the answer to a batch may name its statements and those that were added. -/
theorem readBatch_failsWith (plan : BatchPlan) (keepRollback : Bool) (names : List String)
    (responses : List Response) :
    FailsWith (Error.InReply ("BEGIN" :: "COMMIT" :: names))
      (expectBatch responses >>= fun reply => plan.callerFates reply keepRollback >>= fun fates =>
        collectResults (names.zip fates)) := by
  refine (expectBatch_failsWith _ responses).bind fun reply => ?_
  refine FailsWith.bind ((callerFates_failsWith plan reply keepRollback).mono fun _ hadded => ?_)
    fun fates => (collectResults_failsWith (names.zip fates)).mono fun _ hstep => ?_
  · exact hadded.mono (by simp)
  · refine hstep.mono fun sql hmem => ?_
    obtain ⟨⟨_, fate⟩, hzip, rfl⟩ := List.mem_map.mp hmem
    exact List.mem_cons_of_mem _ (List.mem_cons_of_mem _ (List.of_mem_zip hzip).1)

/-! ## Scripts -/

/-- The texts that an error of a script may name: the script, its statements, and those that the
client adds. -/
def scriptTexts (sql : String) : List String :=
  sql :: "BEGIN" :: "COMMIT" :: (splitStatements sql).1

/-- A script is bound before its first exchange. -/
theorem failsNaming_bindScript {α : Type} {sql : String} {arguments : Arguments}
    {next : List BoundStatement → Call τ α} {loggedNext : List BoundStatement → Call (Logged τ) α}
    (hnext : ∀ bound, bound.map BoundStatement.sql = (splitStatements sql).1 →
      Traces (next bound) (loggedNext bound) (FailsNaming (scriptTexts sql))) :
    Traces (Call.withStatement sql (Call.ofExcept (bindScript sql arguments)) >>= next)
      (Call.withStatement sql (Call.ofExcept (bindScript sql arguments)) >>= loggedNext)
      (FailsNaming (scriptTexts sql)) := by
  cases hbound : bindScript sql arguments with
  | error cause =>
    have hbare := (bindScript_failsWith sql arguments cause hbound).isBare
    have hnames : (cause.withStatement sql).Names (scriptTexts sql) :=
      (hbare.names_withStatement sql).mono (by simp [scriptTexts])
    exact Traces.failsNaming_ofExcept (.error hnames)
  | ok bound => exact hnext bound (bindScript_texts hbound)

variable [Transport τ] [PlainTransport τ]

/-- A statement without arguments is named by what is wrong with it. -/
theorem failsBehind_executePlain (sql : String) :
    Traces (executePlain (τ := τ) sql) (executePlain sql) (FailsBehind [sql]) := by
  rw [executePlain_eq, executePlain_eq]
  exact Traces.failsBehind_statement _ readStatement_failsWith sql

/-- A statement of a script is named by what is wrong with it. -/
theorem failsNaming_boundStatement {sql : String} {statement : BoundStatement}
    (hmem : statement.sql ∈ (splitStatements sql).1) (wantRows : Bool) :
    Traces (τ := τ)
      (Call.withStatement statement.sql
        (executeStatement (.text statement.sql) statement.arguments wantRows))
      (Call.withStatement statement.sql
        (executeStatement (.text statement.sql) statement.arguments wantRows))
      (FailsNaming (scriptTexts sql)) := by
  have hsub : [statement.sql] ⊆ scriptTexts sql := by
    simp [scriptTexts, hmem]
  unfold executeStatement
  cases hbuilt : buildStatement (.text statement.sql) statement.arguments wantRows with
  | error cause =>
    have hbare := (buildStatement_failsWith _ _ _ cause hbuilt).isBare
    exact Traces.failsNaming_ofExcept (.error ((hbare.names_withStatement _).mono hsub))
  | ok built =>
    simp only [Call.ofExcept_ok_bind, Call.ofExcept_bind]
    exact (Traces.failsBehind_statement built readStatement_failsWith statement.sql).mono
      fun _ _ h => .inr (h.mono hsub)

/-- Of the statements of a batch that one is named that is wrong, unless the batch is too large or
fails as a whole. -/
theorem failsNaming_executeBatch (plan : BatchPlan) (keepRollback : Bool) (names : List String) :
    Traces (τ := τ)
      (executeBatch plan keepRollback >>= fun fates =>
        Call.ofExcept (collectResults (names.zip fates)))
      (executeBatch plan keepRollback >>= fun fates =>
        Call.ofExcept (collectResults (names.zip fates)))
      (FailsNaming ("BEGIN" :: "COMMIT" :: names)) := by
  by_cases hfits : plan.Fits
  · simp only [executeBatch_of_fits hfits, bind_assoc, Call.ofExcept_bind]
    exact (Traces.failsBehind_batch _ (readBatch_failsWith plan keepRollback names)).mono
      fun _ _ => .inr
  · simp only [executeBatch_of_not_fits hfits, Call.ofExcept_bind]
    refine (Traces.ofExcept _).mono ?_
    rintro _ _ ⟨rfl, rfl⟩
    exact .inl ⟨rfl, .error (.inr trivial)⟩

/-- So of those of a script. -/
theorem failsNaming_batchCall {sql : String} {bound : List BoundStatement}
    (htexts : bound.map BoundStatement.sql = (splitStatements sql).1)
    (wantRows transactional keepRollback : Bool) :
    Traces (batchCall (τ := τ) bound wantRows transactional keepRollback)
      (batchCall bound wantRows transactional keepRollback) (FailsNaming (scriptTexts sql)) := by
  have hbuild : FailsWith (Error.Names (scriptTexts sql))
      (bound.mapM (Connection.buildBound wantRows)) := by
    refine FailsWith.mapM_of_mem fun statement hmem error hfailed => ?_
    obtain ⟨cause, hcause, rfl⟩ := mapError_eq_error_iff.mp hfailed
    have hbare := (buildStatement_failsWith _ _ _ cause hcause).isBare
    have htext : statement.sql ∈ (splitStatements sql).1 := htexts ▸ List.mem_map_of_mem hmem
    exact (hbare.names_withStatement statement.sql).mono (by simp [scriptTexts, htext])
  unfold batchCall
  rw [htexts]
  cases hbuilt : bound.mapM (Connection.buildBound wantRows) with
  | error cause => exact Traces.failsNaming_ofExcept (.error (hbuild cause hbuilt))
  | ok built =>
    exact (failsNaming_executeBatch ⟨built, transactional⟩ keepRollback _).mono fun _ _ h =>
      h.mono (List.subset_cons_self _ _)

/-- The statements of a script, one by itself and more as a batch. -/
theorem failsNaming_boundRun {sql : String} {bound : List BoundStatement}
    (htexts : bound.map BoundStatement.sql = (splitStatements sql).1)
    (wantRows keepRollback : Bool) :
    Traces (boundRun (τ := τ) bound wantRows keepRollback) (boundRun bound wantRows keepRollback)
      (FailsNaming (scriptTexts sql)) := by
  match bound with
  | [] => exact (Traces.failsBehind_pure []).mono fun _ _ => .inr
  | [statement] =>
    have hmem : statement.sql ∈ (splitStatements sql).1 := by simp [← htexts]
    simp only [boundRun, bind_pure_comp]
    exact (failsNaming_boundStatement hmem wantRows).failsNaming_map _
  | first :: second :: rest => exact failsNaming_batchCall htexts wantRows false keepRollback

/-- A call of bound statements fails naming a statement of its script. -/
theorem failsNaming_boundCall {sql : String} {bound : List BoundStatement}
    (htexts : bound.map BoundStatement.sql = (splitStatements sql).1)
    (inTransaction keepRollback : Bool) :
    Traces (boundCall (τ := τ) bound inTransaction keepRollback)
      (boundCall bound inTransaction keepRollback) (FailsNaming (scriptTexts sql)) := by
  match bound with
  | [] => exact (Traces.failsBehind_pure ({} : Summary)).mono fun _ _ => .inr
  | [statement] =>
    have hmem : statement.sql ∈ (splitStatements sql).1 := by simp [← htexts]
    simp only [boundCall, bind_pure_comp]
    exact (failsNaming_boundStatement hmem false).failsNaming_map _
  | first :: second :: rest =>
    exact (failsNaming_batchCall htexts false _ keepRollback).failsNaming_map _

/-- Carrying out the pieces of a script fails naming a statement of a piece or its frame. -/
theorem failsBehind_runChunks {texts : List String} (summary : Summary)
    (pieces : List (List String)) (htexts : ∀ chunk ∈ pieces, "BEGIN" :: "COMMIT" :: chunk ⊆ texts) :
    Traces (runChunks (τ := τ) summary pieces) (runChunks summary pieces) (FailsBehind texts) := by
  induction pieces generalizing summary with
  | nil => exact Traces.failsBehind_pure summary
  | cons chunk pieces ih =>
    have hchunk : Traces (runChunk (τ := τ) chunk) (runChunk chunk) (FailsBehind texts) := by
      rw [runChunk_eq, runChunk_eq]
      exact (Traces.failsBehind_batch _ (readBatch_failsWith (chunkPlan chunk) false chunk)).mono
        fun _ _ h => h.mono (htexts chunk List.mem_cons_self)
    exact hchunk.failsBehind_bind fun sets => ih (sets.foldl Summary.add summary)
      fun piece hmem => htexts piece (List.mem_cons_of_mem _ hmem)

/-- A script in chunks fails behind the last of its exchanges. -/
theorem failsBehind_runScript (statements : List String) (chunkSize : Nat) (wrap : Bool) :
    Traces (runScript (τ := τ) statements chunkSize wrap) (runScript statements chunkSize wrap)
      (FailsBehind ("BEGIN" :: "COMMIT" :: statements)) := by
  have hplain : ∀ sql ∈ ["BEGIN", "COMMIT"], Traces (executePlain (τ := τ) sql) (executePlain sql)
      (FailsBehind ("BEGIN" :: "COMMIT" :: statements)) := by
    intro sql hmem
    have hsub : [sql] ⊆ "BEGIN" :: "COMMIT" :: statements :=
      List.cons_subset.mpr ⟨List.mem_append_left statements hmem, List.nil_subset _⟩
    exact (failsBehind_executePlain sql).mono fun _ _ h => h.mono hsub
  have hchunks : Traces (runChunks (τ := τ) {} (chunks chunkSize statements))
      (runChunks {} (chunks chunkSize statements))
      (FailsBehind ("BEGIN" :: "COMMIT" :: statements)) := by
    refine failsBehind_runChunks {} _ fun chunk hchunk => ?_
    have hsub : chunk ⊆ statements := by
      intro sql hmem
      rw [← flatten_chunks chunkSize statements]
      exact List.mem_flatten.mpr ⟨chunk, hchunk, hmem⟩
    exact List.cons_subset_cons _ (List.cons_subset_cons _ hsub)
  unfold runScript
  cases wrap with
  | false =>
    simp only [if_neg Bool.false_ne_true]
    exact hchunks.failsBehind_bind Traces.failsBehind_pure
  | true =>
    simp only [if_true]
    exact (hplain "BEGIN" (by simp)).failsBehind_bind fun _ =>
      hchunks.failsBehind_bind fun summary =>
        (hplain "COMMIT" (by simp)).failsBehind_bind fun _ => Traces.failsBehind_pure summary

/-- The chunked route fails naming a statement of its script or its frame. -/
theorem failsBehind_executeChunked (sql : String) (chunkSize : Nat) (wrap : Bool) :
    Traces (executeChunked (τ := τ) sql chunkSize wrap) (executeChunked sql chunkSize wrap)
      (FailsBehind (scriptTexts sql)) := by
  have hkept : "BEGIN" :: "COMMIT" :: chunkedStatements sql ⊆ scriptTexts sql := by
    have hfilter : chunkedStatements sql ⊆ (splitStatements sql).1 := List.filter_sublist.subset
    exact List.subset_cons_of_subset _
      (List.cons_subset_cons _ (List.cons_subset_cons _ hfilter))
  unfold executeChunked
  split
  · exact Traces.failsBehind_pure ({} : Summary)
  · next only hstatements =>
    have hsub : [only] ⊆ scriptTexts sql := by
      rw [← hstatements]
      exact fun _ hmem => hkept (List.mem_cons_of_mem _ (List.mem_cons_of_mem _ hmem))
    exact ((failsBehind_executePlain only).mono fun _ _ h => h.mono hsub).failsBehind_bind
      fun set => Traces.failsBehind_pure (Summary.aggregate [set])
  · exact (failsBehind_runScript _ chunkSize wrap).closingOnError.mono fun _ _ h => h.mono hkept

/-- Executing a script fails naming a statement of the script or its frame. -/
theorem failsNaming_scriptCall (sql : String) (options : Options) (inTransaction : Bool) :
    Traces (scriptCall (τ := τ) sql options inTransaction) (scriptCall sql options inTransaction)
      (FailsNaming (scriptTexts sql)) := by
  unfold scriptCall
  split
  · exact (failsBehind_executeChunked sql _ _).mono fun _ _ => .inr
  · exact failsNaming_bindScript fun _ htexts => failsNaming_boundCall htexts _ _

/-! ## Calls of a caller -/

namespace ConnectionCall

/-- The script that a call runs. -/
def script? : ConnectionCall → Option String
  | query sql _ | execute sql _ | executeScript sql => some sql
  | _ => none

/-- True of a call that sends nothing because its batch is too large, or whose last exchange is that
of a batch that fails as a whole with an error. -/
def FailsAsBatch (call : ConnectionCall) (connection : Connection τ) (error : Error) : Prop :=
  (call.exchanges connection = [] ∧ error.IsTooLarge) ∨
    ∃ exchange, (call.exchanges connection).getLast? = some exchange ∧ exchange.FailsAsBatch error

/-- Every call of a script on the stream fails naming a statement of the script or its frame. -/
theorem failsNaming_streamCall {call : ConnectionCall} {sql : String}
    (hscript : call.script? = some sql) (notes : ConnectionNotes) :
    Traces (call.streamCall (τ := τ) notes) (call.streamCall notes)
      (FailsNaming (scriptTexts sql)) := by
  have harguments : ∀ arguments wantRows, Traces
      (argumentsCall (τ := τ) sql arguments wantRows notes.options.schemaDb)
      (argumentsCall sql arguments wantRows notes.options.schemaDb)
      (FailsNaming (scriptTexts sql)) :=
    fun arguments wantRows => failsNaming_bindScript fun _ htexts =>
      failsNaming_boundRun htexts wantRows notes.options.schemaDb
  cases call with
  | query text arguments =>
    cases hscript
    exact (harguments arguments true).failsNaming_map _
  | execute text arguments =>
    cases hscript
    exact (harguments arguments false).failsNaming_map _
  | executeScript text =>
    cases hscript
    exact (failsNaming_scriptCall sql notes.options notes.inTransaction).failsNaming_map _
  | _ => cases hscript

/-- A script that fails names what met the error, unless a batch failed as a whole. -/
theorem failed_naming {call : ConnectionCall} {connection : Connection τ} {sql : String}
    {error : Error} (hscript : call.script? = some sql)
    (hfailed : (call.run.runOn connection).1 = .error error) :
    (error.Names (scriptTexts sql) ∧ ¬ call.FailsAsBatch connection error) ∨
      (error.IsBare ∧ call.FailsAsBatch connection error) := by
  obtain ⟨new, hnaming, hlogged⟩ :=
    failsNaming_streamCall hscript connection.notes connection.stream []
  have hexchanges : call.exchanges connection = new := by
    rw [exchanges, after, runOn_run]
    show ((call.streamCall (τ := Logged τ) connection.notes).runOn
      ⟨connection.stream, []⟩).2.log = new
    rw [hlogged, List.nil_append]
  rw [runOn_run] at hfailed
  rcases hnaming with ⟨hnone, hnamed⟩ | hbehind
  · rcases hnamed error hfailed with hnames | hlarge
    · -- without an exchange there was no batch
      refine .inl ⟨hnames, ?_⟩
      rintro (⟨_, hlarge⟩ | ⟨exchange, hlast, _⟩)
      · exact hnames.not_isTooLarge hlarge
      · rw [hexchanges, hnone] at hlast
        cases hlast
    · exact .inr ⟨hlarge.isBare, .inl ⟨hexchanges.trans hnone, hlarge⟩⟩
  · obtain ⟨before, exchange, hnew, hcase⟩ := hbehind error hfailed
    have hbatch : call.FailsAsBatch connection error ↔ exchange.FailsAsBatch error := by
      rw [FailsAsBatch, hexchanges, hnew]
      simp
    rw [hbatch]
    exact hcase

end ConnectionCall

end

/-- True of a connection on which a script fails with an error that names the script, one of its
statements or what the client added, and names it once; but where a batch is too large or fails as a
whole, the error names nothing. -/
structure Connection.NamesStatements {τ : Type} [Transport τ] (connection : Connection τ) : Prop where
  named : ∀ (call : ConnectionCall) (sql : String) (error : Error), call.script? = some sql →
    (call.run.runOn connection).1 = .error error → ¬ call.FailsAsBatch connection error →
    error.Names (scriptTexts sql)
  bare : ∀ (call : ConnectionCall) (sql : String) (error : Error), call.script? = some sql →
    (call.run.runOn connection).1 = .error error → call.FailsAsBatch connection error →
    error.IsBare

/-- A connection over any transport names the statements in its errors as stated. -/
theorem Connection.namesStatements {τ : Type} [Transport τ] [PlainTransport τ]
    (connection : Connection τ) : connection.NamesStatements where
  named call sql error hscript hfailed hsound := by
    rcases ConnectionCall.failed_naming hscript hfailed with ⟨hnames, _⟩ | ⟨_, hbatch⟩
    · exact hnames
    · exact absurd hbatch hsound
  bare call sql error hscript hfailed hbatch := by
    rcases ConnectionCall.failed_naming hscript hfailed with ⟨_, hsound⟩ | ⟨hbare, _⟩
    · exact absurd hbatch hsound
    · exact hbare

/-- Over HTTP and on a channel and with whatever server, an error of a script names what met it, and
only where a batch is too large or fails as a whole it names nothing. -/
theorem errors_name_statements {σ υ : Type} [Http.Server σ] [Channel.Peer υ]
    (http : Connection (Http.Stream σ)) (channel : Connection (Channel.Stream υ)) :
    http.NamesStatements ∧ channel.NamesStatements :=
  ⟨http.namesStatements, channel.namesStatements⟩

/-- A connection on a channel on which the first request is refused. -/
def refusedAtFirst : Connection (Channel.Stream Channel.Silent) where
  stream := { Channel.answeredInReverse with inbox := Channel.twoAnswers.map .frame }

/-- A refused `SELECT 1` is reported with its text. -/
theorem errors_name_statements_of_refused :
    let select : ConnectionCall := .query "SELECT 1" .none
    let script : ConnectionCall := .query "SELECT 1; SELECT 2" .none
    let refusal : Error := .server { message := "full" }
    (select.run.runOn refusedAtFirst).1 = .error (.inStatement "SELECT 1" refusal) ∧
      ¬ select.FailsAsBatch refusedAtFirst (.inStatement "SELECT 1" refusal) ∧
      (script.run.runOn refusedAtFirst).1 = .error refusal ∧
      script.FailsAsBatch refusedAtFirst refusal := by
  intro select script refusal
  have hselect : (select.run.runOn refusedAtFirst).1 = .error (.inStatement "SELECT 1" refusal) := by
    decide +kernel
  have hscript : (script.run.runOn refusedAtFirst).1 = .error refusal := by decide +kernel
  obtain ⟨_, hnames⟩ := errors_name_statements unreachable refusedAtFirst
  refine ⟨hselect, hnames.bare select "SELECT 1" _ rfl hselect, hscript, ?_⟩
  -- an error that names nothing is one of a batch
  by_contra hsound
  exact hnames.named script "SELECT 1; SELECT 2" refusal rfl hscript hsound

/-- The refusal of a batch does not say what was refused. -/
theorem refused_batch_names_nothing :
    let script : ConnectionCall := .query "SELECT 1; SELECT 2" .none
    ∃ error, (script.run.runOn refusedAtFirst).1 = .error error ∧
      ¬ error.Names (scriptTexts "SELECT 1; SELECT 2") := by
  have hfailed : ((ConnectionCall.query "SELECT 1; SELECT 2" .none).run.runOn refusedAtFirst).1 =
      .error (.server { message := "full" }) := by
    decide +kernel
  exact ⟨_, hfailed, id⟩

end SqlStream
