import Mathlib.Algebra.GroupWithZero.Nat
import SqlStream.Proofs.Connection.TransactionFlag
import SqlStream.Proofs.Script.Chunked

/-!
# The size of chunks does not matter

A server gives each step of the batches that it gets a result, one after another (`AnswersSteps`). A
script in chunks then gives the summary of these results, however they are spread over batches: the
summary of a chunk goes on from that of the chunks before it, and the chunks put together are the
script (`chunk_size_unseen`).
-/

namespace SqlStream

open SqlStream.Sql SqlStream.Wire

/-! ## Servers that answer each step -/

/-- Exchanges of single requests in which each step of a batch is answered with the next one of some
results, and each statement by itself with any result that can be decoded. -/
inductive AnswersSteps : List Exchange → List StatementResult → Prop where
  | nil : AnswersSteps [] []
  | executed {statement : Statement} {result : StatementResult} {set : ResultSet}
      {others : List Response} {log : List Exchange} {results : List StatementResult} :
      ResultSet.decode result = .ok set → AnswersSteps log results →
      AnswersSteps (⟨[.execute statement], .ok (.execute result :: others)⟩ :: log) results
  | ran {batch : Batch} {reply : BatchResult} {others : List Response} {log : List Exchange}
      {given results : List StatementResult} : given.length = batch.steps.length →
      reply.Reports (given.map .succeeded) → AnswersSteps log results →
      AnswersSteps (⟨[.batch batch], .ok (.batch reply :: others)⟩ :: log) (given ++ results)

/-- The statements of the batches in exchanges. -/
def batchedStatements (log : List Exchange) : List Statement :=
  log.flatMap fun exchange => exchange.requests.flatMap fun
    | .batch batch => batch.steps.map BatchStep.statement
    | _ => []

theorem batchedStatements_append (log rest : List Exchange) :
    batchedStatements (log ++ rest) = batchedStatements log ++ batchedStatements rest :=
  List.flatMap_append

namespace AnswersSteps

variable {log rest : List Exchange} {results : List StatementResult}

theorem split (h : AnswersSteps (log ++ rest) results) :
    ∃ given more, results = given ++ more ∧ AnswersSteps log given ∧ AnswersSteps rest more := by
  induction log generalizing results with
  | nil => exact ⟨[], results, rfl, .nil, h⟩
  | cons exchange log ih =>
    cases h with
    | executed hdecode hlog =>
      obtain ⟨given, more, hresults, hfirst, hrest⟩ := ih hlog
      exact ⟨given, more, hresults, .executed hdecode hfirst, hrest⟩
    | ran hlength hreports hlog =>
      obtain ⟨given, more, rfl, hfirst, hrest⟩ := ih hlog
      exact ⟨_, more, (List.append_assoc _ _ _).symm, .ran hlength hreports hfirst, hrest⟩

/-- There is one result for each statement of the batches. -/
theorem length_eq (h : AnswersSteps log results) :
    results.length = (batchedStatements log).length := by
  induction h with
  | nil => rfl
  | executed _ _ ih => exact ih
  | @ran batch _ _ log given results hlength _ _ ih =>
    show (given ++ results).length =
      (batch.steps.map BatchStep.statement ++ [] ++ batchedStatements log).length
    rw [List.append_nil, List.length_append, List.length_append, List.length_map, hlength, ih]

end AnswersSteps

/-! ## Calls on such servers -/

/-- True of exchanges and the result of a call that ran statements as batches: if each step was
answered with a result that can be decoded, the call gave what these results make up. -/
def Yields {α : Type} (statements : List String) (gives : List ResultSet → α → Prop)
    (new : List Exchange) (result : Except Error α) : Prop :=
  ∀ results sets, AnswersSteps new results → results.mapM ResultSet.decode = .ok sets →
    ∃ a, result = .ok a ∧ gives sets a ∧ batchedStatements new = statements.map plainStatement

section

variable {τ α β : Type}

theorem traces_yields_pure {gives : List ResultSet → α → Prop} {a : α} (h : gives [] a) :
    Traces (τ := τ) (pure a) (pure a) (Yields [] gives) := by
  refine (Traces.pure a).mono ?_
  rintro _ _ ⟨rfl, rfl⟩ results sets hanswers hdecode
  cases hanswers
  cases hdecode
  exact ⟨a, rfl, h, rfl⟩

/-- Of two calls, each gives what the results of its own batches make up. -/
theorem Traces.yields_bind {first : Call τ α} {loggedFirst : Call (Logged τ) α}
    {next : α → Call τ β} {loggedNext : α → Call (Logged τ) β} {statements others : List String}
    {gives : List ResultSet → α → Prop} {givesNext : α → List ResultSet → β → Prop}
    {givesBoth : List ResultSet → β → Prop} (h : Traces first loggedFirst (Yields statements gives))
    (hnext : ∀ a, Traces (next a) (loggedNext a) (Yields others (givesNext a)))
    (hboth : ∀ sets more a b, gives sets a → givesNext a more b → givesBoth (sets ++ more) b) :
    Traces (first >>= next) (loggedFirst >>= loggedNext)
      (Yields (statements ++ others) givesBoth) := by
  refine (h.bind hnext).mono ?_
  rintro new result (⟨error, rfl, hfailed⟩ | ⟨log, behind, a, rfl, hlog, hbehind⟩) results sets
    hanswers hdecode
  · obtain ⟨_, hok, _⟩ := hfailed results sets hanswers hdecode
    cases hok
  · obtain ⟨given, more, rfl, hfirst, hrest⟩ := hanswers.split
    rw [mapM_eq_ok_iff, List.map_append] at hdecode
    obtain ⟨firstSets, restSets, rfl, hfirstSets, hrestSets⟩ :=
      List.append_eq_map_iff.mp hdecode
    obtain ⟨_, ha, hgives, hstatements⟩ :=
      hlog given firstSets hfirst (mapM_eq_ok_iff.mpr hfirstSets.symm)
    cases ha
    obtain ⟨b, hb, hgivesNext, hothers⟩ :=
      hbehind more restSets hrest (mapM_eq_ok_iff.mpr hrestSets.symm)
    refine ⟨b, hb, hboth _ _ _ _ hgives hgivesNext, ?_⟩
    rw [batchedStatements_append, hstatements, hothers, List.map_append]

/-- A call that runs nothing more and hands on what it got leaves it as it is. -/
theorem Traces.yields_last {first : Call τ α} {loggedFirst : Call (Logged τ) α}
    {next : α → Call τ α} {loggedNext : α → Call (Logged τ) α} {statements : List String}
    {gives : List ResultSet → α → Prop} (h : Traces first loggedFirst (Yields statements gives))
    (hnext : ∀ a, Traces (next a) (loggedNext a) (Yields [] fun sets b => sets = [] ∧ b = a)) :
    Traces (first >>= next) (loggedFirst >>= loggedNext) (Yields statements gives) := by
  rw [← List.append_nil statements]
  refine h.yields_bind hnext ?_
  rintro sets _ a _ hgives ⟨rfl, rfl⟩
  rwa [List.append_nil]

theorem Traces.yields_withStatement {call : Call τ α} {logged : Call (Logged τ) α}
    {statements : List String} {gives : List ResultSet → α → Prop}
    (h : Traces call logged (Yields statements gives)) (sql : String) :
    Traces (Call.withStatement sql call) (Call.withStatement sql logged)
      (Yields statements gives) := by
  refine (h.withStatement sql).mono ?_
  rintro new result ⟨outcome, hyields, rfl⟩ results sets hanswers hdecode
  obtain ⟨a, rfl, hgives, hstatements⟩ := hyields results sets hanswers hdecode
  exact ⟨a, rfl, hgives, hstatements⟩

variable [Transport τ]

/-- A request of which the answer is looked at gives what is made of a proper answer. -/
theorem traces_yields_ask {request : Request} {check : List Response → Except Error α}
    {statements : List String} {gives : List ResultSet → α → Prop}
    (hcheck : ∀ responses results sets, AnswersSteps [⟨[request], .ok responses⟩] results →
      results.mapM ResultSet.decode = .ok sets → ∃ a, check responses = .ok a ∧ gives sets a ∧
        batchedStatements [⟨[request], .ok responses⟩] = statements.map plainStatement) :
    Traces (τ := τ) (Transport.send [request] >>= fun responses => Call.ofExcept (check responses))
      (Transport.send [request] >>= fun responses => Call.ofExcept (check responses))
      (Yields statements gives) := by
  refine ((Traces.send [request]).bind fun responses => Traces.ofExcept (check responses)).mono ?_
  rintro new result (⟨error, rfl, rfl⟩ | ⟨_, _, responses, rfl, rfl, rfl, rfl⟩) results sets hanswers
    hdecode
  · cases hanswers
  · exact hcheck responses results sets hanswers hdecode

/-- A statement by itself gives something and is in no batch. -/
theorem traces_yields_plain (sql : String) :
    Traces (executePlain (τ := τ) sql) (executePlain sql) (Yields [] fun sets _ => sets = []) := by
  rw [executePlain_eq, executePlain_eq]
  refine (traces_yields_ask fun responses results sets hanswers hdecode => ?_).yields_withStatement sql
  cases hanswers with
  | @executed _ result set _ _ _ hset hnil =>
    cases hnil
    cases hdecode
    exact ⟨set, bind_eq_ok_iff.mpr ⟨result, rfl, decodeResult_eq_ok_iff.mpr hset⟩, rfl, rfl⟩

/-- The fates that a reply reports are those of the statements. -/
theorem reportedFates_of_reports {statements : List Statement} {reply : BatchResult}
    {fates : List StepFate} (hreports : reply.Reports fates)
    (hlength : fates.length = statements.length) :
    BatchPlan.reportedFates ⟨statements, false⟩ reply = fates := by
  refine List.ext_getElem ?_ fun index hreported hindex => ?_
  · rw [BatchPlan.length_reportedFates, hlength]
  · simp only [BatchPlan.reportedFates, List.getElem_map, List.getElem_range]
    exact hreports.fateAt_eq (List.getElem?_eq_getElem hindex)

/-- The sets of steps that succeeded are their decoded results. -/
theorem filterMap_set?_succeeded {results : List StatementResult} {sets : List ResultSet}
    (h : results.mapM ResultSet.decode = .ok sets) :
    (results.map StepFate.succeeded).filterMap StepFate.set? = sets := by
  rw [mapM_eq_ok_iff] at h
  have hsets : (results.map ResultSet.decode).filterMap Except.toOption = sets := by
    rw [h, List.filterMap_map]
    exact List.filterMap_some
  rw [← hsets, List.filterMap_map, List.filterMap_map]
  rfl

/-- A chunk gives the results of its steps. -/
theorem traces_yields_chunk (chunk : List String) :
    Traces (runChunk (τ := τ) chunk) (runChunk chunk)
      (Yields chunk fun sets given => given = sets) := by
  rw [runChunk_eq, runChunk_eq]
  refine traces_yields_ask fun responses results sets hanswers hdecode => ?_
  cases hanswers with
  | @ran _ reply _ _ given _ hlength hreports hnil =>
    cases hnil
    rw [List.append_nil] at hdecode
    have hcount : (given.map StepFate.succeeded).length = (chunk.map plainStatement).length := by
      rw [List.length_map, List.length_map, hlength, List.length_map]
    have hfates : (chunkPlan chunk).reportedFates reply = given.map .succeeded :=
      reportedFates_of_reports hreports hcount
    have hsound : ∀ fate ∈ given.map StepFate.succeeded, fate.Sound := by
      rw [List.forall_mem_map]
      intro result hmem
      exact isOk_iff.mp (mapM_isOk_iff.mp (isOk_iff.mpr ⟨sets, hdecode⟩) result hmem)
    refine ⟨sets, bind_eq_ok_iff.mpr ⟨reply, rfl, ?_⟩, rfl, ?_⟩
    · refine (BatchPlan.collect_eq_ok_iff (List.length_map _).symm).mpr ⟨nofun, ?_⟩
      rw [hfates]
      exact ⟨hsound, (filterMap_set?_succeeded hdecode).symm⟩
    · show (chunk.map _).map BatchStep.statement ++ [] ++ [] = _
      rw [List.append_nil, List.append_nil, List.map_map]
      rfl

/-- Chunks add the results of their steps to a summary. -/
theorem traces_yields_chunks (summary : Summary) (pieces : List (List String)) :
    Traces (runChunks (τ := τ) summary pieces) (runChunks summary pieces)
      (Yields pieces.flatten fun sets total => total = sets.foldl Summary.add summary) := by
  induction pieces generalizing summary with
  | nil => exact traces_yields_pure rfl
  | cons chunk pieces ih =>
    refine (traces_yields_chunk chunk).yields_bind
      (fun sets => ih (sets.foldl Summary.add summary)) ?_
    rintro sets more _ _ rfl rfl
    exact List.foldl_append.symm

/-- A script in chunks gives the summary of all results, whatever the size of the chunks. -/
theorem traces_yields_script (statements : List String) (chunkSize : Nat) (wrap : Bool) :
    Traces (runScript (τ := τ) statements chunkSize wrap) (runScript statements chunkSize wrap)
      (Yields statements fun sets total => total = .aggregate sets) := by
  have hchunks {τ : Type} [Transport τ] :=
    traces_yields_chunks (τ := τ) {} (chunks chunkSize statements)
  rw [flatten_chunks] at hchunks
  have hend {τ : Type} (summary : Summary) : Traces (τ := τ) (pure summary) (pure summary)
      (Yields [] fun sets total => sets = [] ∧ total = summary) := traces_yields_pure ⟨rfl, rfl⟩
  unfold runScript
  cases wrap with
  | false =>
    simp only [if_neg Bool.false_ne_true]
    exact hchunks.yields_last hend
  | true =>
    simp only [if_true]
    have hcommit {τ : Type} [Transport τ] (summary : Summary) :
        Traces (executePlain (τ := τ) "COMMIT" >>= fun _ => pure summary)
          (executePlain "COMMIT" >>= fun _ => pure summary)
          (Yields [] fun sets total => sets = [] ∧ total = summary) :=
      (traces_yields_plain "COMMIT").yields_bind (fun _ => hend summary)
        (by rintro _ _ _ _ rfl hlast; exact hlast)
    exact (traces_yields_plain "BEGIN").yields_bind (fun _ => hchunks.yields_last hcommit)
      (by rintro _ _ _ _ rfl hsummary; exact hsummary)

/-- The exchanges of a script in chunks. -/
def chunkedLog (sql : String) (chunkSize : Nat) (wrap : Bool) (stream : τ) : List Exchange :=
  ((executeChunked sql chunkSize wrap).runOn (Logged.mk stream [])).2.log

/-- A script of several statements whose steps are all answered gives the summary of the answers,
and its statements are sent in their order. -/
theorem executeChunked_answered {sql : String} {chunkSize : Nat} {wrap : Bool} {stream : τ}
    (hmany : 2 ≤ (chunkedStatements sql).length) {results : List StatementResult}
    {sets : List ResultSet} (hanswers : AnswersSteps (chunkedLog sql chunkSize wrap stream) results)
    (hdecode : results.mapM ResultSet.decode = .ok sets) :
    ((executeChunked sql chunkSize wrap).runOn stream).1 = .ok (.aggregate sets) ∧
      batchedStatements (chunkedLog sql chunkSize wrap stream) =
        (chunkedStatements sql).map plainStatement := by
  unfold chunkedLog at hanswers ⊢
  rw [executeChunked_eq chunkSize wrap hmany] at hanswers ⊢
  rw [executeChunked_eq chunkSize wrap hmany]
  obtain ⟨new, hyields, hrun⟩ :=
    (traces_yields_script (chunkedStatements sql) chunkSize wrap).closingOnError stream []
  rw [hrun] at hanswers ⊢
  obtain ⟨_, hresult, rfl, hstatements⟩ := hyields results sets hanswers hdecode
  exact ⟨hresult, hstatements⟩

end

/-! ## Numbers of rows -/

/-- The numbers of changed rows are added up, if the sum is no larger than a number can be. -/
theorem toNat_affectedRowCount_foldl {sets : List ResultSet} {summary : Summary}
    (h : summary.affectedRowCount.toNat +
      (sets.map fun set => set.affectedRowCount.toNat).sum < UInt64.size) :
    (sets.foldl Summary.add summary).affectedRowCount.toNat = summary.affectedRowCount.toNat +
      (sets.map fun set => set.affectedRowCount.toNat).sum := by
  induction sets generalizing summary with
  | nil => rfl
  | cons set sets ih =>
    rw [List.map_cons, List.sum_cons, ← Nat.add_assoc] at h ⊢
    have hadd : (summary.add set).affectedRowCount.toNat =
        summary.affectedRowCount.toNat + set.affectedRowCount.toNat := by
      rw [Summary.add, UInt64.toNat_add]
      exact Nat.mod_eq_of_lt (Nat.lt_of_le_of_lt (Nat.le_add_right _ _) h)
    rw [← hadd] at h ⊢
    exact ih h

/-! ## Two runs of a script -/

/-- A script of several statements that runs twice, in chunks of any sizes and on any transports,
gives the same twice if each of its steps is answered with the same result: the summary of all
results. Its statements are sent in the same order, and the numbers of changed rows are added up. -/
theorem chunk_size_unseen {τ υ : Type} [Transport τ] [Transport υ] {sql : String}
    {chunkSize otherSize : Nat} {wrap otherWrap : Bool} {stream : τ} {other : υ}
    (hmany : 2 ≤ (chunkedStatements sql).length) {results : List StatementResult}
    {sets : List ResultSet} (hdecode : results.mapM ResultSet.decode = .ok sets)
    (hanswers : AnswersSteps (chunkedLog sql chunkSize wrap stream) results)
    (hother : AnswersSteps (chunkedLog sql otherSize otherWrap other) results) :
    ((executeChunked sql chunkSize wrap).runOn stream).1 = .ok (.aggregate sets) ∧
      ((executeChunked sql otherSize otherWrap).runOn other).1 = .ok (.aggregate sets) ∧
      batchedStatements (chunkedLog sql chunkSize wrap stream) =
        (chunkedStatements sql).map plainStatement ∧
      batchedStatements (chunkedLog sql otherSize otherWrap other) =
        (chunkedStatements sql).map plainStatement ∧
      results.length = (chunkedStatements sql).length ∧
      ((sets.map fun set => set.affectedRowCount.toNat).sum < UInt64.size →
        (Summary.aggregate sets).affectedRowCount.toNat =
          (sets.map fun set => set.affectedRowCount.toNat).sum) := by
  obtain ⟨hresult, hstatements⟩ := executeChunked_answered hmany hanswers hdecode
  obtain ⟨hotherResult, hotherStatements⟩ := executeChunked_answered hmany hother hdecode
  refine ⟨hresult, hotherResult, hstatements, hotherStatements, ?_, fun hsum => ?_⟩
  · rw [hanswers.length_eq, hstatements, List.length_map]
  · rw [Summary.aggregate, toNat_affectedRowCount_foldl (by rwa [UInt64.toNat_zero, Nat.zero_add]),
      UInt64.toNat_zero, Nat.zero_add]

/-- The result of a statement that changed two rows. -/
def changedRows : StatementResult :=
  { affectedRowCount := 2 }

/-- A stream on which the two statements of a script run in a batch each. -/
def preparedForSingles : Http.Stream Http.Prepared :=
  .new ⟨[Http.answeringBatch "[\x7b\"affected_row_count\":2\x7d]" "[null]",
      Http.answeringBatch "[\x7b\x7d]" "[null]"]⟩ "http://localhost" ""

/-- A stream on which they run in one batch. -/
def preparedForPair : Http.Stream Http.Prepared :=
  .new ⟨[Http.answeringBatch "[\x7b\"affected_row_count\":2\x7d,\x7b\x7d]" "[null,null]"]⟩
    "http://localhost" ""

/-- A chunk may be answered with a report of what its statements gave. -/
theorem AnswersSteps.of_chunk {chunk : List String} {log : List Exchange}
    {results : List StatementResult} (given : List StatementResult)
    (hlength : given.length = chunk.length) (h : AnswersSteps log results) :
    AnswersSteps (⟨[chunkRequest chunk], .ok [.batch (.ofFates (given.map .succeeded))]⟩ :: log)
      (given ++ results) :=
  .ran (by rw [hlength, List.length_map]) (BatchResult.reports_ofFates _) h

/-- A script of two statements between control of its own. -/
def framedPair : String :=
  "BEGIN; a; b; COMMIT"

theorem chunkedLog_singles : chunkedLog framedPair 0 false preparedForSingles =
    [⟨[chunkRequest ["a"]], .ok [.batch (.ofFates [.succeeded changedRows])]⟩,
      ⟨[chunkRequest ["b"]], .ok [.batch (.ofFates [.succeeded {}])]⟩] := by
  decide +kernel

theorem chunkedLog_pair : chunkedLog framedPair 2 false preparedForPair =
    [⟨[chunkRequest ["a", "b"]],
      .ok [.batch (.ofFates [.succeeded changedRows, .succeeded {}])]⟩] := by
  decide +kernel

/-- The control is left out of the chunks, and the rest gives the same in two chunks as in one. -/
theorem chunk_size_unseen_of_pair :
    chunkedStatements framedPair = ["a", "b"] ∧ 2 ≤ (chunkedStatements framedPair).length ∧
      AnswersSteps (chunkedLog framedPair 0 false preparedForSingles) [changedRows, {}] ∧
      AnswersSteps (chunkedLog framedPair 2 false preparedForPair) [changedRows, {}] ∧
      ∃ sets, [changedRows, {}].mapM ResultSet.decode = .ok sets ∧
        ((executeChunked framedPair 0 false).runOn preparedForSingles).1 = .ok (.aggregate sets) ∧
        ((executeChunked framedPair 2 false).runOn preparedForPair).1 = .ok (.aggregate sets) ∧
        (Summary.aggregate sets).affectedRowCount.toNat = 2 := by
  have hmany : 2 ≤ (chunkedStatements framedPair).length := by decide +kernel
  have hsingles : AnswersSteps (chunkedLog framedPair 0 false preparedForSingles)
      [changedRows, {}] := by
    rw [chunkedLog_singles]
    exact .of_chunk [changedRows] rfl (.of_chunk [{}] rfl .nil)
  have hpair : AnswersSteps (chunkedLog framedPair 2 false preparedForPair)
      [changedRows, {}] := by
    rw [chunkedLog_pair]
    exact .of_chunk [changedRows, {}] rfl .nil
  have hdecode : [changedRows, {}].mapM ResultSet.decode =
      .ok [{ affectedRowCount := 2 }, {}] :=
    eq_ok_of_toOption (by decide +kernel)
  obtain ⟨hfirst, hsecond, _, _, _, hrows⟩ := chunk_size_unseen hmany hdecode hsingles hpair
  exact ⟨by decide +kernel, hmany, hsingles, hpair, _, hdecode, hfirst, hsecond, hrows (by decide)⟩

end SqlStream
