import SqlStream.Proofs.Exchange

/-!
# Scripts in chunks commit only after everything succeeded

A script in chunks sends its requests one after another, and none behind one that failed
(`Attempt`). So `COMMIT` is sent only when `BEGIN` and all chunks of the script went well
(`executeChunked_commits_last`), whatever the server answers in any exchange.
-/

namespace SqlStream

open SqlStream.Sql SqlStream.Wire

/-! ## Requests sent until one fails -/

/-- Exchanges of a plan of requests, one after another, up to the first that fails. The flag tells
whether the whole plan went well. -/
inductive Attempt : List Request → List Exchange → Bool → Prop where
  | done : Attempt [] [] true
  | failed {request : Request} {plan : List Request} {outcome : Except Error (List Response)} :
      ¬ Exchange.Succeeded ⟨[request], outcome⟩ →
      Attempt (request :: plan) [⟨[request], outcome⟩] false
  | next {request : Request} {plan : List Request} {outcome : Except Error (List Response)}
      {log : List Exchange} {complete : Bool} :
      Exchange.Succeeded ⟨[request], outcome⟩ → Attempt plan log complete →
      Attempt (request :: plan) (⟨[request], outcome⟩ :: log) complete

namespace Attempt

variable {plan rest : List Request} {log behind : List Exchange} {complete : Bool}

/-- A plan that fails does not go on. -/
theorem append_failed (h : Attempt plan log false) (rest : List Request) :
    Attempt (plan ++ rest) log false := by
  generalize hcomplete : false = complete at h
  induction h with
  | done => cases hcomplete
  | failed hfailed => exact .failed hfailed
  | next hsucceeded _ ih => exact .next hsucceeded (ih hcomplete)

/-- A plan that goes well goes on. -/
theorem append (h : Attempt plan log true) (hrest : Attempt rest behind complete) :
    Attempt (plan ++ rest) (log ++ behind) complete := by
  generalize hdone : true = done at h
  induction h with
  | done => exact hrest
  | failed => cases hdone
  | next hsucceeded _ ih => exact .next hsucceeded (ih hdone)

/-- The attempt of a plan in two parts begins the second only if the first went well. -/
theorem split (h : Attempt (plan ++ rest) log complete) :
    ∃ first behind reached, log = first ++ behind ∧ Attempt plan first reached ∧
      (reached = true → Attempt rest behind complete) ∧
      (reached = false → behind = [] ∧ complete = false) := by
  induction plan generalizing log with
  | nil => exact ⟨[], log, true, rfl, .done, fun _ => h, fun hreached => by cases hreached⟩
  | cons request plan ih =>
    cases h with
    | failed hfailed =>
      refine ⟨[_], [], false, rfl, .failed hfailed, ?_, fun _ => ⟨rfl, rfl⟩⟩
      intro hreached
      cases hreached
    | next hsucceeded hlog =>
      obtain ⟨first, behind, reached, rfl, hfirst, htrue, hfalse⟩ := ih hlog
      exact ⟨_ :: first, behind, reached, rfl, .next hsucceeded hfirst, htrue, hfalse⟩

/-- A plan in two parts is complete if both parts are. -/
theorem split_complete (h : Attempt (plan ++ rest) log true) :
    ∃ first behind, log = first ++ behind ∧ Attempt plan first true ∧ Attempt rest behind true := by
  obtain ⟨first, behind, reached, hlog, hfirst, hreached, hnotReached⟩ := h.split
  cases reached with
  | false => cases (hnotReached rfl).2
  | true => exact ⟨first, behind, hlog, hfirst, hreached rfl⟩

/-- The requests sent are the first ones of the plan. -/
theorem exists_prefix (h : Attempt plan log complete) :
    ∃ sent, sent <+: plan ∧ log.map Exchange.requests = sent.map fun request => [request] := by
  induction h with
  | done => exact ⟨[], List.prefix_refl _, rfl⟩
  | @failed request plan => exact ⟨[request], List.prefix_append [request] plan, rfl⟩
  | @next request plan _ _ _ _ _ ih =>
    obtain ⟨sent, hsent, hlog⟩ := ih
    refine ⟨request :: sent, List.cons_prefix_cons.mpr ⟨rfl, hsent⟩, ?_⟩
    rw [List.map_cons, List.map_cons, hlog]

/-- Of a plan of at most one request, all is sent. -/
theorem requests_of_short (h : Attempt plan log complete) (hshort : plan.length ≤ 1) :
    log.map Exchange.requests = plan.map fun request => [request] := by
  match plan, hshort with
  | [], _ =>
    cases h
    rfl
  | [request], _ =>
    cases h with
    | failed => rfl
    | next _ hrest =>
      cases hrest
      rfl

/-- An attempt is complete if it went through the whole plan and every exchange succeeded. -/
theorem complete_iff (h : Attempt plan log complete) :
    complete = true ↔ log.length = plan.length ∧ ∀ exchange ∈ log, exchange.Succeeded := by
  induction h with
  | done => simp
  | failed hfailed => simp [hfailed]
  | next hsucceeded _ ih => simp [ih, hsucceeded]

/-- Of a plan of at most one request, an attempt is complete if what was sent succeeded. -/
theorem complete_iff_of_short (h : Attempt plan log complete) (hshort : plan.length ≤ 1) :
    complete = true ↔ ∀ exchange ∈ log, exchange.Succeeded := by
  have hlength := congrArg List.length (h.requests_of_short hshort)
  rw [List.length_map, List.length_map] at hlength
  rw [h.complete_iff]
  exact ⟨fun hcomplete => hcomplete.2, fun hall => ⟨hlength, hall⟩⟩

/-- If an attempt fails, the exchange that failed is the last one. -/
theorem failed_last (h : Attempt plan log false) :
    ∃ before failing, log = before ++ [failing] ∧ (∀ exchange ∈ before, exchange.Succeeded) ∧
      ¬ failing.Succeeded := by
  generalize hcomplete : false = complete at h
  induction h with
  | done => cases hcomplete
  | failed hfailed => exact ⟨[], _, rfl, by simp, hfailed⟩
  | next hsucceeded _ ih =>
    obtain ⟨before, failing, rfl, hbefore, hfailing⟩ := ih hcomplete
    refine ⟨_ :: before, failing, rfl, fun exchange hmem => ?_, hfailing⟩
    rcases List.mem_cons.mp hmem with rfl | hmem
    · exact hsucceeded
    · exact hbefore exchange hmem

end Attempt

/-! ## Chunks -/

/-- The request that runs a statement without arguments and without rows. -/
def plainRequest (sql : String) : Request :=
  .execute (plainStatement sql)

/-- The request that runs a chunk: its statements one after another, without conditions. -/
def chunkRequest (chunk : List String) : Request :=
  .batch { steps := chunk.map fun sql => ⟨plainStatement sql, none⟩ }

/-- One request is sent; it succeeds if the result that is made of its answer is one. -/
theorem Traces.ask {τ α : Type} [Transport τ] {request : Request}
    {check : List Response → Except Error α}
    (hcheck : ∀ responses, (check responses).isOk = true ↔
      ∃ response others, responses = response :: others ∧ response.Fulfils request) :
    Traces (τ := τ) (Transport.send [request] >>= fun responses => Call.ofExcept (check responses))
      (Transport.send [request] >>= fun responses => Call.ofExcept (check responses))
      fun new result => Attempt [request] new result.isOk := by
  refine ((Traces.send [request]).bind fun responses => Traces.ofExcept (check responses)).mono ?_
  intro new result h
  have hsucceeded : ∀ responses, Exchange.Succeeded ⟨[request], .ok responses⟩ ↔
      (check responses).isOk = true := by
    intro responses
    rw [hcheck]
    constructor
    · rintro ⟨_, response, others, hrequest, houtcome, hfulfils⟩
      cases hrequest
      cases houtcome
      exact ⟨response, others, rfl, hfulfils⟩
    · rintro ⟨response, others, rfl, hfulfils⟩
      exact ⟨request, response, others, rfl, rfl, hfulfils⟩
  rcases h with ⟨error, rfl, rfl⟩ | ⟨_, _, responses, rfl, rfl, rfl, rfl⟩
  · refine .failed fun ⟨_, _, _, _, houtcome, _⟩ => ?_
    cases houtcome
  · cases hok : (check responses).isOk with
    | false => exact .failed (by rw [hsucceeded, hok]; exact Bool.false_ne_true)
    | true => exact .next ((hsucceeded responses).mpr hok) .done

theorem expectExecute_eq_ok_iff {responses : List Response} {result : StatementResult} :
    expectExecute responses = .ok result ↔ ∃ others, responses = .execute result :: others := by
  cases responses with
  | nil => simp [expectExecute]
  | cons response others => cases response <;> simp [expectExecute]

theorem expectBatch_eq_ok_iff {responses : List Response} {reply : BatchResult} :
    expectBatch responses = .ok reply ↔ ∃ others, responses = .batch reply :: others := by
  cases responses with
  | nil => simp [expectBatch]
  | cons response others => cases response <;> simp [expectBatch]

/-- An answer to a statement is a result that can be decoded. -/
theorem expectExecute_isOk_iff {responses : List Response} {statement : Statement} :
    (expectExecute responses >>= decodeResult).isOk = true ↔
      ∃ response others, responses = response :: others ∧ response.Fulfils (.execute statement) := by
  rw [isOk_iff]
  constructor
  · rintro ⟨set, hset⟩
    obtain ⟨result, hresult, hset⟩ := bind_eq_ok_iff.mp hset
    obtain ⟨others, rfl⟩ := expectExecute_eq_ok_iff.mp hresult
    exact ⟨_, others, rfl, .execute (decodeResult_eq_ok_iff.mp hset)⟩
  · rintro ⟨_, others, rfl, hfulfils⟩
    cases hfulfils with
    | @execute _ result set hset =>
      exact ⟨set, bind_eq_ok_iff.mpr ⟨result, rfl, decodeResult_eq_ok_iff.mpr hset⟩⟩

/-- A statement without arguments is one request, and a look at the answer. -/
theorem executePlain_eq {τ : Type} [Transport τ] (sql : String) :
    executePlain (τ := τ) sql = Call.withStatement sql (Transport.send [plainRequest sql] >>=
      fun responses => Call.ofExcept (expectExecute responses >>= decodeResult)) := by
  simp only [← Call.ofExcept_bind]
  rfl

/-- A statement without arguments is one exchange. -/
theorem traces_executePlain {τ : Type} [Transport τ] (sql : String) :
    Traces (executePlain (τ := τ) sql) (executePlain sql) fun new result =>
      Attempt [plainRequest sql] new result.isOk := by
  rw [executePlain_eq, executePlain_eq]
  refine ((Traces.ask fun _ => expectExecute_isOk_iff).withStatement sql).mono ?_
  rintro new _ ⟨outcome, hattempt, rfl⟩
  cases outcome <;> exact hattempt

/-- A chunk as a batch of plain statements that is no transaction. -/
def chunkPlan (chunk : List String) : BatchPlan :=
  ⟨chunk.map plainStatement, false⟩

theorem request_chunkPlan (chunk : List String) : (chunkPlan chunk).request = chunkRequest chunk := by
  rw [BatchPlan.request, BatchPlan.steps, chunkPlan, if_neg Bool.false_ne_true, List.map_map]
  rfl

/-- The results of a chunk in the answers to it. -/
def chunkResults (chunk : List String) (responses : List Response) : Except Error (List ResultSet) :=
  expectBatch responses >>= fun reply =>
    (chunkPlan chunk).callerFates reply false >>= fun fates => collectResults (chunk.zip fates)

/-- A reply has the results of a chunk if it reports no failure of a step. -/
theorem chunkResults_reply {chunk : List String} {reply : BatchResult} {sets : List ResultSet} :
    ((chunkPlan chunk).callerFates reply false >>= fun fates =>
        collectResults (chunk.zip fates)) = .ok sets ↔
      (Response.batch reply).Fulfils (chunkRequest chunk) ∧
        sets = ((chunkPlan chunk).reportedFates reply).filterMap StepFate.set? := by
  have hcount : chunk.length = (chunkPlan chunk).statements.length := (List.length_map _).symm
  have hadded : (chunkPlan chunk).AddedSound reply := nofun
  have hsound : (∀ fate ∈ (chunkPlan chunk).reportedFates reply, fate.Sound) ↔
      (Response.batch reply).Fulfils (chunkRequest chunk) := by
    rw [BatchPlan.reportedFates, List.forall_mem_map]
    constructor
    · intro hsound
      refine .batch fun step hstep => BatchResult.sound_fateAt_iff.mp (hsound step ?_)
      rw [List.length_map] at hstep
      exact List.mem_range.mpr (hcount ▸ hstep)
    · rintro hfulfils step hstep
      cases hfulfils with
      | batch hsteps =>
        refine BatchResult.sound_fateAt_iff.mpr (hsteps step ?_)
        rw [List.length_map, hcount]
        exact List.mem_range.mp hstep
  rw [BatchPlan.collect_eq_ok_iff hcount, hsound]
  exact and_iff_right hadded

/-- An answer to a chunk is one for a batch that reports no failure of a step. -/
theorem chunkResults_isOk_iff {chunk : List String} {responses : List Response} :
    (chunkResults chunk responses).isOk = true ↔
      ∃ response others, responses = response :: others ∧ response.Fulfils (chunkRequest chunk) := by
  rw [isOk_iff]
  constructor
  · rintro ⟨sets, hsets⟩
    obtain ⟨reply, hexpect, hcollect⟩ := bind_eq_ok_iff.mp hsets
    obtain ⟨others, rfl⟩ := expectBatch_eq_ok_iff.mp hexpect
    exact ⟨_, others, rfl, (chunkResults_reply.mp hcollect).1⟩
  · rintro ⟨_, others, rfl, hfulfils⟩
    cases hfulfils with
    | @batch _ reply hsteps =>
      exact ⟨_, bind_eq_ok_iff.mpr ⟨reply, rfl, chunkResults_reply.mpr ⟨.batch hsteps, rfl⟩⟩⟩

/-- A chunk is one request, and a look at the answer. -/
theorem runChunk_eq {τ : Type} [Transport τ] (chunk : List String) :
    runChunk (τ := τ) chunk = Transport.send [chunkRequest chunk] >>= fun responses =>
      Call.ofExcept (chunkResults chunk responses) := by
  have hbuilt : (chunk.mapM fun sql => buildStatement (.text sql) .none false) =
      .ok (chunkPlan chunk).statements :=
    mapM_eq_ok_iff.mpr (by rw [chunkPlan, List.map_map]; rfl)
  unfold runChunk executeBatch chunkResults
  rw [hbuilt, ← request_chunkPlan]
  simp only [← Call.ofExcept_bind, bind_assoc]
  rfl

/-- A chunk is one exchange. -/
theorem traces_runChunk {τ : Type} [Transport τ] (chunk : List String) :
    Traces (runChunk (τ := τ) chunk) (runChunk chunk) fun new result =>
      Attempt [chunkRequest chunk] new result.isOk := by
  rw [runChunk_eq, runChunk_eq]
  exact Traces.ask fun _ => chunkResults_isOk_iff

/-- Two calls that each attempt a plan attempt both plans, one after the other. -/
theorem Traces.attempt_bind {τ α β : Type} {first : Call τ α} {loggedFirst : Call (Logged τ) α}
    {next : α → Call τ β} {loggedNext : α → Call (Logged τ) β} {plan rest : List Request}
    (h : Traces first loggedFirst fun new result => Attempt plan new result.isOk)
    (hnext : ∀ a, Traces (next a) (loggedNext a) fun new result => Attempt rest new result.isOk) :
    Traces (first >>= next) (loggedFirst >>= loggedNext) fun new result =>
      Attempt (plan ++ rest) new result.isOk := by
  refine (h.bind hnext).mono ?_
  rintro new result (⟨error, rfl, hfailed⟩ | ⟨log, behind, a, rfl, hlog, hbehind⟩)
  · exact hfailed.append_failed rest
  · exact hlog.append hbehind

/-- A call that only hands a result on attempts nothing. -/
theorem traces_pure {τ α : Type} (a : α) :
    Traces (τ := τ) (pure a) (pure a) fun new result => Attempt [] new result.isOk := by
  refine (Traces.pure a).mono ?_
  rintro _ _ ⟨rfl, rfl⟩
  exact .done

/-- Chunks are exchanges one after another, up to the first that fails. -/
theorem traces_runChunks {τ : Type} [Transport τ] (summary : Summary) (pieces : List (List String)) :
    Traces (runChunks (τ := τ) summary pieces) (runChunks summary pieces) fun new result =>
      Attempt (pieces.map chunkRequest) new result.isOk := by
  induction pieces generalizing summary with
  | nil => exact traces_pure summary
  | cons chunk pieces ih =>
    exact (traces_runChunk chunk).attempt_bind fun sets => ih (sets.foldl Summary.add summary)

/-- The requests of a whole script in chunks. -/
def scriptPlan (statements : List String) (chunkSize : Nat) (wrap : Bool) : List Request :=
  (if wrap then [plainRequest "BEGIN"] else []) ++
    ((chunks chunkSize statements).map chunkRequest ++ if wrap then [plainRequest "COMMIT"] else [])

/-- A script in chunks sends the requests of its plan one after another, up to the first that
fails. -/
theorem traces_runScript {τ : Type} [Transport τ] (statements : List String) (chunkSize : Nat)
    (wrap : Bool) :
    Traces (runScript (τ := τ) statements chunkSize wrap) (runScript statements chunkSize wrap)
      fun new result => Attempt (scriptPlan statements chunkSize wrap) new result.isOk := by
  have hchunks {τ : Type} [Transport τ] :=
    traces_runChunks (τ := τ) {} (chunks chunkSize statements)
  unfold runScript
  cases wrap with
  | false =>
    simp only [if_neg Bool.false_ne_true]
    exact hchunks.attempt_bind traces_pure
  | true =>
    simp only [if_true]
    exact (traces_executePlain "BEGIN").attempt_bind fun _ => hchunks.attempt_bind fun summary =>
      (traces_executePlain "COMMIT").attempt_bind fun _ => traces_pure summary

/-! ## What is sent of a script -/

/-- The exchanges of chunks are those of the first chunks of the script. -/
theorem Attempt.chunks_sent {statements : List String} {chunkSize : Nat} {batches : List Exchange}
    {complete : Bool} (h : Attempt ((chunks chunkSize statements).map chunkRequest) batches complete) :
    ∃ sent, sent <+: chunks chunkSize statements ∧
      (batches.map Exchange.requests = sent.map fun chunk => [chunkRequest chunk]) ∧
      (complete = true ↔ (∀ exchange ∈ batches, exchange.Succeeded) ∧
        sent.flatten = statements) := by
  obtain ⟨requests, hrequests, hlog⟩ := h.exists_prefix
  obtain ⟨sent, hsent, rfl⟩ := List.prefix_map_iff.mp hrequests
  rw [List.map_map] at hlog
  refine ⟨sent, hsent, hlog, ?_⟩
  have hlength : batches.length = sent.length := by
    rw [← List.length_map Exchange.requests, hlog, List.length_map]
  rw [h.complete_iff, List.length_map, hlength, length_eq_of_prefix_chunks_iff hsent, And.comm]

/-- A run of a script in chunks: the chunks that were `sent`, and the exchanges before, with and
behind them. The flag tells whether the run gave a result. -/
structure ChunkedRun (statements : List String) (chunkSize : Nat) (wrap : Bool)
    (sent : List (List String)) (opening batches closing : List Exchange) (complete : Bool) :
    Prop where
  /-- `BEGIN` comes first, if there is to be a transaction. -/
  opens : opening.map Exchange.requests = if wrap then [[plainRequest "BEGIN"]] else []
  /-- Chunks are sent as batches without conditions, one in each exchange. -/
  batched : batches.map Exchange.requests = sent.map fun chunk => [chunkRequest chunk]
  /-- No statement is left out, repeated or out of order. -/
  in_order : sent.flatten <+: statements
  sizes : ∀ chunk ∈ sent, 0 < chunk.length ∧ chunk.length ≤ max chunkSize 1
  full : ∀ chunk ∈ sent.dropLast, chunk.length = max chunkSize 1
  /-- `COMMIT` follows if all statements were sent and everything went well. -/
  commits : wrap = true → (∀ exchange ∈ opening ++ batches, exchange.Succeeded) →
    sent.flatten = statements → closing.map Exchange.requests = [[plainRequest "COMMIT"]]
  /-- Nothing follows otherwise. -/
  commits_only : closing ≠ [] → wrap = true ∧
    (∀ exchange ∈ opening ++ batches, exchange.Succeeded) ∧ sent.flatten = statements
  /-- The run gave a result if the whole sequence went well. -/
  complete_iff : complete = true ↔
    (∀ exchange ∈ opening ++ batches ++ closing, exchange.Succeeded) ∧ sent.flatten = statements
  /-- Nothing is sent behind an exchange that failed. -/
  failed_last : complete = false → ∃ before failing,
    opening ++ batches ++ closing = before ++ [failing] ∧
      (∀ exchange ∈ before, exchange.Succeeded) ∧ ¬ failing.Succeeded

/-- The attempt of a whole script is a run of its chunks. -/
theorem Attempt.chunkedRun {statements : List String} {chunkSize : Nat} {wrap : Bool}
    {log : List Exchange} {complete : Bool}
    (h : Attempt (scriptPlan statements chunkSize wrap) log complete) :
    ∃ sent opening batches closing, log = opening ++ batches ++ closing ∧
      ChunkedRun statements chunkSize wrap sent opening batches closing complete := by
  have hlast := fun hfailed : complete = false => (hfailed ▸ h).failed_last
  obtain ⟨opening, behind, begun, rfl, hopening, hbegun, hnotBegun⟩ := h.split
  have hshort : ∀ sql, (if wrap then [plainRequest sql] else []).length ≤ 1 := by
    intro sql
    cases wrap <;> simp
  have hopens : opening.map Exchange.requests = if wrap then [[plainRequest "BEGIN"]] else [] := by
    rw [hopening.requests_of_short (hshort _)]
    cases wrap <;> rfl
  have hopened := hopening.complete_iff_of_short (hshort _)
  cases begun with
  | false =>
    -- without `BEGIN` nothing else is sent
    obtain ⟨rfl, rfl⟩ := hnotBegun rfl
    have hnot : ¬ ∀ exchange ∈ opening, exchange.Succeeded :=
      fun hall => Bool.false_ne_true (hopened.mpr hall)
    refine ⟨[], opening, [], [], by simp, ⟨hopens, rfl, List.nil_prefix, by simp, by simp, ?_,
      fun hne => absurd rfl hne, ?_, by simpa using hlast⟩⟩
    · exact fun _ hall _ => absurd (by simpa using hall) hnot
    · exact iff_of_false Bool.false_ne_true fun hall => hnot (by simpa using hall.1)
  | true =>
    obtain ⟨batches, closing, ran, rfl, hbatches, hran, hnotRan⟩ := (hbegun rfl).split
    obtain ⟨sent, hsent, hbatched, hranIff⟩ := hbatches.chunks_sent
    have hinOrder := flatten_prefix_of_prefix_chunks hsent
    have hsizes : ∀ chunk ∈ sent, 0 < chunk.length ∧ chunk.length ≤ max chunkSize 1 :=
      fun chunk hchunk => length_of_mem_chunks (hsent.subset hchunk)
    have hfull : ∀ chunk ∈ sent.dropLast, chunk.length = max chunkSize 1 :=
      fun chunk hchunk => length_of_mem_dropLast_of_prefix_chunks hsent hchunk
    rw [← List.append_assoc] at hlast ⊢
    refine ⟨sent, opening, batches, closing, rfl, ?_⟩
    have hready : (∀ exchange ∈ opening ++ batches, exchange.Succeeded) ∧
        sent.flatten = statements ↔ ran = true := by
      rw [List.forall_mem_append, hranIff]
      exact ⟨fun hall => ⟨hall.1.2, hall.2⟩, fun hall => ⟨⟨hopened.mp rfl, hall.1⟩, hall.2⟩⟩
    cases ran with
    | false =>
      -- the exchange that failed is one of the chunks, and `COMMIT` is not sent
      obtain ⟨rfl, rfl⟩ := hnotRan rfl
      have hnot := mt hready.mp Bool.false_ne_true
      refine ⟨hopens, hbatched, hinOrder, hsizes, hfull, ?_, fun hne => absurd rfl hne, ?_, hlast⟩
      · exact fun _ hall hflatten => absurd ⟨hall, hflatten⟩ hnot
      · exact iff_of_false Bool.false_ne_true (by rwa [List.append_nil])
    | true =>
      have hclosing := hran rfl
      obtain ⟨hall, hflatten⟩ := hready.mpr rfl
      have hcloses : closing.map Exchange.requests =
          if wrap then [[plainRequest "COMMIT"]] else [] := by
        rw [hclosing.requests_of_short (hshort _)]
        cases wrap <;> rfl
      refine ⟨hopens, hbatched, hinOrder, hsizes, hfull, ?_, fun hne => ⟨?_, hall, hflatten⟩, ?_,
        hlast⟩
      · intro hwrap _ _
        rw [hcloses, if_pos hwrap]
      · cases wrap with
        | true => rfl
        | false => exact absurd (List.map_eq_nil_iff.mp hcloses) hne
      · rw [hclosing.complete_iff_of_short (hshort _), List.forall_mem_append]
        exact ⟨fun hclosed => ⟨⟨hall, hclosed⟩, hflatten⟩, fun hwhole => hwhole.1.2⟩

/-- A script of several statements is run in chunks. -/
theorem executeChunked_eq {τ : Type} [Transport τ] {sql : String} (chunkSize : Nat) (wrap : Bool)
    (h : 2 ≤ (chunkedStatements sql).length) :
    executeChunked (τ := τ) sql chunkSize wrap =
      closingOnError (runScript (chunkedStatements sql) chunkSize wrap) := by
  unfold executeChunked
  match hstatements : chunkedStatements sql with
  | [] => simp [hstatements] at h
  | [only] => simp [hstatements] at h
  | first :: second :: rest => rfl

/-- A script of several statements sends the requests of its plan. -/
theorem traces_chunkedScript {τ : Type} [Transport τ] {sql : String} (chunkSize : Nat) (wrap : Bool)
    (h : 2 ≤ (chunkedStatements sql).length) :
    Traces (executeChunked (τ := τ) sql chunkSize wrap) (executeChunked sql chunkSize wrap)
      fun new result =>
        Attempt (scriptPlan (chunkedStatements sql) chunkSize wrap) new result.isOk := by
  rw [executeChunked_eq chunkSize wrap h, executeChunked_eq chunkSize wrap h]
  exact (traces_runScript _ chunkSize wrap).closingOnError

/-- A script of several statements is committed only after everything succeeded, and the stream is
closed if anything fails. What the server does, and whether it can be reached, is arbitrary. -/
theorem executeChunked_commits_last {τ : Type} [Transport τ] [LawfulTransport τ] (sql : String)
    (chunkSize : Nat) (wrap : Bool) (stream : τ) (h : 2 ≤ (chunkedStatements sql).length) :
    let run := (executeChunked sql chunkSize wrap).runOn stream
    ∃ sent opening batches closing,
      (executeChunked sql chunkSize wrap).runOn (Logged.mk stream []) =
        (run.1, ⟨run.2, opening ++ batches ++ closing⟩) ∧
      ChunkedRun (chunkedStatements sql) chunkSize wrap sent opening batches closing run.1.isOk ∧
      (run.1.isOk = false → (Transport.session run.2).isClosed = true) := by
  rw [executeChunked_eq chunkSize wrap h, executeChunked_eq chunkSize wrap h]
  intro run
  obtain ⟨log, hattempt, hrun⟩ :=
    (traces_runScript (chunkedStatements sql) chunkSize wrap).closingOnError stream []
  obtain ⟨sent, opening, batches, closing, rfl, hchunked⟩ := hattempt.chunkedRun
  refine ⟨sent, opening, batches, closing, hrun, hchunked, ?_⟩
  show run.1.isOk = false → _
  simp only [run, runOn_closingOnError]
  split
  · intro hok
    cases hok
  · intro _
    exact LawfulTransport.isClosed_close _

/-- A stream on which `BEGIN`, two chunks and `COMMIT` go well. -/
def preparedForChunks : Http.Stream Http.Prepared :=
  let executed := Http.answering "execute" "\x7b\x7d"
  let ran := Http.answeringBatch "[\x7b\x7d]" "[]"
  .new ⟨[executed, ran, ran, executed]⟩ "http://localhost" ""

/-- Of a script with control of its own, the two statements between are run in a chunk each. -/
theorem executeChunked_commits_last_of_two :
    let sql := "BEGIN; a; b; COMMIT"
    chunkedStatements sql = ["a", "b"] ∧ 2 ≤ (chunkedStatements sql).length ∧
      ((executeChunked sql 1 true).runOn preparedForChunks).1.isOk = true ∧
      let run := (executeChunked sql 1 true).runOn preparedForChunks
      ∃ sent opening batches closing,
        (executeChunked sql 1 true).runOn (Logged.mk preparedForChunks []) =
          (run.1, ⟨run.2, opening ++ batches ++ closing⟩) ∧
        ChunkedRun (chunkedStatements sql) 1 true sent opening batches closing run.1.isOk ∧
        (run.1.isOk = false → (Transport.session run.2).isClosed = true) :=
  ⟨by decide +kernel, by decide +kernel, by decide +kernel,
    executeChunked_commits_last "BEGIN; a; b; COMMIT" 1 true preparedForChunks (by decide +kernel)⟩

end SqlStream
