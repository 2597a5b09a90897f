import Mathlib.Data.List.Forall2
import SqlStream.Proofs.Call

/-!
# Beginning and finishing an exchange

A session that is closed begins no exchange. Any other one hands out its baton with the requests,
which are those it was given but for the watermark (`Wire.Request.Stamped`), and is closed from
there on. A reply over HTTP opens it again if it has a baton and the end of the stream was not asked
for.
-/

namespace SqlStream

open SqlStream.Wire

/-- A request as it goes on the wire: one that runs statements waits for the replication index that
the caller set or else for the watermark, and nothing else of it changes. -/
inductive Wire.Request.Stamped (watermark : Option UInt64) : Request → Request → Prop where
  | execute (statement : Statement) : Stamped watermark (.execute statement)
      (.execute { statement with
        replicationIndex := statement.replicationIndex.or watermark })
  | batch (steps : Batch) : Stamped watermark (.batch steps)
      (.batch { steps with replicationIndex := steps.replicationIndex.or watermark })
  | storeSql (sql : String) (sqlId : Int32) :
      Stamped watermark (.storeSql sql sqlId) (.storeSql sql sqlId)
  | closeSql (sqlId : Int32) : Stamped watermark (.closeSql sqlId) (.closeSql sqlId)
  | close : Stamped watermark .close .close

theorem Wire.Request.stamped_none (request : Request) : request.Stamped none request := by
  cases request with
  | execute statement =>
    have h : Stamped none (.execute statement) _ := .execute statement
    simpa using h
  | batch steps =>
    have h : Stamped none (.batch steps) _ := .batch steps
    simpa using h
  | storeSql sql sqlId => exact .storeSql sql sqlId
  | closeSql sqlId => exact .closeSql sqlId
  | close => exact .close

theorem Wire.Request.stamped_withWatermark (index : UInt64) (request : Request) :
    request.Stamped (some index) (request.withWatermark index) := by
  cases request with
  | execute statement => exact .execute statement
  | batch steps => exact .batch steps
  | storeSql sql sqlId => exact .storeSql sql sqlId
  | closeSql sqlId => exact .closeSql sqlId
  | close => exact .close

namespace Session

variable {session : Session} {requests : List Request}

/-- Requests as a session puts them on the wire. -/
def stamp (session : Session) (requests : List Request) : List Request :=
  match session.replicationIndex with
  | some index => requests.map (Request.withWatermark index)
  | none => requests

/-- Each request is stamped with the watermark. -/
theorem stamped_stamp (session : Session) (requests : List Request) :
    List.Forall₂ (Request.Stamped session.replicationIndex) requests (session.stamp requests) := by
  unfold stamp
  cases session.replicationIndex with
  | none => exact List.forall₂_same.mpr fun request _ => request.stamped_none
  | some index =>
    rw [List.forall₂_map_right_iff]
    exact List.forall₂_same.mpr fun request _ => request.stamped_withWatermark index

@[simp] theorem stamp_close (session : Session) : session.stamp [.close] = [.close] := by
  unfold stamp
  cases session.replicationIndex <;> rfl

/-- A closed session does not begin. -/
theorem begin_of_isClosed (hclosed : session.isClosed = true) (requests : List Request) :
    session.begin requests = .error .streamClosed := by
  rw [begin, if_pos hclosed]

/-- A session that is not closed begins with its baton and its requests stamped. -/
theorem begin_of_not_isClosed (hopen : session.isClosed = false) (requests : List Request) :
    session.begin requests =
      .ok (⟨session.baton, session.stamp requests⟩, session.close.2) := by
  rw [begin, if_neg (by simp [hopen])]
  rfl

theorem isClosed_eq_true_iff : session.isClosed = true ↔ session.state = .closed := by
  rw [isClosed, decide_eq_true_eq]

theorem isClosed_eq_false_iff : session.isClosed = false ↔ session.state ≠ .closed := by
  rw [isClosed, decide_eq_false_iff_not]

/-! ## Results -/

/-- To finish an exchange over HTTP takes note of all results in the reply. -/
theorem replicationIndex_finishPipeline (session : Session) (sent : List Request)
    (response : PipelineResponse) :
    (session.finishPipeline sent response).2.replicationIndex =
      (session.observe response.results).replicationIndex :=
  rfl

/-- To finish an exchange on a channel takes note of all results. -/
theorem replicationIndex_finishChannel (session : Session) (sent : List Request)
    (results : List StreamResult) :
    (session.finishChannel sent results).2.replicationIndex =
      (session.observe results).replicationIndex := by
  unfold finishChannel
  by_cases hcloses : closesStream sent = true
  · rw [if_pos hcloses]
  · rw [if_neg hcloses]
    rfl

/-! ## Replies over HTTP -/

/-- A text is taken if it is there and not empty. -/
theorem nonempty?_eq_some_iff {text : Option String} {s : String} :
    nonempty? text = some s ↔ text = some s ∧ s ≠ "" := by
  rw [nonempty?, Option.filter_eq_some_iff, decide_eq_true_eq]

/-- Requests close the stream exactly if the last of them is a close. -/
theorem closesStream_eq_true_iff {sent : List Request} :
    closesStream sent = true ↔ sent.getLast? = some .close := by
  unfold closesStream
  cases sent.getLast? with
  | none => simp
  | some request => cases request <;> simp [Request.isClose]

variable {sent : List Request} {response : PipelineResponse}

/-- A baton keeps a session active unless the requests closed it. -/
theorem stateAfter_of_baton {baton : String} (hbaton : response.baton = some baton)
    (hne : baton ≠ "") (hlast : sent.getLast? ≠ some .close) :
    stateAfter sent response = .active (some baton) := by
  have hcloses : closesStream sent = false := by
    rwa [← Bool.not_eq_true, closesStream_eq_true_iff]
  rw [stateAfter, nonempty?_eq_some_iff.mpr ⟨hbaton, hne⟩]
  simp [hcloses]

/-- Without a baton a stream is closed, and with one if its end was asked for. -/
theorem stateAfter_eq_closed
    (h : ∀ baton, response.baton = some baton → baton ≠ "" → sent.getLast? = some .close) :
    stateAfter sent response = .closed := by
  unfold stateAfter
  cases hbaton : nonempty? response.baton with
  | none => rfl
  | some baton =>
    obtain ⟨hsome, hne⟩ := nonempty?_eq_some_iff.mp hbaton
    exact if_pos (closesStream_eq_true_iff.mpr (h baton hsome hne))

/-- Where its end was not asked for, a stream is closed exactly if there is no baton. -/
theorem stateAfter_eq_closed_iff (hkeeps : closesStream sent = false) :
    stateAfter sent response = .closed ↔ ∀ baton, response.baton = some baton → baton = "" := by
  have hlast : sent.getLast? ≠ some .close := by
    rw [Ne, ← closesStream_eq_true_iff, hkeeps]
    exact Bool.false_ne_true
  constructor
  · intro hclosed baton hbaton
    by_contra hne
    rw [stateAfter_of_baton hbaton hne hlast] at hclosed
    cases hclosed
  · intro hnone
    exact stateAfter_eq_closed fun baton hbaton hne => absurd (hnone baton hbaton) hne

/-- The watermark does not change whether requests ask for the end of a stream. -/
theorem closesStream_stamp (session : Session) (requests : List Request) :
    closesStream (session.stamp requests) = closesStream requests := by
  have hrequest : ∀ index (request : Request),
      (request.withWatermark index).isClose = request.isClose := by
    intro index request
    cases request <;> rfl
  unfold closesStream stamp
  cases session.replicationIndex with
  | none => rfl
  | some index =>
    rw [List.getLast?_map, Option.any_map]
    congr 1
    funext request
    exact hrequest index request

end Session

end SqlStream
