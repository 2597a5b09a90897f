import SqlStream.Proofs.Channel.AnyOrder
import SqlStream.Proofs.Connection.ClosedForGood
import SqlStream.Proofs.Connection.SingleExchange

/-!
# Errors that are found before anything is sent

A call looks at what it is asked for before its first exchange, and an exchange finds nothing wrong
with it any more. So a call that fails because of its placeholders, its arguments or the number of
its statements puts nothing on the wire and leaves the connection as it was
(`local_errors_are_atomic`).
-/

namespace SqlStream

open SqlStream.Sql SqlStream.Wire

section

variable {τ : Type} [Transport τ] [FinalTransport τ]

namespace ConnectionCall

variable {connection : Connection τ} {notes : ConnectionNotes} {stream : τ} {error : Error}

/-- A call that finds something wrong with what it is asked for has not touched the stream. -/
theorem stream_of_asked (call : ConnectionCall)
    (hfailed : ((call.streamCall notes).runOn stream).1 = .error error)
    (hasked : error.origin = .asked) : ((call.streamCall notes).runOn stream).2 = stream := by
  by_cases hchunks : call.RunsInChunks notes.options
  · exact absurd hasked
      ((sameCall_of_runsInChunks (υ := τ) notes hchunks).origin_ne_asked_of_reply hfailed)
  · rcases asksOnce notes hchunks stream error hfailed with ⟨_, hstream⟩ | ⟨requests, _, horigin, _⟩
    · exact hstream
    · exact absurd (horigin.symm.trans hasked) (originBehind_ne_asked requests stream)

/-- The calls that are noted even if they fail ask for nothing that can be wrong. -/
theorem noted_of_asked (call : ConnectionCall)
    (hfailed : ((call.streamCall notes).runOn stream).1 = .error error)
    (hasked : error.origin = .asked) : call.noted false notes = notes := by
  have hreply : SameCall (· = .reply) (call.streamCall (τ := τ) notes)
        (call.streamCall (τ := τ) notes) →
      call.noted false notes = notes :=
    fun hsame => absurd hasked (hsame.origin_ne_asked_of_reply hfailed)
  cases call with
  | rollback => exact hreply ((sameCall_executePlain "ROLLBACK").map _)
  | storeSql sql => exact hreply (((SameCall.send _).withStatement sql).map _)
  | close => exact hreply .close
  | withOptions options => exact hreply (.configure options)
  | _ => rfl

/-- A call that finds something wrong with what it is asked for leaves the connection as it was. -/
theorem after_of_asked (call : ConnectionCall)
    (hfailed : (call.run.runOn connection).1 = .error error) (hasked : error.origin = .asked) :
    call.after connection = connection := by
  rw [runOn_run] at hfailed
  rw [after, runOn_run]
  simp only at hfailed ⊢
  rw [call.stream_of_asked hfailed hasked, hfailed]
  show (call.noted false connection.notes).on connection.stream = connection
  rw [call.noted_of_asked hfailed hasked]
  rfl

end ConnectionCall

end

/-- True of a connection on which a call that fails because of what is asked for puts nothing on the
wire and changes nothing: neither the session, nor what is noted beside it, nor the other end. -/
def Connection.FailsAtomically {τ Frame : Type} [Transport τ]
    (wire : ConnectionCall → Connection τ → List Frame) (connection : Connection τ) : Prop :=
  ∀ (call : ConnectionCall) (error : Error), (call.run.runOn connection).1 = .error error →
    error.root.FoundLocally → wire call connection = [] ∧ call.after connection = connection

/-- Over HTTP and on a channel and with whatever server, what the client finds by itself in what it
is asked for is found before anything is sent, and leaves everything as it was. -/
theorem local_errors_are_atomic :
    (∀ (σ : Type) [Http.Server σ] (connection : Connection (Http.Stream σ)),
      connection.FailsAtomically ConnectionCall.postings) ∧
    (∀ (σ : Type) [Channel.Peer σ] (connection : Connection (Channel.Stream σ)),
      connection.FailsAtomically ConnectionCall.messages) := by
  constructor
  · intro σ _ connection call error hfailed hlocal
    have hasked := Error.foundLocally_root_iff.mp hlocal
    refine ⟨?_, call.after_of_asked hfailed hasked⟩
    -- the same call on a server that notes what is posted leaves it with nothing noted
    rw [← call.result_notingServer connection []] at hfailed
    rw [ConnectionCall.postings, call.after_of_asked hfailed hasked]
    rfl
  · intro σ _ connection call error hfailed hlocal
    have hasked := Error.foundLocally_root_iff.mp hlocal
    refine ⟨?_, call.after_of_asked hfailed hasked⟩
    rw [← call.result_notingPeer connection []] at hfailed
    rw [ConnectionCall.messages, call.after_of_asked hfailed hasked]
    rfl

/-- A connection on a channel whose other end says nothing. -/
def unanswered : Connection (Channel.Stream Channel.Silent) where
  stream := { peer := {}, inbox := [], session := { state := .active none } }
  inTransaction := true

/-- A batch whose last statement has a value that is no number. -/
def batchWithNaN : ConnectionCall :=
  .batch [⟨"DELETE FROM t", .none, false⟩,
    ⟨"INSERT INTO t VALUES (?)", .positional [.float ⟨0x7FF8000000000000⟩], false⟩] true

theorem local_errors_are_atomic_of_unfilled :
    let select : ConnectionCall := .query "SELECT 1; SELECT ?" .none
    (select.run.runOn unreachable).1 =
        .error (.inStatement "SELECT 1; SELECT ?" (.missingParameters 1 0)) ∧
      select.postings unreachable = [] ∧ select.after unreachable = unreachable ∧
      (∃ fault, (batchWithNaN.run.runOn unanswered).1 = .error (.unsupportedValue fault)) ∧
      batchWithNaN.messages unanswered = [] ∧ batchWithNaN.after unanswered = unanswered := by
  intro select
  have hselect : (select.run.runOn unreachable).1 =
      .error (.inStatement "SELECT 1; SELECT ?" (.missingParameters 1 0)) := by
    decide +kernel
  have hbatch : ∃ fault, (batchWithNaN.run.runOn unanswered).1 = .error (.unsupportedValue fault) :=
    ⟨_, rfl⟩
  obtain ⟨hposted, hafter⟩ :=
    local_errors_are_atomic.1 Http.Prepared unreachable select _ hselect (.missingParameters 1 0)
  obtain ⟨fault, hfailed⟩ := hbatch
  obtain ⟨hsent, hleft⟩ :=
    local_errors_are_atomic.2 Channel.Silent unanswered batchWithNaN _ hfailed
      (.unsupportedValue fault)
  exact ⟨hselect, hposted, hafter, ⟨fault, hfailed⟩, hsent, hleft⟩

end SqlStream
