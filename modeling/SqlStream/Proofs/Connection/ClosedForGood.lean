import SqlStream.Proofs.Connection.Runs

/-!
# Closed connections

A call that finds its stream unusable leaves it closed, and a stream that is closed is closed for
good: no further call changes its session, puts anything on the wire, or tries an exchange without
failing because the stream is closed. This holds of all that a caller can do, over HTTP and on a
channel.
-/

namespace SqlStream

open SqlStream.Wire

variable {τ υ : Type} [Transport τ] [Transport υ]

/-! ## One call -/

section

variable [FinalTransport τ] {connection : Connection τ}

/-- A call that finds its stream unusable leaves it closed. -/
theorem ConnectionCall.isClosed_of_isBadConnection [LawfulTransport τ] (call : ConnectionCall)
    {error : Error} (hfailed : (call.run.runOn connection).1 = .error error)
    (hbad : error.isBadConnection = true) : (call.after connection).session.isClosed = true := by
  rw [runOn_run] at hfailed
  rw [after, runOn_run]
  exact (call.sameCall (υ := τ) connection.notes).isClosed_of_unusable (fun _ => id) hfailed
    (Error.isBadConnection_eq_true_iff.mp hbad)

variable [SealedTransport τ]

/-- A call on a closed stream leaves its session as it is. -/
theorem ConnectionCall.session_after (call : ConnectionCall)
    (hclosed : connection.session.isClosed = true) :
    (call.after connection).session = connection.session := by
  rw [after, runOn_run]
  exact (call.sameCall connection.notes).session_of_isClosed hclosed

/-- A call on a closed stream that tries an exchange fails because the stream is closed. -/
theorem ConnectionCall.refused_of_exchanges (call : ConnectionCall)
    (hclosed : connection.session.isClosed = true) (hexchanges : call.exchanges connection ≠ []) :
    ∃ error, (call.run.runOn connection).1 = .error error ∧ error.root = .streamClosed := by
  obtain ⟨new, hlogged, _, hrefused⟩ :=
    (call.sameCall (υ := Logged τ) connection.notes).refused_of_isClosed hclosed []
  rw [exchanges, after, runOn_run] at hexchanges
  rw [runOn_run]
  refine hrefused fun hnone => hexchanges ?_
  show ((call.streamCall (τ := Logged τ) connection.notes).runOn ⟨connection.stream, []⟩).2.log = []
  rw [hlogged, hnone, List.append_nil]

/-! ## Several calls -/

/-- The session of a closed stream stays as it is whatever is called. -/
theorem Connection.session_afterCalls (calls : List ConnectionCall)
    (hclosed : connection.session.isClosed = true) :
    (connection.afterCalls calls).session = connection.session := by
  induction calls generalizing connection with
  | nil => rfl
  | cons call calls ih =>
    have hafter := call.session_after hclosed
    exact (ih (hafter ▸ hclosed)).trans hafter

end

/-! ## The wire -/

/-- The connection with the image of its stream. -/
def Connection.mapStream (f : τ → υ) (connection : Connection τ) : Connection υ :=
  connection.notes.on (f connection.stream)

/-- On a closed stream and on an image of it that has the same session calls do the same, and what
they leave are again a closed stream and its image. -/
theorem simulation_of_isClosed [FinalTransport τ] [SealedTransport τ] [FinalTransport υ]
    [SealedTransport υ] {f : τ → υ}
    (hsession : ∀ stream, Transport.session (f stream) = Transport.session stream)
    (hconfigure : ∀ options stream,
      Transport.configure options (f stream) = f (Transport.configure options stream)) :
    Simulation fun stream image =>
      (Transport.session stream).isClosed = true ∧ image = f stream where
  send := by
    rintro stream _ requests ⟨hclosed, rfl⟩
    rw [SealedTransport.send_of_isClosed hclosed,
      SealedTransport.send_of_isClosed ((hsession stream).symm ▸ hclosed)]
    exact ⟨rfl, hclosed, rfl⟩
  close := by
    rintro stream _ ⟨hclosed, rfl⟩
    rw [FinalTransport.close_of_isClosed hclosed,
      FinalTransport.close_of_isClosed ((hsession stream).symm ▸ hclosed)]
    exact ⟨hclosed, rfl⟩
  configure := by
    rintro stream _ options ⟨hclosed, rfl⟩
    exact ⟨(FinalTransport.session_configure options stream).symm ▸ hclosed, hconfigure _ _⟩

theorem ConnectionCall.after_mapStream [FinalTransport τ] [SealedTransport τ] [FinalTransport υ]
    [SealedTransport υ] {f : τ → υ}
    (hsession : ∀ stream, Transport.session (f stream) = Transport.session stream)
    (hconfigure : ∀ options stream,
      Transport.configure options (f stream) = f (Transport.configure options stream))
    (call : ConnectionCall) {connection : Connection τ}
    (hclosed : connection.session.isClosed = true) :
    call.after (connection.mapStream f) = (call.after connection).mapStream f := by
  obtain ⟨hresult, _, hafter⟩ := (call.sameCall (υ := υ) connection.notes).simulates
    (simulation_of_isClosed hsession hconfigure) ⟨hclosed, rfl⟩
  rw [after, after, runOn_run, runOn_run]
  simp only [Connection.mapStream, ConnectionNotes.stream_on, ConnectionNotes.notes_on, hafter,
    hresult]

/-- A stream and the same one with a server that notes what is posted to it. -/
theorem Http.simulation_noting {σ : Type} [Server σ] :
    Simulation fun (stream : Stream σ) image => ∃ postings, image = stream.noting postings where
  send := by
    rintro stream _ requests ⟨postings, rfl⟩
    have hnoting := Stream.runOn_noting (.send requests) stream postings
    exact ⟨(congrArg Prod.fst hnoting).symm, _, congrArg Prod.snd hnoting⟩
  close := by
    rintro stream _ ⟨postings, rfl⟩
    exact ⟨_, congrArg Prod.snd (Stream.runOn_noting .close stream postings)⟩
  configure := by
    rintro stream _ options ⟨postings, rfl⟩
    exact ⟨postings, rfl⟩

/-- A stream and the same one with a peer that notes what it is handed. -/
theorem Channel.simulation_noting {σ : Type} [Peer σ] :
    Simulation fun (stream : Stream σ) image => ∃ messages, image = stream.noting messages where
  send := by
    rintro stream _ requests ⟨messages, rfl⟩
    obtain ⟨_, _, hnoting⟩ := Stream.runOn_noting (.send requests) stream messages
    exact ⟨(congrArg Prod.fst hnoting).symm, _, congrArg Prod.snd hnoting⟩
  close := by
    rintro stream _ ⟨messages, rfl⟩
    obtain ⟨_, _, hnoting⟩ := Stream.runOn_noting .close stream messages
    exact ⟨_, congrArg Prod.snd hnoting⟩
  configure := by
    rintro stream _ options ⟨messages, rfl⟩
    exact ⟨messages, rfl⟩

namespace ConnectionCall

section

variable {σ : Type} [Http.Server σ]

/-- What a call posts to a server of HTTP: what a server notes that answers like it. -/
def postings (call : ConnectionCall) (connection : Connection (Http.Stream σ)) :
    List Http.Posting :=
  (call.after (connection.mapStream (Http.Stream.noting · []))).stream.server.postings

/-- With a noting server a call gives what it gives with the server itself. -/
theorem result_notingServer (call : ConnectionCall) (connection : Connection (Http.Stream σ))
    (postings : List Http.Posting) :
    (call.run.runOn (connection.mapStream (Http.Stream.noting · postings))).1 =
      (call.run.runOn connection).1 := by
  rw [runOn_run, runOn_run]
  exact ((call.sameCall connection.notes).simulates Http.simulation_noting ⟨postings, rfl⟩).1.symm

theorem postings_of_isClosed (call : ConnectionCall) {connection : Connection (Http.Stream σ)}
    (hclosed : connection.session.isClosed = true) : call.postings connection = [] := by
  have hafter := call.after_mapStream (f := (Http.Stream.noting · []))
    (fun _ => rfl) (fun _ _ => rfl) hclosed
  rw [postings, hafter]
  rfl

end

section

variable {σ : Type} [Channel.Peer σ]

/-- What a call hands to the peer of a channel: what a peer notes that answers like it. -/
def messages (call : ConnectionCall) (connection : Connection (Channel.Stream σ)) :
    List Channel.ClientMessage :=
  (call.after (connection.mapStream (Channel.Stream.noting · []))).stream.peer.messages

/-- With a noting peer a call gives what it gives with the peer itself. -/
theorem result_notingPeer (call : ConnectionCall) (connection : Connection (Channel.Stream σ))
    (messages : List Channel.ClientMessage) :
    (call.run.runOn (connection.mapStream (Channel.Stream.noting · messages))).1 =
      (call.run.runOn connection).1 := by
  rw [runOn_run, runOn_run]
  exact ((call.sameCall connection.notes).simulates Channel.simulation_noting
    ⟨messages, rfl⟩).1.symm

theorem messages_of_isClosed (call : ConnectionCall) {connection : Connection (Channel.Stream σ)}
    (hclosed : connection.session.isClosed = true) : call.messages connection = [] := by
  have hafter := call.after_mapStream (f := (Channel.Stream.noting · []))
    (fun _ => rfl) (fun _ _ => rfl) hclosed
  rw [messages, hafter]
  rfl

end

end ConnectionCall

/-! ## All runs -/

/-- True of a connection on which, whatever is called, a stream found unusable is closed, and a
closed one is closed for good. What a call puts on the wire is given by `wire`. -/
structure Connection.ClosesForGood {Frame : Type} (wire : ConnectionCall → Connection τ → List Frame)
    (connection : Connection τ) : Prop where
  /-- A call whose error says that the connection is bad leaves the stream closed. -/
  isClosed_of_bad : ∀ (calls : List ConnectionCall) (call : ConnectionCall) (error : Error),
    (call.run.runOn (connection.afterCalls calls)).1 = .error error →
    error.isBadConnection = true → (connection.afterCalls (calls ++ [call])).session.isClosed = true
  /-- Base URL, watermark and state of a closed stream do not change. -/
  session_eq : ∀ calls later : List ConnectionCall,
    (connection.afterCalls calls).session.isClosed = true →
    (connection.afterCalls (calls ++ later)).session = (connection.afterCalls calls).session
  /-- On a closed stream nothing is put on the wire. -/
  silent : ∀ (calls later : List ConnectionCall) (call : ConnectionCall),
    (connection.afterCalls calls).session.isClosed = true →
    wire call (connection.afterCalls (calls ++ later)) = []
  /-- On a closed stream a call that tries an exchange fails because the stream is closed. -/
  refused : ∀ (calls later : List ConnectionCall) (call : ConnectionCall),
    (connection.afterCalls calls).session.isClosed = true →
    call.exchanges (connection.afterCalls (calls ++ later)) ≠ [] →
    ∃ error, (call.run.runOn (connection.afterCalls (calls ++ later))).1 = .error error ∧
      error.root = .streamClosed

theorem Connection.closesForGood [LawfulTransport τ] [SealedTransport τ] [FinalTransport τ]
    {Frame : Type} {wire : ConnectionCall → Connection τ → List Frame}
    (hwire : ∀ call connection, connection.session.isClosed = true → wire call connection = [])
    (connection : Connection τ) : connection.ClosesForGood wire where
  isClosed_of_bad calls call error hfailed hbad := by
    rw [afterCalls_append]
    exact call.isClosed_of_isBadConnection hfailed hbad
  session_eq calls later hclosed := by
    rw [afterCalls_append, session_afterCalls later hclosed]
  silent calls later call hclosed := by
    rw [afterCalls_append]
    exact hwire call _ (session_afterCalls later hclosed ▸ hclosed)
  refused calls later call hclosed hexchanges := by
    rw [afterCalls_append] at hexchanges ⊢
    exact call.refused_of_exchanges (session_afterCalls later hclosed ▸ hclosed) hexchanges

/-- Whatever is called on a connection, over HTTP or on a channel and with whatever server, a stream
that is found unusable is closed, and a closed one is closed for good. -/
theorem connections_close_for_good :
    (∀ (σ : Type) [Http.Server σ] (connection : Connection (Http.Stream σ)),
      connection.ClosesForGood ConnectionCall.postings) ∧
    (∀ (σ : Type) [Channel.Peer σ] (connection : Connection (Channel.Stream σ)),
      connection.ClosesForGood ConnectionCall.messages) :=
  ⟨fun _ _ connection =>
      connection.closesForGood fun call _ hclosed => call.postings_of_isClosed hclosed,
    fun _ _ connection =>
      connection.closesForGood fun call _ hclosed => call.messages_of_isClosed hclosed⟩

/-- A connection whose server cannot be reached. -/
def unreachable : Connection (Http.Stream Http.Prepared) where
  stream := .new ⟨[]⟩ "http://localhost" ""

/-- The error that a call on a connection fails with. -/
def ConnectionCall.error? (call : ConnectionCall) (connection : Connection τ) : Option Error :=
  match (call.run.runOn connection).1 with
  | .ok _ => none
  | .error error => some error

theorem connections_close_for_good_of_unreachable :
    let select : ConnectionCall := .query "a" .none
    let reached := unreachable.afterCalls [select]
    (select.error? unreachable).any Error.isBadConnection = true ∧
      reached.session.isClosed = true ∧
      (unreachable.afterCalls [select, .rollback]).session = reached.session ∧
      select.postings (unreachable.afterCalls [select, .rollback]) = [] ∧
      select.exchanges (unreachable.afterCalls [select, .rollback]) ≠ [] ∧
      ∃ error, (select.run.runOn (unreachable.afterCalls [select, .rollback])).1 = .error error ∧
        error.root = .streamClosed := by
  intro select reached
  have hfinal := connections_close_for_good.1 Http.Prepared unreachable
  have hbad : (select.error? unreachable).any Error.isBadConnection = true := by decide +kernel
  have hclosed : reached.session.isClosed = true := by
    cases hrun : (select.run.runOn unreachable).1 with
    | ok a =>
      rw [ConnectionCall.error?, hrun] at hbad
      cases hbad
    | error error =>
      rw [ConnectionCall.error?, hrun] at hbad
      exact hfinal.isClosed_of_bad [] select error hrun hbad
  have hexchanges : select.exchanges (unreachable.afterCalls [select, .rollback]) ≠ [] := by
    have hlength : (select.exchanges (unreachable.afterCalls [select, .rollback])).length = 1 := by
      decide +kernel
    intro hnone
    rw [hnone] at hlength
    cases hlength
  exact ⟨hbad, hclosed, hfinal.session_eq [select] [.rollback] hclosed,
    hfinal.silent [select] [.rollback] select hclosed, hexchanges,
    hfinal.refused [select] [.rollback] select hclosed hexchanges⟩

end SqlStream
