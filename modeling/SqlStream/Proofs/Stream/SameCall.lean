import SqlStream.Proofs.Origin
import SqlStream.Proofs.Stream.Invariants

/-!
# The same call on two transports

Calls are written once for all transports, so they can do no more to a stream than send on it, close
it and hand it options. `SameCall` says so of a call on two transports. It follows that calls do the
same on streams that cannot be told apart by these three (`SameCall.simulates`), that a call that
finds its stream unusable leaves it closed (`SameCall.fails`), and that on a closed stream a call
that tries an exchange fails because the stream is closed (`SameCall.refused_of_isClosed`).
-/

namespace SqlStream

open SqlStream.Wire

variable {τ υ : Type} [Transport τ] [Transport υ]

/-- The same call on two transports. What it finds wrong by itself has an origin of `P`; all else
that can go wrong comes from sending. -/
inductive SameCall (P : Error.Origin → Prop) : {α : Type} → Call τ α → Call υ α → Prop where
  | pure {α : Type} (a : α) : SameCall P (pure a) (pure a)
  | ofExcept {α : Type} {origin : Error.Origin} {result : Except Error α} :
      P origin → FailsAt origin result → SameCall P (Call.ofExcept result) (Call.ofExcept result)
  | send (requests : List Request) : SameCall P (Transport.send requests) (Transport.send requests)
  | close : SameCall P (modify Transport.close) (modify Transport.close)
  | configure (options : Options) :
      SameCall P (modify (Transport.configure options)) (modify (Transport.configure options))
  | bind {α β : Type} {first : Call τ α} {otherFirst : Call υ α} {next : α → Call τ β}
      {otherNext : α → Call υ β} :
      SameCall P first otherFirst → (∀ a, SameCall P (next a) (otherNext a)) →
      SameCall P (first >>= next) (otherFirst >>= otherNext)
  | withStatement {α : Type} {call : Call τ α} {other : Call υ α} (sql : String) :
      SameCall P call other →
      SameCall P (Call.withStatement sql call) (Call.withStatement sql other)
  | closingOnError {α : Type} {call : Call τ α} {other : Call υ α} :
      SameCall P call other → SameCall P (closingOnError call) (closingOnError other)

/-- Streams of two transports that stay related by what can be done to them, and give the same
answers. -/
structure Simulation (R : τ → υ → Prop) : Prop where
  send {stream : τ} {other : υ} (requests : List Request) : R stream other →
    ((Transport.send requests).runOn stream).1 = ((Transport.send requests).runOn other).1 ∧
      R ((Transport.send requests).runOn stream).2 ((Transport.send requests).runOn other).2
  close {stream : τ} {other : υ} :
    R stream other → R (Transport.close stream) (Transport.close other)
  configure {stream : τ} {other : υ} (options : Options) :
    R stream other → R (Transport.configure options stream) (Transport.configure options other)

namespace SameCall

variable {P : Error.Origin → Prop} {α β : Type} {call : Call τ α} {other : Call υ α}

theorem map (h : SameCall P call other) (f : α → β) : SameCall P (f <$> call) (f <$> other) := by
  rw [← bind_pure_comp, ← bind_pure_comp]
  exact h.bind fun a => .pure (f a)

theorem mono {Q : Error.Origin → Prop} (h : SameCall P call other)
    (hPQ : ∀ origin, P origin → Q origin) : SameCall Q call other := by
  induction h with
  | pure a => exact .pure a
  | ofExcept horigin hresult => exact .ofExcept (hPQ _ horigin) hresult
  | send requests => exact .send requests
  | close => exact .close
  | configure options => exact .configure options
  | bind _ _ ih ihnext => exact ih.bind ihnext
  | withStatement sql _ ih => exact ih.withStatement sql
  | closingOnError _ ih => exact ih.closingOnError

/-- On related streams the same call gives the same result, and it leaves them related. -/
theorem simulates {R : τ → υ → Prop} (hR : Simulation R) (h : SameCall P call other) {stream : τ}
    {image : υ} (hrelated : R stream image) :
    (call.runOn stream).1 = (other.runOn image).1 ∧
      R (call.runOn stream).2 (other.runOn image).2 := by
  induction h generalizing stream image with
  | pure a => exact ⟨rfl, hrelated⟩
  | ofExcept _ _ => exact ⟨rfl, hrelated⟩
  | send requests => exact hR.send requests hrelated
  | close => exact ⟨rfl, hR.close hrelated⟩
  | configure options => exact ⟨rfl, hR.configure options hrelated⟩
  | @bind _ _ first otherFirst _ _ _ _ ih ihnext =>
    have hfirst := ih hrelated
    rw [Call.runOn_bind, Call.runOn_bind]
    revert hfirst
    rcases first.runOn stream with ⟨result, after⟩
    rcases otherFirst.runOn image with ⟨imageResult, imageAfter⟩
    rintro ⟨rfl, hafter⟩
    cases result with
    | error error => exact ⟨rfl, hafter⟩
    | ok a => exact ihnext a hafter
  | withStatement sql _ ih =>
    obtain ⟨hresult, hafter⟩ := ih hrelated
    exact ⟨congrArg (Except.mapError (Error.withStatement sql)) hresult, hafter⟩
  | @closingOnError _ call other _ ih =>
    have hcall := ih hrelated
    rw [runOn_closingOnError, runOn_closingOnError]
    revert hcall
    rcases call.runOn stream with ⟨result, after⟩
    rcases other.runOn image with ⟨imageResult, imageAfter⟩
    rintro ⟨rfl, hafter⟩
    cases result with
    | error error => exact ⟨rfl, hR.close hafter⟩
    | ok a => exact ⟨rfl, hafter⟩

/-- What sending, closing and other options keep of a stream, a call on one transport keeps. -/
theorem keeps {I : τ → Prop} {call : Call τ α} (h : SameCall P call call) (hI : StreamInvariant I)
    (hconfigure : ∀ options stream, I stream → I (Transport.configure options stream)) :
    Call.Keeps I call := by
  have hR : Simulation fun left right : τ => left = right ∧ I left :=
    { send := by
        rintro left _ requests ⟨rfl, hleft⟩
        exact ⟨rfl, rfl, hI.send requests left hleft⟩
      close := by
        rintro left _ ⟨rfl, hleft⟩
        exact ⟨rfl, hI.close left hleft⟩
      configure := by
        rintro left _ options ⟨rfl, hleft⟩
        exact ⟨rfl, hconfigure options left hleft⟩ }
  exact fun stream hstream => (h.simulates hR ⟨rfl, hstream⟩).2.2

/-- What holds of the stream behind each failed exchange, and of any stream where the client finds
the error by itself, holds behind a call that fails. -/
theorem fails {F : Error.Origin → τ → Prop} (hown : ∀ origin, P origin → ∀ stream, F origin stream)
    (hsend : ∀ (requests : List Request) (stream : τ) (error : Error),
      ((Transport.send requests).runOn stream).1 = .error error →
      F error.origin ((Transport.send requests).runOn stream).2)
    (hclose : ∀ origin stream, F origin stream → F origin (Transport.close stream))
    (h : SameCall P call other) {stream : τ} {error : Error}
    (hfailed : (call.runOn stream).1 = .error error) : F error.origin (call.runOn stream).2 := by
  induction h generalizing stream error with
  | pure a => cases hfailed
  | ofExcept horigin hresult => exact hown _ (hresult _ hfailed ▸ horigin) _
  | send requests => exact hsend requests stream error hfailed
  | close => cases hfailed
  | configure options => cases hfailed
  | @bind _ _ first _ _ _ _ _ ih ihnext =>
    have hfirst := @ih stream
    rw [Call.runOn_bind] at hfailed ⊢
    cases hrun : first.runOn stream with
    | mk result after =>
      rw [hrun] at hfirst hfailed
      cases result with
      | error cause =>
        cases hfailed
        exact hfirst rfl
      | ok a => exact ihnext a hfailed
  | withStatement sql _ ih =>
    rw [Call.runOn_withStatement] at hfailed ⊢
    obtain ⟨cause, hcause, rfl⟩ := mapError_eq_error_iff.mp hfailed
    rw [Error.origin_withStatement]
    exact ih hcause
  | @closingOnError _ call _ _ ih =>
    have hcall := @ih stream
    rw [runOn_closingOnError] at hfailed ⊢
    cases hrun : call.runOn stream with
    | mk result after =>
      rw [hrun] at hcall hfailed
      cases result with
      | error cause => exact hclose _ _ (hcall hfailed)
      | ok a => cases hfailed

end SameCall

/-! ## Closed streams -/

/-- A transport that ends with its stream: what makes a stream unusable closes it, and to close it
once more or to hand it options does not change its state. Sending does not find what the client
finds before it. -/
class FinalTransport (τ : Type) [Transport τ] : Prop where
  isClosed_of_unusable {stream : τ} {requests : List Request} {error : Error}
    (hfailed : ((Transport.send requests).runOn stream).1 = .error error)
    (horigin : error.origin = .stream) :
    (Transport.session ((Transport.send requests).runOn stream).2).isClosed = true
  origin_ne_asked {stream : τ} {requests : List Request} {error : Error}
    (hfailed : ((Transport.send requests).runOn stream).1 = .error error) : error.origin ≠ .asked
  close_of_isClosed {stream : τ} (hclosed : (Transport.session stream).isClosed = true) :
    Transport.close stream = stream
  session_configure (options : Options) (stream : τ) :
    Transport.session (Transport.configure options stream) = Transport.session stream

instance [FinalTransport τ] : FinalTransport (Logged τ) where
  isClosed_of_unusable hfailed horigin :=
    FinalTransport.isClosed_of_unusable (τ := τ) hfailed horigin
  origin_ne_asked hfailed := FinalTransport.origin_ne_asked (τ := τ) hfailed
  close_of_isClosed {logged} hclosed := by
    show ({ logged with stream := Transport.close logged.stream } : Logged τ) = logged
    rw [FinalTransport.close_of_isClosed (τ := τ) hclosed]
  session_configure options logged := FinalTransport.session_configure options logged.stream

namespace Http

/-- A reply that holds no answers makes the stream unusable. -/
theorem readReply_failsWith (reply : HttpReply) : FailsWith Error.InStream (readReply reply) := by
  unfold readReply
  cases reply with
  | failed message => exact .error (.broken _)
  | timedOut message => exact .error (.broken _)
  | answered status body =>
    dsimp only
    split
    · split
      · exact .ok _
      · exact .error (.broken _)
    · exact .error (.broken _)

variable {σ : Type} [Server σ] {stream : Stream σ} {requests : List Request} {error : Error}

/-- Sending fails on a stream that is closed from then on, or because of what the reply says. -/
theorem Stream.send_fails (hfailed : ((send requests).runOn stream).1 = .error error) :
    (error.InStream ∧ ((send requests).runOn stream).2.session.isClosed = true) ∨
      error.InAnswers := by
  by_cases hclosed : stream.session.isClosed = true
  · rw [runOn_send_of_isClosed hclosed] at hfailed ⊢
    cases hfailed
    exact .inl ⟨.closed, hclosed⟩
  · rw [runOn_send_of_not_isClosed (by simpa using hclosed)] at hfailed ⊢
    simp only [settle] at hfailed ⊢
    split at hfailed
    · next cause hread =>
      cases hfailed
      rw [session_post]
      exact .inl ⟨readReply_failsWith _ _ hread, rfl⟩
    · exact .inr (checkResults_failsWith _ _ _ hfailed)

theorem Stream.close_of_isClosed (hclosed : stream.session.isClosed = true) :
    close stream = stream := by
  obtain ⟨server, authorization, ⟨baseUrl, state, watermark⟩, options⟩ := stream
  obtain rfl : state = .closed := Session.isClosed_eq_true_iff.mp hclosed
  rfl

instance : FinalTransport (Stream σ) where
  isClosed_of_unusable hfailed horigin := by
    rcases Stream.send_fails hfailed with ⟨_, hclosed⟩ | hanswers
    · exact hclosed
    · cases hanswers.origin_eq.symm.trans horigin
  origin_ne_asked hfailed := by
    rcases Stream.send_fails hfailed with ⟨hstream, _⟩ | hanswers
    · simp [hstream.origin_eq]
    · simp [hanswers.origin_eq]
  close_of_isClosed := Stream.close_of_isClosed
  session_configure _ _ := rfl

end Http

namespace Channel

theorem takeFrame_failsWith (slots : Slots) (text : String) :
    FailsWith Error.InStream (takeFrame slots text) := by
  have hread : FailsWith Error.InStream (readFrame text) := by
    unfold readFrame
    split
    · exact .ok _
    · exact .error (.broken _)
  have hanswer : ∀ requestId result, FailsWith Error.InStream (takeAnswer slots requestId result) := by
    intro requestId result
    unfold takeAnswer
    split
    · exact .ok _
    · exact .error (.broken _)
  refine hread.bind fun message => ?_
  cases message with
  | responseOk requestId response => exact hanswer _ _
  | responseError requestId error => exact hanswer _ _
  | _ => exact .error (.broken _)

/-- Answers that do not come, or something else in their place, make the stream unusable. -/
theorem awaitAnswers_failsWith (slots : Slots) (inbox : List Incoming) :
    FailsWith Error.InStream (awaitAnswers slots inbox).1 := by
  fun_induction awaitAnswers slots inbox with
  | case1 => exact .ok _
  | case2 => exact .error (.broken _)
  | case3 => exact .error (.broken _)
  | case4 _ _ _ _ _ _ ih => exact ih
  | case5 _ _ text _ error herror =>
    exact .error (takeFrame_failsWith _ text error herror)

variable {σ : Type} [Peer σ] {stream : Stream σ} {requests : List Request} {error : Error}

namespace Stream

/-- A frame that the peer does not take makes the stream unusable. -/
theorem sendAll_failsWith (requests : List Request) (stream : Stream σ) :
    FailsWith Error.InStream ((sendAll requests).runOn stream).1 := by
  induction requests generalizing stream with
  | nil => exact .ok []
  | cons request requests ih =>
    have hfirst : FailsWith Error.InStream ((sendRequest (.ofRequest request)).runOn stream).1 := by
      rw [runOn_sendRequest]
      simp only
      cases (deliver (.request stream.nextRequestId (.ofRequest request))
        { stream with nextRequestId := stream.nextRequestId + 1 }).1 with
      | accepted => exact .ok _
      | refused message => exact .error (.broken _)
    rw [sendAll_cons]
    exact .runOn_bind hfirst fun requestId next => by
      simp only [bind_pure_comp, Call.runOn_map]
      exact (ih next).map _

theorem carry_failsWith (requests : List Request) (stream : Stream σ) :
    FailsWith Error.InStream ((carry requests).runOn stream).1 := by
  unfold carry
  exact .runOn_bind (sendAll_failsWith requests stream) fun requestIds next =>
    awaitAnswers_failsWith _ _

/-- Sending fails on a stream that is closed from then on, or because of what the answers say. -/
theorem send_fails (hfailed : ((send requests).runOn stream).1 = .error error) :
    (error.InStream ∧ ((send requests).runOn stream).2.session.isClosed = true) ∨
      error.InAnswers := by
  by_cases hclosed : stream.session.isClosed = true
  · rw [runOn_send_of_isClosed hclosed] at hfailed ⊢
    cases hfailed
    exact .inl ⟨.closed, hclosed⟩
  · rw [runOn_send_of_not_isClosed (by simpa using hclosed)] at hfailed ⊢
    simp only [settle] at hfailed ⊢
    split at hfailed
    · next cause hcarry =>
      cases hfailed
      rw [session_carry]
      exact .inl ⟨carry_failsWith _ _ _ hcarry, rfl⟩
    · exact .inr (checkResults_failsWith _ _ _ hfailed)

end Stream

instance : FinalTransport (Stream σ) where
  isClosed_of_unusable hfailed horigin := by
    rcases Stream.send_fails hfailed with ⟨_, hclosed⟩ | hanswers
    · exact hclosed
    · cases hanswers.origin_eq.symm.trans horigin
  origin_ne_asked hfailed := by
    rcases Stream.send_fails hfailed with ⟨hstream, _⟩ | hanswers
    · simp [hstream.origin_eq]
    · simp [hanswers.origin_eq]
  close_of_isClosed hclosed := if_pos hclosed
  session_configure _ _ := rfl

end Channel

namespace SameCall

variable {P : Error.Origin → Prop} {α : Type} {call : Call τ α} {other : Call υ α}

/-- A stream that a call finds unusable is closed behind it. -/
theorem isClosed_of_unusable [FinalTransport τ] [LawfulTransport τ]
    (hP : ∀ origin, P origin → origin ≠ .stream) (h : SameCall P call other) {stream : τ}
    {error : Error} (hfailed : (call.runOn stream).1 = .error error)
    (horigin : error.origin = .stream) :
    (Transport.session (call.runOn stream).2).isClosed = true :=
  h.fails (F := fun origin stream =>
      origin = .stream → (Transport.session stream).isClosed = true)
    (fun origin hown _ hstream => absurd hstream (hP origin hown))
    (fun _ _ _ hsent hstream => FinalTransport.isClosed_of_unusable hsent hstream)
    (fun _ stream _ _ => LawfulTransport.isClosed_close stream) hfailed horigin

/-- A call that does not look at what the caller asks for finds nothing wrong with it. -/
theorem origin_ne_asked [FinalTransport τ] (hP : ∀ origin, P origin → origin ≠ .asked)
    (h : SameCall P call other) {stream : τ} {error : Error}
    (hfailed : (call.runOn stream).1 = .error error) : error.origin ≠ .asked :=
  h.fails (F := fun origin _ => origin ≠ .asked) (fun origin hown _ => hP origin hown)
    (fun _ _ _ hsent => FinalTransport.origin_ne_asked hsent) (fun _ _ hne => hne) hfailed

/-- A call that looks at replies only finds nothing wrong with what is asked for. -/
theorem origin_ne_asked_of_reply [FinalTransport τ] (h : SameCall (· = .reply) call other)
    {stream : τ} {error : Error} (hfailed : (call.runOn stream).1 = .error error) :
    error.origin ≠ .asked :=
  h.origin_ne_asked (fun origin hreply => by simp [hreply]) hfailed

variable [FinalTransport τ] [SealedTransport τ]

/-- A stream that is closed stays as it is, but for options. -/
theorem session_of_isClosed (h : SameCall P call call) {stream : τ}
    (hclosed : (Transport.session stream).isClosed = true) :
    Transport.session (call.runOn stream).2 = Transport.session stream := by
  have hI : StreamInvariant fun other : τ => Transport.session other = Transport.session stream :=
    { send requests other hsame := by rwa [SealedTransport.send_of_isClosed (hsame ▸ hclosed)]
      close other hsame := by rwa [FinalTransport.close_of_isClosed (hsame ▸ hclosed)] }
  exact h.keeps hI (fun options other => (FinalTransport.session_configure options other).trans)
    stream rfl

/-- On a closed stream a call that tries an exchange fails because the stream is closed. -/
theorem refused_of_isClosed {logged : Call (Logged τ) α} (h : SameCall P call logged) {stream : τ}
    (hclosed : (Transport.session stream).isClosed = true) (log : List Exchange) :
    ∃ new, logged.runOn ⟨stream, log⟩ =
        ((call.runOn stream).1, ⟨(call.runOn stream).2, log ++ new⟩) ∧
      (Transport.session (call.runOn stream).2).isClosed = true ∧
      (new ≠ [] → ∃ error, (call.runOn stream).1 = .error error ∧ error.root = .streamClosed) := by
  induction h generalizing stream log with
  | pure a => exact ⟨[], by simp, hclosed, nofun⟩
  | ofExcept _ _ => exact ⟨[], by simp, hclosed, nofun⟩
  | send requests =>
    refine ⟨_, rfl, ?_⟩
    rw [SealedTransport.send_of_isClosed hclosed]
    exact ⟨hclosed, fun _ => ⟨_, rfl, rfl⟩⟩
  | close =>
    refine ⟨[], by simp; rfl, ?_, nofun⟩
    show (Transport.session (Transport.close stream)).isClosed = true
    rwa [FinalTransport.close_of_isClosed hclosed]
  | configure options =>
    refine ⟨[], by simp; rfl, ?_, nofun⟩
    show (Transport.session (Transport.configure options stream)).isClosed = true
    rwa [FinalTransport.session_configure]
  | @bind _ _ first loggedFirst _ _ _ _ ih ihnext =>
    obtain ⟨new, hrun, hafter, hrefused⟩ := ih hclosed log
    cases hfirst : first.runOn stream with
    | mk result after =>
      rw [hfirst] at hrun hafter hrefused
      cases result with
      | error cause =>
        rw [Call.runOn_bind_error hfirst, Call.runOn_bind_error hrun]
        refine ⟨new, rfl, hafter, fun hnew => ?_⟩
        obtain ⟨_, hcause, hroot⟩ := hrefused hnew
        cases hcause
        exact ⟨cause, rfl, hroot⟩
      | ok a =>
        -- a call that succeeds has tried no exchange
        obtain rfl : new = [] := Classical.byContradiction fun hnew => by
          obtain ⟨_, hcause, _⟩ := hrefused hnew
          cases hcause
        rw [Call.runOn_bind_ok hfirst, Call.runOn_bind_ok hrun, List.append_nil]
        exact ihnext a hafter log
  | @withStatement _ call _ sql _ ih =>
    obtain ⟨new, hrun, hafter, hrefused⟩ := ih hclosed log
    rw [Call.runOn_withStatement, Call.runOn_withStatement, hrun]
    refine ⟨new, rfl, hafter, fun hnew => ?_⟩
    obtain ⟨cause, hcause, hroot⟩ := hrefused hnew
    rw [hcause]
    exact ⟨cause.withStatement sql, rfl, (cause.root_withStatement sql).trans hroot⟩
  | @closingOnError _ call _ _ ih =>
    obtain ⟨new, hrun, hafter, hrefused⟩ := ih hclosed log
    rw [runOn_closingOnError, runOn_closingOnError, hrun]
    cases hcall : call.runOn stream with
    | mk result after =>
      rw [hcall] at hafter hrefused
      cases result with
      | error cause =>
        refine ⟨new, rfl, ?_, hrefused⟩
        show (Transport.session (Transport.close after)).isClosed = true
        rwa [FinalTransport.close_of_isClosed hafter]
      | ok a => exact ⟨new, rfl, hafter, hrefused⟩

end SameCall

end SqlStream
