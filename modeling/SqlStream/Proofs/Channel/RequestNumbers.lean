import Mathlib.Data.List.Nodup
import SqlStream.Proofs.Stream.Invariants

/-!
# Numbers of requests on a channel

A stream numbers the requests that it hands to the peer one after another, and begins anew only when
all numbers are used up. So the numbers of one exchange are distinct, and so are those of a whole
run, from the opening of the stream to its end, as long as they are no more than there are numbers.
-/

namespace SqlStream.Channel

open SqlStream.Wire

/-! ## Distinct numbers -/

/-- As many numbers as a run has requests, one after another. -/
def numbersFrom (first : Int32) (count : Nat) : List Int32 :=
  (List.range count).map fun offset => first + Int32.ofNat offset

/-- The first number is followed by those from the next one on. -/
theorem numbersFrom_succ (first : Int32) (count : Nat) :
    numbersFrom first (count + 1) = first :: numbersFrom (first + 1) count := by
  have hoffset : ∀ offset, first + Int32.ofNat (offset + 1) = first + 1 + Int32.ofNat offset := by
    intro offset
    rw [Int32.ofNat_add, Int32.add_comm (Int32.ofNat offset), Int32.add_assoc]
    rfl
  rw [numbersFrom, List.range_succ_eq_map, List.map_cons, List.map_map]
  refine congrArg₂ List.cons (Int32.add_zero first) (List.map_congr_left fun offset _ => ?_)
  exact hoffset offset

/-- One more number stands behind the others. -/
theorem numbersFrom_concat (first : Int32) (count : Nat) :
    numbersFrom first (count + 1) = numbersFrom first count ++ [first + Int32.ofNat count] := by
  rw [numbersFrom, List.range_succ, List.map_append]
  rfl

/-- Offsets below the number of numbers lead to distinct numbers. -/
theorem int32_ofNat_injOn {i j : Nat} (hi : i < Int32.size) (hj : j < Int32.size)
    (h : Int32.ofNat i = Int32.ofNat j) : i = j := by
  have hbits : BitVec.ofNat 32 i = BitVec.ofNat 32 j := congrArg Int32.toBitVec h
  have hnat := congrArg BitVec.toNat hbits
  rwa [BitVec.toNat_ofNat, BitVec.toNat_ofNat, Nat.mod_eq_of_lt hi, Nat.mod_eq_of_lt hj] at hnat

/-- Numbers do not repeat before all are used up. -/
theorem nodup_numbersFrom (first : Int32) {count : Nat} (hcount : count ≤ Int32.size) :
    (numbersFrom first count).Nodup := by
  refine List.Nodup.map_on (fun i hi j hj heq => ?_) List.nodup_range
  rw [List.mem_range] at hi hj
  exact int32_ofNat_injOn (Nat.lt_of_lt_of_le hi hcount) (Nat.lt_of_lt_of_le hj hcount)
    ((Int32.add_right_inj first).mp heq)

/-! ## Numbers on the wire -/

/-- The number of the request that a message holds. -/
def ClientMessage.requestId? : ClientMessage → Option Int32
  | hello _ => none
  | request requestId _ => some requestId

/-- The numbers of the requests that messages hold. -/
def requestIdsOf (messages : List ClientMessage) : List Int32 :=
  messages.filterMap ClientMessage.requestId?

namespace Stream

variable {σ : Type} [Peer σ]

/-- The numbers of an exchange are one after another. -/
theorem requestIds_of_sendAll {requests : List Request} {stream handed : Stream σ}
    {requestIds : List Int32} (hsent : (sendAll requests).runOn stream = (.ok requestIds, handed)) :
    requestIds = numbersFrom stream.nextRequestId requests.length := by
  induction requests generalizing stream requestIds with
  | nil =>
    cases hsent
    rfl
  | cons request requests ih =>
    rw [sendAll_cons] at hsent
    cases hfirst : (sendRequest (.ofRequest request)).runOn stream with
    | mk result next =>
      cases result with
      | error error =>
        rw [Call.runOn_bind_error hfirst] at hsent
        cases hsent
      | ok requestId =>
        rw [Call.runOn_bind_ok hfirst, bind_pure_comp] at hsent
        obtain ⟨rest, hrest, rfl⟩ := Call.runOn_map_eq_ok.mp hsent
        rw [runOn_sendRequest] at hfirst
        obtain ⟨hid, rfl⟩ := Prod.mk.inj hfirst
        have hidEq : requestId = stream.nextRequestId := by
          revert hid
          cases (deliver (.request stream.nextRequestId (.ofRequest request))
            { stream with nextRequestId := stream.nextRequestId + 1 }).1 with
          | accepted => exact fun hid => (Except.ok.inj hid).symm
          | refused message => exact fun hid => by cases hid
        rw [List.length_cons, numbersFrom_succ, hidEq, ih hrest]
        rfl

/-- True of a stream that has handed requests to its peer with the numbers from zero on, and goes on
with the next. -/
def Numbered (stream : Stream (Noting σ)) : Prop :=
  ∃ count, requestIdsOf stream.peer.messages = numbersFrom 0 count ∧
    stream.nextRequestId = Int32.ofNat count

variable {stream : Stream (Noting σ)}

/-- To hand over a request under the next number takes that number up. -/
theorem Numbered.deliver_request (h : stream.Numbered) (request : ChannelRequest) :
    (deliver (.request stream.nextRequestId request)
      { stream with nextRequestId := stream.nextRequestId + 1 }).2.Numbered := by
  obtain ⟨count, hids, hnext⟩ := h
  refine ⟨count + 1, ?_, ?_⟩
  · show requestIdsOf (stream.peer.messages ++ [.request stream.nextRequestId request]) = _
    rw [numbersFrom_concat, ← hids, hnext, Int32.zero_add, requestIdsOf, List.filterMap_append]
    rfl
  · show stream.nextRequestId + 1 = Int32.ofNat (count + 1)
    rw [hnext, Int32.ofNat_add]
    rfl

/-- Sending a request keeps requests numbered in order. -/
theorem keeps_sendRequest (request : ChannelRequest) :
    Call.Keeps Numbered (sendRequest (σ := Noting σ) request) := by
  intro stream h
  rw [runOn_sendRequest]
  exact h.deliver_request request

/-- Sending requests keeps them numbered in order. -/
theorem keeps_sendAll (requests : List Request) :
    Call.Keeps Numbered (sendAll (σ := Noting σ) requests) := by
  induction requests with
  | nil => exact .pure []
  | cons request requests ih =>
    rw [sendAll_cons]
    exact (keeps_sendRequest _).bind fun requestId => ih.bind fun requestIds => .pure _

/-- Sending and closing take numbers up in turn. -/
theorem streamInvariant_numbered : StreamInvariant (Numbered (σ := σ)) where
  send requests stream h := by
    show ((send requests).runOn stream).2.Numbered
    by_cases hclosed : stream.session.isClosed = true
    · rwa [runOn_send_of_isClosed hclosed]
    · rw [runOn_send_of_not_isClosed (by simpa using hclosed)]
      -- only to hand the requests over changes what is numbered
      have hsent := keeps_sendAll (stream.session.stamp requests) stream.underWay h
      have hcarried : ((carry (stream.session.stamp requests)).runOn stream.underWay).2.Numbered := by
        unfold carry
        rw [Call.runOn_bind]
        cases hall : (sendAll (stream.session.stamp requests)).runOn stream.underWay with
        | mk result handed =>
          rw [hall] at hsent
          cases result <;> exact hsent
      simp only [settle]
      split <;> exact hcarried
  close stream h := by
    show (close stream).Numbered
    unfold close
    split
    · exact h
    · have hclosed : Numbered { stream with session := stream.session.close.2 } := h
      exact hclosed.deliver_request .closeStream

omit [Peer σ] in
/-- To wait for a frame takes no number. -/
theorem keeps_receive : Call.Keeps Numbered (receive (σ := Noting σ)) := by
  intro stream h
  unfold receive
  rw [Call.runOn_get_bind]
  split <;> exact h

/-- To open a stream takes the first number. -/
theorem keeps_connect (jwt : Option String) : Call.Keeps Numbered (connect (σ := Noting σ) jwt) := by
  have hhello : Call.Keeps Numbered (sendFrame (σ := Noting σ) (.hello jwt)) := by
    rintro stream ⟨count, hids, hnext⟩
    have hnoted : (deliver (.hello jwt) stream).2.Numbered := by
      refine ⟨count, ?_, hnext⟩
      show requestIdsOf (stream.peer.messages ++ [.hello jwt]) = _
      rw [← hids, requestIdsOf, List.filterMap_append]
      exact List.append_nil _
    unfold sendFrame
    rw [Call.runOn_get_bind]
    simp only [Call.runOn_bind, Call.runOn_set]
    cases (deliver (.hello jwt) stream).1 <;> exact hnoted
  refine hhello.bind fun _ => (keeps_sendRequest _).bind fun requestId => ?_
  refine keeps_receive.bind fun greeting => (Call.Keeps.ofExcept _).bind fun _ => ?_
  refine keeps_receive.bind fun answer => (Call.Keeps.ofExcept _).bind fun _ => ?_
  exact fun stream h => h

/-- The messages that a run hands to the peer, from the opening of the stream on. -/
def messagesOfRun (peer : σ) (inbox : List Incoming) (jwt : Option String)
    (calls : List StreamCall) : List ClientMessage :=
  let begun : Stream (Noting σ) := { peer := ⟨peer, []⟩, inbox }
  (streamAfter calls ((connect jwt).runOn begun).2).peer.messages

/-- A run hands over requests with the numbers from zero on, one after another. -/
theorem requestIdsOf_messagesOfRun (peer : σ) (inbox : List Incoming) (jwt : Option String)
    (calls : List StreamCall) :
    ∃ count, requestIdsOf (messagesOfRun peer inbox jwt calls) = numbersFrom 0 count := by
  obtain ⟨count, hids, _⟩ := streamInvariant_numbered.streamAfter calls
    (keeps_connect jwt { peer := ⟨peer, []⟩, inbox } ⟨0, rfl, rfl⟩)
  exact ⟨count, hids⟩

end Stream

end SqlStream.Channel
