import Mathlib.Data.List.Perm.Basic
import SqlStream.Proofs.Channel.RequestNumbers

/-!
# Answers in any order

A server on a channel answers each request by its number, in whatever order it likes. While answers
are awaited, those that came fill the slots of their requests (`slotsOf`), and all other slots are
empty. So when the last answer is in, each request has its own, and what was read are the answers
and nothing else.
-/

namespace SqlStream.Channel

open SqlStream.Wire

/-- What a server says to a request. -/
abbrev Answer := Except ServerError ChannelResponse

/-- The message that gives an answer to the request with a number. -/
def Answer.message (requestId : Int32) : Answer → ServerMessage
  | .ok response => .responseOk requestId response
  | .error error => .responseError requestId error

/-- The fate that an answer is for its request. -/
def Answer.result : Answer → StreamResult
  | .ok response => .ok (some response.toResponse)
  | .error error => .error (some error)

/-- An answer that is known keeps its content as the answer of a stream. -/
theorem ChannelResponse.toResponse_injective {response other : ChannelResponse}
    (h : response.toResponse = other.toResponse) (hknown : other.toResponse ≠ .unknown) :
    response = other := by
  cases response <;> cases other <;> simp_all [toResponse]

/-- A text that gives the answer to a request, with the number of the request. -/
def Answers (text : String) (answered : Int32 × Answer) : Prop :=
  ServerMessage.parse? text = some (Answer.message answered.1 answered.2)

instance (text : String) (answered : Int32 × Answer) : Decidable (Answers text answered) :=
  inferInstanceAs (Decidable (_ = _))

/-- A frame that answers a request is taken as its answer. -/
theorem takeFrame_of_answers {slots : Slots} {text : String} {answered : Int32 × Answer}
    (h : Answers text answered) :
    takeFrame slots text = takeAnswer slots answered.1 (Answer.result answered.2) := by
  obtain ⟨requestId, answer⟩ := answered
  have hread : readFrame text = .ok (Answer.message requestId answer) := by
    rw [readFrame, h]
  unfold takeFrame
  rw [hread]
  cases answer <;> rfl

/-! ## Slots -/

/-- The slots of an exchange whose requests get these answers, while some answers are awaited. -/
def slotsOf (exchange : List (Int32 × Answer)) (awaited : List Int32) : Slots :=
  exchange.map fun answered =>
    (answered.1, if answered.1 ∈ awaited then none else some (Answer.result answered.2))

/-- A number that is not asked for has no slot. -/
theorem slotsOf_eq_of_not_mem {exchange : List (Int32 × Answer)} {requestId : Int32}
    (h : requestId ∉ exchange.map Prod.fst) (awaited : List Int32) :
    slotsOf exchange (requestId :: awaited) = slotsOf exchange awaited := by
  refine List.map_congr_left fun answered hmem => ?_
  have hne : answered.1 ≠ requestId := fun heq => h (heq ▸ List.mem_map_of_mem hmem)
  simp [hne]

/-- An answer fills the slot of its request. -/
theorem fillSlot_slotsOf {exchange : List (Int32 × Answer)} {answered : Int32 × Answer}
    {awaited : List Int32} (hnodup : (exchange.map Prod.fst).Nodup) (hmem : answered ∈ exchange)
    (hnew : answered.1 ∉ awaited) :
    fillSlot answered.1 (Answer.result answered.2) (slotsOf exchange (answered.1 :: awaited)) =
      some (slotsOf exchange awaited) := by
  induction exchange with
  | nil => cases hmem
  | cons first exchange ih =>
    rw [List.map_cons, List.nodup_cons] at hnodup
    by_cases hfirst : first.1 = answered.1
    · -- numbers are distinct, so this is the request that was answered
      obtain rfl : first = answered := by
        rcases List.mem_cons.mp hmem with heq | hrest
        · exact heq.symm
        · exact absurd (hfirst ▸ List.mem_map_of_mem hrest) hnodup.1
      have hrest := slotsOf_eq_of_not_mem hnodup.1 awaited
      simp only [slotsOf, List.map_cons, fillSlot, if_true, if_neg hnew] at hrest ⊢
      rw [hrest]
    · have hrest : answered ∈ exchange := by
        rcases List.mem_cons.mp hmem with heq | hrest
        · exact absurd (congrArg Prod.fst heq).symm hfirst
        · exact hrest
      have hfilled := ih hnodup.2 hrest
      simp only [slotsOf, List.map_cons, fillSlot, List.mem_cons, hfirst, false_or] at hfilled ⊢
      rw [hfilled]
      rfl

/-- Once no answer is awaited any more, each request has its own. -/
theorem awaitAnswers_slotsOf_nil (exchange : List (Int32 × Answer)) (inbox : List Incoming) :
    awaitAnswers (slotsOf exchange []) inbox =
      (.ok (exchange.map fun answered => Answer.result answered.2), inbox) := by
  unfold awaitAnswers
  rw [if_pos (by simp [slotsOf])]
  simp [slotsOf, List.filterMap_map]

/-- Answers are read in the order in which they come, and each request gets its own. -/
theorem awaitAnswers_slotsOf {exchange order : List (Int32 × Answer)} {frames : List String}
    (hnodup : (exchange.map Prod.fst).Nodup) (hframes : List.Forall₂ Answers frames order)
    (hsub : ∀ answered ∈ order, answered ∈ exchange) (horder : (order.map Prod.fst).Nodup)
    (rest : List Incoming) :
    awaitAnswers (slotsOf exchange (order.map Prod.fst)) (frames.map .frame ++ rest) =
      (.ok (exchange.map fun answered => Answer.result answered.2), rest) := by
  induction hframes with
  | nil => exact awaitAnswers_slotsOf_nil exchange rest
  | @cons text answered frames order hanswers _ ih =>
    rw [List.map_cons, List.nodup_cons] at horder
    have hmem := hsub answered List.mem_cons_self
    have hopen : ¬ (slotsOf exchange (answered.1 :: order.map Prod.fst)).all
        (fun slot => slot.2.isSome) = true := by
      simp only [slotsOf, List.all_map, List.all_eq_true, not_forall]
      exact ⟨answered, hmem, by simp⟩
    rw [List.map_cons, List.map_cons, List.cons_append, awaitAnswers, if_neg hopen]
    simp only [takeFrame_of_answers hanswers, takeAnswer,
      fillSlot_slotsOf hnodup hmem horder.1]
    exact ih (fun other hother => hsub other (List.mem_cons_of_mem _ hother)) horder.2

/-- An exchange begins with all answers awaited. -/
theorem slotsOf_eq_none {requestIds awaited : List Int32} {answers : List Answer}
    (hlength : answers.length = requestIds.length)
    (hall : ∀ requestId ∈ requestIds, requestId ∈ awaited) :
    slotsOf (requestIds.zip answers) awaited = requestIds.map fun requestId => (requestId, none) := by
  have hids : (requestIds.zip answers).map Prod.fst = requestIds :=
    List.map_fst_zip (Nat.le_of_eq hlength.symm)
  calc slotsOf (requestIds.zip answers) awaited
      = (requestIds.zip answers).map fun answered => (answered.1, none) :=
        List.map_congr_left fun answered hmem => by
          rw [if_pos (hall _ (hids ▸ List.mem_map_of_mem hmem))]
    _ = requestIds.map fun requestId => (requestId, none) := by
        conv_rhs => rw [← hids, List.map_map]
        rfl

namespace Stream

variable {σ : Type} [Peer σ]

/-- An exchange whose requests the peer has taken, and texts that answer them, in the order of the
requests. -/
structure AnsweredBy (stream : Stream σ) (requests : List Request) (handed : Stream σ)
    (answers : List Answer) (texts : List String) : Prop where
  isOpen : stream.session.isClosed = false
  /-- There are numbers for all requests. -/
  fits : requests.length ≤ Int32.size
  length_answers : answers.length = requests.length
  /-- The peer took the requests as they go on the wire, and each text gives the answer to one. -/
  taken : ∃ requestIds,
    (sendAll (stream.session.stamp requests)).runOn stream.underWay = (.ok requestIds, handed) ∧
      List.Forall₂ Answers texts (requestIds.zip answers)

/-- Whatever the order of the answers, sending settles with them in the order of the requests, and
reads nothing else. -/
theorem runOn_send_of_answeredBy {stream handed : Stream σ} {requests : List Request}
    {answers : List Answer} {texts frames : List String} {rest : List Incoming}
    (h : stream.AnsweredBy requests handed answers texts) (hperm : frames.Perm texts)
    (hinbox : handed.inbox = frames.map .frame ++ rest) :
    (send requests).runOn stream =
      let settled := stream.session.close.2.finishChannel (stream.session.stamp requests)
        (answers.map Answer.result)
      (settled.1, { handed with inbox := rest, session := settled.2 }) := by
  obtain ⟨hopen, hfits, hlength, requestIds, hsent, htexts⟩ := h
  have hstamp : (stream.session.stamp requests).length = requests.length :=
    (stream.session.stamped_stamp requests).length_eq.symm
  have hids := requestIds_of_sendAll hsent
  have hnumbers : answers.length = requestIds.length := by
    rw [hids, hstamp, hlength, numbersFrom, List.length_map, List.length_range]
  have hfst : (requestIds.zip answers).map Prod.fst = requestIds :=
    List.map_fst_zip (Nat.le_of_eq hnumbers.symm)
  have hnodup : ((requestIds.zip answers).map Prod.fst).Nodup := by
    rw [hfst, hids, hstamp]
    exact nodup_numbersFrom _ hfits
  obtain ⟨order, hframes, horder⟩ := List.perm_comp_forall₂ hperm htexts
  have hawaited := awaitAnswers_slotsOf hnodup hframes (fun answered => horder.mem_iff.mp)
    ((horder.map Prod.fst).nodup_iff.mpr hnodup) rest
  have hall : ∀ requestId ∈ requestIds, requestId ∈ order.map Prod.fst := fun requestId hmem =>
    (horder.map Prod.fst).mem_iff.mpr (hfst.symm ▸ hmem)
  have hslots := slotsOf_eq_none hnumbers hall
  have hresults : (requestIds.zip answers).map (fun answered => Answer.result answered.2) =
      answers.map Answer.result := by
    conv_rhs => rw [← List.map_snd_zip (Nat.le_of_eq hnumbers), List.map_map]
    rfl
  have hcarry : (carry (stream.session.stamp requests)).runOn stream.underWay =
      (.ok (answers.map Answer.result), { handed with inbox := rest }) := by
    unfold carry
    rw [Call.runOn_bind_ok hsent, Call.runOn_get_bind, hinbox, ← hslots, hawaited, hresults]
    rfl
  have hsession : handed.session = stream.session.close.2 := by
    have := session_sendAll (stream.session.stamp requests) stream.underWay
    rwa [hsent] at this
  rw [runOn_send_of_not_isClosed hopen]
  simp only [hcarry, settle, hsession]

/-- The answers of an exchange may come in any order: sending reads them and nothing else, and gives
what they come to in the order of the requests. This rests on the numbers of requests, which are
distinct in all messages of a run, if there are no more requests than numbers. -/
theorem send_answered_in_any_order (σ : Type) [Peer σ] :
    (∀ (stream handed : Stream σ) (requests : List Request) (answers : List Answer)
      (texts frames : List String) (rest : List Incoming),
      stream.AnsweredBy requests handed answers texts → frames.Perm texts →
      handed.inbox = frames.map .frame ++ rest →
      (send requests).runOn stream =
        let settled := stream.session.close.2.finishChannel (stream.session.stamp requests)
          (answers.map Answer.result)
        (settled.1, { handed with inbox := rest, session := settled.2 })) ∧
    (∀ (peer : σ) (inbox : List Incoming) (jwt : Option String) (calls : List StreamCall),
      (requestIdsOf (messagesOfRun peer inbox jwt calls)).length ≤ Int32.size →
      (requestIdsOf (messagesOfRun peer inbox jwt calls)).Nodup) := by
  refine ⟨fun stream handed requests answers texts frames rest h hperm hinbox =>
    runOn_send_of_answeredBy h hperm hinbox, ?_⟩
  intro peer inbox jwt calls hfits
  obtain ⟨count, hids⟩ := requestIdsOf_messagesOfRun peer inbox jwt calls
  have hcount : count ≤ Int32.size := by
    rwa [hids, numbersFrom, List.length_map, List.length_range] at hfits
  exact hids.symm ▸ nodup_numbersFrom 0 hcount

end Stream

/-- A peer that takes every frame; all that it says, it has said before. -/
structure Silent where

instance : Peer Silent where
  take _ peer := (.accepted, [], peer)

/-- The answers to the requests numbered one and two. -/
def twoAnswers : List String :=
  ["\x7b\"type\":\"response_error\",\"request_id\":1,\"error\":\x7b\"message\":\"full\"\x7d\x7d",
    "\x7b\"type\":\"response_ok\",\"request_id\":2,\"response\":\x7b\"type\":\"close_sql\"\x7d\x7d"]

/-- The answers to two statements that changed rows, with these numbers. -/
def twoResults : List String :=
  ["\x7b\"type\":\"response_ok\",\"request_id\":1,\"response\":\x7b\"type\":\"execute\"," ++
      "\"result\":\x7b\"affected_row_count\":5\x7d\x7d\x7d",
    "\x7b\"type\":\"response_ok\",\"request_id\":2,\"response\":\x7b\"type\":\"execute\"," ++
      "\"result\":\x7b\"affected_row_count\":7\x7d\x7d\x7d"]

/-- The answers to the greeting and to the opening of a stream. -/
def openingAnswers : List String :=
  ["\x7b\"type\":\"hello_ok\"\x7d",
    "\x7b\"type\":\"response_ok\",\"request_id\":0,\"response\":\x7b\"type\":\"open_stream\"\x7d\x7d"]

/-- An open stream to which the answers of its next two requests come in reverse. -/
def answeredInReverse : Stream Silent where
  peer := {}
  inbox := twoAnswers.reverse.map .frame
  session := { state := .active none }
  nextRequestId := 1

theorem answeredInReverse_answeredBy :
    answeredInReverse.AnsweredBy [.storeSql "a" 0, .closeSql 3]
      { answeredInReverse.underWay with nextRequestId := 3 }
      [.error { message := "full" }, .ok .closeSql] twoAnswers where
  isOpen := rfl
  fits := by decide
  length_answers := rfl
  taken := ⟨[1, 2], rfl, .cons (by decide +kernel) (.cons (by decide +kernel) .nil)⟩

/-- An open stream to which the results of its next two statements come in reverse. -/
def executedInReverse : Stream Silent :=
  { answeredInReverse with inbox := twoResults.reverse.map .frame }

theorem executedInReverse_answeredBy :
    executedInReverse.AnsweredBy [.execute (plainStatement "a"), .execute (plainStatement "b")]
      { executedInReverse.underWay with nextRequestId := 3 }
      [.ok (.execute { affectedRowCount := 5 }), .ok (.execute { affectedRowCount := 7 })]
      twoResults where
  isOpen := rfl
  fits := by decide
  length_answers := rfl
  taken := ⟨[1, 2], rfl, .cons (by decide +kernel) (.cons (by decide +kernel) .nil)⟩

/-- The messages of a run in which a request is answered before the stream is closed. -/
def messagesOfClosing : List ClientMessage :=
  Stream.messagesOfRun ({} : Silent) ((openingAnswers ++ twoAnswers).map .frame) none
    [.send [.closeSql 3], .close]

theorem requestIdsOf_messagesOfClosing : requestIdsOf messagesOfClosing = [0, 1, 2] := by
  decide +kernel

/-- What comes in reverse is given in the order of the requests: an error of the first, or the
results of both. -/
theorem send_answered_in_any_order_of_reverse :
    (Stream.send [.storeSql "a" 0, .closeSql 3]).runOn answeredInReverse =
        (.error (.server { message := "full" }),
          { answeredInReverse with inbox := [], nextRequestId := 3 }) ∧
      (Stream.send [.execute (plainStatement "a"), .execute (plainStatement "b")]).runOn
          executedInReverse =
        (.ok [.execute { affectedRowCount := 5 }, .execute { affectedRowCount := 7 }],
          { executedInReverse with inbox := [], nextRequestId := 3 }) ∧
      (requestIdsOf messagesOfClosing).length ≤ Int32.size ∧
      (requestIdsOf messagesOfClosing).Nodup := by
  have hfits : (requestIdsOf messagesOfClosing).length ≤ Int32.size := by
    rw [requestIdsOf_messagesOfClosing]
    decide
  refine ⟨?_, ?_, hfits, (Stream.send_answered_in_any_order Silent).2 _ _ _ _ hfits⟩
  · exact (Stream.send_answered_in_any_order Silent).1 answeredInReverse _ _ _ _ _ []
      answeredInReverse_answeredBy twoAnswers.reverse_perm rfl
  · exact (Stream.send_answered_in_any_order Silent).1 executedInReverse _ _ _ _ _ []
      executedInReverse_answeredBy twoResults.reverse_perm rfl

end SqlStream.Channel
