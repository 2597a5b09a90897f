import Mathlib.Data.List.Induction
import Mathlib.Data.List.TakeWhile
import SqlStream.Proofs.Http.Exchange

/-!
# Continuity of streams over HTTP

The server knows a stream by the baton of its last reply, and may move it by a redirect. Whatever
the server does, a stream shows with each request the baton of the reply before it, goes where it
was last redirected to, and posts nothing more once an exchange did not hand it a baton or once it
was closed (`stream_continuity`).

The invariant is `Stream.Stands`: what the calls so far leave the session with.
-/

namespace SqlStream.Http

open SqlStream.Wire

/-! ## Replies that keep a stream going -/

/-- A posting whose reply was read and keeps the stream open, with a baton for the next one. Whether
the reply reports failures makes no difference. -/
def Posting.GoesOnWith (posting : Posting) (baton : String) : Prop :=
  ∃ response, posting.reply.Reads response ∧ response.baton = some baton ∧ baton ≠ "" ∧
    posting.request.body.requests.getLast? ≠ some .close

/-- A posting whose reply was read and redirects the stream. -/
def Posting.RedirectsTo (posting : Posting) (url : String) : Prop :=
  ∃ response, posting.reply.Reads response ∧ response.baseUrl = some url ∧ url ≠ ""

/-- Where a stream that began at a URL goes to behind postings: to the last redirect. -/
def IsTarget (baseUrl : String) (postings : List Posting) (url : String) : Prop :=
  (url = baseUrl ∧ ∀ posting ∈ postings, ∀ other, ¬ posting.RedirectsTo other) ∨
    ∃ before posting after, postings = before ++ posting :: after ∧ posting.RedirectsTo url ∧
      ∀ later ∈ after, ∀ other, ¬ later.RedirectsTo other

/-- The path for requests behind a URL without the slashes at its end. -/
def IsPipelineUrl (target url : String) : Prop :=
  ∃ stem slashes : List Char, target.toList = stem ++ slashes ∧ (∀ c ∈ slashes, c = '/') ∧
    stem.getLast? ≠ some '/' ∧ url = String.ofList stem ++ "/v2/pipeline"

/-- A posting goes on with at most one baton. -/
theorem Posting.GoesOnWith.unique {posting : Posting} {baton other : String}
    (h : posting.GoesOnWith baton) (hother : posting.GoesOnWith other) : baton = other := by
  obtain ⟨response, hreads, hbaton, -⟩ := h
  obtain ⟨_, hreadsOther, hbatonOther, -⟩ := hother
  obtain rfl := hreads.unique hreadsOther
  exact Option.some.inj (hbaton.symm.trans hbatonOther)

/-- Before any posting the target is the base URL. -/
theorem isTarget_nil (baseUrl : String) : IsTarget baseUrl [] baseUrl :=
  .inl ⟨rfl, by simp⟩

/-- A posting that redirects the stream sets the target. -/
theorem isTarget_concat_of_redirectsTo (baseUrl : String) (postings : List Posting)
    {posting : Posting} {url : String} (hredirects : posting.RedirectsTo url) :
    IsTarget baseUrl (postings ++ [posting]) url :=
  .inr ⟨postings, posting, [], rfl, hredirects, by simp⟩

/-- A posting that does not redirect the stream leaves the target. -/
theorem IsTarget.concat {baseUrl url : String} {postings : List Posting} {posting : Posting}
    (h : IsTarget baseUrl postings url) (hnone : ∀ other, ¬ posting.RedirectsTo other) :
    IsTarget baseUrl (postings ++ [posting]) url := by
  rcases h with ⟨hurl, hall⟩ | ⟨before, last, after, rfl, hredirects, hafter⟩
  · refine .inl ⟨hurl, fun p hp => ?_⟩
    rcases List.mem_append.mp hp with hp | hp
    · exact hall p hp
    · rwa [List.mem_singleton.mp hp]
  · refine .inr ⟨before, last, after ++ [posting], by simp, hredirects, fun p hp => ?_⟩
    rcases List.mem_append.mp hp with hp | hp
    · exact hafter p hp
    · rwa [List.mem_singleton.mp hp]

/-- The URL that requests go to is the pipeline URL of its target. -/
theorem isPipelineUrl_pipelineUrl (target : String) :
    IsPipelineUrl target (pipelineUrl target) := by
  let isSlash (c : Char) : Bool := c == '/'
  let reversed := target.toList.reverse
  refine ⟨Text.trimEndOf isSlash target.toList, (reversed.takeWhile isSlash).reverse,
    ?_, ?_, ?_, ?_⟩
  · show _ = (reversed.dropWhile isSlash).reverse ++ _
    rw [← List.reverse_append, List.takeWhile_append_dropWhile, List.reverse_reverse]
  · intro c hc
    have := List.mem_takeWhile_imp (List.mem_reverse.mp hc)
    simpa [isSlash] using this
  · show (reversed.dropWhile isSlash).reverse.getLast? ≠ some '/'
    rw [List.getLast?_reverse]
    intro hhead
    have := List.head?_dropWhile_not isSlash reversed
    rw [hhead] at this
    simp [isSlash] at this
  · rw [pipelineUrl, String.ofList_append]
    rfl

/-! ## What a call does to a stream -/

/-- A call, with what it posted and its result. -/
structure Passage where
  call : StreamCall
  postings : List Posting
  result : Except Error (List Response)

/-- A call that leaves the stream open, with the baton of the reply to what it posted. -/
def Passage.LeavesOpenWith (passage : Passage) (baton : String) : Prop :=
  ∃ posting, passage.postings = [posting] ∧ posting.GoesOnWith baton

/-- A passage leaves the stream open with at most one baton. -/
theorem Passage.LeavesOpenWith.unique {passage : Passage} {baton other : String}
    (h : passage.LeavesOpenWith baton) (hother : passage.LeavesOpenWith other) :
    baton = other := by
  obtain ⟨posting, hposting, hgoes⟩ := h
  obtain ⟨posting', hposting', hgoes'⟩ := hother
  obtain rfl := List.singleton_inj.mp (hposting.symm.trans hposting')
  exact hgoes.unique hgoes'

/-- Calls of which one closed the stream or did not leave it open. -/
def Stopped (history : List Passage) : Prop :=
  ∃ earlier ∈ history, earlier.call = .close ∨ ∀ baton, ¬ earlier.LeavesOpenWith baton

/-- What several calls posted. -/
def allPostings (history : List Passage) : List Posting :=
  history.flatMap Passage.postings

/-- A stream stops when a passage closes it or leaves it open with no baton. -/
theorem stopped_concat_iff {history : List Passage} {last : Passage} :
    Stopped (history ++ [last]) ↔
      Stopped history ∨ last.call = .close ∨ ∀ baton, ¬ last.LeavesOpenWith baton := by
  simp only [Stopped, List.mem_append, List.mem_singleton, or_and_right, exists_or,
    exists_eq_left]

@[simp] theorem allPostings_concat (history : List Passage) (last : Passage) :
    allPostings (history ++ [last]) = allPostings history ++ last.postings := by
  simp [allPostings]

/-- The state of a stream behind calls. -/
inductive StateBehind : List Passage → StreamState → Prop where
  | fresh : StateBehind [] .fresh
  | active {before : List Passage} {last : Passage} {baton : String} :
      ¬ Stopped (before ++ [last]) → last.LeavesOpenWith baton → StateBehind (before ++ [last])
        (.active (some baton))
  | closed {history : List Passage} : Stopped history → StateBehind history .closed

namespace Stream

variable {σ : Type}

/-- A stream that began as `start` does, behind calls. -/
structure Stands (start : Stream σ) (baseUrl : String) (history : List Passage)
    (stream : Stream σ) : Prop where
  authorization : stream.authorization = start.authorization
  options : stream.options = start.options
  target : stream.session.isClosed = false →
    ∃ url, stream.session.baseUrl = some url ∧ IsTarget baseUrl (allPostings history) url
  state : StateBehind history stream.session.state

/-- A stream that begins at a URL. -/
theorem stands_start {stream : Stream σ} {baseUrl : String}
    (hurl : stream.session.baseUrl = some baseUrl)
    (hstate : stream.session.state = .fresh) : Stands stream baseUrl [] stream where
  authorization := rfl
  options := rfl
  target _ := ⟨baseUrl, hurl, isTarget_nil baseUrl⟩
  state := hstate ▸ .fresh

namespace Stands

variable {start stream : Stream σ} {baseUrl : String} {history : List Passage}

/-- A stream that is not closed has no baton at first, and then the one of the last reply. -/
theorem open_cases (h : Stands start baseUrl history stream)
    (hopen : stream.session.isClosed = false) :
    history = [] ∧ stream.session.baton = none ∨
      ∃ before last baton, history = before ++ [last] ∧ last.LeavesOpenWith baton ∧
        stream.session.baton = some baton := by
  have hstate := h.state
  rw [Session.isClosed_eq_false_iff] at hopen
  unfold Session.baton
  generalize stream.session.state = state at hstate hopen
  cases hstate with
  | fresh => exact .inl ⟨rfl, rfl⟩
  | @active before last baton _ hlast => exact .inr ⟨before, last, baton, rfl, hlast, rfl⟩
  | closed _ => exact absurd rfl hopen

/-- A stream is closed exactly if a call stopped it. -/
theorem stopped_iff (h : Stands start baseUrl history stream) :
    Stopped history ↔ stream.session.isClosed = true := by
  have hstate := h.state
  rw [Session.isClosed_eq_true_iff]
  generalize stream.session.state = state at hstate
  cases hstate with
  | fresh => simp [Stopped]
  | active hgoes _ => simp [hgoes]
  | closed hstopped => simp [hstopped]

/-- Nothing else than a call that stops a stream closes it. -/
theorem of_closed {next : Stream σ} {last : Passage} (h : Stands start baseUrl history stream)
    (hauthorization : next.authorization = stream.authorization)
    (hoptions : next.options = stream.options) (hclosed : next.session.state = .closed)
    (hlast : Stopped (history ++ [last])) :
    Stands start baseUrl (history ++ [last]) next where
  authorization := hauthorization.trans h.authorization
  options := hoptions.trans h.options
  target hopen := absurd hclosed (Session.isClosed_eq_false_iff.mp hopen)
  state := by
    rw [hclosed]
    exact .closed hlast

/-- Behind a reply that was read the stream is open exactly if it has a baton to go on with. -/
theorem settled (h : Stands start baseUrl history stream)
    (hopen : stream.session.isClosed = false) {request : HttpRequest} {reply : HttpReply}
    {response : PipelineResponse} (hreads : reply.Reads response) {last : Passage}
    (hcall : last.call ≠ .close)
    (hlast : last.postings = [⟨request, reply⟩]) (server : σ) :
    Stands start baseUrl (history ++ [last])
      { stream with
        server
        session := (stream.session.close.2.finishPipeline request.body.requests response).2 } := by
  let sent := request.body.requests
  by_cases hgoes : ∃ baton, response.baton = some baton ∧ baton ≠ "" ∧ sent.getLast? ≠ some .close
  · obtain ⟨baton, hbaton, hne, hsent⟩ := hgoes
    refine ⟨h.authorization, h.options, fun _ => ?_, ?_⟩
    · obtain ⟨url, hurl, htarget⟩ := h.target hopen
      show ∃ url, (Session.nonempty? response.baseUrl).or stream.session.baseUrl = some url ∧ _
      rw [hurl, allPostings_concat, hlast]
      cases hredirect : Session.nonempty? response.baseUrl with
      | none =>
        refine ⟨url, rfl, htarget.concat ?_⟩
        rintro other ⟨response', hreads', hother⟩
        obtain rfl := hreads'.unique hreads
        rw [Session.nonempty?_eq_some_iff.mpr hother] at hredirect
        cases hredirect
      | some redirect =>
        have hnonempty := Session.nonempty?_eq_some_iff.mp hredirect
        exact ⟨redirect, rfl, isTarget_concat_of_redirectsTo _ _ ⟨response, hreads, hnonempty⟩⟩
    · show StateBehind _ (Session.stateAfter sent response)
      rw [Session.stateAfter_of_baton hbaton hne hsent]
      have hopens : last.LeavesOpenWith baton := ⟨_, hlast, response, hreads, hbaton, hne, hsent⟩
      refine .active (fun hstopped => ?_) hopens
      rcases stopped_concat_iff.mp hstopped with hbefore | hclose | hnone
      · exact absurd (h.stopped_iff.mp hbefore) (by simp [hopen])
      · exact hcall hclose
      · exact hnone baton hopens
  · refine h.of_closed rfl rfl ?_ ⟨_, List.mem_concat_self, .inr ?_⟩
    · show Session.stateAfter sent response = .closed
      exact Session.stateAfter_eq_closed fun baton hbaton hne =>
        Classical.byContradiction fun hsent => hgoes ⟨baton, hbaton, hne, hsent⟩
    · rintro baton ⟨posting, hposting, other, hother, hbaton, hne, hsent⟩
      obtain rfl := List.singleton_inj.mp (hlast.symm.trans hposting)
      obtain rfl := hother.unique hreads
      exact hgoes ⟨baton, hbaton, hne, hsent⟩

end Stands

variable [Server σ]

/-- A call on a stream, with what it posts and its result. -/
def passage (call : StreamCall) (stream : Stream σ) : Passage :=
  ⟨call, postings call stream, (call.run.runOn stream).1⟩

/-- The calls on a stream one after another. -/
def passages : List StreamCall → Stream σ → List Passage
  | [], _ => []
  | call :: calls, stream => passage call stream :: passages calls (call.after stream)

/-- The passages of one more call are those before it and its own. -/
theorem passages_concat (calls : List StreamCall) (call : StreamCall) (stream : Stream σ) :
    passages (calls ++ [call]) stream =
      passages calls stream ++ [passage call (streamAfter calls stream)] := by
  induction calls generalizing stream with
  | nil => rfl
  | cons first calls ih => rw [List.cons_append, passages, passages, ih]; rfl

variable {start stream : Stream σ} {baseUrl : String} {history : List Passage}

/-- To close a stream stops it. -/
theorem Stands.close (h : Stands start baseUrl history stream) :
    Stands start baseUrl (history ++ [passage .close stream]) (StreamCall.close.after stream) := by
  have hlast : Stopped (history ++ [passage .close stream]) :=
    ⟨_, List.mem_concat_self, .inl rfl⟩
  show Stands start baseUrl _ (Stream.close stream)
  cases hbaton : stream.session.baton with
  | none =>
    rw [close_of_no_baton hbaton]
    exact h.of_closed rfl rfl rfl hlast
  | some baton =>
    obtain ⟨server, hposted⟩ := post_eq_with_server ⟨some baton, [.close]⟩ stream.underWay
    rw [close_of_baton hbaton, hposted]
    exact h.of_closed rfl rfl rfl hlast

/-- To send moves the stream on with the reply, or stops it. -/
theorem Stands.send (h : Stands start baseUrl history stream) (requests : List Request) :
    Stands start baseUrl (history ++ [passage (.send requests) stream])
      ((StreamCall.send requests).after stream) := by
  by_cases hclosed : stream.session.isClosed = true
  · rw [after_send_of_isClosed hclosed]
    exact h.of_closed rfl rfl (Session.isClosed_eq_true_iff.mp hclosed)
      (stopped_concat_iff.mpr (.inl (h.stopped_iff.mpr hclosed)))
  · have hopen : stream.session.isClosed = false := by simpa using hclosed
    obtain ⟨body, hbody⟩ : ∃ body : PipelineRequest,
        body = ⟨stream.session.baton, stream.session.stamp requests⟩ := ⟨_, rfl⟩
    have hpostings : (passage (.send requests) stream).postings = posted body stream.underWay :=
      postings_send_of_not_isClosed hopen requests hbody
    obtain ⟨server, hposted⟩ := post_eq_with_server body stream.underWay
    rw [after_send_of_not_isClosed hopen requests hbody, hposted]
    cases hread : readReply (post body stream.underWay).1 with
    | error error =>
      -- no reply was read, so the stream stays closed
      have hnone : ∀ response, ¬ (post body stream.underWay).1.Reads response := by
        intro response hreads
        rw [readReply_eq_ok_iff.mpr hreads] at hread
        cases hread
      rw [settle, hread]
      refine h.of_closed rfl rfl rfl ⟨_, List.mem_concat_self, .inr ?_⟩
      rintro baton ⟨posting, hposting, response, hreads, -⟩
      have hmem : posting ∈ posted body stream.underWay := by
        rw [← hpostings, hposting]
        exact List.mem_singleton_self posting
      rw [reply_eq_of_mem_posted hmem] at hreads
      exact hnone response hreads
    | ok response =>
      have hreads := readReply_eq_ok_iff.mp hread
      rw [settle, hread]
      exact h.settled hopen hreads (by simp [passage]) (hpostings.trans (posted_of_reads hreads)) server

/-! ## Runs -/

/-- Each call keeps to what the calls so far leave the stream with. -/
theorem Stands.step (h : Stands start baseUrl history stream) (call : StreamCall) :
    Stands start baseUrl (history ++ [passage call stream]) (call.after stream) := by
  cases call with
  | send requests => exact h.send requests
  | close => exact h.close

/-- From where the history stands a run of calls stands behind its passages. -/
theorem Stands.run (h : Stands start baseUrl [] start) (calls : List StreamCall) :
    Stands start baseUrl (passages calls start) (streamAfter calls start) := by
  induction calls using List.reverseRecOn with
  | nil => exact h
  | append_singleton calls call ih =>
    rw [passages_concat, streamAfter_concat]
    exact ih.step call

end Stream

/-! ## Continuity -/

/-- A posting behind others: it goes where the stream was last redirected to, the first one without
a baton and each later one with the baton of the reply just before it, which kept the stream
open. -/
structure Posting.Follows (baseUrl : String) (before : List Posting) (posting : Posting) :
    Prop where
  url : ∃ target, IsTarget baseUrl before target ∧ IsPipelineUrl target posting.request.url
  first : before = [] → posting.request.body.baton = none
  later : ∀ earlier last, before = earlier ++ [last] →
    ∃ baton, last.GoesOnWith baton ∧ posting.request.body.baton = some baton

/-- A call that hands its requests over with a baton, to where the stream goes behind other calls.
They are posted as one request, unless HTTP cannot send it. -/
def Passage.HandsOver {σ : Type} [Server σ] (start : Stream σ) (baseUrl : String)
    (before : List Passage) (baton : Option String) (passage : Passage) : Prop :=
  ∃ target watermark requests, IsTarget baseUrl (allPostings before) target ∧
    List.Forall₂ (Request.Stamped watermark) passage.call.requests requests ∧
    let request : HttpRequest :=
      ⟨pipelineUrl target, start.authorization, ⟨baton, requests⟩, start.options.timeoutMs⟩
    passage.postings.map Posting.request =
      if Server.obstacle? σ request = none then [request] else []

/-- A call behind others, on a stream that began as `start` does at a URL. -/
structure Passage.Continues {σ : Type} [Server σ] (start : Stream σ) (baseUrl : String)
    (before : List Passage) (passage : Passage) : Prop where
  /-- The first call has no baton to show, and nothing to close. -/
  first : before = [] →
    match passage.call with
    | .send _ => passage.HandsOver start baseUrl before none
    | .close => passage.postings = []
  /-- As long as every call left the stream open, the baton of the last one is shown. -/
  later : ¬ Stopped before → ∀ earlier last baton, before = earlier ++ [last] →
    last.LeavesOpenWith baton → passage.HandsOver start baseUrl before (some baton)
  /-- Behind a call that did not, nothing is posted and nothing can be sent. -/
  stopped : Stopped before → passage.postings = [] ∧
    ∀ requests, passage.call = .send requests → passage.result = .error .streamClosed

namespace Stream

variable {σ : Type} [Server σ] {start stream : Stream σ} {baseUrl : String}
  {history : List Passage}

/-- What a call hands over goes to the target with the baton held. -/
theorem Stands.handsOver (h : Stands start baseUrl history stream) {call : StreamCall}
    {body : PipelineRequest} (hbody : stream.handedOver call = some body) :
    (passage call stream).HandsOver start baseUrl history stream.session.baton := by
  obtain ⟨hopen, rfl⟩ := of_handedOver hbody
  obtain ⟨url, hurl, htarget⟩ := h.target hopen
  let sent := stream.session.stamp call.requests
  have hrequest : stream.underWay.httpRequest ⟨stream.session.baton, sent⟩ =
      ⟨pipelineUrl url, start.authorization, ⟨stream.session.baton, sent⟩,
        start.options.timeoutMs⟩ := by
    rw [← h.authorization, ← h.options]
    show HttpRequest.mk (pipelineUrl (stream.session.baseUrl.getD "")) _ _ _ = _
    rw [hurl, Option.getD_some]
    rfl
  refine ⟨url, _, sent, htarget, stream.session.stamped_stamp call.requests, ?_⟩
  show (postings call stream).map Posting.request = _
  rw [postings_eq, hbody, Option.elim_some, map_request_posted, hrequest]

/-- On an open stream a call hands over its requests to the target. -/
theorem Stands.handsOver_send (h : Stands start baseUrl history stream)
    (hopen : stream.session.isClosed = false) (requests : List Request) :
    (passage (.send requests) stream).HandsOver start baseUrl history stream.session.baton :=
  h.handsOver (handedOver_send_of_not_isClosed hopen requests)

/-- Closing with a baton hands the close request over to the target. -/
theorem Stands.handsOver_close (h : Stands start baseUrl history stream) {baton : String}
    (hbaton : stream.session.baton = some baton) :
    (passage .close stream).HandsOver start baseUrl history stream.session.baton := by
  have hbody : stream.handedOver .close = some ⟨some baton, [.close]⟩ := by
    rw [handedOver, hbaton]
    rfl
  exact h.handsOver hbody

/-- A call goes on from where the history stands. -/
theorem Stands.continues (h : Stands start baseUrl history stream) (call : StreamCall) :
    (passage call stream).Continues start baseUrl history where
  first hfirst := by
    have hopen : stream.session.isClosed = false := by
      rw [← Bool.not_eq_true, ← h.stopped_iff, hfirst]
      simp [Stopped]
    have hbaton : stream.session.baton = none := by
      rcases h.open_cases hopen with ⟨-, hnone⟩ | ⟨before, last, baton, hlast, -⟩
      · exact hnone
      · exact absurd (hfirst.symm.trans hlast) (by simp)
    cases call with
    | send requests => exact hbaton ▸ h.handsOver_send hopen requests
    | close =>
      show postings .close stream = []
      rw [postings_eq, handedOver, hbaton]
      rfl
  later hgoes earlier last baton hlast hopens := by
    have hopen : stream.session.isClosed = false := by
      rwa [← Bool.not_eq_true, ← h.stopped_iff]
    obtain ⟨_, last', baton', hlast', hopens', hbaton⟩ :=
      (h.open_cases hopen).resolve_left fun hnil => by simp [hlast] at hnil
    obtain ⟨rfl, hsame⟩ := List.append_inj' (hlast.symm.trans hlast') rfl
    obtain rfl := List.singleton_inj.mp hsame
    rw [Passage.LeavesOpenWith.unique hopens hopens', ← hbaton]
    cases call with
    | send requests => exact h.handsOver_send hopen requests
    | close => exact h.handsOver_close hbaton
  stopped hstopped := by
    have hclosed := h.stopped_iff.mp hstopped
    refine ⟨postings_of_isClosed hclosed call, fun requests hcall => ?_⟩
    obtain rfl : call = .send requests := hcall
    exact congrArg Prod.fst (runOn_send_of_isClosed hclosed requests)

/-- Each posting of a call follows those of the history. -/
theorem Stands.follows (h : Stands start baseUrl history stream) {call : StreamCall}
    {posting : Posting} (hposting : posting ∈ postings call stream) :
    posting.Follows baseUrl (allPostings history) := by
  rw [postings_eq] at hposting
  cases hbody : stream.handedOver call with
  | none =>
    rw [hbody, Option.elim_none] at hposting
    cases hposting
  | some body =>
    rw [hbody, Option.elim_some] at hposting
    obtain rfl := eq_of_mem_posted hposting
    obtain ⟨hopen, rfl⟩ := of_handedOver hbody
    obtain ⟨url, hurl, htarget⟩ := h.target hopen
    refine ⟨⟨url, htarget, ?_⟩, fun hfirst => ?_, fun earlier last hlast => ?_⟩
    · show IsPipelineUrl url (pipelineUrl (stream.session.baseUrl.getD ""))
      rw [hurl]
      exact isPipelineUrl_pipelineUrl url
    · show stream.session.baton = none
      rcases h.open_cases hopen with ⟨-, hnone⟩ | ⟨before, last, baton, rfl, ⟨_, hone, -⟩, -⟩
      · exact hnone
      · simp [hone] at hfirst
    · show ∃ baton, _ ∧ stream.session.baton = some baton
      rcases h.open_cases hopen with ⟨rfl, -⟩ | ⟨before, last', baton, rfl, ⟨_, hone, hgoes⟩, hsome⟩
      · simp [allPostings] at hlast
      · rw [allPostings_concat, hone] at hlast
        obtain rfl := List.singleton_inj.mp (List.append_inj' hlast rfl).2
        exact ⟨baton, hgoes, hsome⟩

/-- Earlier notes stay in front of the postings of a run and change nothing else. -/
theorem streamAfter_noting (calls : List StreamCall) (stream : Stream σ)
    (earlier : List Posting) :
    streamAfter calls (stream.noting earlier) =
      (streamAfter calls stream).noting (earlier ++ allPostings (passages calls stream)) := by
  induction calls generalizing stream earlier with
  | nil => simp [passages, allPostings]
  | cons call calls ih =>
    have hafter : call.after (stream.noting earlier) =
        (call.after stream).noting (earlier ++ postings call stream) := by
      rw [postings_eq, StreamCall.after, runOn_noting]
    rw [streamAfter_cons, streamAfter_cons, hafter, ih, List.append_assoc]
    rfl

end Stream

/-- Whatever the server does, the requests of a stream over HTTP go to where it was last redirected
to and carry the baton of the reply just before, which was read and kept the stream open. As long as
each call left the stream open the next one hands its requests over with that baton; behind one that
did not, nothing is posted and nothing can be sent. -/
theorem stream_continuity {σ : Type} [Server σ] (server : σ) (baseUrl authorization : String)
    (options : Options) (calls : List StreamCall) :
    let start : Stream σ := { Stream.new server baseUrl authorization with options }
    let history := Stream.passages calls start
    streamAfter calls (start.noting []) =
        (streamAfter calls start).noting (allPostings history) ∧
      AtEach (Posting.Follows (normalizeUrl baseUrl)) (allPostings history) ∧
      AtEach (Passage.Continues start (normalizeUrl baseUrl)) history := by
  intro start history
  have hstart : start.Stands (normalizeUrl baseUrl) [] start := Stream.stands_start rfl rfl
  refine ⟨Stream.streamAfter_noting calls start [], ?_, ?_⟩
  · show AtEach _ (allPostings (Stream.passages calls start))
    clear history
    induction calls using List.reverseRecOn with
    | nil => exact atEach_nil _
    | append_singleton calls call ih =>
      rw [Stream.passages_concat, allPostings_concat]
      have hstands := hstart.run calls
      rcases Stream.postings_cases call (streamAfter calls start) with hnone | ⟨posting, hone⟩
      · show AtEach _ (_ ++ Stream.postings call _)
        rwa [hnone, List.append_nil]
      · show AtEach _ (_ ++ Stream.postings call _)
        rw [hone]
        exact ih.concat (hstands.follows (hone ▸ List.mem_singleton_self posting))
  · show AtEach _ (Stream.passages calls start)
    clear history
    induction calls using List.reverseRecOn with
    | nil => exact atEach_nil _
    | append_singleton calls call ih =>
      rw [Stream.passages_concat]
      exact ih.concat ((hstart.run calls).continues call)

end SqlStream.Http
