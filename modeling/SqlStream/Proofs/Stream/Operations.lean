import SqlStream.Proofs.Session

/-!
# Operations on a session

Whoever carries a stream begins exchanges on its session, finishes them with what came back, closes
it and marks it as open, and nothing orders these operations. Whatever the order, a session is
`Orderly` (`orderly_after`): it always has a URL to send to and never an empty baton, it refuses to
begin an exchange exactly while it is closed, and a baton that was handed out comes back only with a
reply.
-/

namespace SqlStream.Session

open SqlStream.Wire

/-! ## Operations -/

/-- What can be done with a session. -/
inductive Operation where
  | begin (requests : List Request)
  | finishPipeline (sent : List Request) (response : PipelineResponse)
  | finishChannel (sent : List Request) (results : List StreamResult)
  | close
  | markOpen

/-- What an operation gives. -/
inductive Outcome where
  | begun (request : PipelineRequest)
  /-- No exchange was begun. -/
  | refused (error : Error)
  | finished (responses : Except Error (List Response))
  | closed (baton : Option String)
  | opened

namespace Operation

/-- Does an operation: what it gives, and the session behind it. One that is refused changes
nothing. -/
def run : Operation → Session → Outcome × Session
  | begin requests, session =>
    match session.begin requests with
    | .ok (request, next) => (.begun request, next)
    | .error error => (.refused error, session)
  | finishPipeline sent response, session =>
    let (responses, next) := session.finishPipeline sent response
    (.finished responses, next)
  | finishChannel sent results, session =>
    let (responses, next) := session.finishChannel sent results
    (.finished responses, next)
  | close, session =>
    let (baton, next) := session.close
    (.closed baton, next)
  | markOpen, session => (.opened, session.markOpen)

/-- True of the operations that can open a session: to finish an exchange, and to mark it as
open. -/
def Reopens : Operation → Prop
  | begin _ | close => False
  | finishPipeline _ _ | finishChannel _ _ | markOpen => True

/-- True of an operation that takes in a reply with this baton. -/
def Supplies (baton : String) : Operation → Prop
  | finishPipeline _ response => response.baton = some baton
  | _ => False

end Operation

/-- The baton that an operation hands out. -/
def Outcome.baton : Outcome → Option String
  | begun request => request.baton
  | closed baton => baton
  | _ => none

/-- The session behind several operations. -/
def after (operations : List Operation) (session : Session) : Session :=
  operations.foldl (fun session operation => (operation.run session).2) session

@[simp] theorem after_nil (session : Session) : after [] session = session :=
  rfl

@[simp] theorem after_cons (operation : Operation) (operations : List Operation)
    (session : Session) :
    after (operation :: operations) session = after operations (operation.run session).2 :=
  rfl

/-! ## One operation -/

variable {session : Session}

/-- A closed session refuses to begin and stays as it is. -/
theorem Operation.run_begin_of_closed (hclosed : session.state = .closed)
    (requests : List Request) :
    (begin requests).run session = (.refused .streamClosed, session) := by
  rw [run, begin_of_isClosed (isClosed_eq_true_iff.mpr hclosed)]

/-- A session that is not closed begins with its baton, its requests stamped, and is closed
meanwhile. -/
theorem Operation.run_begin_of_not_closed (hopen : session.state ≠ .closed)
    (requests : List Request) :
    (begin requests).run session =
      (.begun ⟨session.baton, session.stamp requests⟩, session.close.2) := by
  rw [run, begin_of_not_isClosed (isClosed_eq_false_iff.mpr hopen)]

/-- A pipeline leaves the state that its response gives. -/
@[simp] theorem state_finishPipeline (session : Session) (sent : List Request)
    (response : PipelineResponse) :
    (session.finishPipeline sent response).2.state = stateAfter sent response :=
  rfl

/-- A channel exchange opens the session unless it asked to close it. -/
theorem state_finishChannel (session : Session) (sent : List Request)
    (results : List StreamResult) :
    (session.finishChannel sent results).2.state =
      if closesStream sent then session.state else .active none := by
  unfold finishChannel
  cases closesStream sent <;> rfl

/-- A channel exchange keeps the base URL. -/
theorem baseUrl_finishChannel (session : Session) (sent : List Request)
    (results : List StreamResult) :
    (session.finishChannel sent results).2.baseUrl = session.baseUrl := by
  unfold finishChannel
  cases closesStream sent <;> rfl

/-- A reply that opens a stream has the baton of the open stream, which is not empty. -/
theorem baton_of_stateAfter {sent : List Request} {response : PipelineResponse}
    {baton : Option String} (h : stateAfter sent response = .active baton) :
    ∃ text, baton = some text ∧ response.baton = some text ∧ text ≠ "" := by
  unfold stateAfter at h
  cases hbaton : nonempty? response.baton with
  | none =>
    rw [hbaton] at h
    cases h
  | some text =>
    obtain ⟨hsome, hne⟩ := nonempty?_eq_some_iff.mp hbaton
    simp only [hbaton] at h
    split at h
    · cases h
    · cases h
      exact ⟨text, rfl, hsome, hne⟩

/-- A session holds a baton exactly if it is active with it. -/
theorem baton_eq_some_iff {baton : String} :
    session.baton = some baton ↔ session.state = .active (some baton) := by
  unfold Session.baton
  cases session.state with
  | fresh => simp
  | active held => simp
  | closed => simp

/-! ## Batons and URLs -/

/-- A session that can go on: its baton, if it has one, is not empty, and there is a URL to send
to. -/
structure Sound (session : Session) : Prop where
  baton_ne_empty : session.state ≠ .active (some "")
  baseUrl : ∃ url, session.baseUrl = some url ∧ url ≠ ""

/-- A new session for a URL is sound. -/
theorem sound_ofUrl {url : String} (hurl : url ≠ "") : Sound (ofUrl url) where
  baton_ne_empty := nofun
  baseUrl := ⟨url, rfl, hurl⟩

/-- Every operation keeps a session sound, whether it fails or not. -/
theorem Sound.run (h : Sound session) (operation : Operation) :
    Sound (operation.run session).2 := by
  cases operation with
  | begin requests =>
    by_cases hclosed : session.state = .closed
    · rw [Operation.run_begin_of_closed hclosed]
      exact h
    · rw [Operation.run_begin_of_not_closed hclosed]
      exact ⟨nofun, h.baseUrl⟩
  | finishPipeline sent response =>
    refine ⟨fun hactive => ?_, ?_⟩
    · obtain ⟨text, hbaton, -, hne⟩ := baton_of_stateAfter hactive
      exact hne (Option.some.inj hbaton).symm
    · -- an empty redirect is passed over
      show ∃ url, (nonempty? response.baseUrl).or session.baseUrl = some url ∧ url ≠ ""
      cases hredirect : nonempty? response.baseUrl with
      | none => exact h.baseUrl
      | some url => exact ⟨url, rfl, (nonempty?_eq_some_iff.mp hredirect).2⟩
  | finishChannel sent results =>
    refine ⟨?_, ?_⟩
    · show (session.finishChannel sent results).2.state ≠ _
      rw [state_finishChannel]
      split
      · exact h.baton_ne_empty
      · nofun
    · show ∃ url, (session.finishChannel sent results).2.baseUrl = some url ∧ url ≠ ""
      rw [baseUrl_finishChannel]
      exact h.baseUrl
  | close => exact ⟨nofun, h.baseUrl⟩
  | markOpen => exact ⟨nofun, h.baseUrl⟩

/-- Operations leave a sound session sound. -/
theorem Sound.after (h : Sound session) (operations : List Operation) :
    Sound (after operations session) := by
  induction operations generalizing session with
  | nil => exact h
  | cons operation operations ih => exact ih (h.run operation)

/-! ## Closed sessions -/

/-- A closed session is opened only by what can open one. -/
theorem Operation.state_run_of_closed {operation : Operation} (hkeeps : ¬ operation.Reopens)
    (hclosed : session.state = .closed) : (operation.run session).2.state = .closed := by
  cases operation with
  | begin requests =>
    rw [run_begin_of_closed hclosed]
    exact hclosed
  | close => rfl
  | finishPipeline | finishChannel | markOpen => exact absurd trivial hkeeps

/-- A closed session stays closed under operations that do not reopen it. -/
theorem state_after_of_closed {operations : List Operation}
    (hkeep : ∀ operation ∈ operations, ¬ operation.Reopens) (hclosed : session.state = .closed) :
    (after operations session).state = .closed := by
  induction operations generalizing session with
  | nil => exact hclosed
  | cons operation operations ih =>
    exact ih (fun other hmem => hkeep other (List.mem_cons_of_mem _ hmem))
      (Operation.state_run_of_closed (hkeep operation List.mem_cons_self) hclosed)

/-! ## Batons that are handed out -/

/-- The baton that is handed out is the one that the session held, and it holds none from there
on. -/
theorem Operation.baton_run {operation : Operation} {baton : String}
    (h : (operation.run session).1.baton = some baton) :
    session.baton = some baton ∧ (operation.run session).2.state = .closed := by
  cases operation with
  | begin requests =>
    by_cases hclosed : session.state = .closed
    · rw [run_begin_of_closed hclosed] at h
      cases h
    · rw [run_begin_of_not_closed hclosed] at h ⊢
      exact ⟨h, rfl⟩
  | close => exact ⟨h, rfl⟩
  | finishPipeline | finishChannel | markOpen => cases h

/-- A session holds a baton that it held before, or that a reply supplied. -/
theorem Operation.held_of_run {operation : Operation} {baton : String}
    (h : (operation.run session).2.baton = some baton) :
    session.baton = some baton ∨ operation.Supplies baton := by
  rw [baton_eq_some_iff] at h
  cases operation with
  | begin requests =>
    by_cases hclosed : session.state = .closed
    · rw [run_begin_of_closed hclosed] at h
      exact .inl (baton_eq_some_iff.mpr h)
    · rw [run_begin_of_not_closed hclosed] at h
      cases h
  | finishPipeline sent response =>
    obtain ⟨text, hbaton, hsupplied, -⟩ := baton_of_stateAfter h
    cases hbaton
    exact .inr hsupplied
  | finishChannel sent results =>
    have hstate : (session.finishChannel sent results).2.state = .active (some baton) := h
    rw [state_finishChannel] at hstate
    split at hstate
    · exact .inl (baton_eq_some_iff.mpr hstate)
    · cases hstate
  | close => cases h
  | markOpen => cases h

/-- A baton held after some operations was held before or supplied by one of them. -/
theorem held_of_after {operations : List Operation} {baton : String}
    (h : (after operations session).baton = some baton) :
    session.baton = some baton ∨ ∃ operation ∈ operations, operation.Supplies baton := by
  induction operations generalizing session with
  | nil => exact .inl h
  | cons operation operations ih =>
    rcases ih h with hheld | ⟨later, hmem, hsupplies⟩
    · exact (Operation.held_of_run hheld).imp_right fun hsupplies =>
        ⟨operation, List.mem_cons_self, hsupplies⟩
    · exact .inr ⟨later, List.mem_cons_of_mem _ hmem, hsupplies⟩

/-! ## All of it -/

/-- What holds of a session at any point of its life, and of what may follow. -/
structure Orderly (session : Session) : Prop where
  sound : Sound session
  refused_iff : ∀ requests, (∃ error, ((Operation.begin requests).run session).1 = .refused error) ↔
    session.state = .closed
  /-- There is one reason to refuse, and nothing changes. -/
  refused : ∀ requests error, ((Operation.begin requests).run session).1 = .refused error →
    error = .streamClosed ∧ ((Operation.begin requests).run session).2 = session
  /-- While an exchange is under way the session is closed and begins no other. -/
  under_way : ∀ requests request, ((Operation.begin requests).run session).1 = .begun request →
    let begun := ((Operation.begin requests).run session).2
    begun.state = .closed ∧
      ∀ between, (∀ operation ∈ between, ¬ operation.Reopens) →
        ∀ again, ((Operation.begin again).run (after between begun)).1 = .refused .streamClosed
  /-- A baton is not handed out twice, unless a reply supplies it in between. -/
  handed_out_once : ∀ (first : Operation) (between : List Operation) (second : Operation)
    (baton : String),
    (first.run session).1.baton = some baton →
    (second.run (after between (first.run session).2)).1.baton = some baton →
    ∃ operation ∈ between, operation.Supplies baton

/-- A sound session is orderly. -/
theorem Sound.orderly (h : Sound session) : Orderly session where
  sound := h
  refused_iff requests := by
    by_cases hclosed : session.state = .closed
    · rw [Operation.run_begin_of_closed hclosed]
      exact iff_of_true ⟨_, rfl⟩ hclosed
    · rw [Operation.run_begin_of_not_closed hclosed]
      exact iff_of_false nofun hclosed
  refused requests error hrefused := by
    by_cases hclosed : session.state = .closed
    · rw [Operation.run_begin_of_closed hclosed] at hrefused ⊢
      cases hrefused
      exact ⟨rfl, rfl⟩
    · rw [Operation.run_begin_of_not_closed hclosed] at hrefused
      cases hrefused
  under_way requests request hbegun := by
    by_cases hclosed : session.state = .closed
    · rw [Operation.run_begin_of_closed hclosed] at hbegun
      cases hbegun
    · rw [Operation.run_begin_of_not_closed hclosed]
      refine ⟨rfl, fun between hkeep again => ?_⟩
      rw [Operation.run_begin_of_closed (state_after_of_closed hkeep rfl)]
  handed_out_once first between second baton hfirst hsecond := by
    obtain ⟨-, hclosed⟩ := Operation.baton_run hfirst
    obtain ⟨hheld, -⟩ := Operation.baton_run hsecond
    refine (held_of_after hheld).resolve_left fun hnow => ?_
    rw [baton_eq_some_iff, hclosed] at hnow
    cases hnow

/-- A session that began with a URL is orderly whatever was done with it. -/
theorem orderly_after {url : String} (hurl : url ≠ "") (operations : List Operation) :
    Orderly (after operations (ofUrl url)) :=
  ((sound_ofUrl hurl).after operations).orderly

/-- A reply with more answers than requests gives an error and opens the stream all the same; a
baton that it supplies twice is handed out twice. -/
theorem orderly_after_repeated_baton :
    let reply : PipelineResponse := { baton := some "b", baseUrl := some "", results := [.unknown] }
    let session := after [.begin [], .finishPipeline [] reply] (ofUrl "http://db")
    "http://db" ≠ "" ∧ Orderly session ∧
      session = { baseUrl := some "http://db", state := .active (some "b") } ∧
      (Operation.close.run session).1.baton = some "b" ∧
      ((Operation.begin []).run
        (after [.finishPipeline [] reply] (Operation.close.run session).2)).1.baton = some "b" ∧
      ∃ operation ∈ [Operation.finishPipeline [] reply], operation.Supplies "b" := by
  intro reply session
  have horderly : Orderly session := orderly_after (by decide) _
  have hsession : session = { baseUrl := some "http://db", state := .active (some "b") } := by
    decide
  exact ⟨by decide, horderly, hsession, rfl, rfl,
    horderly.handed_out_once .close _ (.begin []) "b" rfl rfl⟩

end SqlStream.Session
