import SqlStream.Proofs.Batch.Fates
import SqlStream.Proofs.Session

/-!
# Checking the fates of requests

The fates of the requests of an exchange are checked one after another, and each must be an answer
of the kind that its request wants (`Response.Suits`). The first one that is not decides the error
(`Misfit`); more fates than requests are an error before all others (`Checked`). Both ways to finish
an exchange check the fates in this way.
-/

namespace SqlStream

open SqlStream.Wire

/-- An answer of the kind that a request wants. -/
inductive Wire.Response.Suits : Response → Request → Prop where
  | execute (result : StatementResult) (statement : Statement) :
      Suits (.execute result) (.execute statement)
  | batch (reply : BatchResult) (steps : Batch) : Suits (.batch reply) (.batch steps)
  | storeSql (sql : String) (sqlId : Int32) : Suits .storeSql (.storeSql sql sqlId)
  | closeSql (sqlId : Int32) : Suits .closeSql (.closeSql sqlId)
  | close : Suits .close .close

/-- What is wrong with the fate of a request, and the error that says so. -/
inductive Misfit (index : Nat) (request : Request) : Option StreamResult → Error → Prop where
  | refused (error : ServerError) :
      Misfit index request (some (.error (some error))) (.server error)
  | missing : Misfit index request none (.protocol (.noResponse index))
  | emptyAnswer : Misfit index request (some (.ok none)) (.protocol (.noResponse index))
  | emptyError : Misfit index request (some (.error none)) (.protocol (.noResponse index))
  | unknown : Misfit index request (some .unknown)
      (.protocol (.unknownResponse index request.expected))
  | otherKind {response : Response} : ¬ response.Suits request →
      Misfit index request (some (.ok (some response)))
        (.protocol (.unknownResponse index request.expected))

/-- True if the fate at an index is an answer of the kind that the request at that index wants. -/
def AnsweredAt (sent : List Request) (results : List StreamResult) (index : Nat) : Prop :=
  ∃ request response, sent[index]? = some request ∧ results[index]? = some (.ok (some response)) ∧
    response.Suits request

/-- What comes of the fates of requests. -/
inductive Checked (sent : List Request) (results : List StreamResult) :
    Except Error (List Response) → Prop where
  | answered {responses : List Response} : List.Forall₂ Response.Suits responses sent →
      results = responses.map (fun response => .ok (some response)) →
      Checked sent results (.ok responses)
  | tooMany : sent.length < results.length →
      Checked sent results (.error (.protocol (.resultCount sent.length results.length)))
  | misfit {index : Nat} {request : Request} {error : Error} : results.length ≤ sent.length →
      sent[index]? = some request → (∀ earlier < index, AnsweredAt sent results earlier) →
      Misfit index request results[index]? error → Checked sent results (.error error)

/-! ## One fate -/

/-- An answer suits a request if its kind is the one that the request wants. -/
theorem Wire.Response.kind_eq_expected_iff {response : Response} {request : Request} :
    response.kind = request.expected ↔ response.Suits request := by
  constructor
  · intro hkind
    cases request with
    | execute statement =>
      cases response <;> simp [kind, Request.expected] at hkind
      exact .execute _ statement
    | batch steps =>
      cases response <;> simp [kind, Request.expected] at hkind
      exact .batch _ steps
    | storeSql sql sqlId =>
      cases response <;> simp [kind, Request.expected] at hkind
      exact .storeSql sql sqlId
    | closeSql sqlId =>
      cases response <;> simp [kind, Request.expected] at hkind
      exact .closeSql sqlId
    | close =>
      cases response <;> simp [kind, Request.expected] at hkind
      exact .close
  · intro hsuits
    cases hsuits <;> rfl

section

variable {index : Nat} {request : Request} {fate : Option StreamResult}

/-- A fate is accepted exactly if it is an answer that suits its request. -/
theorem checkResult_eq_ok_iff {response : Response} : checkResult index request fate = .ok response ↔
    fate = some (.ok (some response)) ∧ response.Suits request := by
  constructor
  · intro h
    match fate with
    | some (.ok (some given)) =>
      rw [checkResult] at h
      split at h
      · next hkind =>
        cases h
        exact ⟨rfl, Response.kind_eq_expected_iff.mp hkind⟩
      · cases h
    | none | some (.ok none) | some (.error none) | some (.error (some _)) | some .unknown => cases h
  · intro ⟨hfate, hsuits⟩
    subst hfate
    exact if_pos (Response.kind_eq_expected_iff.mpr hsuits)

/-- A fate is refused exactly with the error of its misfit. -/
theorem checkResult_eq_error_iff {error : Error} :
    checkResult index request fate = .error error ↔ Misfit index request fate error := by
  constructor
  · intro h
    match fate with
    | none =>
      cases h
      exact .missing
    | some (.ok none) =>
      cases h
      exact .emptyAnswer
    | some (.error none) =>
      cases h
      exact .emptyError
    | some (.error (some refusal)) =>
      cases h
      exact .refused refusal
    | some .unknown =>
      cases h
      exact .unknown
    | some (.ok (some response)) =>
      rw [checkResult] at h
      split at h
      · cases h
      · next hkind =>
        cases h
        exact .otherKind (mt Response.kind_eq_expected_iff.mpr hkind)
  · intro h
    cases h with
    | otherKind hother => exact if_neg (mt Response.kind_eq_expected_iff.mp hother)
    | _ => rfl

end

/-! ## All fates -/

section

variable {request : Request} {sent : List Request} {results : List StreamResult}

/-- The first request is answered by the first fate. -/
theorem answeredAt_zero_iff : AnsweredAt (request :: sent) results 0 ↔
    ∃ response, results.head? = some (.ok (some response)) ∧ response.Suits request := by
  rw [List.head?_eq_getElem?]
  constructor
  · intro ⟨asked, response, hasked, hresult, hsuits⟩
    cases hasked
    exact ⟨response, hresult, hsuits⟩
  · intro ⟨response, hresult, hsuits⟩
    exact ⟨request, response, rfl, hresult, hsuits⟩

/-- A later request is answered by a later fate. -/
theorem answeredAt_succ_iff {index : Nat} : AnsweredAt (request :: sent) results (index + 1) ↔
    AnsweredAt sent results.tail index := by
  unfold AnsweredAt
  rw [List.getElem?_cons_succ, List.getElem?_tail]

/-- There are answers if every fate is one, of the kind that its request wants. -/
theorem checkResultsFrom_eq_ok_iff {first : Nat} {responses : List Response}
    (hcount : results.length ≤ sent.length) :
    checkResultsFrom first sent results = .ok responses ↔
      List.Forall₂ Response.Suits responses sent ∧
        results = responses.map fun response => .ok (some response) := by
  induction sent generalizing first results responses with
  | nil =>
    obtain rfl : results = [] := List.length_eq_zero_iff.mp (Nat.le_zero.mp hcount)
    rw [checkResultsFrom, Except.ok.injEq, List.forall₂_nil_right_iff]
    constructor
    · intro h
      subst h
      exact ⟨rfl, rfl⟩
    · intro h
      exact h.1.symm
  | cons request sent ih =>
    have htail : results.tail.length ≤ sent.length := by
      rw [List.length_tail]
      exact Nat.sub_le_of_le_add hcount
    constructor
    · intro h
      obtain ⟨response, hresponse, h⟩ := bind_eq_ok_iff.mp h
      obtain ⟨rest, hrest, h⟩ := bind_eq_ok_iff.mp h
      obtain ⟨hfate, hsuits⟩ := checkResult_eq_ok_iff.mp hresponse
      obtain ⟨hall, hresults⟩ := (ih htail).mp hrest
      cases h
      refine ⟨.cons hsuits hall, ?_⟩
      rw [List.map_cons, ← hresults]
      exact (List.cons_head?_tail hfate).symm
    · intro ⟨hall, hresults⟩
      cases hall with
      | @cons response _ rest _ hsuits hall =>
        subst hresults
        exact bind_eq_ok_iff.mpr ⟨response, checkResult_eq_ok_iff.mpr ⟨rfl, hsuits⟩,
          bind_eq_ok_iff.mpr ⟨rest, (ih htail).mpr ⟨hall, rfl⟩, rfl⟩⟩

/-- The first fate that is no proper answer decides the error. -/
theorem checkResultsFrom_eq_error_iff {first : Nat} {error : Error} :
    checkResultsFrom first sent results = .error error ↔ ∃ index request,
      sent[index]? = some request ∧ (∀ earlier < index, AnsweredAt sent results earlier) ∧
        Misfit (first + index) request results[index]? error := by
  induction sent generalizing first results with
  | nil => exact iff_of_false nofun fun ⟨_, _, hasked, _⟩ => nomatch hasked
  | cons asked sent ih =>
    constructor
    · intro h
      rcases bind_eq_error_iff.mp h with hfirst | ⟨response, hresponse, h⟩
      · refine ⟨0, asked, rfl, nofun, ?_⟩
        rw [← List.head?_eq_getElem?]
        exact checkResult_eq_error_iff.mp hfirst
      · rcases bind_eq_error_iff.mp h with hrest | ⟨_, _, hpure⟩
        · obtain ⟨index, request, hasked, hearlier, hmisfit⟩ := ih.mp hrest
          refine ⟨index + 1, request, hasked, fun earlier hlt => ?_, ?_⟩
          · cases earlier with
            | zero => exact answeredAt_zero_iff.mpr ⟨response, checkResult_eq_ok_iff.mp hresponse⟩
            | succ earlier =>
              exact answeredAt_succ_iff.mpr (hearlier earlier (Nat.lt_of_succ_lt_succ hlt))
          · rwa [List.getElem?_tail, Nat.add_right_comm] at hmisfit
        · cases hpure
    · intro ⟨index, request, hasked, hearlier, hmisfit⟩
      cases index with
      | zero =>
        cases hasked
        rw [← List.head?_eq_getElem?] at hmisfit
        exact bind_eq_error_iff.mpr (.inl (checkResult_eq_error_iff.mpr hmisfit))
      | succ index =>
        obtain ⟨response, hresponse⟩ := answeredAt_zero_iff.mp (hearlier 0 index.succ_pos)
        refine bind_eq_error_iff.mpr (.inr ⟨response, checkResult_eq_ok_iff.mpr hresponse,
          bind_eq_error_iff.mpr (.inl (ih.mpr ⟨index, request, hasked, ?_, ?_⟩))⟩)
        · exact fun earlier hlt => answeredAt_succ_iff.mp (hearlier _ (Nat.succ_lt_succ hlt))
        · rwa [List.getElem?_tail, Nat.add_right_comm]

/-- Checking the fates of requests gives what comes of them, and nothing else. -/
theorem checkResults_eq_iff {outcome : Except Error (List Response)} :
    checkResults sent results = outcome ↔ Checked sent results outcome := by
  unfold checkResults
  by_cases hmany : sent.length < results.length
  · rw [if_pos hmany]
    constructor
    · intro h
      subst h
      exact .tooMany hmany
    · intro h
      cases h with
      | tooMany => rfl
      | answered hall hresults =>
        rw [hresults, List.length_map, hall.length_eq] at hmany
        exact absurd hmany (Nat.lt_irrefl _)
      | misfit hfew => exact absurd hmany (Nat.not_lt.mpr hfew)
  · have hfew : results.length ≤ sent.length := Nat.le_of_not_lt hmany
    rw [if_neg hmany]
    cases outcome with
    | ok responses =>
      rw [checkResultsFrom_eq_ok_iff hfew]
      constructor
      · intro ⟨hall, hresults⟩
        exact .answered hall hresults
      · intro h
        cases h with
        | answered hall hresults => exact ⟨hall, hresults⟩
    | error error =>
      rw [checkResultsFrom_eq_error_iff]
      constructor
      · intro ⟨index, request, hasked, hearlier, hmisfit⟩
        rw [Nat.zero_add] at hmisfit
        exact .misfit hfew hasked hearlier hmisfit
      · intro h
        cases h with
        | tooMany hmany => exact absurd hfew (Nat.not_le.mpr hmany)
        | @misfit index request _ _ hasked hearlier hmisfit =>
          exact ⟨index, request, hasked, hearlier, by rwa [Nat.zero_add]⟩

/-- Answers come to requests one by one. -/
theorem suits_of_checkResults {responses : List Response}
    (h : checkResults sent results = .ok responses) :
    List.Forall₂ Response.Suits responses sent := by
  cases checkResults_eq_iff.mp h with
  | answered hall _ => exact hall

end

end SqlStream
