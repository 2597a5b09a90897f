import SqlStream.Proofs.Answers
import SqlStream.Proofs.Channel.AnyOrder

/-!
# The last answer counts

While an exchange waits for the fates of its requests, an answer may come to a request that has one
already. It takes the place of the earlier one. So an exchange that succeeds has read answers to its
own requests alone, at least one to each of them and none behind the last that it waited for
(`Settles`), and it gives the last one to each request (`send_gives_last_answers`). It has read one
answer to each request exactly if it has read as many frames as it has requests.
-/

namespace SqlStream.Channel

open SqlStream.Wire

/-! ## Frames and answers -/

/-- A frame that is taken in while requests are under way is an answer to one of them. -/
theorem takeFrame_eq_ok_iff {slots next : Slots} {text : String} :
    takeFrame slots text = .ok next ↔ ∃ answered, Answers text answered ∧
      fillSlot answered.1 (Answer.result answered.2) slots = some next := by
  constructor
  · intro h
    unfold takeFrame at h
    obtain ⟨message, hread, h⟩ := bind_eq_ok_iff.mp h
    have hparse : ServerMessage.parse? text = some message := by
      unfold readFrame at hread
      split at hread <;> simp_all
    have htaken : ∀ {requestId result}, takeAnswer slots requestId result = .ok next →
        fillSlot requestId result slots = some next := by
      intro requestId result h
      unfold takeAnswer at h
      split at h <;> simp_all
    cases message with
    | responseOk requestId response => exact ⟨⟨requestId, .ok response⟩, hparse, htaken h⟩
    | responseError requestId error => exact ⟨⟨requestId, .error error⟩, hparse, htaken h⟩
    | _ => cases h
  · rintro ⟨answered, hanswers, hfilled⟩
    rw [takeFrame_of_answers hanswers, takeAnswer, hfilled]

/-- The answers to a request among those that were read, in their order. -/
def answersTo (requestId : Int32) (read : List (Int32 × Answer)) : List Answer :=
  (read.filter fun answered => answered.1 = requestId).map Prod.snd

/-- The answers to a request in two batches of frames are those of both in order. -/
theorem answersTo_append (requestId : Int32) (read more : List (Int32 × Answer)) :
    answersTo requestId (read ++ more) = answersTo requestId read ++ answersTo requestId more := by
  simp [answersTo]

/-- A frame answers its own request. -/
theorem answersTo_singleton_self (answered : Int32 × Answer) :
    answersTo answered.1 [answered] = [answered.2] := by
  simp [answersTo]

/-- A frame answers no other request. -/
theorem answersTo_singleton_of_ne {requestId : Int32} {answered : Int32 × Answer}
    (h : answered.1 ≠ requestId) : answersTo requestId [answered] = [] := by
  simp [answersTo, h]

/-! ## Slots -/

/-- The slots of an exchange behind the answers that were read. -/
def slotsBehind (requestIds : List Int32) (read : List (Int32 × Answer)) : Slots :=
  requestIds.map fun requestId =>
    (requestId, (answersTo requestId read).getLast?.map Answer.result)

/-- A frame that answers none of the requests fills no slot. -/
theorem slotsBehind_of_not_mem {requestIds : List Int32} {answered : Int32 × Answer}
    (h : answered.1 ∉ requestIds) (read : List (Int32 × Answer)) :
    slotsBehind requestIds (read ++ [answered]) = slotsBehind requestIds read := by
  refine List.map_congr_left fun requestId hmem => ?_
  have hne : answered.1 ≠ requestId := fun heq => h (heq ▸ hmem)
  rw [answersTo_append, answersTo_singleton_of_ne hne, List.append_nil]

/-- An answer fills the slot of its request, in the place of an earlier answer. -/
theorem fillSlot_slotsBehind {requestIds : List Int32} (hnodup : requestIds.Nodup)
    (answered : Int32 × Answer) (read : List (Int32 × Answer)) :
    fillSlot answered.1 (Answer.result answered.2) (slotsBehind requestIds read) =
      if answered.1 ∈ requestIds then some (slotsBehind requestIds (read ++ [answered]))
      else none := by
  induction requestIds with
  | nil => rfl
  | cons requestId requestIds ih =>
    rw [List.nodup_cons] at hnodup
    have hcons : ∀ read, slotsBehind (requestId :: requestIds) read =
        (requestId, (answersTo requestId read).getLast?.map Answer.result) ::
          slotsBehind requestIds read := fun _ => rfl
    rw [hcons, hcons, fillSlot]
    by_cases hfirst : requestId = answered.1
    · subst hfirst
      rw [if_pos rfl, if_pos List.mem_cons_self, slotsBehind_of_not_mem hnodup.1,
        answersTo_append, answersTo_singleton_self, List.getLast?_concat]
      rfl
    · have hmem : answered.1 ∈ requestId :: requestIds ↔ answered.1 ∈ requestIds := by
        simp [Ne.symm hfirst]
      rw [if_neg hfirst, ih hnodup.2, answersTo_append, answersTo_singleton_of_ne (Ne.symm hfirst),
        List.append_nil]
      simp only [hmem]
      split <;> rfl

/-- True of slots of which a number has two, the later one of them empty. -/
def HasShadowed : Slots → Prop
  | [] => False
  | slot :: slots => (slot.1, none) ∈ slots ∨ HasShadowed slots

/-- An answer leaves the slots of other numbers as they are. -/
theorem mem_of_fillSlot {slots next : Slots} {requestId other : Int32} {result : StreamResult}
    {fate : Option StreamResult} (hfilled : fillSlot requestId result slots = some next)
    (hother : other ≠ requestId) (hmem : (other, fate) ∈ slots) : (other, fate) ∈ next := by
  induction slots generalizing next with
  | nil => cases hmem
  | cons slot slots ih =>
    rw [fillSlot] at hfilled
    split at hfilled
    · next hfirst =>
      cases hfilled
      rcases List.mem_cons.mp hmem with heq | hrest
      · exact absurd (congrArg Prod.fst heq) (hfirst ▸ hother)
      · exact List.mem_cons_of_mem _ hrest
    · obtain ⟨rest, hrest, rfl⟩ := Option.map_eq_some_iff.mp hfilled
      rcases List.mem_cons.mp hmem with heq | hin
      · exact heq ▸ List.mem_cons_self
      · exact List.mem_cons_of_mem _ (ih hrest hin)

/-- An answer is noted in the first slot of its number, so a later one stays empty. -/
theorem HasShadowed.fillSlot {slots next : Slots} {requestId : Int32} {result : StreamResult}
    (h : HasShadowed slots) (hfilled : fillSlot requestId result slots = some next) :
    HasShadowed next := by
  induction slots generalizing next with
  | nil => cases h
  | cons slot slots ih =>
    rw [Channel.fillSlot] at hfilled
    split at hfilled
    · next hfirst =>
      cases hfilled
      exact h.imp (fun hmem => hfirst ▸ hmem) id
    · next hother =>
      obtain ⟨rest, hrest, rfl⟩ := Option.map_eq_some_iff.mp hfilled
      exact h.imp (mem_of_fillSlot hrest hother) fun hshadowed => ih hshadowed hrest

/-- A shadowed slot is open. -/
theorem HasShadowed.exists_none {slots : Slots} (h : HasShadowed slots) :
    ∃ slot ∈ slots, slot.2 = none := by
  induction slots with
  | nil => cases h
  | cons slot slots ih =>
    rcases h with hmem | hshadowed
    · exact ⟨_, List.mem_cons_of_mem _ hmem, rfl⟩
    · obtain ⟨empty, hmem, hnone⟩ := ih hshadowed
      exact ⟨empty, List.mem_cons_of_mem _ hmem, hnone⟩

/-- Slots whose ids repeat have a shadowed one. -/
theorem hasShadowed_of_not_nodup {requestIds : List Int32} (h : ¬ requestIds.Nodup) :
    HasShadowed (requestIds.map fun requestId => (requestId, none)) := by
  induction requestIds with
  | nil => exact absurd List.nodup_nil h
  | cons requestId requestIds ih =>
    rw [List.nodup_cons, not_and_or, not_not] at h
    exact h.imp (List.mem_map_of_mem (f := fun requestId => (requestId, none))) ih

/-! ## Reading answers -/

/-- Where a request has no fate yet, the next frame must be an answer. -/
theorem awaitAnswers_eq_ok_of_open {slots : Slots} (hopen : ∃ slot ∈ slots, slot.2 = none)
    {inbox rest : List Incoming} {results : List StreamResult} :
    awaitAnswers slots inbox = (.ok results, rest) ↔ ∃ text answered next remaining,
      inbox = .frame text :: remaining ∧ Answers text answered ∧
        fillSlot answered.1 (Answer.result answered.2) slots = some next ∧
        awaitAnswers next remaining = (.ok results, rest) := by
  obtain ⟨slot, hmem, hnone⟩ := hopen
  have hnot : ¬ slots.all (fun slot => slot.2.isSome) = true := fun hall => by
    simpa [hnone] using List.all_eq_true.mp hall slot hmem
  rw [awaitAnswers.eq_def slots inbox, if_neg hnot]
  constructor
  · intro h
    cases inbox with
    | nil => cases h
    | cons incoming inbox =>
      cases incoming with
      | failure message => cases h
      | frame text =>
        cases htaken : takeFrame slots text with
        | error error =>
          simp only [htaken] at h
          cases h
        | ok next =>
          simp only [htaken] at h
          obtain ⟨answered, hanswers, hfilled⟩ := takeFrame_eq_ok_iff.mp htaken
          exact ⟨text, answered, next, inbox, rfl, hanswers, hfilled, h⟩
  · rintro ⟨text, answered, next, remaining, rfl, hanswers, hfilled, h⟩
    simp only [takeFrame_eq_ok_iff.mpr ⟨answered, hanswers, hfilled⟩]
    exact h

/-- An exchange in which two requests have one number does not end with answers. -/
theorem HasShadowed.awaitAnswers_ne_ok {slots : Slots} (h : HasShadowed slots)
    (inbox rest : List Incoming) (results : List StreamResult) :
    awaitAnswers slots inbox ≠ (.ok results, rest) := by
  induction inbox generalizing slots with
  | nil =>
    rw [Ne, awaitAnswers_eq_ok_of_open h.exists_none]
    exact nofun
  | cons incoming inbox ih =>
    rw [Ne, awaitAnswers_eq_ok_of_open h.exists_none]
    rintro ⟨text, answered, next, remaining, hinbox, -, hfilled, hrest⟩
    obtain ⟨-, rfl⟩ := List.cons.inj hinbox
    exact ih (h.fillSlot hfilled) hrest

/-- Answers that settle an exchange, behind earlier ones: each is to a request of it, each of its
requests has one, and none was read when each had one already. -/
structure Settles (requestIds : List Int32) (earlier read : List (Int32 × Answer)) : Prop where
  asked : ∀ answered ∈ read, answered.1 ∈ requestIds
  answered : ∀ requestId ∈ requestIds, answersTo requestId (earlier ++ read) ≠ []
  needed : ∀ before last after, read = before ++ last :: after →
    ∃ requestId ∈ requestIds, answersTo requestId (earlier ++ before) = []

/-- No frame is needed exactly if every request is answered already. -/
theorem settles_nil_iff {requestIds : List Int32} {earlier : List (Int32 × Answer)} :
    Settles requestIds earlier [] ↔ ∀ requestId ∈ requestIds, answersTo requestId earlier ≠ [] := by
  constructor
  · intro h
    simpa using h.answered
  · intro h
    exact ⟨nofun, by simpa using h, fun _ _ _ heq => absurd heq (by simp)⟩

/-- A frame belongs to the ones read if it answers a request while one is still open. -/
theorem settles_cons_iff {requestIds : List Int32} {earlier read : List (Int32 × Answer)}
    {first : Int32 × Answer} :
    Settles requestIds earlier (first :: read) ↔ first.1 ∈ requestIds ∧
      (∃ requestId ∈ requestIds, answersTo requestId earlier = []) ∧
      Settles requestIds (earlier ++ [first]) read := by
  constructor
  · intro h
    refine ⟨h.asked first List.mem_cons_self, ?_, ?_, ?_, ?_⟩
    · simpa using h.needed [] first read rfl
    · exact fun answered hmem => h.asked answered (List.mem_cons_of_mem _ hmem)
    · simpa using h.answered
    · rintro before last after rfl
      simpa using h.needed (first :: before) last after rfl
  · rintro ⟨hfirst, hopen, h⟩
    refine ⟨?_, by simpa using h.answered, ?_⟩
    · rintro answered (_ | ⟨_, hmem⟩)
      · exact hfirst
      · exact h.asked answered hmem
    · intro before last after heq
      cases before with
      | nil => simpa using hopen
      | cons _ before =>
        obtain ⟨rfl, rfl⟩ := List.cons.inj heq
        simpa using h.needed before last after rfl

/-- The fate that the last answer to a request is for it. -/
def LastFate (read : List (Int32 × Answer)) (requestId : Int32) (result : StreamResult) : Prop :=
  ∃ answer, (answersTo requestId read).getLast? = some answer ∧ Answer.result answer = result

/-- A slot is open exactly if a request has no answer yet. -/
theorem exists_none_slotsBehind_iff {requestIds : List Int32} {read : List (Int32 × Answer)} :
    (∃ slot ∈ slotsBehind requestIds read, slot.2 = none) ↔
      ∃ requestId ∈ requestIds, answersTo requestId read = [] := by
  simp [slotsBehind]

/-- The fates in filled slots are those that the last answers are. -/
theorem filterMap_slotsBehind_eq_iff {requestIds : List Int32} {read : List (Int32 × Answer)}
    (hsettled : ∀ requestId ∈ requestIds, answersTo requestId read ≠ [])
    {results : List StreamResult} :
    (slotsBehind requestIds read).filterMap Prod.snd = results ↔
      List.Forall₂ (LastFate read) requestIds results := by
  induction requestIds generalizing results with
  | nil =>
    rw [List.forall₂_nil_left_iff]
    exact eq_comm
  | cons requestId requestIds ih =>
    obtain ⟨answer, hanswer⟩ := Option.ne_none_iff_exists'.mp
      (List.getLast?_eq_none_iff.not.mpr (hsettled requestId List.mem_cons_self))
    have hrest := fun results => @ih
      (fun other hmem => hsettled other (List.mem_cons_of_mem _ hmem)) results
    have hcons : (slotsBehind (requestId :: requestIds) read).filterMap Prod.snd =
        Answer.result answer :: (slotsBehind requestIds read).filterMap Prod.snd := by
      simp [slotsBehind, hanswer]
    rw [hcons]
    constructor
    · rintro rfl
      exact .cons ⟨answer, hanswer, rfl⟩ ((hrest _).mp rfl)
    · rintro (_ | @⟨_, result, _, results, ⟨other, hother, rfl⟩, hresults⟩)
      obtain rfl := Option.some.inj (hanswer.symm.trans hother)
      rw [(hrest _).mpr hresults]

/-- Once each request has an answer, the exchange has its fates. -/
theorem awaitAnswers_eq_ok_of_settled {requestIds : List Int32} {read : List (Int32 × Answer)}
    (hsettled : ∀ requestId ∈ requestIds, answersTo requestId read ≠ [])
    {inbox rest : List Incoming} {results : List StreamResult} :
    awaitAnswers (slotsBehind requestIds read) inbox = (.ok results, rest) ↔
      inbox = rest ∧ List.Forall₂ (LastFate read) requestIds results := by
  have hall : (slotsBehind requestIds read).all (fun slot => slot.2.isSome) = true := by
    simpa [slotsBehind] using hsettled
  unfold awaitAnswers
  rw [if_pos hall, Prod.mk.injEq, Except.ok.injEq, and_comm]
  exact and_congr_right fun _ => filterMap_slotsBehind_eq_iff hsettled

/-- The answers that settle an exchange stand at the front of the inbox, and each request has the
fate that the last of them is for it. -/
def SettledBy (requestIds : List Int32) (earlier : List (Int32 × Answer))
    (inbox : List Incoming) (results : List StreamResult) (rest : List Incoming) : Prop :=
  ∃ texts read, inbox = texts.map .frame ++ rest ∧ List.Forall₂ Answers texts read ∧
    Settles requestIds earlier read ∧
    List.Forall₂ (LastFate (earlier ++ read)) requestIds results

section

variable {requestIds : List Int32} {earlier : List (Int32 × Answer)} {inbox rest : List Incoming}
  {results : List StreamResult}

/-- Once every request is answered nothing more is read. -/
theorem settledBy_of_settled_iff
    (hsettled : ∀ requestId ∈ requestIds, answersTo requestId earlier ≠ []) :
    SettledBy requestIds earlier inbox results rest ↔
      inbox = rest ∧ List.Forall₂ (LastFate earlier) requestIds results := by
  constructor
  · rintro ⟨texts, read, rfl, hanswers, hsettles, hfates⟩
    cases hanswers with
    | nil => exact ⟨rfl, by simpa using hfates⟩
    | cons _ _ =>
      obtain ⟨-, ⟨requestId, hmem, hnone⟩, -⟩ := settles_cons_iff.mp hsettles
      exact absurd hnone (hsettled requestId hmem)
  · rintro ⟨rfl, hfates⟩
    exact ⟨[], [], rfl, .nil, settles_nil_iff.mpr hsettled, by simpa using hfates⟩

/-- While a request is open the next frame must answer one of the requests. -/
theorem settledBy_of_open_iff
    (hopen : ∃ requestId ∈ requestIds, answersTo requestId earlier = []) :
    SettledBy requestIds earlier inbox results rest ↔ ∃ text answered remaining,
      inbox = .frame text :: remaining ∧ Answers text answered ∧ answered.1 ∈ requestIds ∧
        SettledBy requestIds (earlier ++ [answered]) remaining results rest := by
  constructor
  · rintro ⟨texts, read, rfl, hanswers, hsettles, hfates⟩
    cases hanswers with
    | nil =>
      obtain ⟨requestId, hmem, hnone⟩ := hopen
      exact absurd hnone (settles_nil_iff.mp hsettles requestId hmem)
    | @cons text answered texts read hfirst hanswers =>
      obtain ⟨hasked, -, hsettles⟩ := settles_cons_iff.mp hsettles
      exact ⟨text, answered, texts.map .frame ++ rest, rfl, hfirst, hasked, texts, read, rfl,
        hanswers, hsettles, by simpa using hfates⟩
  · rintro ⟨text, answered, _, rfl, hfirst, hasked, texts, read, rfl, hanswers, hsettles, hfates⟩
    exact ⟨text :: texts, answered :: read, rfl, .cons hfirst hanswers,
      settles_cons_iff.mpr ⟨hasked, hopen, hsettles⟩, by simpa using hfates⟩

/-- An exchange whose requests have numbers of their own ends with answers exactly if answers that
settle it come in. -/
theorem awaitAnswers_slotsBehind_eq_ok_iff {requestIds : List Int32} (hnodup : requestIds.Nodup)
    {earlier : List (Int32 × Answer)} {inbox rest : List Incoming} {results : List StreamResult} :
    awaitAnswers (slotsBehind requestIds earlier) inbox = (.ok results, rest) ↔
      SettledBy requestIds earlier inbox results rest := by
  by_cases hopen : ∃ requestId ∈ requestIds, answersTo requestId earlier = []
  · rw [awaitAnswers_eq_ok_of_open (exists_none_slotsBehind_iff.mpr hopen),
      settledBy_of_open_iff hopen]
    simp only [fillSlot_slotsBehind hnodup]
    constructor
    · rintro ⟨text, answered, next, remaining, rfl, hanswers, hfilled, hrest⟩
      obtain ⟨hasked, hnext⟩ := Option.ite_none_right_eq_some.mp hfilled
      obtain rfl := Option.some.inj hnext
      exact ⟨text, answered, remaining, rfl, hanswers, hasked,
        (awaitAnswers_slotsBehind_eq_ok_iff hnodup).mp hrest⟩
    · rintro ⟨text, answered, remaining, rfl, hanswers, hasked, hrest⟩
      exact ⟨text, answered, _, remaining, rfl, hanswers, if_pos hasked,
        (awaitAnswers_slotsBehind_eq_ok_iff hnodup).mpr hrest⟩
  · have hsettled : ∀ requestId ∈ requestIds, answersTo requestId earlier ≠ [] := by
      simpa using hopen
    rw [awaitAnswers_eq_ok_of_settled hsettled, settledBy_of_settled_iff hsettled]
termination_by inbox.length

/-- An exchange ends with answers exactly if its requests have numbers of their own and answers that
settle it come in. -/
theorem awaitAnswers_eq_ok_iff :
    awaitAnswers (requestIds.map fun requestId => (requestId, none)) inbox = (.ok results, rest) ↔
      requestIds.Nodup ∧ SettledBy requestIds [] inbox results rest := by
  by_cases hnodup : requestIds.Nodup
  · have hnone : requestIds.map (fun requestId => (requestId, none)) = slotsBehind requestIds [] :=
      rfl
    rw [and_iff_right hnodup, hnone]
    exact awaitAnswers_slotsBehind_eq_ok_iff hnodup
  · exact iff_of_false ((hasShadowed_of_not_nodup hnodup).awaitAnswers_ne_ok inbox rest results)
      fun h => hnodup h.1

end

/-! ## How often requests are answered -/

/-- A request has as many answers as frames that carry its id. -/
theorem length_answersTo (requestId : Int32) (read : List (Int32 × Answer)) :
    (answersTo requestId read).length = (read.map Prod.fst).count requestId := by
  induction read with
  | nil => rfl
  | cons answered read ih =>
    rw [← List.singleton_append, answersTo_append, List.length_append, ih, List.map_append,
      List.count_append]
    by_cases h : answered.1 = requestId
    · simp [← h, answersTo_singleton_self]
    · simp [h, answersTo_singleton_of_ne h]

section

variable {requestIds : List Int32} {read : List (Int32 × Answer)}

/-- Each request has one answer exactly if no number comes twice. -/
theorem Settles.nodup_iff (h : Settles requestIds [] read) :
    (∀ requestId ∈ requestIds, (answersTo requestId read).length = 1) ↔
      (read.map Prod.fst).Nodup := by
  simp only [length_answersTo, List.nodup_iff_count_le_one]
  constructor
  · intro hone requestId
    by_cases hmem : requestId ∈ read.map Prod.fst
    · obtain ⟨answered, hread, rfl⟩ := List.mem_map.mp hmem
      exact Nat.le_of_eq (hone _ (h.asked answered hread))
    · rw [List.count_eq_zero_of_not_mem hmem]
      exact Nat.zero_le 1
  · intro hmost requestId hmem
    have hsome := List.length_pos_iff.mpr (h.answered requestId hmem)
    rw [List.nil_append, length_answersTo] at hsome
    exact Nat.le_antisymm (hmost requestId) hsome

/-- No number comes twice exactly if there are as many answers as requests. -/
theorem Settles.length_eq_iff (h : Settles requestIds [] read) (hnodup : requestIds.Nodup) :
    (read.map Prod.fst).Nodup ↔ read.length = requestIds.length := by
  have hasked : ∀ requestId ∈ read.map Prod.fst, requestId ∈ requestIds := by
    intro requestId hmem
    obtain ⟨answered, hread, rfl⟩ := List.mem_map.mp hmem
    exact h.asked answered hread
  have hanswered : ∀ requestId ∈ requestIds, requestId ∈ read.map Prod.fst := by
    intro requestId hmem
    have hsome := List.length_pos_iff.mpr (h.answered requestId hmem)
    rwa [List.nil_append, length_answersTo, List.count_pos_iff] at hsome
  rw [← List.length_map Prod.fst]
  constructor
  · intro hread
    exact ((List.perm_ext_iff_of_nodup hread hnodup).mpr fun requestId =>
      ⟨hasked requestId, hanswered requestId⟩).length_eq
  · intro hlength
    have hperm := (List.subperm_of_subset hnodup hanswered).perm_of_length_le (Nat.le_of_eq hlength)
    exact hperm.nodup_iff.mp hnodup

end

/-! ## Exchanges that succeed -/

namespace Stream

variable {σ : Type} [Peer σ]

/-- Carrying requests that are all sent is waiting for their answers. -/
theorem runOn_carry_of_sendAll {stream handed : Stream σ} {sent : List Request}
    {requestIds : List Int32} (hsent : (sendAll sent).runOn stream = (.ok requestIds, handed)) :
    (carry sent).runOn stream =
      let awaited := awaitAnswers (requestIds.map fun id => (id, none)) handed.inbox
      (awaited.1, { handed with inbox := awaited.2 }) := by
  unfold carry
  rw [Call.runOn_bind_ok hsent]
  rfl

/-- Carrying an exchange ends with the fates of its requests exactly if the peer takes all of them
and answers that settle the exchange come in. -/
theorem carry_eq_ok_iff {stream next : Stream σ} {sent : List Request}
    {results : List StreamResult} :
    (carry sent).runOn stream = (.ok results, next) ↔ ∃ requestIds handed,
      (sendAll sent).runOn stream = (.ok requestIds, handed) ∧ requestIds.Nodup ∧
        SettledBy requestIds [] handed.inbox results next.inbox ∧
        next = { handed with inbox := next.inbox } := by
  constructor
  · intro h
    cases hsent : (sendAll sent).runOn stream with
    | mk result handed =>
      cases result with
      | error error =>
        unfold carry at h
        rw [Call.runOn_bind_error hsent] at h
        cases h
      | ok requestIds =>
        rw [runOn_carry_of_sendAll hsent] at h
        obtain ⟨hresults, rfl⟩ := Prod.mk.inj h
        obtain ⟨hnodup, hsettled⟩ := awaitAnswers_eq_ok_iff.mp (Prod.ext hresults rfl)
        exact ⟨requestIds, handed, rfl, hnodup, hsettled, rfl⟩
  · rintro ⟨requestIds, handed, hsent, hnodup, hsettled, hnext⟩
    rw [runOn_carry_of_sendAll hsent, awaitAnswers_eq_ok_iff.mpr ⟨hnodup, hsettled⟩, hnext]

/-- An exchange that succeeds: the numbers of its requests, the texts that it reads and the answers
that they give. -/
structure Succeeds (stream : Stream σ) (requests : List Request) (responses : List Response)
    (after : Stream σ) (requestIds : List Int32) (texts : List String)
    (read : List (Int32 × Answer)) : Prop where
  isOpen : stream.session.isClosed = false
  /-- The peer takes all requests, and what is behind the answers stays unread. -/
  handed : ∃ handed,
    (sendAll (stream.session.stamp requests)).runOn stream.underWay = (.ok requestIds, handed) ∧
      handed.inbox = texts.map .frame ++ after.inbox ∧
      after = { handed with
        inbox := after.inbox
        session := (handed.session.finishChannel (stream.session.stamp requests)
          (responses.map fun response => .ok (some response))).2 }
  distinct : requestIds.Nodup
  frames : List.Forall₂ Answers texts read
  settles : Settles requestIds [] read
  /-- Each request gets the last answer to it. -/
  last : List.Forall₂ (fun requestId response => ∃ answer : ChannelResponse,
    (answersTo requestId read).getLast? = some (.ok answer) ∧ answer.toResponse = response)
    requestIds responses
  suits : List.Forall₂ Response.Suits responses (stream.session.stamp requests)

/-- A request has a response exactly if its last answer is a success with that response. -/
theorem lastFate_ok_iff {read : List (Int32 × Answer)} {requestId : Int32} {response : Response} :
    LastFate read requestId (.ok (some response)) ↔ ∃ answer : ChannelResponse,
      (answersTo requestId read).getLast? = some (.ok answer) ∧ answer.toResponse = response := by
  constructor
  · rintro ⟨answer | answer, hlast, hresult⟩
    · cases hresult
    · exact ⟨answer, hlast, by simpa [Answer.result] using hresult⟩
  · rintro ⟨answer, hlast, rfl⟩
    exact ⟨.ok answer, hlast, rfl⟩

/-- Requests have their responses exactly if each one's last answer is its response. -/
theorem forall₂_lastFate_iff {read : List (Int32 × Answer)} {requestIds : List Int32}
    {responses : List Response} :
    List.Forall₂ (LastFate read) requestIds (responses.map fun response => .ok (some response)) ↔
      List.Forall₂ (fun requestId response => ∃ answer : ChannelResponse,
        (answersTo requestId read).getLast? = some (.ok answer) ∧ answer.toResponse = response)
        requestIds responses := by
  rw [List.forall₂_map_right_iff]
  simp only [lastFate_ok_iff]

omit [Peer σ] in
/-- An exchange settles with answers exactly if each request has one that suits it. -/
theorem settle_eq_ok_iff {stream after : Stream σ} {sent : List Request}
    {result : Except Error (List StreamResult)} {responses : List Response} :
    settle sent result stream = (.ok responses, after) ↔
      List.Forall₂ Response.Suits responses sent ∧
        result = .ok (responses.map fun response => .ok (some response)) ∧
        after = { stream with
          session := (stream.session.finishChannel sent
            (responses.map fun response => .ok (some response))).2 } := by
  constructor
  · intro h
    cases result with
    | error error => cases h
    | ok results =>
      obtain ⟨hchecked, hafter⟩ := Prod.mk.inj h
      cases checkResults_eq_iff.mp hchecked with
      | answered hsuits hresults =>
        subst hresults
        exact ⟨hsuits, rfl, hafter.symm⟩
  · rintro ⟨hsuits, rfl, rfl⟩
    exact Prod.ext (checkResults_eq_iff.mpr (.answered hsuits rfl)) rfl

/-- Sending succeeds exactly if the exchange is settled by answers of which the last one to each
request suits it. -/
theorem send_eq_ok_iff {stream after : Stream σ} {requests : List Request}
    {responses : List Response} :
    (send requests).runOn stream = (.ok responses, after) ↔
      ∃ requestIds texts read, stream.Succeeds requests responses after requestIds texts read := by
  let sent := stream.session.stamp requests
  constructor
  · intro h
    have hopen : stream.session.isClosed = false := by
      by_contra hclosed
      rw [runOn_send_of_isClosed (by simpa using hclosed)] at h
      cases h
    rw [runOn_send_of_not_isClosed hopen] at h
    cases hcarried : (carry sent).runOn stream.underWay with
    | mk result next =>
    simp only [hcarried, sent] at h
    obtain ⟨hsuits, rfl, rfl⟩ := settle_eq_ok_iff.mp h
    obtain ⟨requestIds, handed, hsent, hdistinct, ⟨texts, read, hinbox, hframes, hsettles, hlast⟩,
      hnext⟩ := carry_eq_ok_iff.mp hcarried
    rw [hnext]
    exact ⟨requestIds, texts, read, hopen, ⟨handed, hsent, hinbox, rfl⟩, hdistinct, hframes, hsettles,
      forall₂_lastFate_iff.mp hlast, hsuits⟩
  · rintro ⟨requestIds, texts, read, hopen, ⟨handed, hsent, hinbox, hafter⟩, hdistinct, hframes,
      hsettles, hlast, hsuits⟩
    have hcarried : (carry sent).runOn stream.underWay =
        (.ok (responses.map fun response => .ok (some response)),
          { handed with inbox := after.inbox }) :=
      carry_eq_ok_iff.mpr ⟨requestIds, handed, hsent, hdistinct,
        ⟨texts, read, hinbox, hframes, hsettles, forall₂_lastFate_iff.mpr hlast⟩, rfl⟩
    rw [runOn_send_of_not_isClosed hopen]
    simp only [hcarried, sent]
    exact settle_eq_ok_iff.mpr ⟨hsuits, rfl, hafter⟩

/-- An exchange that succeeds gives each of its requests the last of the answers that it read to it.
It has read one answer to each exactly if no number came twice, or if it has read as many frames as
it has requests; an answer too many takes the place of the one before. -/
theorem send_gives_last_answers {σ : Type} [Peer σ] (stream after : Stream σ)
    (requests : List Request) (responses : List Response) :
    ((send requests).runOn stream = (.ok responses, after) ↔
      ∃ requestIds texts read, stream.Succeeds requests responses after requestIds texts read) ∧
    ∀ requestIds texts read, stream.Succeeds requests responses after requestIds texts read →
      ((∀ requestId ∈ requestIds, (answersTo requestId read).length = 1) ↔
        (read.map Prod.fst).Nodup) ∧
      ((∀ requestId ∈ requestIds, (answersTo requestId read).length = 1) ↔
        texts.length = requests.length) := by
  refine ⟨send_eq_ok_iff, fun requestIds texts read h => ⟨h.settles.nodup_iff, ?_⟩⟩
  obtain ⟨handed, hsent, -⟩ := h.handed
  have hnumbers : requestIds.length = requests.length := by
    rw [requestIds_of_sendAll hsent, numbersFrom, List.length_map, List.length_range,
      ← (stream.session.stamped_stamp requests).length_eq]
  rw [h.settles.nodup_iff, h.settles.length_eq_iff h.distinct, hnumbers, h.frames.length_eq]

end Stream

/-! ## A request that is answered twice -/

/-- The text that answers a request by refusing it. -/
def refusalText : String :=
  "\x7b\"type\":\"response_error\",\"request_id\":1,\"error\":\x7b\"message\":\"refused\"\x7d\x7d"

/-- The texts that answer the requests numbered one and two. -/
def answerTexts : List String :=
  ["\x7b\"type\":\"response_ok\",\"request_id\":1,\"response\":\x7b\"type\":\"close_sql\"\x7d\x7d",
    "\x7b\"type\":\"response_ok\",\"request_id\":2,\"response\":\x7b\"type\":\"close_sql\"\x7d\x7d"]

/-- An open stream with texts to come. -/
def openWith (texts : List String) : Stream Silent where
  peer := {}
  inbox := texts.map .frame
  session := { state := .active none }
  nextRequestId := 1

/-- Two requests that are answered once each succeed with these answers. -/
theorem succeeds_answeredOnce :
    (openWith answerTexts).Succeeds [.closeSql 1, .closeSql 2] [.closeSql, .closeSql]
      { openWith [] with nextRequestId := 3 } [1, 2] answerTexts
      [(1, .ok .closeSql), (2, .ok .closeSql)] where
  isOpen := rfl
  handed := ⟨_, rfl, rfl, rfl⟩
  distinct := by decide
  frames := .cons (by decide +kernel) (.cons (by decide +kernel) .nil)
  settles := settles_cons_iff.mpr ⟨by decide, ⟨2, by decide, rfl⟩, settles_cons_iff.mpr
    ⟨by decide, ⟨2, by decide, rfl⟩, settles_nil_iff.mpr (by simp [answersTo])⟩⟩
  last := .cons ⟨.closeSql, rfl, rfl⟩ (.cons ⟨.closeSql, rfl, rfl⟩ .nil)
  suits := .cons (.closeSql 1) (.cons (.closeSql 2) .nil)

/-- Two requests whose answers come in order are given them. -/
theorem send_gives_last_answers_of_two :
    (Stream.send [.closeSql 1, .closeSql 2]).runOn (openWith answerTexts) =
        (.ok [.closeSql, .closeSql], { openWith [] with nextRequestId := 3 }) ∧
      ∀ requestId ∈ ([1, 2] : List Int32),
        (answersTo requestId [(1, .ok .closeSql), (2, .ok .closeSql)]).length = 1 := by
  have h := Stream.send_gives_last_answers (openWith answerTexts)
    { openWith [] with nextRequestId := 3 } [.closeSql 1, .closeSql 2] [.closeSql, .closeSql]
  refine ⟨h.1.mpr ⟨_, _, _, succeeds_answeredOnce⟩, ?_⟩
  exact (h.2 _ _ _ succeeds_answeredOnce).2.mpr rfl

/-- Two requests of which the first is refused and then answered succeed by the last answers. -/
theorem succeeds_answeredTwice :
    (openWith (refusalText :: answerTexts)).Succeeds [.closeSql 1, .closeSql 2]
      [.closeSql, .closeSql] { openWith [] with nextRequestId := 3 } [1, 2]
      (refusalText :: answerTexts)
      [(1, .error { message := "refused" }), (1, .ok .closeSql), (2, .ok .closeSql)] where
  isOpen := rfl
  handed := ⟨_, rfl, rfl, rfl⟩
  distinct := by decide
  frames := .cons (by decide +kernel) succeeds_answeredOnce.frames
  settles := settles_cons_iff.mpr ⟨by decide, ⟨1, by decide, rfl⟩, settles_cons_iff.mpr
    ⟨by decide, ⟨2, by decide, rfl⟩, settles_cons_iff.mpr
    ⟨by decide, ⟨2, by decide, rfl⟩, settles_nil_iff.mpr (by simp [answersTo])⟩⟩⟩
  last := .cons ⟨.closeSql, rfl, rfl⟩ (.cons ⟨.closeSql, rfl, rfl⟩ .nil)
  suits := succeeds_answeredOnce.suits

/-- A request that was refused and is then answered counts as answered: sending succeeds, and the
refusal is lost. -/
theorem second_answer_replaces_refusal :
    List.Forall₂ Answers (refusalText :: answerTexts)
        [(1, .error { message := "refused" }), (1, .ok .closeSql), (2, .ok .closeSql)] ∧
      (Stream.send [.closeSql 1, .closeSql 2]).runOn (openWith (refusalText :: answerTexts)) =
        (.ok [.closeSql, .closeSql], { openWith [] with nextRequestId := 3 }) :=
  ⟨succeeds_answeredTwice.frames, Stream.send_eq_ok_iff.mpr ⟨_, _, _, succeeds_answeredTwice⟩⟩

end SqlStream.Channel
