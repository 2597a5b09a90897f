import SqlStream.Proofs.Json.Variations
import SqlStream.Wire.Reply

/-!
# What replies depend on

A reply is read by its known fields: their order does not matter, at any depth, and neither do
members that are not known. A type that is not known is no error either, and changes nothing but the
element that has it.
-/

namespace SqlStream.Wire

open SqlStream.Json SqlStream.Text

variable {room : Nat}

/-! ## Shapes -/

/-- The types of values and their fields. -/
def Value.types : List (String × List (String × Shape)) :=
  [("null", []), ("integer", [("value", .plain)]), ("float", [("value", .plain)]),
    ("text", [("value", .plain)]), ("blob", [("base64", .plain)])]

def ServerError.shape : Shape :=
  .record [("message", .plain), ("code", .plain)]

def Column.shape : Shape :=
  .record [("name", .plain), ("decltype", .plain)]

def StatementResult.shape : Shape :=
  .record [("cols", .list Column.shape), ("rows", .list (.list (.tagged Value.types))),
    ("affected_row_count", .plain), ("last_insert_rowid", .plain), ("replication_index", .plain),
    ("rows_read", .plain), ("rows_written", .plain), ("query_duration_ms", .plain)]

def BatchResult.shape : Shape :=
  .record [("step_results", .list StatementResult.shape), ("step_errors", .list ServerError.shape),
    ("replication_index", .plain)]

/-- The types of answers and their fields. -/
def Response.types : List (String × List (String × Shape)) :=
  [("execute", [("result", StatementResult.shape)]), ("batch", [("result", BatchResult.shape)]),
    ("store_sql", []), ("close_sql", []), ("close", [])]

/-- The types of fates and their fields. -/
def StreamResult.types : List (String × List (String × Shape)) :=
  [("ok", [("response", .tagged Response.types)]), ("error", [("error", ServerError.shape)])]

def PipelineResponse.shape : Shape :=
  .record [("baton", .plain), ("base_url", .plain), ("results", .list (.tagged StreamResult.types))]

/-! ## Steady readers -/

/-- A string has no members, so nothing of it can vary. -/
theorem string?_steady {shape : Shape} : Steady room shape string? :=
  .scalar (fun _ => rfl) fun _ => rfl

/-- Neither has a number without sign. -/
theorem uint64?_steady {shape : Shape} : Steady room shape uint64? :=
  .scalar (fun _ => rfl) fun _ => rfl

/-- Neither has a floating-point number. -/
theorem binary64?_steady {shape : Shape} : Steady room shape binary64? :=
  .scalar (fun _ => rfl) fun _ => rfl

/-- Neither has a replication index, in either of its forms. -/
theorem replicationIndex?_steady {shape : Shape} : Steady room shape replicationIndex? :=
  .scalar (fun _ => rfl) fun _ => rfl

/-- Of a value of each type, only the members that it has are read. -/
theorem Value.ofFields?_steady (type : String) :
    Steady room (.record (Shape.fieldsOf types type)) (ofFields? type) := by
  unfold ofFields?
  split
  · exact fun _ _ h => (Steady.fieldless _ _ h).bind fun _ => .refl _
  · exact .record rfl fun _ _ h => (h.required rfl string?_steady).bind fun _ => .refl _
  · exact .record rfl fun _ _ h => (h.required rfl binary64?_steady).bind fun _ => .refl _
  · exact .record rfl fun _ _ h => (h.required rfl string?_steady).bind fun _ => .refl _
  · exact .record rfl fun _ _ h => (h.withDefault rfl string?_steady).bind fun _ => .refl _
  · exact fun _ _ _ => .refl none

/-- A value is read by its type and the members that it has. -/
theorem Value.steady : Steady room (.tagged types) (ofJson? .inner) :=
  .tagged rfl nofun ofFields?_steady

/-- An error of a server is read by its message and its code. -/
theorem ServerError.steady : Steady room ServerError.shape ServerError.ofJson? :=
  .record rfl fun _ _ h =>
    (h.required rfl string?_steady).bind fun _ =>
      (h.optional rfl string?_steady).bind fun _ => .refl _

/-- A column is read by its name and its declared type. -/
theorem Column.steady : Steady room Column.shape Column.ofJson? :=
  .record rfl fun _ _ h =>
    (h.optional rfl string?_steady).bind fun _ =>
      (h.optional rfl string?_steady).bind fun _ => .refl _

/-- What a statement gave is read by its known members. -/
theorem StatementResult.steady : Steady room StatementResult.shape (StatementResult.ofJson? .inner) :=
  .record rfl fun _ _ h =>
    (h.withDefault rfl (.list Column.steady)).bind fun _ =>
    (h.withDefault rfl (.list (.list Value.steady))).bind fun _ =>
    (h.withDefault rfl uint64?_steady).bind fun _ =>
    (h.optional rfl string?_steady).bind fun _ =>
    (h.withDefault rfl replicationIndex?_steady).bind fun _ =>
    (h.optional rfl uint64?_steady).bind fun _ =>
    (h.optional rfl uint64?_steady).bind fun _ =>
    (h.optional rfl binary64?_steady).bind fun _ => .refl _

/-- What a batch gave is read by its two lists and its index. -/
theorem BatchResult.steady : Steady room BatchResult.shape (BatchResult.ofJson? .inner) :=
  .record rfl fun _ _ h =>
    (h.withDefault rfl (.list StatementResult.steady.nullable)).bind fun _ =>
    (h.withDefault rfl (.list ServerError.steady.nullable)).bind fun _ =>
    (h.withDefault rfl replicationIndex?_steady).bind fun _ => .refl _

/-- Of an answer of each type, only the members that it has are read. -/
theorem Response.ofFields?_steady (type : String) :
    Steady room (.record (Shape.fieldsOf types type)) (ofFields? type) := by
  unfold ofFields?
  split
  · exact .record rfl fun _ _ h => (h.required rfl StatementResult.steady).bind fun _ => .refl _
  · exact .record rfl fun _ _ h => (h.required rfl BatchResult.steady).bind fun _ => .refl _
  all_goals exact fun _ _ h => (Steady.fieldless _ _ h).map

/-- An answer is read by its type and the members that it has. -/
theorem Response.steady : Steady room (.tagged types) (ofJson? .inner) :=
  .tagged rfl nofun ofFields?_steady

/-- Of the fate of a request, only the members that its type has are read. -/
theorem StreamResult.ofFields?_steady (type : String) :
    Steady room (.record (Shape.fieldsOf types type)) (ofFields? type) := by
  unfold ofFields?
  split
  · exact .record rfl fun _ _ h => (h.optional rfl Response.steady).bind fun _ => .refl _
  · exact .record rfl fun _ _ h => (h.optional rfl ServerError.steady).bind fun _ => .refl _
  · exact fun _ _ h => (Steady.fieldless _ _ h).map

/-- The fate of a request is read by its type and the members that it has. -/
theorem StreamResult.steady : Steady room (.tagged types) (ofJson? (.outer room)) :=
  .tagged rfl (fun _ h => (Place.outer.inj h).symm) ofFields?_steady

/-- A whole reply is read by its known members, at every depth. -/
theorem PipelineResponse.steady : Steady maxDepth PipelineResponse.shape (ofJson? .top) :=
  .record rfl fun _ _ h =>
    (h.optional rfl string?_steady).bind fun _ =>
    (h.optional rfl string?_steady).bind fun _ =>
    (h.withDefault rfl (.list StreamResult.steady)).bind fun _ => .refl _

/-! ## Types that are not known -/

/-- An answer of a type that is not known is unknown, whatever its members are. -/
theorem Response.ofFields?_of_notMem {type : String} (h : type ∉ typeNames) (fields : Json) :
    ofFields? type fields = fields.fieldless?.map fun _ => unknown := by
  unfold ofFields?
  split <;> simp_all [typeNames]

/-- So is a fate of a type that is not known. -/
theorem StreamResult.ofFields?_of_notMem {type : String} (h : type ∉ typeNames) (fields : Json) :
    ofFields? type fields = fields.fieldless?.map fun _ => unknown := by
  unfold ofFields?
  split <;> simp_all [typeNames]

variable {place : Place} {members : List (String × Json)} {type : String}

/-- An answer whose type is replaced by one that is not known is an unknown answer. -/
theorem Response.ofJson?_setType {response : Response}
    (h : ofJson? place (.object members) = some response) (hunknown : type ∉ typeNames) :
    ofJson? place (.object (setMember typeName (.string type) members)) = some unknown :=
  (read_setType h).trans (ofFields?_of_notMem hunknown _)

/-- To give a fate an unknown type makes it unknown, and nothing else is lost. -/
theorem StreamResult.ofJson?_setType {result : StreamResult}
    (h : ofJson? place (.object members) = some result) (hunknown : type ∉ typeNames) :
    ofJson? place (.object (setMember typeName (.string type) members)) = some unknown :=
  (read_setType h).trans (ofFields?_of_notMem hunknown _)

/-- The fields of an answered request hold an answer, which another one can take the place of. -/
theorem StreamResult.ofFields?_setResponse {result : StreamResult} {fields : Record}
    {response : List (String × Json)} (h : ofFields? "ok" (.object fields) = some result)
    (hresponse : fields.lookup "response" = some (.object response)) :
    (∃ answer, Response.ofJson? .inner (.object response) = some answer) ∧
      ∀ other answer, Response.ofJson? .inner (.object other) = some answer →
        ofFields? "ok" (.object (setMember "response" (.object other) fields)) =
          some (ok (some answer)) := by
  obtain ⟨record, hrecord, h⟩ := Option.bind_eq_some_iff.mp h
  obtain ⟨-, heq⟩ := Option.ite_none_right_eq_some.mp hrecord
  obtain rfl := Option.some.inj heq
  obtain ⟨optional, hoptional, -⟩ := Option.bind_eq_some_iff.mp h
  rw [optional_of_lookup_object hresponse, Option.map_eq_some_iff] at hoptional
  obtain ⟨answer, hanswer, -⟩ := hoptional
  refine ⟨⟨answer, hanswer⟩, fun other answer hother => ?_⟩
  have hlookup : (setMember "response" (.object other) fields).lookup "response" =
      some (.object other) := by
    rw [lookup_setMember, if_pos rfl, hresponse, Option.map_some]
  simp only [ofFields?, record?_setMember hrecord, Option.bind_eq_bind, Option.bind_some,
    optional_of_lookup_object hlookup, hother, Option.map_some, pure]

/-- An answered request has an unknown answer if the type of its answer is not known. -/
theorem StreamResult.ofJson?_setResponse {result : StreamResult}
    {response : List (String × Json)} (h : ofJson? place (.object members) = some result)
    (hok : members.lookup typeName = some (.string "ok"))
    (hresponse : members.lookup "response" = some (.object response))
    (hunknown : type ∉ Response.typeNames) :
    ofJson? place (.object (setMember "response"
      (.object (setMember typeName (.string type) response)) members)) =
        some (ok (some .unknown)) := by
  obtain ⟨⟨known, fields⟩, hdiscriminated, hread⟩ := Option.bind_eq_some_iff.mp h
  obtain ⟨hadmits, -, ⟨discriminator, hlookup, htype⟩, rfl⟩ :=
    discriminated?_object_iff.mp hdiscriminated
  obtain rfl : discriminator = .string "ok" := Option.some.inj (hlookup.symm.trans hok)
  obtain rfl : "ok" = known := by
    cases place <;> exact Option.some.inj htype
  have hdeep : ∀ room, place = .outer room →
      (Json.object (setMember typeName (.string type) response)).readableWithin (room - 1) = true := by
    rintro room rfl
    refine readableWithin_setMember ?_ (readableWithin_string _ _)
    exact (readableWithin_object_iff.mp hadmits).2 _ (mem_of_lookup_eq_some hresponse)
  rw [← lookup_filter_ne (show "response" ≠ typeName by decide)] at hresponse
  obtain ⟨⟨answer, hanswer⟩, hset⟩ := ofFields?_setResponse hread hresponse
  rw [ofJson?, discriminated?_setMember hdiscriminated (by decide) hdeep]
  exact hset _ _ (Response.ofJson?_setType hanswer hunknown)

/-- A reply with other results has the same baton and the same URL. -/
theorem PipelineResponse.ofJson?_setResults {reply : PipelineResponse} {items : List Json}
    (h : ofJson? place (.object members) = some reply)
    (hitems : members.lookup "results" = some (.array items)) :
    items.mapM (StreamResult.ofJson? (place.below 2)) = some reply.results ∧
      ∀ others results, others.mapM (StreamResult.ofJson? (place.below 2)) = some results →
        ofJson? place (.object (setMember "results" (.array others) members)) =
          some { reply with results } := by
  simp only [ofJson?, Option.bind_eq_bind, Option.bind_eq_some_iff, pure, Option.some.injEq] at h
  obtain ⟨record, hrecord, baton, hbaton, baseUrl, hbaseUrl, results, hresults, rfl⟩ := h
  obtain ⟨-, heq⟩ := Option.ite_none_right_eq_some.mp hrecord
  obtain rfl := Option.some.inj heq
  rw [Record.withDefault, hitems] at hresults
  refine ⟨hresults, fun others otherResults hothers => ?_⟩
  have hlookup : (setMember "results" (.array others) members).lookup "results" =
      some (.array others) := by
    rw [lookup_setMember, if_pos rfl, hitems, Option.map_some]
  have hfield : Record.withDefault (setMember "results" (.array others) members) "results" []
      (list? (StreamResult.ofJson? (place.below 2))) = some otherResults := by
    rw [Record.withDefault, hlookup]
    exact hothers
  simp only [ofJson?, record?_setMember hrecord, Option.bind_eq_bind, Option.bind_some,
    optional_setMember (show "baton" ≠ "results" by decide), hbaton,
    optional_setMember (show "base_url" ≠ "results" by decide), hbaseUrl, hfield, pure]

/-! ## Replies -/

/-- A reply in which one result is another object. -/
def withResult (members : List (String × Json)) (items : List Json) (i : Nat)
    (result : List (String × Json)) : Json :=
  .object (setMember "results" (.array (items.set i (.object result))) members)

/-- A reply with another object in place of a result has what that object says in its place. -/
theorem PipelineResponse.ofJson?_withResult {reply : PipelineResponse} {items : List Json}
    {i : Nat} {result other : List (String × Json)} {known : StreamResult}
    (h : ofJson? place (.object members) = some reply)
    (hitems : members.lookup "results" = some (.array items))
    (hresult : items[i]? = some (.object result))
    (hother : ∀ fate, StreamResult.ofJson? (place.below 2) (.object result) = some fate →
      StreamResult.ofJson? (place.below 2) (.object other) = some known) :
    ofJson? place (withResult members items i other) =
      some { reply with results := reply.results.set i known } := by
  obtain ⟨hresults, hset⟩ := ofJson?_setResults h hitems
  obtain ⟨fate, hfate, -⟩ := getElem?_of_mapM hresults hresult
  exact hset _ _ (mapM_set hresults (hother fate hfate))

/-- A reply is read by its known fields: a variation of its JSON form is the same reply. With a type
that is not known in place of the type of a result, or of the answer in a result, that result or
that answer is unknown, and all the rest is the same. -/
theorem PipelineResponse.read_by_known_fields {json : Json} {reply : PipelineResponse}
    (hreply : ofJson? .top json = some reply) :
    (∀ other, Variation maxDepth shape json other → ofJson? .top other = some reply) ∧
    (∀ members items i result type, json = .object members →
      members.lookup "results" = some (.array items) → items[i]? = some (.object result) →
      type ∉ StreamResult.typeNames →
      ofJson? .top (withResult members items i (setMember typeName (.string type) result)) =
        some { reply with results := reply.results.set i .unknown }) ∧
    ∀ members items i result response type, json = .object members →
      members.lookup "results" = some (.array items) → items[i]? = some (.object result) →
      result.lookup typeName = some (.string "ok") →
      result.lookup "response" = some (.object response) → type ∉ Response.typeNames →
      ofJson? .top (withResult members items i
        (setMember "response" (.object (setMember typeName (.string type) response)) result)) =
          some { reply with results := reply.results.set i (.ok (some .unknown)) } := by
  refine ⟨fun other hother => steady json other hother reply hreply, ?_, ?_⟩
  · rintro members items i result type rfl hitems hresult hunknown
    exact ofJson?_withResult hreply hitems hresult fun _ hfate =>
      StreamResult.ofJson?_setType hfate hunknown
  · rintro members items i result response type rfl hitems hresult hok hresponse hunknown
    exact ofJson?_withResult hreply hitems hresult fun _ hfate =>
      StreamResult.ofJson?_setResponse hfate hok hresponse hunknown

/-! ### A reply of two results -/

/-- The fate of a request that failed. -/
def lockedResult : List (String × Json) :=
  [("type", .string "error"), ("error", .object [("message", .string "locked")])]

/-- The fate of a request that was answered. -/
def closedResult : List (String × Json) :=
  [("type", .string "ok"), ("response", .object [("type", .string "close")])]

/-- A reply with both. -/
def sampleReply : List (String × Json) :=
  [("baton", .string "b"), ("results", .array [.object lockedResult, .object closedResult])]

/-- The error with a detail, and its type behind it. -/
def variedResult : List (String × Json) :=
  [("error", .object [("detail", .array [.null]), ("message", .string "locked")]),
    ("type", .string "error")]

/-- The reply with the error varied, a member more, and its baton at the end. -/
def variedReply : List (String × Json) :=
  [("results", .array [.object variedResult, .object closedResult]), ("server", .number (.integer 1)),
    ("baton", .string "b")]

/-- The sample in another order and with more members. -/
theorem sampleReply_variation :
    Variation maxDepth PipelineResponse.shape (.object sampleReply) (.object variedReply) := by
  have herror : Variation (maxDepth - 3) ServerError.shape (.object [("message", .string "locked")])
      (.object [("detail", .array [.null]), ("message", .string "locked")]) :=
    .of_members [("message", .string "locked")] [("detail", .array [.null])] rfl
      (.cons ⟨rfl, .same _ _ _⟩ .nil) (by simp; decide) (.swap _ _ _)
  have hresult : Variation (maxDepth - 2) (.tagged StreamResult.types) (.object lockedResult)
      (.object variedResult) :=
    .of_members variedResult.reverse [] rfl
      (.cons ⟨rfl, .same _ _ _⟩ (.cons ⟨rfl, herror⟩ .nil)) nofun (.swap _ _ _)
  exact .of_members
    [("baton", .string "b"), ("results", .array [.object variedResult, .object closedResult])]
    [("server", .number (.integer 1))] rfl
    (.cons ⟨rfl, .same _ _ _⟩
      (.cons ⟨rfl, .of_items (.cons hresult (.cons (.same _ _ _) .nil))⟩ .nil))
    (by simp; decide) (.trans (.swap _ _ _) (.cons _ (.swap _ _ _)))

/-- A reply with a refusal says the same in another order and with more members, and a fate of
unknown type does not spoil the others. -/
theorem read_by_known_fields_of_locked :
    PipelineResponse.ofJson? .top (.object sampleReply) =
      some ⟨some "b", none, [.error (some ⟨"locked", none⟩), .ok (some .close)]⟩ ∧
    PipelineResponse.ofJson? .top (.object variedReply) =
      some ⟨some "b", none, [.error (some ⟨"locked", none⟩), .ok (some .close)]⟩ ∧
    PipelineResponse.ofJson? .top (withResult sampleReply
      [.object lockedResult, .object closedResult] 0
      (setMember typeName (.string "mystery") lockedResult)) =
        some ⟨some "b", none, [.unknown, .ok (some .close)]⟩ ∧
    PipelineResponse.ofJson? .top (withResult sampleReply
      [.object lockedResult, .object closedResult] 1
      (setMember "response" (.object (setMember typeName (.string "describe")
        [("type", .string "close")])) closedResult)) =
        some ⟨some "b", none, [.error (some ⟨"locked", none⟩), .ok (some .unknown)]⟩ := by
  have hreply : PipelineResponse.ofJson? .top (.object sampleReply) =
      some ⟨some "b", none, [.error (some ⟨"locked", none⟩), .ok (some .close)]⟩ := by decide +kernel
  obtain ⟨hvaried, hresult, hresponse⟩ := PipelineResponse.read_by_known_fields hreply
  refine ⟨hreply, hvaried _ sampleReply_variation, ?_, ?_⟩
  · exact hresult _ _ 0 _ "mystery" rfl rfl rfl (by decide)
  · exact hresponse _ _ 1 _ _ "describe" rfl rfl rfl rfl rfl (by decide)

end SqlStream.Wire
