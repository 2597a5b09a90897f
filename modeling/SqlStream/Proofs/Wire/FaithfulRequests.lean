import SqlStream.Channel.Message
import SqlStream.Proofs.Json.Rearranged

/-!
# What requests say on the wire

The JSON form of a request tells everything about it: requests whose forms are equal up to the order
of members are equal (`requests_encoded_faithfully`), and so are the frames that carry requests on a
channel. The one exception is outside of JSON, which has no numbers for doubles that are not finite.

A form is an object with distinct names, so its fields can be compared name by name. Where a field
says which kind of thing the object is, that field is compared first.
-/

namespace SqlStream.Wire

open SqlStream.Json SqlStream.Text

/-! ## Fields of forms -/

/-- A member that may be missing is found by its name, if it is there. -/
theorem lookup_optionalMember (key name : String) (value : Option Json) :
    (optionalMember name value).lookup key = if key = name then value else none := by
  cases value with
  | none => simp [optionalMember]
  | some value =>
    rw [optionalMember, List.lookup_cons]
    by_cases hkey : key = name
    · simp [hkey]
    · simp [beq_false_of_ne hkey, hkey]

/-- The value of a member with a list that is left out if it is empty. -/
def listField (items : List Json) : Option Json :=
  if items.isEmpty then none else some (array items)

/-- A list is found by its name, unless it is empty. -/
theorem lookup_listMember (key name : String) (items : List Json) :
    (listMember name items).lookup key = if key = name then listField items else none := by
  rw [← lookup_optionalMember]
  cases items <;> rfl

/-- The only member is found by its name. -/
theorem lookup_singleton (key name : String) (value : Json) :
    [(name, value)].lookup key = if key = name then some value else none :=
  lookup_optionalMember key name (some value)

/-- A member that may be missing has at most its own name. -/
theorem names_optionalMember (name : String) (value : Option Json) :
    ((optionalMember name value).map Prod.fst).Sublist [name] := by
  cases value with
  | none => exact List.nil_sublist _
  | some value => exact List.Sublist.refl _

/-- So has a list. -/
theorem names_listMember (name : String) (items : List Json) :
    ((listMember name items).map Prod.fst).Sublist [name] := by
  cases items with
  | nil => exact List.nil_sublist _
  | cons item items => exact List.Sublist.refl _

/-- A list that is left out if it is empty is told by its field. -/
theorem forall₂_of_rel_listField {items others : List Json}
    (h : Option.Rel Rearranged (listField items) (listField others)) :
    List.Forall₂ Rearranged items others := by
  cases items with
  | nil =>
    cases others with
    | nil => exact .nil
    | cons other others => cases h
  | cons item items =>
    cases others with
    | nil => cases h
    | cons other others => exact rearranged_array_iff.mp (Option.rel_some_some.mp h)

section Parts

variable {α : Type} {toJson : α → Json}

/-- Lists are equal if their elements are told apart one by one. -/
theorem eq_of_forall₂_rearranged {xs ys : List α}
    (hfaithful : ∀ x ∈ xs, ∀ y, Rearranged (toJson x) (toJson y) → x = y)
    (h : List.Forall₂ Rearranged (xs.map toJson) (ys.map toJson)) : xs = ys := by
  induction xs generalizing ys with
  | nil =>
    cases ys with
    | nil => rfl
    | cons y ys => cases h
  | cons x xs ih =>
    cases ys with
    | nil => cases h
    | cons y ys =>
      obtain ⟨hfirst, hrest⟩ := List.forall₂_cons.mp h
      rw [hfaithful x List.mem_cons_self y hfirst,
        ih (fun other hmem => hfaithful other (List.mem_cons_of_mem _ hmem)) hrest]

/-- So are values that may be missing. -/
theorem eq_of_rel_rearranged {x y : Option α}
    (hfaithful : ∀ a b, Rearranged (toJson a) (toJson b) → a = b)
    (h : Option.Rel Rearranged (x.map toJson) (y.map toJson)) : x = y := by
  cases x with
  | none =>
    cases y with
    | none => rfl
    | some b => cases h
  | some a =>
    cases y with
    | none => cases h
    | some b => rw [hfaithful a b (Option.rel_some_some.mp h)]

end Parts

/-- The type of a discriminated record is told by its form, and so are its fields. -/
theorem Rearranged.ofType {type other : String} {members others : List (String × Json)}
    (h : Rearranged (Json.ofType type members) (Json.ofType other others))
    (hnames : (typeName :: members.map Prod.fst).Nodup) :
    type = other ∧ ∀ name, name ≠ typeName →
      Option.Rel Rearranged (members.lookup name) (others.lookup name) := by
  have hfield := Json.Rearranged.rel_lookup h hnames
  refine ⟨?_, fun name hname => ?_⟩
  · have htype := hfield typeName
    simp only [List.lookup_cons, beq_self_eq_true, Option.rel_some_some] at htype
    exact rearranged_string_iff.mp htype
  · have hother := hfield name
    simpa only [List.lookup_cons, beq_false_of_ne hname] using hother

/-! ## Scalars -/

/-- Finite floating-point numbers are told apart by their texts. -/
theorem eq_of_rearranged_ofBinary64 {x y : Binary64} (hfinite : x.isFinite = true)
    (h : Rearranged (Json.ofBinary64 x) (Json.ofBinary64 y)) : x = y := by
  rw [Json.ofBinary64, if_pos hfinite, Json.ofBinary64] at h
  split at h
  · rw [rearranged_number_iff] at h
    cases h
    rfl
  · cases h

/-- Numbers of 32 bits are told apart by their digits. -/
theorem eq_of_rearranged_int32Json {m n : Int32} (h : Rearranged (int32Json m) (int32Json n)) :
    m = n := by
  rw [int32Json, int32Json, Json.ofInt, Json.ofInt, rearranged_number_iff] at h
  exact Int32.toInt_inj.mp (JsonNumber.integer.inj h)

/-- Different numbers have different digits. -/
theorem decimalDigits_injective : Function.Injective decimalDigits :=
  Function.LeftInverse.injective fun _ => Nat.ofDigitChars_ten_toDigits

/-- A replication index travels as its decimal text, which tells it. -/
theorem eq_of_rearranged_replicationIndexJson {i j : UInt64}
    (h : Rearranged (replicationIndexJson i) (replicationIndexJson j)) : i = j := by
  rw [replicationIndexJson, replicationIndexJson, rearranged_string_iff, String.ofList_inj] at h
  exact UInt64.toNat_inj.mp (decimalDigits_injective h)

/-- Strings are told apart as they stand. -/
theorem eq_of_rearranged_string {s t : String}
    (h : Rearranged (Json.string s) (Json.string t)) : s = t :=
  rearranged_string_iff.mp h

/-! ## Values -/

/-- True of values in which all doubles are finite. -/
def FiniteFloats (values : List Value) : Prop :=
  ∀ x, Value.float x ∈ values → x.isFinite = true

/-- Values on the wire are told apart by their type and their content. -/
theorem Value.eq_of_rearranged {value other : Value}
    (hfinite : ∀ x, value = .float x → x.isFinite = true)
    (h : Rearranged value.toJson other.toJson) : value = other := by
  cases value <;> cases other
  all_goals
    obtain ⟨htype, hfields⟩ := Rearranged.ofType h (by simp [typeName])
    simp only [String.reduceEq] at htype
  case null.null => rfl
  case integer.integer digits others =>
    rw [eq_of_rearranged_string (Option.rel_some_some.mp (hfields "value" (by decide)))]
  case float.float x y =>
    rw [eq_of_rearranged_ofBinary64 (hfinite x rfl)
      (Option.rel_some_some.mp (hfields "value" (by decide)))]
  case text.text s t =>
    rw [eq_of_rearranged_string (Option.rel_some_some.mp (hfields "value" (by decide)))]
  case blob.blob encoded others =>
    rw [eq_of_rearranged_string (Option.rel_some_some.mp (hfields "base64" (by decide)))]

/-- Named arguments are told apart by their names and values. -/
theorem NamedArgument.eq_of_rearranged {argument other : NamedArgument}
    (hfinite : ∀ x, argument.value = .float x → x.isFinite = true)
    (h : Rearranged argument.toJson other.toJson) : argument = other := by
  have hfields := Rearranged.rel_lookup h (by simp)
  have hname := eq_of_rearranged_string (Option.rel_some_some.mp (hfields "name"))
  have hvalue := Value.eq_of_rearranged hfinite (Option.rel_some_some.mp (hfields "value"))
  cases argument
  cases other
  congr

/-! ## Statements -/

/-- The values of the arguments of a statement. -/
def Statement.values (statement : Statement) : List Value :=
  statement.arguments ++ statement.namedArguments.map NamedArgument.value

/-- The members of the form of a statement. -/
def Statement.members (statement : Statement) : List (String × Json) :=
  optionalMember "sql" (statement.sql.map Json.string) ++
    optionalMember "sql_id" (statement.sqlId.map int32Json) ++
    listMember "args" (statement.arguments.map Value.toJson) ++
    listMember "named_args" (statement.namedArguments.map NamedArgument.toJson) ++
    [("want_rows", .bool statement.wantRows)] ++
    optionalMember "replication_index" (statement.replicationIndex.map replicationIndexJson)

/-- No member of a statement comes twice. -/
theorem Statement.nodup_members (statement : Statement) :
    (statement.members.map Prod.fst).Nodup := by
  have hnames : (statement.members.map Prod.fst).Sublist
      ["sql", "sql_id", "args", "named_args", "want_rows", "replication_index"] := by
    simp only [members, List.map_append]
    exact (((((names_optionalMember _ _).append (names_optionalMember _ _)).append
      (names_listMember _ _)).append (names_listMember _ _)).append (.refl _)).append
      (names_optionalMember _ _)
  exact hnames.nodup (by decide)

/-- Statements are told apart by their members, in whatever order they are. -/
theorem Statement.eq_of_rearranged {statement other : Statement}
    (hfinite : FiniteFloats statement.values) (h : Rearranged statement.toJson other.toJson) :
    statement = other := by
  have hfields : ∀ name, Option.Rel Rearranged (statement.members.lookup name)
      (other.members.lookup name) :=
    Rearranged.rel_lookup h statement.nodup_members
  simp only [members, List.lookup_append, lookup_optionalMember, lookup_listMember,
    lookup_singleton] at hfields
  have hsql : statement.sql = other.sql :=
    eq_of_rel_rearranged (fun _ _ => eq_of_rearranged_string) (by simpa using hfields "sql")
  have hsqlId : statement.sqlId = other.sqlId :=
    eq_of_rel_rearranged (fun _ _ => eq_of_rearranged_int32Json) (by simpa using hfields "sql_id")
  have harguments : statement.arguments = other.arguments := by
    refine eq_of_forall₂_rearranged (fun value hmem _ => Value.eq_of_rearranged ?_)
      (forall₂_of_rel_listField (by simpa using hfields "args"))
    rintro x rfl
    exact hfinite x (List.mem_append_left _ hmem)
  have hnamed : statement.namedArguments = other.namedArguments := by
    refine eq_of_forall₂_rearranged (fun argument hmem _ => NamedArgument.eq_of_rearranged ?_)
      (forall₂_of_rel_listField (by simpa using hfields "named_args"))
    intro x hx
    exact hfinite x (List.mem_append_right _ (List.mem_map.mpr ⟨argument, hmem, hx⟩))
  have hrows : statement.wantRows = other.wantRows := by simpa using hfields "want_rows"
  have hindex : statement.replicationIndex = other.replicationIndex :=
    eq_of_rel_rearranged (fun _ _ => eq_of_rearranged_replicationIndexJson)
      (by simpa using hfields "replication_index")
  cases statement
  cases other
  congr

/-! ## Conditions -/

/-- Induction over conditions, where those in a list are smaller than the condition that has it. -/
@[elab_as_elim]
theorem Condition.induction {motive : Condition → Prop} (ok : ∀ step, motive (.ok step))
    (not : ∀ condition, motive condition → motive (.not condition))
    (and : ∀ conditions, (∀ condition ∈ conditions, motive condition) → motive (.and conditions))
    (or : ∀ conditions, (∀ condition ∈ conditions, motive condition) → motive (.or conditions)) :
    (condition : Condition) → motive condition
  | .ok step => ok step
  | .not condition => not condition (induction ok not and or condition)
  | .and conditions => and conditions fun condition _ => induction ok not and or condition
  | .or conditions => or conditions fun condition _ => induction ok not and or condition

/-- The type of a condition in its form. -/
def Condition.type : Condition → String
  | .ok _ => "ok"
  | .not _ => "not"
  | .and _ => "and"
  | .or _ => "or"

/-- The other member of the form of a condition. -/
def Condition.member : Condition → String × Json
  | .ok step => ("step", .ofInt step)
  | .not condition => ("cond", condition.toJson)
  | .and conditions | .or conditions => ("conds", .array (conditions.map Condition.toJson))

/-- A condition has its type and one member more. -/
theorem Condition.toJson_eq (condition : Condition) :
    condition.toJson = Json.ofType condition.type [condition.member] := by
  cases condition with
  | ok | not => rw [Condition.toJson, type, member]
  | and | or => rw [Condition.toJson, type, member, List.attach_map_val]

/-- Conditions whose forms are equal have one type, and equal members. -/
theorem Condition.type_eq_of_rearranged {condition other : Condition}
    (h : Rearranged condition.toJson other.toJson) : condition.type = other.type ∧
      (condition.member.1 = other.member.1 → Rearranged condition.member.2 other.member.2) := by
  rw [toJson_eq, toJson_eq] at h
  have hne : condition.member.1 ≠ typeName := by
    cases condition <;> exact ne_of_beq_false rfl
  obtain ⟨htype, hfields⟩ := Rearranged.ofType h (by simpa using hne.symm)
  refine ⟨htype, fun hname => ?_⟩
  have hfield := hfields condition.member.1 hne
  rw [show [condition.member] = [(condition.member.1, condition.member.2)] from rfl,
    show [other.member] = [(other.member.1, other.member.2)] from rfl, lookup_singleton,
    lookup_singleton, if_pos rfl, if_pos hname] at hfield
  exact Option.rel_some_some.mp hfield

/-- Conditions are told by their forms, however deep they are. -/
theorem Condition.eq_of_rearranged {condition other : Condition}
    (h : Rearranged condition.toJson other.toJson) : condition = other := by
  induction condition using Condition.induction generalizing other with
  | ok step =>
    obtain ⟨htype, hmember⟩ := type_eq_of_rearranged h
    cases other <;> simp only [type, String.reduceEq] at htype
    rename_i others
    have hstep := rearranged_number_iff.mp (hmember rfl)
    rw [JsonNumber.integer.injEq, Int.ofNat_inj] at hstep
    rw [hstep]
  | not inner ih =>
    obtain ⟨htype, hmember⟩ := type_eq_of_rearranged h
    cases other <;> simp only [type, String.reduceEq] at htype
    rw [ih (hmember rfl)]
  | and conditions ih | or conditions ih =>
    obtain ⟨htype, hmember⟩ := type_eq_of_rearranged h
    cases other <;> simp only [type, String.reduceEq] at htype
    rw [eq_of_forall₂_rearranged (fun condition hmem _ => ih condition hmem)
      (rearranged_array_iff.mp (hmember rfl))]

/-! ## Batches -/

/-- Steps are told apart by their statements and conditions. -/
theorem BatchStep.eq_of_rearranged {step other : BatchStep}
    (hfinite : FiniteFloats step.statement.values) (h : Rearranged step.toJson other.toJson) :
    step = other := by
  have hnames : (["stmt"] ++ (optionalMember "condition"
      (step.condition.map Condition.toJson)).map Prod.fst).Sublist ["stmt", "condition"] :=
    (List.Sublist.refl ["stmt"]).append (names_optionalMember _ _)
  have hfields := Rearranged.rel_lookup h (hnames.nodup (by decide))
  have hstatement : step.statement = other.statement :=
    Statement.eq_of_rearranged hfinite (Option.rel_some_some.mp (hfields "stmt"))
  have hcondition : step.condition = other.condition :=
    eq_of_rel_rearranged (fun _ _ => Condition.eq_of_rearranged)
      (by simpa [List.lookup_cons, lookup_optionalMember] using hfields "condition")
  cases step
  cases other
  congr

/-- The values of the arguments in a batch. -/
def Batch.values (batch : Batch) : List Value :=
  batch.steps.flatMap fun step => step.statement.values

/-- Batches are told apart by their steps and what they ask of the replica. -/
theorem Batch.eq_of_rearranged {batch other : Batch} (hfinite : FiniteFloats batch.values)
    (h : Rearranged batch.toJson other.toJson) : batch = other := by
  have hnames : (["steps"] ++ (optionalMember "replication_index"
      (batch.replicationIndex.map replicationIndexJson)).map Prod.fst).Sublist
        ["steps", "replication_index"] :=
    (List.Sublist.refl ["steps"]).append (names_optionalMember _ _)
  have hfields := Rearranged.rel_lookup h (hnames.nodup (by decide))
  have hsteps : batch.steps = other.steps := by
    refine eq_of_forall₂_rearranged (fun step hmem _ => BatchStep.eq_of_rearranged ?_)
      (rearranged_array_iff.mp (Option.rel_some_some.mp (hfields "steps")))
    exact fun x hx => hfinite x (List.mem_flatMap.mpr ⟨step, hmem, hx⟩)
  have hindex : batch.replicationIndex = other.replicationIndex :=
    eq_of_rel_rearranged (fun _ _ => eq_of_rearranged_replicationIndexJson)
      (by simpa [List.lookup_cons, lookup_optionalMember] using hfields "replication_index")
  cases batch
  cases other
  congr

/-! ## Requests -/

/-- The values of the arguments in a request. -/
def Request.values : Request → List Value
  | .execute statement => statement.values
  | .batch steps => steps.values
  | _ => []

/-- Requests of a stream are told apart by their type and its members. -/
theorem Request.eq_of_rearranged {request other : Request} (hfinite : FiniteFloats request.values)
    (h : Rearranged request.toJson other.toJson) : request = other := by
  cases request <;> cases other
  all_goals
    obtain ⟨htype, hfields⟩ := Rearranged.ofType h (by simp [typeName])
    simp only [String.reduceEq] at htype
  case execute.execute statement others =>
    rw [Statement.eq_of_rearranged hfinite (Option.rel_some_some.mp (hfields "stmt" (by decide)))]
  case batch.batch steps others =>
    rw [Batch.eq_of_rearranged hfinite (Option.rel_some_some.mp (hfields "batch" (by decide)))]
  case storeSql.storeSql sql sqlId others otherId =>
    rw [eq_of_rearranged_string (Option.rel_some_some.mp (hfields "sql" (by decide))),
      eq_of_rearranged_int32Json (Option.rel_some_some.mp (hfields "sql_id" (by decide)))]
  case closeSql.closeSql sqlId otherId =>
    rw [eq_of_rearranged_int32Json (Option.rel_some_some.mp (hfields "sql_id" (by decide)))]
  case close.close => rfl

end SqlStream.Wire

namespace SqlStream.Channel

open SqlStream.Json SqlStream.Wire

/-! ## Frames -/

/-- The values of the arguments in a request on a channel. -/
def ChannelRequest.values : ChannelRequest → List Wire.Value
  | .execute statement => statement.values
  | .batch steps => steps.values
  | _ => []

/-- So are requests on a channel. -/
theorem ChannelRequest.eq_of_rearranged {request other : ChannelRequest}
    (hfinite : FiniteFloats request.values) (h : Rearranged request.toJson other.toJson) :
    request = other := by
  cases request <;> cases other
  all_goals
    obtain ⟨htype, hfields⟩ := Rearranged.ofType h (by simp [typeName, streamMember])
    simp only [String.reduceEq] at htype
  case openStream.openStream => rfl
  case closeStream.closeStream => rfl
  case execute.execute statement others =>
    rw [Statement.eq_of_rearranged hfinite (Option.rel_some_some.mp (hfields "stmt" (by decide)))]
  case batch.batch steps others =>
    rw [Batch.eq_of_rearranged hfinite (Option.rel_some_some.mp (hfields "batch" (by decide)))]
  case storeSql.storeSql sql sqlId others otherId =>
    rw [eq_of_rearranged_string (Option.rel_some_some.mp (hfields "sql" (by decide))),
      eq_of_rearranged_int32Json (Option.rel_some_some.mp (hfields "sql_id" (by decide)))]
  case closeSql.closeSql sqlId otherId =>
    rw [eq_of_rearranged_int32Json (Option.rel_some_some.mp (hfields "sql_id" (by decide)))]

/-- Messages with requests are told apart by their numbers and their requests. -/
theorem ClientMessage.eq_of_rearranged {requestId otherId : Int32}
    {request other : ChannelRequest} (hfinite : FiniteFloats request.values)
    (h : Rearranged (ClientMessage.request requestId request).toJson
      (ClientMessage.request otherId other).toJson) : requestId = otherId ∧ request = other := by
  obtain ⟨-, hfields⟩ := Rearranged.ofType h (by simp [typeName])
  have hrequest := Option.rel_some_some.mp (hfields "request" (by decide))
  exact ⟨eq_of_rearranged_int32Json (Option.rel_some_some.mp (hfields "request_id" (by decide))),
    ChannelRequest.eq_of_rearranged hfinite hrequest⟩

/-- Different requests of a stream are different on a channel. -/
theorem ChannelRequest.ofRequest_injective : Function.Injective ChannelRequest.ofRequest := by
  intro request other h
  cases request <;> cases other <;> cases h <;> rfl

/-- On a channel a request has the same values. -/
theorem ChannelRequest.values_ofRequest (request : Request) :
    (ofRequest request).values = request.values := by
  cases request <;> rfl

/-- Requests whose forms are equal, up to the order of members, are equal. Frames that carry
requests are equal in number and request, whether the request is one of a channel or stands for one
of a stream. -/
theorem requests_encoded_faithfully :
    (∀ request other : Request, FiniteFloats request.values →
      (Rearranged request.toJson other.toJson ↔ request = other)) ∧
    (∀ (requestId otherId : Int32) (request other : ChannelRequest), FiniteFloats request.values →
      (Rearranged (ClientMessage.request requestId request).toJson
          (ClientMessage.request otherId other).toJson ↔
        requestId = otherId ∧ request = other)) ∧
    ∀ (requestId otherId : Int32) (request other : Request), FiniteFloats request.values →
      (Rearranged (ClientMessage.request requestId (.ofRequest request)).toJson
          (ClientMessage.request otherId (.ofRequest other)).toJson ↔
        requestId = otherId ∧ request = other) := by
  refine ⟨fun request other hfinite => ⟨Request.eq_of_rearranged hfinite, ?_⟩,
    fun requestId otherId request other hfinite =>
      ⟨ClientMessage.eq_of_rearranged hfinite, ?_⟩,
    fun requestId otherId request other hfinite => ⟨fun h => ?_, ?_⟩⟩
  · rintro rfl
    exact .same _
  · rintro ⟨rfl, rfl⟩
    exact .same _
  · rw [← ChannelRequest.values_ofRequest] at hfinite
    obtain ⟨hid, hrequest⟩ := ClientMessage.eq_of_rearranged hfinite h
    exact ⟨hid, ChannelRequest.ofRequest_injective hrequest⟩
  · rintro ⟨rfl, rfl⟩
    exact .same _

/-- A batch of one step, which has a double as argument and runs unless the condition holds. -/
def sampleBatch (sql : Option String) (condition : Condition) : Request :=
  .batch ⟨[⟨⟨sql, none, [.float ⟨0x3ff8000000000000⟩], [], true, none⟩, some (.not condition)⟩], none⟩

/-- The absent text is told from the empty one, and a conjunction of nothing from a disjunction of
nothing; frames with one request are told by their numbers. -/
theorem requests_encoded_faithfully_of_batches :
    FiniteFloats (sampleBatch (some "") (.and [])).values ∧
    ¬ Rearranged (sampleBatch (some "") (.and [])).toJson (sampleBatch none (.and [])).toJson ∧
    ¬ Rearranged (sampleBatch (some "") (.and [])).toJson (sampleBatch (some "") (.or [])).toJson ∧
    ¬ Rearranged (ClientMessage.request 1 .closeStream).toJson
        (ClientMessage.request 2 .closeStream).toJson ∧
    ¬ Rearranged (ClientMessage.request 1 (.ofRequest .close)).toJson
        (ClientMessage.request 2 (.ofRequest .close)).toJson := by
  have hfinite : FiniteFloats (sampleBatch (some "") (.and [])).values := by
    intro x hx
    obtain rfl : x = ⟨0x3ff8000000000000⟩ := by
      simpa [sampleBatch, Request.values, Batch.values, Statement.values] using hx
    decide
  obtain ⟨hrequest, hframe, hstream⟩ := requests_encoded_faithfully
  refine ⟨hfinite, ?_, ?_, ?_, ?_⟩
  · rw [hrequest _ _ hfinite]
    simp [sampleBatch]
  · rw [hrequest _ _ hfinite]
    simp [sampleBatch]
  · simp [hframe _ _ .closeStream _ (fun _ h => nomatch h)]
  · simp [hstream _ _ .close _ (fun _ h => nomatch h)]

end SqlStream.Channel
