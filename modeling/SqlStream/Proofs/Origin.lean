import SqlStream.Proofs.Batch.Fates
import SqlStream.Proofs.Batch.Layout
import SqlStream.Proofs.Call

/-!
# Who finds an error

What goes wrong is found by the client before it sends anything, in the reply of a server on a
stream that goes on, or it leaves the stream unusable. Each step of a call finds errors of one of
these kinds: arguments are bound and put on the wire before anything is sent, and answers are read
behind it.
-/

namespace SqlStream

open SqlStream.Sql SqlStream.Wire

/-- Where an error is found. -/
inductive Error.Origin where
  /-- In what the caller asks for. -/
  | asked
  /-- In the reply of the server. -/
  | reply
  /-- In the stream, which cannot be used any more. -/
  | stream
  deriving DecidableEq

namespace Error

/-- The origin of an error; to name a statement in it does not change that. -/
def origin : Error → Origin
  | malformedParameter _ | missingParameters _ _ | statementCount _ | batchTooLarge _
  | unsupportedValue _ => .asked
  | undecodable _ | protocol _ | server _ => .reply
  | streamClosed | broken _ => .stream
  | inStatement _ cause => cause.origin

/-- The cause of an error is found where the error is. -/
@[simp] theorem origin_root (error : Error) : error.root.origin = error.origin := by
  induction error with
  | inStatement sql cause ih => exact ih
  | _ => rfl

/-- To name a statement does not change what went wrong with it. -/
@[simp] theorem root_withStatement (sql : String) (error : Error) :
    (error.withStatement sql).root = error.root := by
  cases error <;> rfl

/-- Nor does it change where that is found. -/
@[simp] theorem origin_withStatement (sql : String) (error : Error) :
    (error.withStatement sql).origin = error.origin := by
  rw [← origin_root, root_withStatement, origin_root]

/-- True of the errors that the client finds by itself, in what it is asked for. -/
inductive FoundLocally : Error → Prop where
  | malformedParameter (fault : ParameterFault) : FoundLocally (.malformedParameter fault)
  | missingParameters (needed available : Nat) : FoundLocally (.missingParameters needed available)
  | statementCount (found : Nat) : FoundLocally (.statementCount found)
  | batchTooLarge (steps : Nat) : FoundLocally (.batchTooLarge steps)
  | unsupportedValue (fault : ValueFault) : FoundLocally (.unsupportedValue fault)

/-- What the client finds by itself are the errors in what it is asked for. -/
theorem foundLocally_root_iff {error : Error} :
    error.root.FoundLocally ↔ error.origin = .asked := by
  induction error with
  | inStatement sql cause ih => exact ih
  | malformedParameter fault => exact iff_of_true (.malformedParameter fault) rfl
  | missingParameters needed available => exact iff_of_true (.missingParameters needed available) rfl
  | statementCount found => exact iff_of_true (.statementCount found) rfl
  | batchTooLarge steps => exact iff_of_true (.batchTooLarge steps) rfl
  | unsupportedValue fault => exact iff_of_true (.unsupportedValue fault) rfl
  | _ => exact iff_of_false nofun nofun

/-- True of the errors in the placeholders of a script and in their arguments. -/
inductive InParameters : Error → Prop where
  | malformed (fault : ParameterFault) : InParameters (.malformedParameter fault)
  | missing (needed available : Nat) : InParameters (.missingParameters needed available)

/-- What is wrong with parameters is found before anything is sent. -/
theorem InParameters.origin_eq {error : Error} (h : error.InParameters) : error.origin = .asked := by
  cases h <;> rfl

/-- What is wrong with parameters is not said of a statement by itself. -/
theorem InParameters.root_eq {error : Error} (h : error.InParameters) : error.root = error := by
  cases h <;> rfl

/-- True of the errors in the answers to requests. -/
inductive InAnswers : Error → Prop where
  | protocol (violation : ProtocolViolation) : InAnswers (.protocol violation)
  | server (failure : ServerError) : InAnswers (.server failure)

/-- True of the errors in what a reply says of statements with these texts: it does not say what it
should, or a statement of a batch failed. -/
inductive InReply (texts : List String) : Error → Prop where
  | protocol (violation : ProtocolViolation) : InReply texts (.protocol violation)
  | undecodable (fault : DecodeFault) : InReply texts (.undecodable fault)
  | failed {sql : String} (hmem : sql ∈ texts) (failure : ServerError) :
      InReply texts (.inStatement sql (.server failure))

/-- True of the errors of a stream that cannot be used any more. -/
inductive InStream : Error → Prop where
  | closed : InStream .streamClosed
  | broken (breakage : Breakage) : InStream (.broken breakage)

/-- What the client finds by itself is in what it is asked for. -/
theorem FoundLocally.origin_eq {error : Error} (h : error.FoundLocally) : error.origin = .asked := by
  cases h <;> rfl

/-- What is wrong with answers is in the reply. -/
theorem InAnswers.origin_eq {error : Error} (h : error.InAnswers) : error.origin = .reply := by
  cases h <;> rfl

/-- So is what a reply says of statements. -/
theorem InReply.origin_eq {texts : List String} {error : Error} (h : error.InReply texts) :
    error.origin = .reply := by
  cases h <;> rfl

/-- What is said of some texts is said of more. -/
theorem InReply.mono {texts others : List String} {error : Error}
    (h : error.InReply texts) (hsub : texts ⊆ others) : error.InReply others := by
  cases h with
  | protocol violation => exact .protocol violation
  | undecodable fault => exact .undecodable fault
  | failed hmem failure => exact .failed (hsub hmem) failure

/-- What is wrong with a stream that cannot be used is found in the stream. -/
theorem InStream.origin_eq {error : Error} (h : error.InStream) : error.origin = .stream := by
  cases h <;> rfl

/-- A connection cannot be used any more if its stream cannot. -/
theorem isBadConnection_eq_true_iff {error : Error} :
    error.isBadConnection = true ↔ error.origin = .stream := by
  induction error with
  | inStatement sql cause ih => exact ih
  | _ => simp [isBadConnection, root, origin]

end Error

/-! ## Results with errors of one kind -/

/-- True of a result whose error, if it is one, has a property. -/
def FailsWith {α : Type} (P : Error → Prop) (result : Except Error α) : Prop :=
  ∀ error, result = .error error → P error

/-- True of a result whose error, if it is one, has this origin. -/
abbrev FailsAt {α : Type} (origin : Error.Origin) (result : Except Error α) : Prop :=
  FailsWith (fun error => error.origin = origin) result

namespace FailsWith

variable {α β : Type} {P Q : Error → Prop} {origin : Error.Origin}

/-- A value is no error at all. -/
theorem ok (a : α) : FailsWith P (.ok a) :=
  nofun

/-- An error that has the property. -/
theorem error {error : Error} (h : P error) : FailsWith (α := α) P (.error error) := by
  intro other heq
  rwa [← Except.error.inj heq]

/-- A weaker property of errors. -/
theorem mono {result : Except Error α} (h : FailsWith P result) (hPQ : ∀ error, P error → Q error) :
    FailsWith Q result :=
  fun error heq => hPQ error (h error heq)

/-- A result behind another fails where one of the two does. -/
theorem bind {first : Except Error α} {next : α → Except Error β} (h : FailsWith P first)
    (hnext : ∀ a, FailsWith P (next a)) : FailsWith P (first >>= next) := by
  cases first with
  | error cause => exact .error (h cause rfl)
  | ok a => exact hnext a

/-- To put a result into other words does not add errors. -/
theorem map {result : Except Error α} (h : FailsWith P result) (f : α → β) :
    FailsWith P (result.map f) := by
  cases result with
  | error cause => exact .error (h cause rfl)
  | ok a => exact .ok (f a)

/-- Faults as errors have what these errors have. -/
theorem mapError {ε : Type} (f : ε → Error) (h : ∀ fault, P (f fault)) (result : Except ε α) :
    FailsWith P (result.mapError f) := by
  cases result with
  | error fault => exact .error (h fault)
  | ok a => exact .ok a

/-- To name a statement in an error does not change its origin. -/
theorem withStatement {result : Except Error α} (h : FailsAt origin result) (sql : String) :
    FailsAt origin (result.mapError (Error.withStatement sql)) := by
  cases result with
  | error cause => exact .error ((cause.origin_withStatement sql).trans (h cause rfl))
  | ok a => exact .ok a

/-- Results of members fail where that of one member does. -/
theorem mapM_of_mem {f : α → Except Error β} {xs : List α} (h : ∀ a ∈ xs, FailsWith P (f a)) :
    FailsWith P (xs.mapM f) := by
  induction xs with
  | nil => exact .ok []
  | cons x xs ih =>
    rw [List.mapM_cons]
    have hrest := ih fun a hmem => h a (List.mem_cons_of_mem x hmem)
    exact (h x List.mem_cons_self).bind fun y => hrest.bind fun ys => .ok (y :: ys)

/-- Results of any members do. -/
theorem mapM {f : α → Except Error β} (h : ∀ a, FailsWith P (f a)) (xs : List α) :
    FailsWith P (xs.mapM f) :=
  mapM_of_mem fun a _ => h a

/-- So does a run of steps. -/
theorem foldlM {f : β → α → Except Error β} (h : ∀ b a, FailsWith P (f b a)) (xs : List α)
    (b : β) : FailsWith P (xs.foldlM f b) := by
  induction xs generalizing b with
  | nil => exact .ok b
  | cons x xs ih =>
    rw [List.foldlM_cons]
    exact (h b x).bind fun next => ih next

/-- A call after another fails where one of the two does. -/
theorem runOn_bind {σ : Type} {first : Call σ α} {next : α → Call σ β} {state : σ}
    (h : FailsWith P (first.runOn state).1)
    (hnext : ∀ a after, FailsWith P ((next a).runOn after).1) :
    FailsWith P ((first >>= next).runOn state).1 := by
  cases hrun : first.runOn state with
  | mk result after =>
    rw [hrun] at h
    cases result with
    | error cause =>
      rw [Call.runOn_bind_error hrun]
      exact .error (h cause rfl)
    | ok a =>
      rw [Call.runOn_bind_ok hrun]
      exact hnext a after

end FailsWith

/-! ## Errors in what is asked for -/

/-- A statement gets no values because there are too few of them. -/
theorem takeValues_failsWith (statement : ShapedStatement) (left : List Value) :
    FailsWith Error.InParameters (takeValues statement left) := by
  simp only [takeValues]
  split
  · exact .ok _
  · split
    · exact .ok _
    · exact .error (.missing _ _)

/-- A script is not bound because of its placeholders or its arguments. -/
theorem bindScript_failsWith (sql : String) (arguments : Arguments) :
    FailsWith Error.InParameters (bindScript sql arguments) := by
  have hshape : ∀ sql, FailsWith Error.InParameters (shapeStatement sql) := by
    intro sql
    unfold shapeStatement
    exact .mapError .malformedParameter .malformed _
  refine (FailsWith.mapM hshape _).bind fun statements => ?_
  cases arguments with
  | positional values =>
    refine FailsWith.bind (.foldlM (fun state statement => ?_) _ _) fun bound => .ok _
    exact (takeValues_failsWith statement state.1).bind fun taken => .ok _
  | named pairs =>
    exact (FailsWith.mapError .malformedParameter .malformed _).bind fun pairs => .ok _

/-- What keeps a script from being bound is found before anything is sent. -/
theorem bindScript_failsAt (sql : String) (arguments : Arguments) :
    FailsAt .asked (bindScript sql arguments) :=
  (bindScript_failsWith sql arguments).mono fun _ => Error.InParameters.origin_eq

/-- A statement is not put on the wire because of its arguments. -/
theorem buildStatement_failsWith (source : SqlSource) (arguments : Arguments) (wantRows : Bool) :
    FailsWith Error.FoundLocally (buildStatement source arguments wantRows) := by
  have hvalue : ∀ value, FailsWith Error.FoundLocally (encodeValue value) := by
    intro value
    unfold encodeValue
    exact .mapError .unsupportedValue .unsupportedValue _
  cases arguments with
  | positional values => exact (FailsWith.mapM hvalue values).bind fun values => .ok _
  | named pairs =>
    refine (FailsWith.mapM (fun pair => ?_) pairs).bind fun pairs => .ok _
    exact (FailsWith.mapError .malformedParameter .malformedParameter _).bind fun name =>
      (hvalue pair.2).bind fun value => .ok _

/-- So is what keeps a statement from being put on the wire. -/
theorem buildStatement_failsAt (source : SqlSource) (arguments : Arguments) (wantRows : Bool) :
    FailsAt .asked (buildStatement source arguments wantRows) :=
  (buildStatement_failsWith source arguments wantRows).mono fun _ => Error.FoundLocally.origin_eq

/-- A statement of a script is not put on the wire because of its arguments. -/
theorem buildBound_failsAt (wantRows : Bool) (statement : BoundStatement) :
    FailsAt .asked (Connection.buildBound wantRows statement) := by
  unfold Connection.buildBound
  exact (buildStatement_failsAt _ _ _).withStatement statement.sql

/-- A batch is not built because it is too large for references to its steps. -/
theorem build_failsWith (plan : BatchPlan) :
    FailsWith (fun error => ∃ steps, error = .batchTooLarge steps) plan.build := by
  rw [BatchPlan.build_eq]
  split
  · exact .ok _
  · exact .error ⟨_, rfl⟩

/-- That is found before anything is sent. -/
theorem build_failsAt (plan : BatchPlan) : FailsAt .asked plan.build := by
  refine (build_failsWith plan).mono ?_
  rintro _ ⟨steps, rfl⟩
  rfl

/-- A text is not prepared because it is not one statement or because of its placeholders. -/
theorem prepare_failsAt (sql : String) : FailsAt .asked (prepare sql) := by
  unfold prepare
  split
  · split
    · exact .ok _
    · exact .error rfl
  · exact .error rfl

/-! ## Errors in replies -/

/-- An answer is none to a statement because it is of another kind. -/
theorem expectExecute_failsWith (texts : List String) (responses : List Response) :
    FailsWith (Error.InReply texts) (expectExecute responses) := by
  unfold expectExecute
  split
  · exact .ok _
  · exact .error (.protocol _)

/-- That is found in the reply. -/
theorem expectExecute_failsAt (responses : List Response) :
    FailsAt .reply (expectExecute responses) :=
  (expectExecute_failsWith [] responses).mono fun _ => Error.InReply.origin_eq

/-- An answer is none to a batch because it is of another kind. -/
theorem expectBatch_failsWith (texts : List String) (responses : List Response) :
    FailsWith (Error.InReply texts) (expectBatch responses) := by
  unfold expectBatch
  split
  · exact .ok _
  · exact .error (.protocol _)

/-- That is found in the reply too. -/
theorem expectBatch_failsAt (responses : List Response) :
    FailsAt .reply (expectBatch responses) :=
  (expectBatch_failsWith [] responses).mono fun _ => Error.InReply.origin_eq

/-- A result is no result set because of its values. -/
theorem decodeResult_failsWith (texts : List String) (result : StatementResult) :
    FailsWith (Error.InReply texts) (decodeResult result) := by
  unfold decodeResult
  exact .mapError .undecodable .undecodable _

/-- That is found in the reply. -/
theorem decodeResult_failsAt (result : StatementResult) : FailsAt .reply (decodeResult result) :=
  (decodeResult_failsWith [] result).mono fun _ => Error.InReply.origin_eq

/-- What a step gave cannot be told because of a value in the reply. -/
theorem outcome_failsAt (fate : StepFate) : FailsAt .reply fate.outcome := by
  unfold StepFate.outcome
  cases fate with
  | succeeded result => exact .mapError .undecodable (fun _ => rfl) _
  | failed error => exact .ok _
  | skipped => exact .ok _

/-- A batch fails as a whole because a step that the client added failed. -/
theorem callerFates_failsWith (plan : BatchPlan) (result : BatchResult) (keepRollback : Bool) :
    FailsWith (Error.InReply ["BEGIN", "COMMIT"]) (plan.callerFates result keepRollback) := by
  have hadded : ∀ sql ∈ ["BEGIN", "COMMIT"], ∀ fate,
      FailsWith (Error.InReply ["BEGIN", "COMMIT"]) (checkAddedStep sql fate) := by
    intro sql hmem fate
    unfold checkAddedStep
    split
    · exact .error (.failed hmem _)
    · exact .ok ()
  unfold BatchPlan.callerFates
  cases plan.transactional with
  | false => exact .ok _
  | true =>
    exact (hadded "BEGIN" (by simp) _).bind fun _ =>
      (hadded "COMMIT" (by simp) _).bind fun _ => .ok _

/-- That a step failed which the client added is found in the reply. -/
theorem callerFates_failsAt (plan : BatchPlan) (result : BatchResult) (keepRollback : Bool) :
    FailsAt .reply (plan.callerFates result keepRollback) :=
  (callerFates_failsWith plan result keepRollback).mono fun _ => Error.InReply.origin_eq

/-- Statements that must all succeed do not because one of them failed, or because of what one of
them gave. -/
theorem collectResults_failsWith (statements : List (String × StepFate)) :
    FailsWith (Error.InReply (statements.map Prod.fst)) (collectResults statements) := by
  rw [collectResults_eq]
  refine FailsWith.map (FailsWith.mapM_of_mem (fun statement hmem => ?_)) _
  cases statement.2 with
  | succeeded result => exact (decodeResult_failsWith _ result).map some
  | failed error => exact .error (.failed (List.mem_map_of_mem hmem) error)
  | skipped => exact .ok none

/-- So is that a statement failed. -/
theorem collectResults_failsAt (statements : List (String × StepFate)) :
    FailsAt .reply (collectResults statements) :=
  (collectResults_failsWith statements).mono fun _ => Error.InReply.origin_eq

/-- Answers do not fit the requests, or one of them is an error of the server. -/
theorem checkResults_failsWith (sent : List Request) (results : List StreamResult) :
    FailsWith Error.InAnswers (checkResults sent results) := by
  have hresult : ∀ index request result,
      FailsWith Error.InAnswers (checkResult index request result) := by
    intro index request result
    unfold checkResult
    split
    · split
      · exact .ok _
      · exact .error (.protocol _)
    · exact .error (.server _)
    all_goals exact .error (.protocol _)
  have hfrom : ∀ index, FailsWith Error.InAnswers (checkResultsFrom index sent results) := by
    induction sent generalizing results with
    | nil => exact fun _ => .ok []
    | cons request sent ih =>
      exact fun index => (hresult _ _ _).bind fun response => (ih _ _).bind fun responses => .ok _
  unfold checkResults
  split
  · exact .error (.protocol _)
  · exact hfrom 0

/-- Whether answers fit is found in the reply. -/
theorem checkResults_failsAt (sent : List Request) (results : List StreamResult) :
    FailsAt .reply (checkResults sent results) :=
  (checkResults_failsWith sent results).mono fun _ => Error.InAnswers.origin_eq

end SqlStream
