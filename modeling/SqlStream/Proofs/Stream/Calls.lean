import SqlStream.Proofs.Session

/-!
# Calls on a stream

A caller sends requests on a stream and closes it, in any order and as often as it likes.
-/

namespace SqlStream

open SqlStream.Wire

/-! ## Histories -/

/-- True if each element of a list is as the ones before it have it. -/
def AtEach {α : Type} (P : List α → α → Prop) (xs : List α) : Prop :=
  ∀ before x after, xs = before ++ x :: after → P before x

/-- There is no place in an empty list. -/
theorem atEach_nil {α : Type} (P : List α → α → Prop) : AtEach P [] := by
  intro before x after h
  simp at h

/-- What holds at each place and at a last one holds at each place of both. -/
theorem AtEach.concat {α : Type} {P : List α → α → Prop} {xs : List α} {x : α}
    (h : AtEach P xs) (hx : P xs x) : AtEach P (xs ++ [x]) := by
  intro before y after heq
  rcases List.eq_nil_or_concat' after with rfl | ⟨rest, last, rfl⟩
  · obtain ⟨rfl, hy⟩ := List.append_inj' heq rfl
    rwa [← List.singleton_inj.mp hy]
  · -- the element stands before the last one
    rw [← List.cons_append, ← List.append_assoc] at heq
    exact h before y rest (List.append_inj' heq rfl).1

/-- What holds at each place holds before the last and at it. -/
theorem AtEach.of_concat {α : Type} {P : List α → α → Prop} {xs : List α} {x : α}
    (h : AtEach P (xs ++ [x])) : AtEach P xs ∧ P xs x := by
  refine ⟨fun before y after heq => h before y (after ++ [x]) ?_, h xs x [] rfl⟩
  rw [heq, List.append_assoc, List.cons_append]

/-- Places are added at the end one by one. -/
theorem AtEach.concat_iff {α : Type} {P : List α → α → Prop} {xs : List α} {x : α} :
    AtEach P (xs ++ [x]) ↔ AtEach P xs ∧ P xs x :=
  ⟨AtEach.of_concat, fun h => h.1.concat h.2⟩

/-! ## Calls -/

/-- A call on a stream. -/
inductive StreamCall where
  | send (requests : List Request)
  | close

namespace StreamCall

/-- The requests that a call asks the server for. -/
def requests : StreamCall → List Request
  | send requests => requests
  | close => [.close]

variable {τ : Type} [Transport τ]

/-- What a call does. There are no answers to closing a stream. -/
def run : StreamCall → Call τ (List Response)
  | send requests => Transport.send requests
  | close => do
    modify Transport.close
    return []

/-- The stream behind a call. -/
def after (call : StreamCall) (stream : τ) : τ :=
  (call.run.runOn stream).2

/-- A call that sends gives what sending gives. -/
@[simp] theorem runOn_run_send (requests : List Request) (stream : τ) :
    (send requests).run.runOn stream = (Transport.send requests).runOn stream :=
  rfl

/-- A call that closes cannot fail. -/
@[simp] theorem runOn_run_close (stream : τ) :
    close.run.runOn stream = (.ok [], Transport.close stream) :=
  rfl

end StreamCall

variable {τ : Type} [Transport τ]

/-- The stream behind several calls. -/
def streamAfter (calls : List StreamCall) (stream : τ) : τ :=
  calls.foldl (fun stream call => call.after stream) stream

/-- Without calls a stream stays as it is. -/
@[simp] theorem streamAfter_nil (stream : τ) : streamAfter [] stream = stream :=
  rfl

/-- The first call of several comes before the others. -/
@[simp] theorem streamAfter_cons (call : StreamCall) (calls : List StreamCall) (stream : τ) :
    streamAfter (call :: calls) stream = streamAfter calls (call.after stream) :=
  rfl

/-- The last call of several comes behind the others. -/
@[simp] theorem streamAfter_concat (calls : List StreamCall) (call : StreamCall) (stream : τ) :
    streamAfter (calls ++ [call]) stream = call.after (streamAfter calls stream) := by
  rw [streamAfter, List.foldl_append]
  rfl

end SqlStream
