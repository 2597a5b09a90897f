import Mathlib.Data.List.Induction
import SqlStream.Proofs.Connection.ClosedForGood

/-!
# Transactions on closed streams

A stream that is closed has lost its transaction. But a connection takes note of that only if it is
told to roll back or to close: a call that closes the stream in any other way inside a transaction
*abandons* it (`ConnectionCall.Abandons`), and the connection goes on to note it. So a transaction is
noted on a closed stream exactly if a call abandoned it, and neither `rollback` nor `close` was
called since (`notesLost_iff_abandoned`).
-/

namespace SqlStream

open SqlStream.Sql SqlStream.Wire

section

variable {τ : Type} [Transport τ]

/-- True of a connection that notes a transaction although its stream is closed. -/
def Connection.NotesLost (connection : Connection τ) : Prop :=
  connection.inTransaction = true ∧ connection.session.isClosed = true

namespace ConnectionCall

/-- True of a call behind which a transaction is noted: one that was noted before and that the call
does not end, or one that the call begins. -/
def LeavesNoted (inTransaction succeeded : Bool) : ConnectionCall → Prop
  | beginTransaction => inTransaction = true ∨ succeeded = true
  | commit => inTransaction = true ∧ succeeded = false
  | rollback | close => False
  | _ => inTransaction = true

/-- True of a call that closes the stream of a connection, and behind which a transaction is
noted. -/
structure Abandons (call : ConnectionCall) (connection : Connection τ) : Prop where
  isOpen : connection.session.isClosed = false
  closes : (call.after connection).session.isClosed = true
  leavesNoted : call.LeavesNoted connection.inTransaction (call.run.runOn connection).1.isOk

variable {call : ConnectionCall} {connection : Connection τ}

theorem inTransaction_after_iff :
    (call.after connection).inTransaction = true ↔
      call.LeavesNoted connection.inTransaction (call.run.runOn connection).1.isOk := by
  rw [after, runOn_run]
  show (call.noted _ connection.notes).inTransaction = true ↔ _
  have hbefore : connection.notes.inTransaction = connection.inTransaction := rfl
  cases call with
  | beginTransaction =>
    simp only [noted, LeavesNoted, hbefore]
    cases (Except.isOk _) <;> simp
  | commit =>
    simp only [noted, LeavesNoted, hbefore]
    cases (Except.isOk _) <;> simp
  | rollback => exact iff_of_false Bool.false_ne_true id
  | close => exact iff_of_false Bool.false_ne_true id
  | _ => exact Iff.rfl

theorem Abandons.notesLost (h : call.Abandons connection) : (call.after connection).NotesLost :=
  ⟨inTransaction_after_iff.mpr h.leavesNoted, h.closes⟩

end ConnectionCall

/-! ## On closed streams -/

variable [SealedTransport τ] {connection : Connection τ} {call : ConnectionCall}

/-- On a closed stream a statement fails. -/
theorem runOn_executePlain_of_isClosed {stream : τ}
    (hclosed : (Transport.session stream).isClosed = true) (sql : String) :
    (executePlain sql).runOn stream = (.error (.inStatement sql .streamClosed), stream) := by
  have hsend := SealedTransport.send_of_isClosed hclosed [.execute (plainStatement sql)]
  have hstatement : (executeStatement (.text sql) .none false).runOn stream =
      (.error .streamClosed, stream) :=
    Call.runOn_bind_error hsend _
  rw [executePlain, Call.runOn_withStatement, hstatement]
  rfl

/-- On a closed stream no transaction is begun or committed. -/
theorem ConnectionCall.leavesNoted_of_isClosed (hclosed : connection.session.isClosed = true) :
    call.LeavesNoted connection.inTransaction (call.run.runOn connection).1.isOk ↔
      connection.inTransaction = true ∧ call ≠ .rollback ∧ call ≠ .close := by
  have hplain : ∀ sql, (((fun _ => ()) <$> executePlain sql : Call τ Unit).runOn
      connection.stream).1.isOk = false := by
    intro sql
    rw [Call.runOn_map, runOn_executePlain_of_isClosed hclosed]
    rfl
  rw [runOn_run]
  cases call with
  | beginTransaction =>
    show connection.inTransaction = true ∨ _ = true ↔ _
    rw [streamCall, hplain "BEGIN"]
    simp
  | commit =>
    show connection.inTransaction = true ∧ _ = false ↔ _
    rw [streamCall, hplain "COMMIT"]
    simp
  | _ => simp [LeavesNoted]

variable [FinalTransport τ]

/-- Behind a call on a closed stream, a transaction is noted that was noted before, unless the call
rolls back or closes. -/
theorem ConnectionCall.notesLost_after_of_isClosed (hclosed : connection.session.isClosed = true) :
    (call.after connection).NotesLost ↔
      connection.inTransaction = true ∧ call ≠ .rollback ∧ call ≠ .close := by
  have hafter : (call.after connection).session.isClosed = true := by
    rwa [call.session_after hclosed]
  rw [Connection.NotesLost, inTransaction_after_iff, leavesNoted_of_isClosed hclosed]
  exact and_iff_left hafter

/-! ## Runs -/

/-- If no transaction is noted on a closed stream, one is behind a call that abandons it. -/
theorem ConnectionCall.notesLost_after_iff (hsound : ¬ connection.NotesLost) :
    (call.after connection).NotesLost ↔ call.Abandons connection := by
  refine ⟨fun hlost => ?_, Abandons.notesLost⟩
  by_cases hclosed : connection.session.isClosed = true
  · have hnoted := (notesLost_after_of_isClosed hclosed).mp hlost
    exact absurd ⟨hnoted.1, hclosed⟩ hsound
  · exact ⟨by simpa using hclosed, hlost.2, inTransaction_after_iff.mp hlost.1⟩

/-- A transaction that is noted on a closed stream stays noted until a call rolls back or closes. -/
theorem ConnectionCall.notesLost_after_of_notesLost (hlost : connection.NotesLost) :
    (call.after connection).NotesLost ↔ call ≠ .rollback ∧ call ≠ .close := by
  rw [notesLost_after_of_isClosed hlost.2]
  exact and_iff_right hlost.1

/-- Behind several calls a transaction is noted on a closed stream if one of them abandoned it, and
no later one rolled back or closed. -/
theorem Connection.notesLost_afterCalls_iff (hsound : ¬ connection.NotesLost)
    (calls : List ConnectionCall) :
    (connection.afterCalls calls).NotesLost ↔
      ∃ before call later, calls = before ++ call :: later ∧
        call.Abandons (connection.afterCalls before) ∧ .rollback ∉ later ∧ .close ∉ later := by
  induction calls using List.reverseRecOn with
  | nil =>
    refine iff_of_false hsound ?_
    rintro ⟨before, call, later, hcalls, _⟩
    simp at hcalls
  | append_singleton calls last ih =>
    rw [afterCalls_concat]
    constructor
    · intro hlost
      by_cases hbefore : (connection.afterCalls calls).NotesLost
      · -- it was abandoned earlier, and the last call goes on with it
        obtain ⟨before, call, later, rfl, habandons, hrollback, hclose⟩ := ih.mp hbefore
        have hlast := (ConnectionCall.notesLost_after_of_notesLost hbefore).mp hlost
        refine ⟨before, call, later ++ [last], by simp, habandons, ?_, ?_⟩
        · simp [hrollback, hlast.1.symm]
        · simp [hclose, hlast.2.symm]
      · have habandons := (ConnectionCall.notesLost_after_iff hbefore).mp hlost
        exact ⟨calls, last, [], rfl, habandons, List.not_mem_nil, List.not_mem_nil⟩
    · rintro ⟨before, call, later, hcalls, habandons, hrollback, hclose⟩
      rcases List.eq_nil_or_concat' later with rfl | ⟨earlier, final, rfl⟩
      · obtain ⟨rfl, hcall⟩ := List.append_inj' hcalls rfl
        rw [List.singleton_inj.mp hcall]
        exact habandons.notesLost
      · rw [← List.cons_append, ← List.append_assoc] at hcalls
        obtain ⟨rfl, hfinal⟩ := List.append_inj' hcalls rfl
        obtain rfl := List.singleton_inj.mp hfinal
        simp only [List.mem_append, List.mem_singleton, not_or] at hrollback hclose
        have hbefore := ih.mpr ⟨before, call, earlier, rfl, habandons, hrollback.1, hclose.1⟩
        refine (ConnectionCall.notesLost_after_of_notesLost hbefore).mpr ?_
        exact ⟨Ne.symm hrollback.2, Ne.symm hclose.2⟩

/-- On a connection that notes no transaction on a closed stream, one is noted behind several calls
exactly if a call abandoned it and none has rolled back or closed since. So none is ever noted on a
closed stream exactly if no call abandons a transaction. -/
theorem notesLost_iff_abandoned (hsound : ¬ connection.NotesLost) (calls : List ConnectionCall) :
    ((connection.afterCalls calls).NotesLost ↔
      ∃ before call later, calls = before ++ call :: later ∧
        call.Abandons (connection.afterCalls before) ∧ .rollback ∉ later ∧ .close ∉ later) ∧
    ((∀ before later, calls = before ++ later → ¬ (connection.afterCalls before).NotesLost) ↔
      AtEach (fun before call => ¬ call.Abandons (connection.afterCalls before)) calls) := by
  refine ⟨connection.notesLost_afterCalls_iff hsound calls, ?_, ?_⟩
  · intro hnever before call later hcalls habandons
    refine hnever (before ++ [call]) later (by simpa using hcalls) ?_
    rw [Connection.afterCalls_concat]
    exact habandons.notesLost
  · intro heach before later hcalls hlost
    obtain ⟨earlier, call, between, rfl, habandons, _⟩ :=
      (connection.notesLost_afterCalls_iff hsound before).mp hlost
    exact heach earlier call (between ++ later) (by simpa using hcalls) habandons

end

/-- A connection whose server lets `BEGIN` succeed and cannot be reached behind it. -/
def reachedOnce : Connection (Http.Stream Http.Prepared) where
  stream := .new ⟨[Http.answering "execute" "\x7b\x7d"]⟩ "http://localhost" ""

theorem notesLost_iff_abandoned_of_commit :
    ¬ reachedOnce.NotesLost ∧
      ConnectionCall.Abandons (.query "a" .none) (reachedOnce.afterCalls [.beginTransaction]) ∧
      (reachedOnce.afterCalls [.beginTransaction, .query "a" .none, .commit]).NotesLost := by
  have hsound : ¬ reachedOnce.NotesLost := fun hlost => Bool.false_ne_true hlost.1
  have habandons :
      ConnectionCall.Abandons (.query "a" .none) (reachedOnce.afterCalls [.beginTransaction]) :=
    { isOpen := by decide +kernel
      closes := by decide +kernel
      leavesNoted := by
        show (reachedOnce.afterCalls [.beginTransaction]).inTransaction = true
        decide +kernel }
  refine ⟨hsound, habandons, (notesLost_iff_abandoned hsound _).1.mpr ?_⟩
  exact ⟨[.beginTransaction], .query "a" .none, [.commit], rfl, habandons, by simp, by simp⟩

/-- A server that cannot be reached any more leaves the transaction noted that it has lost. -/
theorem unreachable_server_leaves_transaction :
    (reachedOnce.afterCalls [.beginTransaction, .query "a" .none]).session.isClosed = true ∧
      (reachedOnce.afterCalls [.beginTransaction, .query "a" .none]).inTransaction = true := by
  decide +kernel

end SqlStream
