/-
What the messages of the service decide about a wait.

A wait that is given a message, and has kept no view that is done, is over with the first message
that finds the operation done.  It fails with the error of that message if the message tells of a
failure (`OperationMessage.IsFailure`), and with no error of an operation otherwise; a message that
does not say "DONE" decides nothing, whatever else it says.  These are facts about the calls of a
wait (`Ending`), taken apart at one of them.

A word for a status that is not known is no trouble to a wait.  It cannot be told from the word for
pending operations: with that word in every place of such words, the wait goes the same way
(`await_mimics`).
-/
import ComputeNodes.Proofs.Provider.Polling
import ComputeNodes.Proofs.Service.AsPending

namespace ComputeNodes

variable {τ σ : Type}

/-! ### Failures in messages -/

namespace OperationMessage

/-- Whether a message tells that its operation failed: it is done, and there is a code of an error
or any single error. -/
def IsFailure (m : OperationMessage) : Prop :=
  m.status = "DONE" ∧ (400 ≤ m.errorCode ∨ m.errors ≠ [])

/-- What is said of a failure: the text of the message, or else the texts of its errors. -/
def failureText (m : OperationMessage) : Value :=
  if m.errorText.isNothing then .text ("; ".intercalate m.errors) else m.errorText

/-- The error of a wait that a message ends with a failure. -/
def failureError (m : OperationMessage) : Error :=
  .operationFailed (.int (if m.errorCode = 0 then 500 else m.errorCode)) m.failureText
    (some m.toOperation)

/-- What an operation comes to that was read done from a message. -/
theorem ended_toOperation {m : OperationMessage} (hdone : m.status = "DONE") :
    (m.IsFailure → m.toOperation.ended = .error m.failureError) ∧
      (¬ m.IsFailure → m.toOperation.ended = .ok m.toOperation) := by
  have hisDone : m.toOperation.isDone = true := m.isDone_toOperation.mpr hdone
  have hknown : m.knownStatus = .done := (Operation.isDone_iff _).mp hisDone
  have hfailure : m.toOperation.failure? = m.failure? := by
    rw [Operation.failure?, if_pos hisDone]
    exact if_pos hknown
  unfold Operation.ended
  rw [hfailure, failure?]
  constructor
  · intro hfails
    rw [if_pos hfails.2]
    rfl
  · intro hworks
    rw [if_neg fun hfault => hworks ⟨hdone, hfault⟩]

end OperationMessage

/-! ### One call of a wait -/

variable {p : Provider} {operation : Operation} {calls earlier later : List Exchange} {e : Exchange}
  {r : Except Halt Operation}

theorem Exchange.operation?_of_error {error : Error} (h : e.answer = .error error) :
    e.operation? = none := by
  unfold operation?
  split
  · cases h
  · cases h
  · rfl

/-- Every call of a wait that is not over re-reads the view that was kept then, and went by without
finding the operation done. -/
theorem Polling.at_call (h : Polling p operation calls) (hcalls : calls = earlier ++ e :: later) :
    Rereading p (operation.after earlier) e.request ∧
      (e.operation?.isSome = true → (operation.after (earlier ++ [e])).isDone = false) := by
  induction h generalizing later with
  | start => simp at hcalls
  | asked polling rereads undone ih =>
    rcases place_of_concat hcalls with ⟨rfl, rfl, -⟩ | ⟨rest, hbefore, -⟩
    · exact ⟨rereads, undone⟩
    · exact ih hbefore

theorem Stops.kind {kept : Operation} {error : Error} (h : Stops kept (.failed error)) :
    error.kind ≠ .key ∧ error.kind ≠ .operationFailed := by
  cases h with
  | tooLarge => exact ⟨nofun, nofun⟩
  | unmade fault => cases fault <;> exact ⟨nofun, nofun⟩
  | configuration fault => exact ⟨nofun, nofun⟩
  | late timeout => exact ⟨nofun, nofun⟩

namespace Ending

theorem rereads (h : Ending p operation calls r) (hcalls : calls = earlier ++ e :: later) :
    Rereading p (operation.after earlier) e.request := by
  cases h with
  | stopped polling stops => exact (polling.at_call hcalls).1
  | raised polling rereads answered =>
    rcases place_of_concat hcalls with ⟨rfl, rfl, -⟩ | ⟨rest, hbefore, -⟩
    · exact rereads
    · exact (polling.at_call hbefore).1
  | settled polling rereads found done =>
    rcases place_of_concat hcalls with ⟨rfl, rfl, -⟩ | ⟨rest, hbefore, -⟩
    · exact rereads
    · exact (polling.at_call hbefore).1

/-- **A call that finds the operation done ends the wait.** -/
theorem of_found (h : Ending p operation calls r) (hcalls : calls = earlier ++ e :: later)
    (hfound : e.operation?.isSome = true)
    (hdone : (operation.after (earlier ++ [e])).isDone = true) :
    later = [] ∧ r = (operation.after (earlier ++ [e])).ended.mapError .failed := by
  -- no call of a wait that is not over is like that
  have hopen {polled rest : List Exchange} (polling : Polling p operation polled) :
      polled ≠ earlier ++ e :: rest := by
    intro hpolled
    rw [(polling.at_call hpolled).2 hfound] at hdone
    cases hdone
  cases h with
  | stopped polling stops => exact absurd hcalls (hopen polling)
  | raised polling rereads answered =>
    rcases place_of_concat hcalls with ⟨rfl, rfl, -⟩ | ⟨rest, hbefore, -⟩
    · rw [Exchange.operation?_of_error answered] at hfound
      cases hfound
    · exact absurd hbefore (hopen polling)
  | settled polling rereads found done =>
    rcases place_of_concat hcalls with ⟨rfl, rfl, rfl⟩ | ⟨rest, hbefore, -⟩
    · exact ⟨rfl, rfl⟩
    · exact absurd hbefore (hopen polling)

/-- An error of an operation is raised by the last call, or that call leaves a view that is done. -/
theorem of_failed (h : Ending p operation calls r) (hcalls : calls = earlier ++ [e]) {error : Error}
    (herror : r = .error (.failed error)) (hkind : error.kind = .operationFailed) :
    e.answer = .error error ∨ (operation.after calls).isDone = true := by
  cases h with
  | stopped polling stops =>
    cases herror
    exact absurd hkind stops.kind.2
  | raised polling rereads answered =>
    rcases place_of_concat hcalls with ⟨-, rfl, -⟩ | ⟨rest, -, hrest⟩
    · cases herror
      exact .inl answered
    · simp at hrest
  | settled polling rereads found done => exact .inr done

theorem of_key (h : Ending p operation calls r) {error : Error}
    (herror : r = .error (.failed error)) (hkind : error.kind = .key) :
    ∃ e ∈ calls, e.answer = .error error := by
  cases h with
  | stopped polling stops =>
    cases herror
    exact absurd hkind stops.kind.1
  | raised polling rereads answered =>
    cases herror
    exact ⟨_, List.mem_append_right _ (List.mem_singleton_self _), answered⟩
  | settled polling rereads found done =>
    obtain ⟨fault, -, rfl⟩ := Operation.ended_eq_error (Act.mapError_failed_eq_error.mp herror)
    cases hkind

/-- What a wait gives is the last view that was kept. -/
theorem of_given (h : Ending p operation calls r) {o : Operation} (hgiven : r = .ok o) :
    o = operation.after calls := by
  cases h with
  | stopped polling stops => cases hgiven
  | raised polling rereads answered => cases hgiven
  | settled polling rereads found done =>
    exact (Operation.ended_eq_ok (Act.mapError_failed_eq_ok.mp hgiven)).1

/-- What an error of a wait is about is the last view that was kept, unless a call raised it. -/
theorem of_told (h : Ending p operation calls r) {error : Error} {o : Operation}
    (herror : r = .error (.failed error)) (habout : error.operation? = some o) :
    o = operation.after calls ∨ ∃ e ∈ calls, e.answer = .error error := by
  cases h with
  | stopped polling stops =>
    cases herror
    cases stops <;> cases habout
    exact .inl rfl
  | raised polling rereads answered =>
    cases herror
    exact .inr ⟨_, List.mem_append_right _ (List.mem_singleton_self _), answered⟩
  | settled polling rereads found done =>
    obtain ⟨fault, -, rfl⟩ := Operation.ended_eq_error (Act.mapError_failed_eq_error.mp herror)
    cases habout
    exact .inl rfl

end Ending

/-! ### Waits that are given a message -/

/-- Whether a wait that was given a message, and came out like this of its calls, heeds what the
messages say. -/
structure Heeds (p : Provider) (m : OperationMessage) (calls : List Exchange)
    (r : Except Halt Operation) : Prop where
  /-- An error about a missing key was raised by a call: no status is looked up in vain. -/
  places (error : Error) (failed : r = .error (.failed error)) (kind : error.kind = .key) :
    ∃ e ∈ calls, e.answer = .error error
  /-- All views that are kept are sound, from the first to the last. -/
  kept (earlier later : List Exchange) (cut : calls = earlier ++ later) :
    (m.toOperation.after earlier).IsSound
  /-- Every call is for the view that was kept then, and what it finds is sound. -/
  asked (earlier later : List Exchange) (e : Exchange) (cut : calls = earlier ++ e :: later) :
    Rereading p (m.toOperation.after earlier) e.request ∧ ∀ o, e.operation? = some o → o.IsSound
  /-- The last view is the one that is given. -/
  given (o : Operation) (returned : r = .ok o) : o = m.toOperation.after calls
  /-- The last view is the one that an error is about, unless a call raised the error. -/
  told (error : Error) (o : Operation) (failed : r = .error (.failed error))
    (about : error.operation? = some o) :
    o = m.toOperation.after calls ∨ ∃ e ∈ calls, e.answer = .error error
  /-- A message that is read while no view has been done is the last one, and an error of its
  operation comes out, exactly if it tells of a failure. -/
  decides (earlier later : List Exchange) (project zone name : Value) (message : OperationMessage)
    (cut : calls = earlier ++ ⟨.getOperation project zone name, .ok message⟩ :: later)
    (undone : (m.toOperation.after earlier).isDone = false) :
    (later = [] ∧ ∃ error, r = .error (.failed error) ∧ error.kind = .operationFailed)
      ↔ message.IsFailure
  /-- That error is the one of the message. -/
  fails (earlier later : List Exchange) (project zone name : Value) (message : OperationMessage)
    (cut : calls = earlier ++ ⟨.getOperation project zone name, .ok message⟩ :: later)
    (undone : (m.toOperation.after earlier).isDone = false) (failure : message.IsFailure) :
    r = .error (.failed message.failureError)

/-- A message that is read done, while no view has been done, ends the wait. -/
theorem Ending.of_done {m message : OperationMessage} {project zone name : Value}
    (h : Ending p m.toOperation calls r)
    (hcalls : calls = earlier ++ ⟨.getOperation project zone name, .ok message⟩ :: later)
    (hundone : (m.toOperation.after earlier).isDone = false) (hdone : message.status = "DONE") :
    later = [] ∧ r = message.toOperation.ended.mapError .failed := by
  have hfresh : message.toOperation.isDone = true := message.isDone_toOperation.mpr hdone
  have hview : m.toOperation.after (earlier ++ [⟨.getOperation project zone name, .ok message⟩])
      = message.toOperation := by
    rw [Operation.after_append]
    exact Operation.keep_of_isDone hundone hfresh
  have hends := h.of_found hcalls rfl (by rw [hview]; exact hfresh)
  rwa [hview] at hends

theorem Ending.heeds {m : OperationMessage} (h : Ending p m.toOperation calls r) :
    Heeds p m calls r where
  places _ := h.of_key
  kept _ _ _ := m.toOperation_isSound.after _
  asked _ _ _ hcut := ⟨h.rereads hcut, fun _ => Operation.IsSound.of_operation?⟩
  given _ := h.of_given
  told _ _ := h.of_told
  decides earlier later project zone name message hcut hundone := by
    constructor
    · rintro ⟨rfl, error, herror, hkind⟩
      have hdone : message.status = "DONE" := by
        rcases h.of_failed hcut herror hkind with hraised | hdone
        · cases hraised
        · rw [hcut, Operation.after_append] at hdone
          have hkeep := Operation.keep_isDone (m.toOperation.after earlier) message.toOperation
          rw [hundone, Bool.false_or] at hkeep
          exact message.isDone_toOperation.mp (hkeep.symm.trans hdone)
      by_cases hfailure : message.IsFailure
      · exact hfailure
      · obtain ⟨-, hr⟩ := h.of_done hcut hundone hdone
        rw [(OperationMessage.ended_toOperation hdone).2 hfailure, herror] at hr
        cases hr
    · intro hfailure
      obtain ⟨hlast, hr⟩ := h.of_done hcut hundone hfailure.1
      rw [(OperationMessage.ended_toOperation hfailure.1).1 hfailure] at hr
      exact ⟨hlast, _, hr, rfl⟩
  fails earlier later project zone name message hcut hundone hfailure := by
    obtain ⟨-, hr⟩ := h.of_done hcut hundone hfailure.1
    rwa [(OperationMessage.ended_toOperation hfailure.1).1 hfailure] at hr

/-! ### Unknown words -/

namespace Lookup

variable {σ' ε ε' : Type} {f : σ → σ'} {g : ε → ε'}

theorem rank_mimics (o : Operation) : (rank o : Act τ σ' ε' Nat).Mimics f g (rank o) :=
  .ofExcept _

theorem judge_mimics (kept : Operation) (answer : Option Operation) :
    (judge kept answer : Act τ σ' ε' _).Mimics f g (judge kept answer) := by
  cases answer with
  | none => exact (Act.Mimics.log _ _ _).bind fun _ => .pure _
  | some fresh =>
    refine (rank_mimics fresh).bind fun new => (rank_mimics kept).bind fun old => ?_
    split
    · exact (Act.Mimics.log _ _ _).bind fun _ => .pure _
    · exact (Act.Mimics.log _ _ _).bind fun _ => .pure _

theorem conclude_mimics (patience : Patience) (polled : Polled Operation) :
    (conclude patience polled : Act τ σ' ε' _).Mimics f g (conclude patience polled) := by
  unfold conclude
  dsimp only
  cases polled.succeeded with
  | false =>
    -- the error passes by all that stands behind it
    exact (Act.Mimics.ofExcept _).bind fun _ _ => rfl
  | true =>
    rw [if_neg (by simp), if_neg (by simp)]
    cases polled.value.failure? with
    | some fault => exact (Act.Mimics.log _ _ _).bind fun _ => .fail _
    | none => exact (Act.Mimics.log _ _ _).bind fun _ => .pure _

variable [Clock τ] {lookup' : Lookup τ σ' ε'} {lookup : Lookup τ σ ε}

/-- Waits mimic each other if their re-readings do. -/
theorem await_mimics (h : ∀ kept, (lookup'.reread kept).Mimics f g (lookup.reread kept))
    (patience : Patience) (operation : Operation) :
    (lookup'.await patience operation).Mimics f g (lookup.await patience operation) := by
  have hlook (kept : Operation) : (lookup'.look kept).Mimics f g (lookup.look kept) :=
    (h kept).bind fun answer => judge_mimics kept answer
  exact (Act.Mimics.retryUntil (fun last => hlook _) patience _).bind fun polled =>
    conclude_mimics patience polled

end Lookup

namespace Provider

variable [Server τ σ] [Clock τ]

/-- **What messages decide about a wait**, and that it cannot tell a word for a status that is not
known from the one for pending operations. -/
theorem await_messages (p : Provider) (m : OperationMessage)
    (s : Session τ (Account σ) Exchange) :
    (∃ calls,
      ((p.lookup.await p.patience m.toOperation).perform s).2.calls = s.calls ++ calls ∧
        Heeds p m calls ((p.lookup.await p.patience m.toOperation).perform s).1) ∧
      (p.lookup.await p.patience m.asPending.toOperation).perform s.asPending
        = (((p.lookup.await p.patience m.toOperation).perform s).1,
          ((p.lookup.await p.patience m.toOperation).perform s).2.asPending) := by
  constructor
  · obtain ⟨added, hadded, hending⟩ := await_polls p m.toOperation_isSound s
    exact ⟨requests added, Session.calls_of_events hadded, hending.heeds⟩
  · rw [m.toOperation_asPending]
    refine Lookup.await_mimics (fun kept => ?_) p.patience m.toOperation s
    exact (Account.projectName_mimics p.identity).bind fun project =>
      getOperation_mimics project kept.zone kept.name

end Provider

end ComputeNodes
