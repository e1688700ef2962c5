/-
What waits make of the messages that operations are read from.

A message may hold any word for a status and say anything about errors.  The record that is read
from it is sound nevertheless: its status is a known one, and it tells of an error only when it is
done (`Operation.IsSound`).  So the rule for views never comes upon a status that has no place, and
every view that a wait keeps is sound as well.

The calls of a wait that is not over yet are told by `Polling`: each re-reads the view that is kept
at that point, and none of them has found the operation done.  `Ending` adds how the wait comes out
of them: by a call that finds it done or raises, or because the wait stops by itself.  Every wait of
a provider for a sound operation goes so (`await_polls`), and the rest is read off the calls.
-/
import ComputeNodes.Proofs.Provider.Rereads

namespace ComputeNodes

variable {τ σ : Type}

/-! ### Sound records -/

/-- Whether the status of an operation is a known one, and nothing is said of an error before it is
done. -/
structure Operation.IsSound (o : Operation) : Prop where
  known : o.status.IsKnown
  healthy : o.isDone = false → o.httpError = none

namespace OperationMessage

theorem knownStatus_isKnown (m : OperationMessage) : m.knownStatus.IsKnown := by
  unfold knownStatus
  cases Status.ofWord m.status <;> rfl

theorem isDone_toOperation (m : OperationMessage) :
    m.toOperation.isDone = true ↔ m.status = "DONE" := by
  rw [Operation.isDone_iff]
  show m.knownStatus = .done ↔ m.status = "DONE"
  unfold knownStatus
  -- a word is that of its status, so a status that is known tells what the word is
  have hword := Status.word_ofWord m.status
  cases hstatus : Status.ofWord m.status with
  | done => simpa [hstatus, Status.word] using hword.symm
  | pending => rw [hstatus] at hword; simp [← hword, Status.word]
  | running => rw [hstatus] at hword; simp [← hword, Status.word]
  | other word unknown =>
    rw [hstatus] at hword
    simpa [← hword, Status.word] using unknown.2.2

/-- **Whatever a message says, its record is sound.** -/
theorem toOperation_isSound (m : OperationMessage) : m.toOperation.IsSound := by
  refine ⟨m.knownStatus_isKnown, fun hdone => ?_⟩
  have hstatus : m.knownStatus ≠ .done := by
    intro h
    rw [(Operation.isDone_iff _).mpr h] at hdone
    cases hdone
  exact if_neg hstatus

/-- A word that is not known counts as pending, and then nothing is said of errors. -/
example : let m : OperationMessage := { status := "ABORTING", errorCode := 503, errors := ["x"] }
    m.toOperation.status = .pending ∧ m.toOperation.httpError = none := by decide

end OperationMessage

namespace Operation.IsSound

variable {kept o : Operation}

theorem of_operation? {e : Exchange} (h : e.operation? = some o) : o.IsSound := by
  unfold Exchange.operation? at h
  split at h
  · cases h
    exact OperationMessage.toOperation_isSound _
  · cases h
    exact OperationMessage.toOperation_isSound _
  · cases h

theorem keep (h : kept.IsSound) (e : Exchange) : (kept.keep e.operation?).IsSound := by
  cases hfresh : e.operation? with
  | none => exact h
  | some fresh =>
    rw [keep_some]
    split
    · exact h
    · exact of_operation? hfresh

theorem after (h : kept.IsSound) (calls : List Exchange) : (kept.after calls).IsSound := by
  induction calls generalizing kept with
  | nil => exact h
  | cons e calls ih => exact ih (h.keep e)

end Operation.IsSound

/-! ### The calls of a wait -/

/-- Whether a request is one that a wait makes where it keeps a view: for the project, as long as it
is not known, or for the operation in the view's zone and by its name. -/
inductive Rereading (p : Provider) (kept : Operation) : Request → Prop
  | project : Rereading p kept (.getProject (projectId p.identity))
  | operation (project : Value) : Rereading p kept (.getOperation project kept.zone kept.name)

/-- Whether calls are those of a wait for an operation that is not over. -/
inductive Polling (p : Provider) (operation : Operation) : List Exchange → Prop
  | start : Polling p operation []
  | asked {calls : List Exchange} {e : Exchange} (polling : Polling p operation calls)
    (rereads : Rereading p (operation.after calls) e.request)
    (undone : e.operation?.isSome = true → (operation.after (calls ++ [e])).isDone = false) :
    Polling p operation (calls ++ [e])

/-- How a wait stops by itself, with a view kept. -/
inductive Stops (kept : Operation) : Halt → Prop
  | cutOff : Stops kept .cutOff
  | tooLarge : Stops kept (.failed .tooLargeForDouble)
  /-- A request does not fit its values. -/
  | unmade (fault : MessageFault) : Stops kept (.failed (.unmade fault))
  /-- There is no project of the caller's. -/
  | configuration (fault : ConfigurationFault) : Stops kept (.failed (.configuration fault))
  | late (timeout : Seconds) : Stops kept (.failed (.operationTimeout kept timeout))

/-- How a wait for an operation comes out of its calls. -/
inductive Ending (p : Provider) (operation : Operation) :
    List Exchange → Except Halt Operation → Prop
  | stopped {calls : List Exchange} {halt : Halt} (polling : Polling p operation calls)
    (stops : Stops (operation.after calls) halt) : Ending p operation calls (.error halt)
  /-- A call raises its error. -/
  | raised {calls : List Exchange} {e : Exchange} {error : Error}
    (polling : Polling p operation calls)
    (rereads : Rereading p (operation.after calls) e.request)
    (answered : e.answer = .error error) :
    Ending p operation (calls ++ [e]) (.error (.failed error))
  /-- A call finds an operation, and the view that is kept then is done. -/
  | settled {calls : List Exchange} {e : Exchange} (polling : Polling p operation calls)
    (rereads : Rereading p (operation.after calls) e.request)
    (found : e.operation?.isSome = true)
    (done : (operation.after (calls ++ [e])).isDone = true) :
    Ending p operation (calls ++ [e]) ((operation.after (calls ++ [e])).ended.mapError .failed)

variable {p : Provider} {operation : Operation} {calls : List Exchange}

theorem Rereading.of_isProjectIdOf {kept : Operation} {id : String}
    (h : IsProjectIdOf id p.identity) : Rereading p kept (.getProject (.text id)) := by
  rw [← h.projectId_eq]
  exact .project

/-- Having the project told leaves the view as it was. -/
theorem Polling.resolving {known : Option Value} {resolving : List Exchange}
    {outcome : Except Error Value} (h : Polling p operation calls)
    (hresolution : Resolution p.identity known resolving outcome) :
    Polling p operation (calls ++ resolving) ∧
      operation.after (calls ++ resolving) = operation.after calls := by
  have hone {id : String} (cut : IsProjectIdOf id p.identity)
      (answer : Except Error ProjectMessage) :
      Polling p operation (calls ++ [⟨.getProject (.text id), answer⟩]) ∧
        operation.after (calls ++ [⟨.getProject (.text id), answer⟩]) = operation.after calls := by
    refine ⟨.asked h (.of_isProjectIdOf cut) nofun, ?_⟩
    rw [Operation.after_append]
    rfl
  cases hresolution with
  | known project => simpa using h
  | refused cut unfit => simpa using h
  | told cut message => exact hone cut _
  | missing cut absent => exact hone cut _
  | raised cut other => exact hone cut _

/-- Where the project cannot be told, that is how the wait ends. -/
theorem Polling.unresolved {known : Option Value} {resolving : List Exchange} {error : Error}
    (h : Polling p operation calls)
    (hresolution : Resolution p.identity known resolving (.error error)) :
    Ending p operation (calls ++ resolving) (.error (.failed error)) := by
  obtain ⟨hpolling, -⟩ := h.resolving hresolution
  cases hresolution with
  | refused cut unfit => exact .stopped hpolling (.unmade _)
  | missing cut absent => exact .stopped hpolling (.configuration _)
  | raised cut other => exact .raised h (.of_isProjectIdOf cut) rfl

variable [Server τ σ]

/-- A re-reading is one call behind those for the project, unless it ends the wait. -/
theorem Polling.reread_goes {kept : Operation} (h : Polling p operation calls)
    (hkept : kept = operation.after calls) (s : Session τ (Account σ) Exchange) :
    (p.lookup.reread kept).Goes s fun added r _ => match r with
      | .ok answer => ∃ before e, requests added = before ++ [e] ∧
          Polling p operation (calls ++ before) ∧ operation.after (calls ++ before) = kept ∧
          Rereading p kept e.request ∧ e.operation? = answer
      | .error halt => Ending p operation (calls ++ requests added) (.error halt) := by
  refine (Account.projectName_resolves p.identity s).bind ?_ ?_
  · rintro first project t ⟨outcome, hresolution, -, -⟩
    obtain ⟨hpolling, hafter⟩ := h.resolving hresolution
    rw [← hkept] at hafter
    refine (getOperation_goes project kept.zone kept.name t).mono fun more r u hasked => ?_
    have hrereads : Rereading p kept (.getOperation project kept.zone kept.name) :=
      .operation project
    rcases hasked.requests_eq with ⟨hnone, fault, rfl⟩ | ⟨answer, hone, hread⟩
    · simpa [requests, hnone] using Ending.stopped hpolling (.unmade fault)
    · have hcalls : requests (first ++ more) = requests first ++ [⟨_, answer⟩] := by
        rw [requests, Event.calls_append, ← hone]
      cases r with
      | ok found =>
        exact ⟨requests first, _, hcalls, hpolling, hafter, hrereads, operation?_of_reread hread⟩
      | error halt =>
        obtain ⟨error, rfl, -, rfl⟩ := readAnswer_eq_error hread.symm
        show Ending p operation (calls ++ requests (first ++ more)) _
        rw [hcalls, ← List.append_assoc]
        exact .raised hpolling (hafter ▸ hrereads) rfl
  · rintro first halt t ⟨outcome, hresolution, houtcome, -⟩
    cases outcome with
    | ok project => cases houtcome
    | error error =>
      cases houtcome
      exact h.unresolved hresolution

/-- What an answer of a wait settles behind its calls: the wait goes on with a view that is not
done, or it is over. -/
inductive Settles {α : Type} (p : Provider) (operation : Operation) (view : α → Operation)
    (done : α → Bool) (calls : List Exchange) : Except Halt α → Prop
  | goesOn {a : α} (undone : done a = false) (kept : view a = operation.after calls)
    (polling : Polling p operation calls) : Settles p operation view done calls (.ok a)
  | ends {a : α} (isDone : done a = true)
    (ending : Ending p operation calls ((view a).ended.mapError .failed)) :
    Settles p operation view done calls (.ok a)
  | halted {halt : Halt} (ending : Ending p operation calls (.error halt)) :
    Settles p operation view done calls (.error halt)

namespace Settles

variable {α β : Type} {view : α → Operation} {done : α → Bool} {a : α}

/-- Where a question leaves it open, the wait goes on with the view that is kept. -/
theorem polling (h : Settles p operation view done calls (.ok a)) (hopen : done a = false) :
    Polling p operation calls ∧ view a = operation.after calls := by
  cases h with
  | goesOn undone kept polling => exact ⟨polling, kept⟩
  | ends isDone ending => rw [hopen] at isDone; cases isDone

theorem ending {halt : Halt} (h : Settles p operation view done calls (.error halt)) :
    Ending p operation calls (.error halt) := by
  cases h with
  | halted ending => exact ending

theorem congr {view' : β → Operation} {done' : β → Bool} {b : β}
    (h : Settles p operation view done calls (.ok a)) (hview : view' b = view a)
    (hdone : done' b = done a) : Settles p operation view' done' calls (.ok b) := by
  cases h with
  | goesOn undone kept polling => exact .goesOn (hdone.trans undone) (hview.trans kept) polling
  | ends isDone ending => exact .ends (hdone.trans isDone) (hview ▸ ending)

omit [Server τ σ] in
theorem conclude_goes {polled : Polled Operation}
    (h : Settles p operation Polled.value Polled.succeeded calls (.ok polled))
    (s : Session τ σ Exchange) :
    (Lookup.conclude p.patience polled).Goes s fun added r _ =>
      Ending p operation (calls ++ requests added) r := by
  cases h with
  | ends isDone ending =>
    obtain ⟨entry, hconclude⟩ := Lookup.conclude_done p.patience polled isDone s
    refine Act.Goes.of_perform _ hconclude (Session.events_add _ _) ?_
    simpa [requests] using ending
  | goesOn undone kept polling =>
    refine Act.Goes.of_perform [] (Lookup.conclude_late p.patience polled undone s) (by simp) ?_
    rw [requests, Event.calls_nil, List.append_nil, kept]
    refine .stopped polling ?_
    unfold Operation.lateError
    cases p.patience.timeout.tenths? with
    | some length => exact .late _
    | none => exact .tooLarge

end Settles

/-- A question of a wait settles that it goes on or that it is over. -/
theorem Polling.look_goes {kept : Operation} (h : Polling p operation calls)
    (hsound : operation.IsSound) (hkept : kept = operation.after calls)
    (s : Session τ (Account σ) Exchange) :
    (p.lookup.look kept).Goes s fun added r _ =>
      Settles p operation Probe.value Probe.done (calls ++ requests added) r := by
  refine (h.reread_goes hkept s).bind ?_ fun _ _ _ hending => .halted hending
  rintro added answer t ⟨before, e, hcalls, hpolling, hafter, hrereads, hanswer⟩
  have hview : kept.keep answer = operation.after (calls ++ before ++ [e]) := by
    rw [Operation.after_append, hafter, ← hanswer]
    rfl
  -- both statuses are known, so the rule for views applies
  obtain ⟨entry, hjudge⟩ : ∃ entry, (Lookup.judge kept answer).perform t
      = (.ok (kept.seen answer), t.add (.log entry)) := by
    cases answer with
    | none => exact Lookup.judge_none kept t
    | some fresh =>
      have hfresh : fresh.status.IsKnown := (Operation.IsSound.of_operation? hanswer).known
      have hknown : kept.status.IsKnown := hkept ▸ (hsound.after calls).known
      exact Lookup.judge_some (Status.placeOf_word hfresh) (Status.placeOf_word hknown) t
  refine Act.Goes.of_perform _ hjudge (Session.events_add _ _) ?_
  have hall : calls ++ requests (added ++ [.log entry]) = calls ++ before ++ [e] := by
    simp [requests, hcalls]
  rw [hall]
  rw [← hafter] at hrereads
  cases hdone : (kept.seen answer).done with
  | true =>
    obtain ⟨hfound, hover⟩ := Bool.and_eq_true_iff.mp hdone
    rw [← hanswer] at hfound
    refine .ends hdone ?_
    show Ending p operation _ ((kept.keep answer).ended.mapError .failed)
    rw [hview] at hover ⊢
    exact .settled hpolling hrereads hfound hover
  | false =>
    refine .goesOn hdone hview (.asked hpolling hrereads fun hfound => ?_)
    rw [← hview]
    rw [hanswer] at hfound
    simpa [Operation.seen, hfound] using hdone

variable [Clock τ]

/-- What the last question of a wait settles. -/
theorem poll_settles (p : Provider) (hsound : operation.IsSound)
    (s : Session τ (Account σ) Exchange) :
    (retryUntil p.patience ("operation " ++ operation.name.plain)
      fun last => p.lookup.look (last.getD operation)).Goes s fun added r _ =>
        Settles p operation Polled.value Polled.succeeded (requests added) r := by
  refine Poll.retryUntil_goes
    (fun l last _ => Polling p operation (requests l) ∧
      last.getD operation = operation.after (requests l))
    (fun l r _ => Settles p operation Probe.value Probe.done (requests l) r)
    ⟨.start, rfl⟩ ?_ ?_ ?_ ?_ ?_ ?_
  · intro l last t ⟨hl, hkept⟩
    refine (hl.look_goes hsound hkept t).mono fun more r u h => ?_
    simpa [requests] using h
  · intro length l seen t hopen h
    simpa [requests] using h.polling hopen
  · intro l last t halt hhalt ⟨hl, _⟩
    rcases hhalt with rfl | rfl
    · exact .halted (.stopped hl .cutOff)
    · exact .halted (.stopped hl .tooLarge)
  · intro l halt t h
    exact .halted h.ending
  · intro l seen t _ hopen h
    exact .halted (.stopped (h.polling hopen).1 .tooLarge)
  · intro l seen attempts t entry h
    have hcalls : requests (l ++ [.log entry]) = requests l := by simp [requests]
    rw [hcalls]
    exact h.congr rfl rfl

/-- **Every wait of a provider for a sound operation ends one of these ways.** -/
theorem await_polls (p : Provider) (hsound : operation.IsSound)
    (s : Session τ (Account σ) Exchange) :
    (p.lookup.await p.patience operation).Goes s fun added r _ =>
      Ending p operation (requests added) r := by
  refine (poll_settles p hsound s).bind ?_ fun _ _ _ h => h.ending
  intro added polled t h
  refine (h.conclude_goes t).mono fun more r u hending => ?_
  simpa [requests] using hending

end ComputeNodes
