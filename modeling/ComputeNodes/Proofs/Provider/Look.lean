/-
One look at an operation, and what a wait for it comes to.

`Operation.keep` is the rule by which the kept view changes: a fresh view replaces it unless the
operation went back.  A look reads the operation again and keeps by that rule
(`look_answered`); a reading that halts is how the look halts (`look_halted`).  Nothing further on
opens a look.

Done is the last place of a status, so by the rule it is never lost: a kept view is done once the
submitted one is, or any that was read (`keep_isDone`).  Whether the *look* counts as good is
another matter, because a look that finds nothing never does.
-/
import ComputeNodes.Proofs.Run.Act
import ComputeNodes.Provider.Lookup

namespace ComputeNodes

/-! ### Operations in errors -/

namespace Error

/-- The operation that an error of a wait is about. -/
def operation? : Error → Option Operation
  | .operationFailed _ _ operation => operation
  | .operationTimeout operation _ => some operation
  | _ => none

@[simp] theorem operation?_tooLargeForDouble : operation? .tooLargeForDouble = none := rfl

theorem ne_operationTimeout {error : Error} (h : error.operation? = none) (o : Operation)
    (t : Seconds) : error ≠ .operationTimeout o t := by
  rintro rfl
  cases h

end Error

/-! ### Places -/

namespace Status

/-- The place of a status; a word that names none counts as a first place. -/
def place (status : Status) : Nat := status.rank?.getD 0

/-- Whether a status is one that the service names. -/
def IsKnown (status : Status) : Prop := status.rank?.isSome = true

theorem isKnown_iff (status : Status) :
    status.IsKnown ↔ status = .pending ∨ status = .running ∨ status = .done := by
  cases status <;> simp [IsKnown, rank?]

theorem place_le (status : Status) : status.place ≤ 2 := by
  cases status <;> simp [place, rank?]

theorem place_eq_two (status : Status) : status.place = 2 ↔ status = .done := by
  cases status <;> simp [place, rank?]

/-- A status that is known has its place. -/
theorem placeOf_word {status : Status} (h : status.IsKnown) :
    placeOf status.word = .ok status.place := by
  rcases (isKnown_iff status).mp h with rfl | rfl | rfl <;> rfl

/-- A place that a status has is its own; where it has none, that is an error about no operation. -/
theorem placeOf_word_cases (status : Status) :
    placeOf status.word = .ok status.place ∨
      ∃ error, placeOf status.word = .error error ∧ error.operation? = none := by
  unfold placeOf
  rw [ofWord_word]
  cases status.word.canBeKey with
  | false => exact .inr ⟨_, rfl, rfl⟩
  | true =>
    cases h : status.rank? with
    | none => exact .inr ⟨_, rfl, rfl⟩
    | some n => exact .inl (by simp [place, h])

end Status

/-! ### The view to keep -/

namespace Operation

theorem isDone_iff (o : Operation) : o.isDone = true ↔ o.status = .done := by
  simp [isDone]

/-- The view to keep of an operation that was read again: the fresh one, if there is one and it did
not go back. -/
def keep (kept : Operation) : Option Operation → Operation
  | none => kept
  | some fresh => if fresh.status.place < kept.status.place then kept else fresh

@[simp] theorem keep_none (kept : Operation) : kept.keep none = kept := rfl

theorem keep_some (kept fresh : Operation) : kept.keep (some fresh)
    = if fresh.status.place < kept.status.place then kept else fresh := rfl

/-- **Done is never lost.** -/
theorem keep_isDone (kept fresh : Operation) :
    (kept.keep (some fresh)).isDone = (kept.isDone || fresh.isDone) := by
  have hkept := kept.status.place_le
  have hfresh := fresh.status.place_le
  have hkeptDone : kept.isDone = true ↔ kept.status.place = 2 := by
    rw [isDone_iff, Status.place_eq_two]
  have hfreshDone : fresh.isDone = true ↔ fresh.status.place = 2 := by
    rw [isDone_iff, Status.place_eq_two]
  rw [Bool.eq_iff_iff, Bool.or_eq_true, keep_some]
  split
  · rw [hkeptDone, hfreshDone]; omega
  · rw [hkeptDone, hfreshDone]; omega

theorem isDone_keep_of_isDone {kept : Operation} (h : kept.isDone = true)
    (answer : Option Operation) : (kept.keep answer).isDone = true := by
  cases answer with
  | none => exact h
  | some fresh => rw [keep_isDone, h, Bool.true_or]

/-- A view that is done is fresh, unless the kept one was done as well. -/
theorem keep_of_isDone {kept fresh : Operation} (hkept : kept.isDone = false)
    (hfresh : fresh.isDone = true) : kept.keep (some fresh) = fresh := by
  have hdone : (kept.keep (some fresh)).isDone = true := by rw [keep_isDone, hfresh, Bool.or_true]
  rw [keep_some] at hdone ⊢
  split at hdone
  next => rw [hkept] at hdone; cases hdone
  next hforward => exact if_neg hforward

theorem keep_isKnown {kept fresh : Operation} (hkept : kept.status.IsKnown)
    (hfresh : fresh.status.IsKnown) : (kept.keep (some fresh)).status.IsKnown := by
  rw [keep_some]
  split
  · exact hkept
  · exact hfresh

/-- What a look at a kept view comes to, when the operation was read again.  One that is missing is
not done, whatever was kept. -/
def seen (kept : Operation) (answer : Option Operation) : Probe Operation :=
  ⟨kept.keep answer, answer.isSome && (kept.keep answer).isDone⟩

@[simp] theorem seen_value (kept : Operation) (answer : Option Operation) :
    (kept.seen answer).value = kept.keep answer := rfl

@[simp] theorem seen_done_none (kept : Operation) : (kept.seen none).done = false := rfl

@[simp] theorem seen_done_some (kept fresh : Operation) :
    (kept.seen (some fresh)).done = (kept.isDone || fresh.isDone) := by
  rw [← keep_isDone]; rfl

/-- What an operation comes to that is done. -/
def ended (o : Operation) : Except Error Operation :=
  match o.failure? with
  | some error => .error (.operationFailed error.statusCode error.message (some o))
  | none => .ok o

theorem ended_eq_ok {o o' : Operation} (h : o.ended = .ok o') : o' = o ∧ o.failure? = none := by
  unfold ended at h
  cases hfailure : o.failure? with
  | none => rw [hfailure] at h; cases h; exact ⟨rfl, rfl⟩
  | some error => rw [hfailure] at h; cases h

/-- What comes of a view otherwise is an error about it. -/
theorem ended_eq_error {o : Operation} {error : Error} (h : o.ended = .error error) :
    ∃ fault, o.failure? = some fault ∧
      error = .operationFailed fault.statusCode fault.message (some o) := by
  unfold ended at h
  cases hfailure : o.failure? with
  | none => rw [hfailure] at h; cases h
  | some fault => rw [hfailure] at h; cases h; exact ⟨fault, rfl, rfl⟩

/-- The error of an operation that was not done in time, or of a time that cannot be named. -/
def lateError (o : Operation) (timeout : Seconds) : Error :=
  match timeout.tenths? with
  | some _ => .operationTimeout o timeout
  | none => .tooLargeForDouble

end Operation

/-! ### A look -/

namespace Lookup

variable {τ σ ε : Type} {lookup : Lookup τ σ ε} {kept : Operation} {s t : Session τ σ ε}

theorem judge_none (kept : Operation) (t : Session τ σ ε) :
    ∃ entry, (judge kept none).perform t = (.ok (kept.seen none), t.add (.log entry)) :=
  ⟨_, rfl⟩

theorem judge_some {kept fresh : Operation}
    (hfresh : Status.placeOf fresh.status.word = .ok fresh.status.place)
    (hkept : Status.placeOf kept.status.word = .ok kept.status.place) (t : Session τ σ ε) :
    ∃ entry,
      (judge kept (some fresh)).perform t = (.ok (kept.seen (some fresh)), t.add (.log entry)) := by
  have hnew : (rank fresh : Act τ σ ε Nat).perform t = (.ok fresh.status.place, t) := by
    rw [rank, hfresh, Act.perform_ofExcept]; rfl
  have hold : (rank kept : Act τ σ ε Nat).perform t = (.ok kept.status.place, t) := by
    rw [rank, hkept, Act.perform_ofExcept]; rfl
  rw [judge, Act.perform_bind_ok hnew, Act.perform_bind_ok hold]
  by_cases hback : fresh.status.place < kept.status.place
  · rw [if_pos hback, Act.perform_bind_ok (Act.perform_log _ _ _ _), Act.perform_pure]
    exact ⟨_, by simp [Operation.seen, Operation.keep, hback]; rfl⟩
  · rw [if_neg hback, Act.perform_bind_ok (Act.perform_log _ _ _ _), Act.perform_pure]
    exact ⟨_, by simp [Operation.seen, Operation.keep, hback]; rfl⟩

/-- What was read is kept by the rule, unless a status has no place. -/
theorem judge_cases (kept : Operation) (answer : Option Operation) (t : Session τ σ ε) :
    (∃ entry, (judge kept answer).perform t = (.ok (kept.seen answer), t.add (.log entry))) ∨
      ∃ error, (judge kept answer).perform t = (.error (.failed error), t) ∧
        error.operation? = none := by
  cases answer with
  | none => exact .inl (judge_none kept t)
  | some fresh =>
    rcases fresh.status.placeOf_word_cases with hfresh | ⟨error, hfresh, hother⟩
    · rcases kept.status.placeOf_word_cases with hkept | ⟨error, hkept, hother⟩
      · exact .inl (judge_some hfresh hkept t)
      · refine .inr ⟨error, ?_, hother⟩
        simp [judge, rank, hfresh, hkept, Act.perform_bind]
    · refine .inr ⟨error, ?_, hother⟩
      simp [judge, rank, hfresh, Act.perform_bind]

theorem look_halted {halt : Halt} (h : (lookup.reread kept).perform s = (.error halt, t)) :
    (lookup.look kept).perform s = (.error halt, t) :=
  Act.perform_bind_error h

/-- **A look keeps by the rule**, unless it comes upon a status that has no place. -/
theorem look_answered {answer : Option Operation}
    (h : (lookup.reread kept).perform s = (.ok answer, t)) :
    (∃ entry, (lookup.look kept).perform s = (.ok (kept.seen answer), t.add (.log entry))) ∨
      ∃ error, (lookup.look kept).perform s = (.error (.failed error), t) ∧
        ∀ o t, error ≠ .operationTimeout o t := by
  rw [look, Act.perform_bind_ok h]
  exact (judge_cases kept answer t).imp_right fun ⟨error, hjudge, hnone⟩ =>
    ⟨error, hjudge, Error.ne_operationTimeout hnone⟩

theorem look_session {r : Except Halt (Option Operation)}
    (h : (lookup.reread kept).perform s = (r, t)) :
    ((lookup.look kept).perform s).2.world = t.world ∧
      ((lookup.look kept).perform s).2.now = t.now ∧
      ((lookup.look kept).perform s).2.calls = t.calls ∧
      ((lookup.look kept).perform s).2.pauses = t.pauses := by
  cases r with
  | error halt => rw [look_halted h]; exact ⟨rfl, rfl, rfl, rfl⟩
  | ok answer =>
    rcases look_answered h with ⟨entry, hlook⟩ | ⟨error, hlook, -⟩
    · rw [hlook]; simp
    · rw [hlook]; exact ⟨rfl, rfl, rfl, rfl⟩

/-- What a look adds to its reading: a log record if it keeps anything, and else nothing. -/
theorem look_goes
    {post : List (Event τ ε) → Except Halt (Option Operation) → Session τ σ ε → Prop}
    {post' : List (Event τ ε) → Except Halt (Probe Operation) → Session τ σ ε → Prop}
    (h : (lookup.reread kept).Goes s post)
    (hkept : ∀ l answer u entry, post l (.ok answer) u →
      post' (l ++ [.log entry]) (.ok (kept.seen answer)) (u.add (.log entry)))
    (hodd : ∀ l answer u error, error.operation? = none → post l (.ok answer) u →
      post' l (.error (.failed error)) u)
    (hhalted : ∀ l halt u, post l (.error halt) u → post' l (.error halt) u) :
    (lookup.look kept).Goes s post' := by
  refine h.bind (fun l answer u hanswer => ?_) hhalted
  rcases judge_cases kept answer u with ⟨entry, hjudge⟩ | ⟨error, hjudge, hnone⟩
  · exact Act.Goes.of_perform _ hjudge (Session.events_add _ _) (hkept l answer u entry hanswer)
  · refine Act.Goes.of_perform [] hjudge (by simp) ?_
    rw [List.append_nil]
    exact hodd l answer u error hnone hanswer

/-- The same where every status that is compared has a place. -/
theorem look_known {answer : Option Operation}
    (h : (lookup.reread kept).perform s = (.ok answer, t))
    (hknown : ∀ fresh, answer = some fresh → fresh.status.IsKnown ∧ kept.status.IsKnown) :
    ∃ entry, (lookup.look kept).perform s = (.ok (kept.seen answer), t.add (.log entry)) := by
  rw [look, Act.perform_bind_ok h]
  cases answer with
  | none => exact judge_none kept t
  | some fresh =>
    obtain ⟨hfresh, hkept⟩ := hknown fresh rfl
    exact judge_some (Status.placeOf_word hfresh) (Status.placeOf_word hkept) t

/-! ### What a wait comes to -/

theorem conclude_done (patience : Patience) (polled : Polled Operation)
    (h : polled.succeeded = true) (s : Session τ σ ε) :
    ∃ entry, (conclude patience polled).perform s
      = (polled.value.ended.mapError .failed, s.add (.log entry)) := by
  unfold conclude Operation.ended
  simp only [h, Bool.not_true, Bool.false_eq_true, if_false]
  cases polled.value.failure? with
  | none => exact ⟨_, rfl⟩
  | some error => exact ⟨_, rfl⟩

theorem conclude_late (patience : Patience) (polled : Polled Operation)
    (h : polled.succeeded = false) (s : Session τ σ ε) :
    (conclude patience polled).perform s
      = (.error (.failed (polled.value.lateError patience.timeout)), s) := by
  unfold conclude Operation.lateError Error.operationTimeout?
  simp only [h, Bool.not_false, if_true]
  cases patience.timeout.tenths? <;> rfl

/-- A wait gives the view it ended with, and only one that was good. -/
theorem conclude_goes (patience : Patience) (polled : Polled Operation) (s : Session τ σ ε) :
    (conclude patience polled).Goes s fun added r _ => Event.calls added = [] ∧
      ∀ o, r = .ok o →
        o = polled.value ∧ polled.succeeded = true ∧ polled.value.failure? = none := by
  cases h : polled.succeeded with
  | true =>
    obtain ⟨entry, hconclude⟩ := conclude_done patience polled h s
    refine Act.Goes.of_perform _ hconclude (Session.events_add _ _) ⟨rfl, fun o ho => ?_⟩
    obtain ⟨rfl, hfailure⟩ := Operation.ended_eq_ok (Act.mapError_failed_eq_ok.mp ho)
    exact ⟨rfl, rfl, hfailure⟩
  | false =>
    exact Act.Goes.of_perform [] (conclude_late patience polled h s) (by simp)
      ⟨rfl, fun o ho => by cases ho⟩

end Lookup

end ComputeNodes
