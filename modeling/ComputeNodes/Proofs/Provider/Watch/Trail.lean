/-
What a wait leaves behind.

Two things of a wait can be seen from outside: which re-readings it asked for, and which operation
its outcome is about.  Both are given by the views on its tape.  The re-reading behind so many
others is asked for by the view that is kept at that point, and the operation returned, or found to
have failed, or given up on, is the view that is kept in the end (`wait_trail`).

The argument is the loop rule.  `Trail` is what holds of the events so far, and `HandsOn` what holds
of every outcome on the way: it hands on the view that is kept, or else an error that is about no
operation.
-/
import ComputeNodes.Proofs.Provider.Watch

namespace ComputeNodes

/-! ### Operations in outcomes -/

/-- The operation that is given, or that the error is about. -/
def Operation.ofOutcome? : Except Halt Operation → Option Operation
  | .ok operation => some operation
  | .error (.failed error) => error.operation?
  | .error .cutOff => none

namespace Operation

/-- An operation that is done is what its outcome is about. -/
theorem ofOutcome?_ended {view o : Operation}
    (h : ofOutcome? (view.ended.mapError .failed) = some o) : o = view := by
  unfold ended at h
  cases hfailure : view.failure? with
  | none => rw [hfailure] at h; exact (Option.some.inj h).symm
  | some error => rw [hfailure] at h; exact (Option.some.inj h).symm

/-- So is one that is given up on, where the error says so. -/
theorem operation?_lateError {view o : Operation} {timeout : Seconds}
    (h : (view.lateError timeout).operation? = some o) : o = view := by
  unfold lateError at h
  cases hseconds : timeout.tenths? with
  | none => rw [hseconds] at h; cases h
  | some seconds => rw [hseconds] at h; exact (Option.some.inj h).symm

end Operation

namespace Lookup

variable {τ σ ε : Type}

/-- What a wait concludes is about the view that it ended with. -/
theorem conclude_ofOutcome (patience : Patience) (polled : Polled Operation)
    (s : Session τ σ ε) : (conclude patience polled).Goes s fun added r _ =>
      Event.calls added = [] ∧ ∀ o, Operation.ofOutcome? r = some o → o = polled.value := by
  cases hgood : polled.succeeded with
  | true =>
    obtain ⟨entry, hconclude⟩ := conclude_done patience polled hgood s
    exact Act.Goes.of_perform _ hconclude (Session.events_add _ _)
      ⟨rfl, fun o ho => Operation.ofOutcome?_ended ho⟩
  | false =>
    exact Act.Goes.of_perform [] (conclude_late patience polled hgood s) (by simp)
      ⟨rfl, fun o ho => Operation.operation?_lateError ho⟩

end Lookup

namespace Watch

variable {τ : Type} [Clock τ] {w : Watch τ} {l : List (Event τ (Value × Value × Value))}
  {t : Session τ Nat (Value × Value × Value)} {kept : Operation}

/-- How many re-readings are among events. -/
abbrev made (l : List (Event τ (Value × Value × Value))) : Nat := (Event.calls l).length

/-- What a wait has left behind so far. -/
structure Trail (w : Watch τ) (l : List (Event τ (Value × Value × Value)))
    (t : Session τ Nat (Value × Value × Value)) : Prop where
  used : t.world = made l
  calls : Event.calls l = (List.range (made l)).map fun i => w.call (w.view i)

namespace Trail

omit [Clock τ] in
theorem nil (w : Watch τ) : w.Trail [] w.session := ⟨rfl, rfl⟩

omit [Clock τ] in
theorem ask {u : Session τ Nat (Value × Value × Value)} (h : w.Trail l t)
    (hkept : kept = w.view (made l)) (hused : u.world = t.world + 1) :
    w.Trail (l ++ [.call (w.call kept)]) u := by
  have hmade : made (l ++ [.call (w.call kept)]) = made l + 1 := by simp [made]
  refine ⟨by rw [hmade, hused, h.used], ?_⟩
  rw [hmade, List.range_succ, List.map_append, ← h.calls, hkept]
  simp

omit [Clock τ] in
theorem silent {event : Event τ (Value × Value × Value)} {u : Session τ Nat (Value × Value × Value)}
    (h : w.Trail l t) (hsilent : Event.calls [event] = []) (hworld : u.world = t.world) :
    w.Trail (l ++ [event]) u := by
  have hsame : Event.calls (l ++ [event]) = Event.calls l := by
    rw [Event.calls_append, hsilent, List.append_nil]
  refine ⟨?_, ?_⟩
  · rw [made, hsame, hworld]
    exact h.used
  · rw [made, hsame]
    exact h.calls

omit [Clock τ] in
theorem log (h : w.Trail l t) (entry : Logging.Entry) :
    w.Trail (l ++ [.log entry]) (t.add (.log entry)) :=
  h.silent rfl rfl

theorem paused (h : w.Trail l t) (length : τ) :
    w.Trail (l ++ [.pause length]) (t.paused length) :=
  h.silent rfl rfl

end Trail

/-- Whether one of so many re-readings raised the error of an outcome. -/
def Raised {τ α : Type} (w : Watch τ) (n : Nat) (r : Except Halt α) : Prop :=
  ∃ i < n, ∃ error, (w.tape i).answer = .error error ∧ r = .error (.failed error)

theorem Raised.of_error {τ α β : Type} {w : Watch τ} {n : Nat} {halt : Halt}
    (h : w.Raised n (.error halt : Except Halt α)) :
    w.Raised n (.error halt : Except Halt β) := by
  obtain ⟨i, hi, error, herror, hsame⟩ := h
  exact ⟨i, hi, error, herror, congrArg _ (Except.error.inj hsame)⟩

/-- Whether an outcome hands on the view that is kept after so many re-readings.  An error is about
no operation, unless one of the re-readings raised it. -/
structure HandsOn {τ α : Type} (w : Watch τ) (n : Nat) (value : α → Operation) (r : Except Halt α) :
    Prop where
  ok : ∀ a, r = .ok a → value a = w.view n
  error : ∀ error, r = .error (.failed error) → w.Raised n r ∨ error.operation? = none

namespace HandsOn

variable {τ α : Type} {w : Watch τ} {value : α → Operation} {n : Nat}

theorem of_ok {a : α} (h : value a = w.view n) : w.HandsOn n value (.ok a) :=
  ⟨fun _ hsame => Except.ok.inj hsame ▸ h, nofun⟩

theorem of_raised {i : Nat} {error : Error} (hi : i < n) (h : (w.tape i).answer = .error error) :
    w.HandsOn n value (.error (.failed error)) :=
  ⟨nofun, fun _ _ => .inl ⟨i, hi, error, h, rfl⟩⟩

theorem of_silent {error : Error} (h : error.operation? = none) :
    w.HandsOn n value (.error (.failed error)) :=
  ⟨nofun, fun other hsame => by
    cases hsame
    exact .inr h⟩

theorem of_cutOff : w.HandsOn n value (.error .cutOff) := ⟨nofun, nofun⟩

theorem of_error {β : Type} {value' : β → Operation} {halt : Halt}
    (h : w.HandsOn n value (.error halt)) : w.HandsOn n value' (.error halt) := by
  refine ⟨nofun, fun error herror => ?_⟩
  obtain rfl : halt = .failed error := Except.error.inj herror
  exact (h.error error rfl).imp_left Raised.of_error

end HandsOn

/-- A re-reading is one call, answered from its place on the tape. -/
theorem reread_goes (w : Watch τ) (kept : Operation)
    (s : Session τ Nat (Value × Value × Value)) :
    (w.lookup.reread kept).Goes s fun added r t =>
      added = [.call (w.call kept)] ∧ r = (w.tape s.world).answer.mapError .failed ∧
        t.world = s.world + 1 := by
  obtain ⟨t, hreread, hused, -, hevents⟩ := w.reread_perform kept s
  exact Act.Goes.of_perform [.call (w.call kept)] hreread hevents ⟨rfl, rfl, hused⟩

/-- A question goes by the view that is kept, and its answer is the next one. -/
theorem look_goes (h : w.Trail l t) (hkept : kept = w.view (made l)) :
    (w.lookup.look kept).Goes t fun more r u =>
      w.Trail (l ++ more) u ∧ w.HandsOn (made (l ++ more)) Probe.value r := by
  have hmade : made (l ++ [.call (w.call kept)]) = made l + 1 := by simp [made]
  refine Lookup.look_goes (w.reread_goes kept t) ?_ ?_ ?_
  · rintro more answer u entry ⟨rfl, hanswer, hused⟩
    -- as many re-readings were used up as were made, so the answer is the next one on the tape
    have hfound : (w.tape (made l)).answer = .ok answer := by
      rw [h.used] at hanswer
      exact Act.mapError_failed_eq_ok.mp hanswer.symm
    have hsame : made (l ++ [.call (w.call kept)] ++ [.log entry]) = made l + 1 := by
      rw [made, Event.calls_append, Event.calls_log, List.append_nil]
      exact hmade
    rw [← List.append_assoc]
    refine ⟨(h.ask hkept hused).log entry, HandsOn.of_ok ?_⟩
    rw [hsame, view, Reread.found?_of_answer hfound, ← hkept, Operation.seen_value]
  · rintro more answer u error hnone ⟨rfl, -, hused⟩
    exact ⟨h.ask hkept hused, HandsOn.of_silent hnone⟩
  · rintro more halt u ⟨rfl, hhalt, hused⟩
    rw [h.used] at hhalt
    cases hanswer : (w.tape (made l)).answer with
    | ok answer => rw [hanswer] at hhalt; cases hhalt
    | error error =>
      rw [hanswer] at hhalt
      cases hhalt
      exact ⟨h.ask hkept hused, HandsOn.of_raised (by omega) hanswer⟩

/-- So do all questions of a wait. -/
theorem poll_goes (w : Watch τ) (limit : Nat) :
    (retryUntil (w.patience limit) ("operation " ++ w.operation.name.plain)
      (w.lookup.again w.operation)).Goes w.session fun added r _ =>
        Event.calls added = ((List.range (made added)).map fun i => w.call (w.view i)) ∧
          w.HandsOn (made added) Polled.value r := by
  -- before a question the kept view is the tape's, and behind it the next one is handed on
  refine Poll.retryUntil_goes
    (fun l last t => w.Trail l t ∧ last.getD w.operation = w.view (made l))
    (fun l r t => w.Trail l t ∧ w.HandsOn (made l) Probe.value r)
    ⟨Trail.nil w, rfl⟩ (fun l last t ⟨htrail, hkept⟩ => look_goes htrail hkept) ?_ ?_ ?_ ?_ ?_
  · intro length l seen t _ ⟨htrail, hseen⟩
    exact ⟨htrail.paused length, by simpa [made] using hseen.ok seen rfl⟩
  · rintro l last t halt (rfl | rfl) ⟨htrail, -⟩
    · exact ⟨htrail.calls, HandsOn.of_cutOff⟩
    · exact ⟨htrail.calls, HandsOn.of_silent rfl⟩
  · exact fun l halt t ⟨htrail, hhalted⟩ => ⟨htrail.calls, hhalted.of_error⟩
  · exact fun l seen t _ _ ⟨htrail, _⟩ => ⟨htrail.calls, HandsOn.of_silent rfl⟩
  · intro l seen attempts t entry ⟨htrail, hseen⟩
    exact ⟨(htrail.log entry).calls, HandsOn.of_ok (by simpa [made] using hseen.ok seen rfl)⟩

/-- **The calls of a wait go by its views**, and its outcome is about the last of them, unless a
re-reading raised it. -/
theorem wait_trail (w : Watch τ) (limit : Nat) :
    (w.wait limit).2.calls
        = ((List.range (w.wait limit).2.calls.length).map fun i => w.call (w.view i)) ∧
      ∀ o, Operation.ofOutcome? (w.wait limit).1 = some o →
        w.Raised (w.wait limit).2.calls.length (w.wait limit).1 ∨
          o = w.view (w.wait limit).2.calls.length := by
  have hawait : (w.lookup.await (w.patience limit) w.operation).Goes w.session fun added r _ =>
      Event.calls added = ((List.range (made added)).map fun i => w.call (w.view i)) ∧
        ∀ o, Operation.ofOutcome? r = some o →
          w.Raised (made added) r ∨ o = w.view (made added) := by
    rw [Lookup.await_eq]
    refine (w.poll_goes limit).bind ?_ ?_
    · intro added polled t ⟨hcalls, hvalue⟩
      refine (Lookup.conclude_ofOutcome _ polled t).mono fun more r u ⟨hsilent, habout⟩ => ?_
      have hsame : Event.calls (added ++ more) = Event.calls added := by simp [hsilent]
      rw [made, hsame]
      exact ⟨hcalls, fun o ho => .inr ((habout o ho).trans (hvalue.ok polled rfl))⟩
    · intro added halt t ⟨hcalls, hhalted⟩
      refine ⟨hcalls, fun o ho => ?_⟩
      cases halt with
      | cutOff => cases ho
      | failed error =>
        rcases hhalted.error error rfl with hraised | hnone
        · exact .inl hraised.of_error
        · rw [Operation.ofOutcome?, hnone] at ho
          cases ho
  obtain ⟨added, hadded, hpost⟩ := hawait
  have hcalls : (w.wait limit).2.calls = Event.calls added := congrArg Event.calls hadded
  rw [hcalls]
  exact hpost

end Watch

end ComputeNodes
