/-
What a wait keeps.

By the rule for views a fresh operation takes the place of the kept one unless it went back.  So
what is kept has gone furthest of all that is known by then, and of those that have, it was found
last: `IsFurthest` cuts what is known at the kept view, and `IsFurthest.keep` is the rule's step.
The tape is followed by induction (`view_isFurthest`), and every view of the wait is on the tape.
-/
import ComputeNodes.Proofs.Provider.Watch.Trail

namespace ComputeNodes

namespace Operation

/-- Whether an operation is the last one of those in a list that have gone furthest. -/
def IsFurthest (view : Operation) (known : List Operation) : Prop :=
  ∃ earlier later, known = earlier ++ view :: later ∧
    (∀ o ∈ earlier, o.status.place ≤ view.status.place) ∧
    ∀ o ∈ later, o.status.place < view.status.place

variable {view fresh : Operation} {known : List Operation}

theorem isFurthest_singleton (o : Operation) : o.IsFurthest [o] := ⟨[], [], by simp⟩

theorem IsFurthest.place_le (h : view.IsFurthest known) {o : Operation} (ho : o ∈ known) :
    o.status.place ≤ view.status.place := by
  obtain ⟨earlier, later, rfl, hearlier, hlater⟩ := h
  rcases List.mem_append.mp ho with ho | ho
  · exact hearlier o ho
  · rcases List.mem_cons.mp ho with rfl | ho
    · exact Nat.le_refl _
    · exact Nat.le_of_lt (hlater o ho)

/-- The rule for views keeps what has gone furthest. -/
theorem IsFurthest.keep (h : view.IsFurthest known) (fresh : Operation) :
    (view.keep (some fresh)).IsFurthest (known ++ [fresh]) := by
  rw [keep_some]
  by_cases hback : fresh.status.place < view.status.place
  · obtain ⟨earlier, later, rfl, hearlier, hlater⟩ := h
    rw [if_pos hback]
    refine ⟨earlier, later ++ [fresh], by simp, hearlier, fun o ho => ?_⟩
    rcases List.mem_append.mp ho with ho | ho
    · exact hlater o ho
    · rwa [List.mem_singleton.mp ho]
  · rw [if_neg hback]
    refine ⟨known, [], rfl, fun o ho => ?_, by simp⟩
    exact Nat.le_trans (h.place_le ho) (Nat.not_lt.mp hback)

end Operation

namespace Watch

/-- What is known of the operation after so many re-readings: what was submitted, and what was found
since. -/
def known {τ : Type} (w : Watch τ) (n : Nat) : List Operation :=
  w.operation :: (List.range n).filterMap fun i => (w.tape i).found?

theorem known_succ {τ : Type} (w : Watch τ) (n : Nat) :
    w.known (n + 1) = w.known n ++ (w.tape n).found?.toList := by
  rw [known, List.range_succ, List.filterMap_append]
  cases hfound : (w.tape n).found? <;> simp [known, hfound]

/-- **What is kept has gone furthest of all that is known.** -/
theorem view_isFurthest {τ : Type} (w : Watch τ) (n : Nat) :
    (w.view n).IsFurthest (w.known n) := by
  induction n with
  | zero => exact Operation.isFurthest_singleton w.operation
  | succ n ih =>
    rw [view, known_succ]
    cases (w.tape n).found? with
    | none => simpa using ih
    | some fresh => exact ih.keep fresh

variable {τ : Type} [Clock τ]

/-- **A wait keeps what has gone furthest**, and its outcome is about that: every view of its turns
is the last operation of those that have gone furthest by then, and so is the one that is returned,
found to have failed or given up on. -/
theorem await_keeps_furthest (w : Watch τ) :
    (∀ length limit n,
      (∀ i < n,
        ¬ (w.turn length i).Ends (w.lookup.again w.operation) (w.patience limit) w.start) →
      (w.turn length n).session.calls.length = n ∧
        ((w.turn length n).last.getD w.operation).IsFurthest (w.known n) ∧
        ∀ seen, (w.ask length n).1 = .ok seen → seen.value.IsFurthest (w.known (n + 1))) ∧
    ∀ limit o, Operation.ofOutcome? (w.wait limit).1 = some o →
      ¬ w.Raised (w.wait limit).2.calls.length (w.wait limit).1 →
      o.IsFurthest (w.known (w.wait limit).2.calls.length) ∧
        ∀ seen ∈ w.known (w.wait limit).2.calls.length,
          seen.status.place ≤ o.status.place := by
  constructor
  · intro length limit n hgoesOn
    have hstanding := standing_of_goesOn hgoesOn
    refine ⟨hstanding.calls, ?_, fun seen hseen => ?_⟩
    · rw [hstanding.kept]
      exact w.view_isFurthest n
    · obtain ⟨answer, hanswer, rfl⟩ := hstanding.asked.answer_of_ok hseen
      have hview := w.view_isFurthest (n + 1)
      rwa [view, Reread.found?_of_answer hanswer] at hview
  · intro limit o ho hraised
    obtain rfl := ((w.wait_trail limit).2 o ho).resolve_left hraised
    have hfurthest := w.view_isFurthest (w.wait limit).2.calls.length
    exact ⟨hfurthest, fun seen hseen => hfurthest.place_le hseen⟩

/-- An operation that is running when it is submitted, still is when it is looked at, and then is
pending again. -/
def backToPending : Watch Float where
  project := "p"
  operation := { name := "op-1", status := .running }
  tape n := ⟨1.5, .ok (some
    { name := "op-1", status := if n = 0 then .running else .pending, zone := "z" })⟩
  timeout := .whole 4
  interval := .whole 2
  start := 0.0

/-- It is given up with the view that was found first. -/
theorem await_keeps_furthest_backToPending :
    (backToPending.wait 2).1 = .error (.failed
        (.operationTimeout { name := "op-1", status := .running, zone := "z" } (.whole 4))) ∧
      Operation.IsFurthest { name := "op-1", status := .running, zone := "z" }
        [{ name := "op-1", status := .running },
          { name := "op-1", status := .running, zone := "z" },
          { name := "op-1", status := .pending, zone := "z" }] := by
  have hwait : (backToPending.wait 2).1 = .error (.failed
      (.operationTimeout { name := "op-1", status := .running, zone := "z" } (.whole 4))) := rfl
  have hraised : ¬ backToPending.Raised (backToPending.wait 2).2.calls.length
      (backToPending.wait 2).1 := fun ⟨i, _, error, herror, _⟩ => by cases herror
  exact ⟨hwait, ((await_keeps_furthest backToPending).2 2 _ rfl hraised).1⟩

end Watch

end ComputeNodes
