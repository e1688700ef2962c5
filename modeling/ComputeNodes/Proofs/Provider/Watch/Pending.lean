/-
How a wait comes out for an operation that is not done yet.

As long as the tape goes on, what is kept is not done, so a turn is good just when its re-reading
finds the operation done (`IsPending.ends_iff`).  Hence the first re-reading that ends the wait is
where its turns end it, and it alone says what the wait comes to: an error that was raised goes
before anything else, and done goes before late.
-/
import ComputeNodes.Proofs.Provider.Watch

namespace ComputeNodes

namespace Watch

/-- What a wait is about: an operation that is not done, and re-readings with statuses that are
known. -/
structure IsPending {τ : Type} (w : Watch τ) : Prop where
  submitted : w.operation.status = .pending ∨ w.operation.status = .running
  known : ∀ n fresh, (w.tape n).answer = .ok (some fresh) → fresh.status.IsKnown

namespace IsPending

section

variable {τ : Type} {w : Watch τ} {n : Nat}

theorem view_isKnown (hw : w.IsPending) (n : Nat) : (w.view n).status.IsKnown := by
  induction n with
  | zero =>
    rw [Status.isKnown_iff]
    exact hw.submitted.imp_right .inl
  | succ n ih =>
    rw [view]
    cases hanswer : (w.tape n).answer with
    | error error => rw [Reread.found?, hanswer]; exact ih
    | ok answer =>
      rw [Reread.found?_of_answer hanswer]
      cases answer with
      | none => exact ih
      | some fresh => exact Operation.keep_isKnown ih (hw.known n fresh hanswer)

theorem view_isDone (hw : w.IsPending) (h : ∀ i < n, ¬ (w.tape i).FindsDone) :
    (w.view n).isDone = false := by
  induction n with
  | zero => rcases hw.submitted with hstatus | hstatus <;> simp [view, Operation.isDone, hstatus]
  | succ n ih =>
    have hkept := ih fun i hi => h i (Nat.lt_succ_of_lt hi)
    rw [view]
    cases hanswer : (w.tape n).answer with
    | error error => rw [Reread.found?, hanswer]; exact hkept
    | ok answer =>
      rw [Reread.found?_of_answer hanswer]
      cases answer with
      | none => exact hkept
      | some fresh =>
        have hfresh : fresh.isDone = false := Bool.eq_false_iff.mpr fun hdone =>
          h n (Nat.lt_succ_self n) ⟨fresh, hanswer, hdone⟩
        rw [Operation.keep_isDone, hkept, Bool.false_or, hfresh]

theorem reads (hw : w.IsPending) (h : ¬ (w.tape n).Raises) : w.Reads n := by
  cases hanswer : (w.tape n).answer with
  | error error => exact absurd ⟨error, hanswer⟩ h
  | ok answer =>
    refine ⟨answer, hanswer, fun fresh hfresh => ⟨?_, hw.view_isKnown n⟩⟩
    rw [hfresh] at hanswer
    exact hw.known n fresh hanswer

end

variable {τ : Type} [Clock τ] {w : Watch τ} {length : τ} {n limit : Nat}

/-- The wait is where the tape has it as long as the tape goes on. -/
theorem standing (hw : w.IsPending) (h : ∀ i < n, ¬ w.Ends length i) : w.Standing length n :=
  standing_of_reads fun i hi => hw.reads fun hraises => h i hi (.inl hraises)

/-- A turn ends the wait just when its re-reading does. -/
theorem ends_iff (hw : w.IsPending) (h : ∀ i < n, ¬ w.Ends length i) :
    (w.turn length n).Ends (w.lookup.again w.operation) (w.patience limit) w.start
      ↔ w.Ends length n := by
  have hasked := (hw.standing h).asked
  have hkept : (w.view n).isDone = false :=
    hw.view_isDone fun i hi hdone => h i hi (.inr (.inl hdone))
  cases hanswer : (w.tape n).answer with
  | error error =>
    exact iff_of_true (Poll.Turn.ends_of_error (hasked.raised error hanswer))
      (.inl ⟨error, hanswer⟩)
  | ok answer =>
    have hraises := Reread.not_raises hanswer
    have hask := (hw.standing h).ask_of_reads hanswer (hw.reads hraises)
    have hdone : ((w.view n).seen answer).done = true ↔ (w.tape n).FindsDone := by
      cases answer with
      | none => simp [Reread.FindsDone, hanswer]
      | some fresh => simp [Reread.FindsDone, hanswer, hkept]
    rw [Poll.Turn.ends_iff_of_ok hask, hdone, hasked.isLate_iff, Ends, or_iff_right hraises]

theorem settle_eq (hw : w.IsPending) (h : ∀ i < n, ¬ w.Ends length i)
    (htimeout : w.timeout.tenths?.isSome = true) {answer : Option Operation}
    (hanswer : (w.tape n).answer = .ok answer) :
    Lookup.settle (w.patience limit) ((w.view n).seen answer) = w.outcome n := by
  have hkept : (w.view n).isDone = false :=
    hw.view_isDone fun i hi hdone => h i hi (.inr (.inl hdone))
  have hlate : ∀ o : Operation,
      o.lateError (w.patience limit).timeout = .operationTimeout o w.timeout := by
    intro o
    obtain ⟨seconds, hseconds⟩ := Option.isSome_iff_exists.mp htimeout
    simp [Operation.lateError, patience, hseconds]
  have hview : w.view (n + 1) = (w.view n).keep answer := by
    rw [view, Reread.found?_of_answer hanswer]
  rw [Lookup.settle, outcome, hanswer, hview]
  cases answer with
  | none => simp [hlate]
  | some fresh =>
    cases hfresh : fresh.isDone with
    | false => simp [hkept, hfresh, hlate]
    | true =>
      rw [Operation.seen_done_some, hfresh, Bool.or_true, if_pos rfl, Operation.seen_value,
        Operation.keep_of_isDone hkept hfresh]
      cases herror : fresh.httpError <;>
        simp [Operation.ended, Operation.failure?, hfresh, herror]

/-- **A wait comes out as the first re-reading on its tape that ends it.** -/
theorem wait_of_endsAt (hw : w.IsPending) (hlength : Clock.pause? w.interval = some length)
    (htimeout : w.timeout.tenths?.isSome = true) (h : w.EndsAt length n) (hlimit : n < limit) :
    (w.wait limit).1 = (w.outcome n).mapError .failed ∧
      (w.wait limit).2.calls.length = n + 1 ∧
      (w.wait limit).2.pauses = List.replicate n length := by
  have hturns : Poll.Turn.EndsAt (w.lookup.again w.operation) length (w.patience limit)
      w.session.now ⟨none, w.session⟩ n :=
    ⟨fun i hi hends => h.goesOn i hi
        ((hw.ends_iff fun j hj => h.goesOn j (Nat.lt_trans hj hi)).mp hends),
      (hw.ends_iff h.goesOn).mpr h.ends⟩
  have hasked := (hw.standing h.goesOn).asked
  obtain ⟨hresult, hcalls, hpauses⟩ := w.wait_of_turns hlength hturns hlimit
  rw [hresult, hcalls, hpauses]
  refine ⟨?_, hasked.calls, hasked.pauses⟩
  cases hanswer : (w.tape n).answer with
  | error error => rw [hasked.raised error hanswer, outcome, hanswer]; rfl
  | ok answer =>
    have hreads := hw.reads (Reread.not_raises hanswer)
    rw [(hw.standing h.goesOn).ask_of_reads hanswer hreads,
      ← hw.settle_eq h.goesOn htimeout hanswer]
    rfl

theorem wait_cutOff (hw : w.IsPending) (hlength : Clock.pause? w.interval = some length)
    (h : ∀ i < limit, ¬ w.Ends length i) : (w.wait limit).1 = .error .cutOff := by
  refine w.wait_cutOff_of_turns hlength fun i hi hends => ?_
  exact h i hi ((hw.ends_iff fun j hj => h j (Nat.lt_trans hj hi)).mp hends)

end IsPending

/-- **How a wait for an operation comes out that is not done yet**, on a clock of doubles.  It ends
if any re-reading on its tape ends it, and comes out as the first one that does. -/
theorem await_outcome {w : Watch Float} (hw : w.IsPending)
    (htimeout : w.timeout.toDouble?.isSome = true)
    (hinterval : w.interval.toDouble?.isSome = true) :
    ((∃ limit, (w.wait limit).1 ≠ .error .cutOff) ↔ ∃ n, w.Ends w.interval.pauseTime n) ∧
      ∀ n, w.EndsAt w.interval.pauseTime n → ∀ limit, n < limit →
        (w.wait limit).1 = (w.outcome n).mapError .failed ∧
          (w.wait limit).2.calls.length = n + 1 ∧
          (w.wait limit).2.pauses = List.replicate n w.interval.pauseTime := by
  have hlength := Seconds.pause?_of_toDouble? hinterval
  have hseconds : w.timeout.tenths?.isSome = true := by rw [Seconds.tenths?_isSome, htimeout]
  refine ⟨⟨fun ⟨limit, hended⟩ => ?_, fun ⟨n, hn⟩ => ?_⟩, fun n h limit hlimit =>
    hw.wait_of_endsAt hlength hseconds h hlimit⟩
  · by_contra hnever
    exact hended (hw.wait_cutOff hlength fun i _ hends => hnever ⟨i, hends⟩)
  · obtain ⟨m, hm⟩ := exists_endsAt hn
    refine ⟨m + 1, ?_⟩
    rw [(hw.wait_of_endsAt hlength hseconds hm (Nat.lt_succ_self m)).1]
    cases w.outcome m <;> simp

/-- An operation that is running when it is looked at first, and done when it is looked at again. -/
def runningThenDone : Watch Float where
  project := "p"
  operation := { name := "op-1", status := .pending }
  tape n := ⟨1.5, .ok (some { name := "op-1", status := if n = 0 then .running else .done })⟩
  timeout := .whole 4
  interval := .whole 2
  start := 0.0

theorem await_outcome_runningThenDone :
    (runningThenDone.wait 2).1 = .ok { name := "op-1", status := .done } ∧
      (runningThenDone.wait 2).2.calls.length = 2 ∧
      (runningThenDone.wait 2).2.pauses = [2.0] := by
  have hpending : runningThenDone.IsPending := by
    refine ⟨.inl rfl, fun n fresh hfresh => ?_⟩
    obtain rfl : { name := "op-1", status := if n = 0 then .running else .done } = fresh :=
      Option.some.inj (Except.ok.inj hfresh)
    rw [Status.isKnown_iff]
    by_cases hn : n = 0 <;> simp [hn]
  have hends : runningThenDone.EndsAt runningThenDone.interval.pauseTime 1 := by
    refine ⟨fun i hi => ?_, .inr (.inl ⟨_, rfl, rfl⟩)⟩
    obtain rfl : i = 0 := by omega
    rintro (⟨error, herror⟩ | ⟨fresh, hfresh, hdone⟩ | hlate)
    · cases herror
    · cases hfresh
      cases hdone
    · revert hlate
      unfold IsLate
      decide
  exact (await_outcome hpending (by decide) (by decide)).2 1 hends 2 (by decide)

end Watch

end ComputeNodes
