/-
When a wait gives up on an operation that is done.

Giving up says that the operation was not done in time, and for the most part it was not: done is
never lost from what is kept, and a look that finds anything at all is good once what is kept is
done.  But a look that finds nothing is never good.  So an operation that is done when it is
submitted, and cannot be found from then on, is given up with the done operation in hand, and
`await_misses_done_iff` says that this is the only way.
-/
import ComputeNodes.Proofs.Provider.Watch

namespace ComputeNodes

namespace Watch

variable {τ : Type} [Clock τ] {w : Watch τ} {length : τ} {n limit : Nat}

/-- A wait that is given up has a turn at which the time is up, and none that was good. -/
theorem late_of_wait {o : Operation} {timeout : Seconds}
    (hwait : (w.wait limit).1 = .error (.failed (.operationTimeout o timeout)))
    (hraises : ∀ i < (w.wait limit).2.calls.length, ¬ (w.tape i).Raises) :
    w.timeout.tenths?.isSome = true ∧ ∃ length, Clock.pause? w.interval = some length ∧
      ∃ n < limit, o = w.view (n + 1) ∧ (w.wait limit).2.calls.length = n + 1 ∧
        (∀ i < n + 1, ∃ answer, (w.tape i).answer = .ok answer ∧
          ((w.view i).seen answer).done = false) ∧
        (∀ i < n, ¬ w.IsLate length i) ∧ w.IsLate length n := by
  cases hlength : Clock.pause? (τ := τ) w.interval with
  | none =>
    have htooLarge : (w.wait limit).1 = .error (.failed .tooLargeForDouble) :=
      Lookup.await_tooLarge hlength
    rw [htooLarge] at hwait
    cases hwait
  | some length =>
    -- some turn ends the wait, since it was not cut off
    have hends : ∃ n < limit, (w.turn length n).Ends (w.lookup.again w.operation)
        (w.patience limit) w.start := by
      by_contra hnever
      have hcutOff := w.wait_cutOff_of_turns hlength fun i hi hends => hnever ⟨i, hi, hends⟩
      rw [hcutOff] at hwait
      cases hwait
    obtain ⟨m, hm, hends⟩ := hends
    obtain ⟨n, hn, hfirst⟩ := exists_first_turn hends
    have hlimit : n < limit := Nat.lt_of_le_of_lt hn hm
    obtain ⟨hresult, hcalls, -⟩ := w.wait_of_turns hlength hfirst hlimit
    have hasked_of : ∀ i ≤ n, w.Asked length i := fun i hi =>
      (standing_of_goesOn fun j hj => hfirst.goesOn j (Nat.lt_of_lt_of_le hj hi)).asked
    have hasked := hasked_of n (Nat.le_refl n)
    have hmade : (w.wait limit).2.calls.length = n + 1 := by rw [hcalls, hasked.calls]
    -- its question was answered, but not well
    obtain ⟨answer, hanswer⟩ : ∃ answer, (w.tape n).answer = .ok answer := by
      cases hanswer : (w.tape n).answer with
      | error error => exact absurd ⟨error, hanswer⟩ (hraises n (by omega))
      | ok answer => exact ⟨answer, rfl⟩
    rw [hwait] at hresult
    rcases hasked.answered answer hanswer with hseen | ⟨error, herror, hother⟩
    · rw [hseen] at hresult
      have hsettle : Lookup.settle (w.patience limit) ((w.view n).seen answer)
          = .error (.operationTimeout o timeout) := Act.mapError_failed_eq_error.mp hresult.symm
      obtain ⟨hdone, ho, hseconds⟩ := Lookup.settle_eq_timeout hsettle
      refine ⟨hseconds, length, rfl, n, hlimit, ?_, hmade, fun i hi => ?_, fun i hi => ?_, ?_⟩
      · rw [ho, Operation.seen_value, view, Reread.found?_of_answer hanswer]
      · rcases Nat.lt_succ_iff_lt_or_eq.mp hi with hlt | rfl
        · obtain ⟨seen, hseen, hdone, -⟩ := Poll.Turn.not_ends_iff.mp (hfirst.goesOn i hlt)
          obtain ⟨found, hfound, rfl⟩ := (hasked_of i (Nat.le_of_lt hlt)).answer_of_ok hseen
          exact ⟨found, hfound, hdone⟩
        · exact ⟨answer, hanswer, hdone⟩
      · obtain ⟨seen, hseen, hdone, hlate⟩ := Poll.Turn.not_ends_iff.mp (hfirst.goesOn i hi)
        exact fun h => hlate ((hasked_of i (Nat.le_of_lt hi)).isLate_iff.mpr h)
      · rcases (Poll.Turn.ends_iff_of_ok hseen).mp hfirst.ends with hgood | hlate
        · rw [hdone] at hgood
          cases hgood
        · exact hasked.isLate_iff.mp hlate
    · rw [herror] at hresult
      cases hresult
      exact absurd rfl (hother _ _)

theorem wait_of_absent (hlength : Clock.pause? w.interval = some length)
    (habsent : ∀ i ≤ n, (w.tape i).answer = .ok none) (hgoesOn : ∀ i < n, ¬ w.IsLate length i)
    (hlate : w.IsLate length n) (hlimit : n < limit) :
    (w.wait limit).1 = .error (.failed (w.operation.lateError w.timeout)) ∧
      (w.wait limit).2.calls.length = n + 1 := by
  have hstanding : ∀ i ≤ n, w.Standing length i := fun i hi => standing_of_reads fun j hj =>
    ⟨none, habsent j (by omega), by simp⟩
  have hask : ∀ i ≤ n, (w.ask length i).1 = .ok ((w.view i).seen none) := fun i hi =>
    (hstanding i hi).ask_of_reads (habsent i hi) ⟨none, habsent i hi, by simp⟩
  have hends : ∀ i ≤ n, ((w.turn length i).Ends (w.lookup.again w.operation) (w.patience limit)
      w.start ↔ w.IsLate length i) := by
    intro i hi
    rw [Poll.Turn.ends_iff_of_ok (hask i hi), (hstanding i hi).asked.isLate_iff]
    simp
  have hfirst : Poll.Turn.EndsAt (w.lookup.again w.operation) length (w.patience limit) w.start
      (w.turn length 0) n :=
    ⟨fun i hi h => hgoesOn i hi ((hends i (Nat.le_of_lt hi)).mp h),
      (hends n (Nat.le_refl n)).mpr hlate⟩
  obtain ⟨hresult, hcalls, -⟩ := w.wait_of_turns hlength hfirst hlimit
  rw [hresult, hcalls, hask n (Nat.le_refl n)]
  refine ⟨?_, (hstanding n (Nat.le_refl n)).asked.calls⟩
  rw [view_of_absent fun i hi => habsent i (Nat.le_of_lt hi)]
  rfl

/-- **When a wait gives up on an operation that is known to be done**: just when it was done as it
was submitted, and no re-reading found it before the time was up. -/
theorem await_misses_done_iff (w : Watch τ) (limit : Nat) :
    (∃ o timeout, (w.wait limit).1 = .error (.failed (.operationTimeout o timeout)) ∧
        (∀ i < (w.wait limit).2.calls.length, ¬ (w.tape i).Raises) ∧
        (o.isDone = true ∨ w.operation.isDone = true ∨
          ∃ i < (w.wait limit).2.calls.length, (w.tape i).FindsDone)) ↔
      w.operation.isDone = true ∧ w.timeout.tenths?.isSome = true ∧
        ∃ length, Clock.pause? w.interval = some length ∧
          ∃ n < limit, (∀ i ≤ n, (w.tape i).answer = .ok none) ∧
            (∀ i < n, ¬ w.IsLate length i) ∧ w.IsLate length n := by
  constructor
  · rintro ⟨o, timeout, hwait, hraises, hknown⟩
    obtain ⟨hseconds, length, hlength, n, hlimit, rfl, hmade, hlooks, hgoesOn, hlate⟩ :=
      late_of_wait hwait hraises
    have hdone : (w.view (n + 1)).isDone = true := by
      rcases hknown with hdone | hdone | ⟨i, hi, fresh, hfresh, hdone⟩
      · exact hdone
      · exact isDone_view hdone (n + 1)
      · obtain ⟨answer, hanswer, hseen⟩ := hlooks i (by omega)
        rw [hfresh] at hanswer
        cases hanswer
        rw [Operation.seen_done_some, hdone, Bool.or_true] at hseen
        cases hseen
    obtain ⟨hsubmitted, habsent⟩ := absent_of_isDone_view hlooks hdone
    exact ⟨hsubmitted, hseconds, length, hlength, n, hlimit,
      fun i hi => habsent i (Nat.lt_succ_of_le hi), hgoesOn, hlate⟩
  · rintro ⟨hsubmitted, hseconds, length, hlength, n, hlimit, habsent, hgoesOn, hlate⟩
    obtain ⟨hwait, hmade⟩ := wait_of_absent hlength habsent hgoesOn hlate hlimit
    obtain ⟨seconds, hseconds⟩ := Option.isSome_iff_exists.mp hseconds
    refine ⟨w.operation, w.timeout, ?_, fun i hi => ?_, .inl hsubmitted⟩
    · rw [hwait, Operation.lateError, hseconds]
    · exact Reread.not_raises (habsent i (by omega))

/-- An operation that is done when it is submitted and cannot be found after that. -/
def doneThenLost : Watch Float where
  project := "p"
  operation := { name := "op-1", status := .done, zone := "z" }
  tape _ := ⟨0.0, .ok none⟩
  timeout := .whole 0
  interval := .whole 1
  start := 0.0

/-- It is given up for not being done in time. -/
theorem gives_up_on_doneThenLost :
    (doneThenLost.wait 1).1
        = .error (.failed (.operationTimeout doneThenLost.operation doneThenLost.timeout)) ∧
      doneThenLost.operation.isDone = true := by
  have hlength : Clock.pause? doneThenLost.interval = some (1.0 : Float) := by decide
  have hlate : doneThenLost.IsLate 1.0 0 := by unfold IsLate; decide +kernel
  have hseconds : doneThenLost.timeout.tenths? = some "0.0" := by decide +kernel
  have hwait := wait_of_absent hlength (fun _ _ => rfl)
    (fun i hi => absurd hi (Nat.not_lt_zero i)) hlate Nat.zero_lt_one
  rw [hwait.1, Operation.lateError, hseconds]
  exact ⟨rfl, rfl⟩

end Watch

end ComputeNodes
