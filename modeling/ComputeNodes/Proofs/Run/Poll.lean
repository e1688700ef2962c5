/-
How waits come out.

A wait asks, and then either ends or pauses and asks again.  A `Turn` is a wait right before one of
its questions, and `Turn.after` numbers the turns that follow, whether or not the wait gets that
far.  A turn ends the wait (`Turn.Ends`) when its question halts, is answered well, or is answered
when the time is up.

Everything about a wait then follows from its first turn that ends it: `run_first` says how the
loop comes out there, and `run_none` that without such a turn it asks as often as it may.  The fuel
of the loop is in no other statement.

What holds of every wait, wherever it ends, comes by `retryUntil_goes` from what holds before and
after each question.
-/
import ComputeNodes.Proofs.Run.Act
import ComputeNodes.Run.Attempts
import Mathlib.Data.Nat.Find

namespace ComputeNodes

/-! ### Lengths of time on a clock of doubles -/

namespace Seconds

/-- How long a pause of some length is on a clock of doubles. -/
def pauseTime (s : Seconds) : Float := s.atLeastZero.toDouble?.getD 0.0

theorem pause?_of_toDouble? {s : Seconds} (h : s.toDouble?.isSome = true) :
    Clock.pause? s = some s.pauseTime := by
  have hpause : s.atLeastZero.toDouble?.isSome = true := by
    cases s with
    | whole n =>
      by_cases hn : n < 0
      · simp [atLeastZero, hn, toDouble?]
      · simpa [atLeastZero, hn] using h
    | double x => simp only [atLeastZero]; split <;> rfl
  obtain ⟨x, hx⟩ := Option.isSome_iff_exists.mp hpause
  change s.atLeastZero.toDouble? = _
  rw [pauseTime, hx]
  rfl

theorem tenths?_isSome (s : Seconds) : s.tenths?.isSome = s.toDouble?.isSome := by
  rw [tenths?, Option.isSome_map]

end Seconds

namespace Poll

variable {τ σ ε α : Type} [Clock τ]

/-- A wait right before a question: the answer before it, and the session. -/
structure Turn (τ σ ε α : Type) where
  last : Option α
  session : Session τ σ ε

section

variable (probe : Option α → Act τ σ ε (Probe α)) (length : τ) (patience : Patience) (start : τ)

namespace Turn

/-- The question of a turn: how it comes out, and the session it leaves. -/
def ask (turn : Turn τ σ ε α) : Except Halt (Probe α) × Session τ σ ε :=
  (probe turn.last).perform turn.session

/-- The next turn of a wait that goes on. -/
def next (turn : Turn τ σ ε α) : Turn τ σ ε α where
  last := match (turn.ask probe).1 with
    | .ok seen => some seen.value
    | .error _ => turn.last
  session := (turn.ask probe).2.paused length

/-- The turn that comes so many turns later. -/
def after (turn : Turn τ σ ε α) : Nat → Turn τ σ ε α
  | 0 => turn
  | n + 1 => (turn.next probe length).after n

/-- Whether the time is up when the question of a turn is answered. -/
def IsLate (turn : Turn τ σ ε α) : Prop :=
  Clock.hasReached (Clock.elapsed start (turn.ask probe).2.now) patience.timeout = true

/-- Whether a wait that began at `start` ends with a turn. -/
def Ends (turn : Turn τ σ ε α) : Prop :=
  match (turn.ask probe).1 with
  | .error _ => True
  | .ok seen => seen.done = true ∨ turn.IsLate probe patience start

/-- Whether a wait ends with the turn that comes `n` turns after this one. -/
structure EndsAt (turn : Turn τ σ ε α) (n : Nat) : Prop where
  goesOn : ∀ i < n, ¬ (turn.after probe length i).Ends probe patience start
  ends : (turn.after probe length n).Ends probe patience start

end Turn

end

variable {probe : Option α → Act τ σ ε (Probe α)} {length : τ} {patience : Patience} {start : τ}
  {turn : Turn τ σ ε α}

namespace Turn

theorem next_last {seen : Probe α} (h : (turn.ask probe).1 = .ok seen) :
    (turn.next probe length).last = some seen.value := by
  rw [next, h]

@[simp] theorem after_zero : turn.after probe length 0 = turn := rfl

theorem after_succ (n : Nat) :
    turn.after probe length (n + 1) = (turn.after probe length n).next probe length := by
  induction n generalizing turn with
  | zero => rfl
  | succ n ih => exact ih

theorem ends_of_error {halt : Halt} (h : (turn.ask probe).1 = .error halt) :
    turn.Ends probe patience start := by
  rw [Ends, h]
  trivial

theorem ends_iff_of_ok {seen : Probe α} (h : (turn.ask probe).1 = .ok seen) :
    turn.Ends probe patience start ↔ seen.done = true ∨ turn.IsLate probe patience start := by
  rw [Ends, h]

theorem not_ends_iff : ¬ turn.Ends probe patience start ↔
    ∃ seen, (turn.ask probe).1 = .ok seen ∧ seen.done = false ∧
      ¬ turn.IsLate probe patience start := by
  unfold Ends
  cases (turn.ask probe).1 <;> simp

theorem exists_endsAt {n : Nat} (h : (turn.after probe length n).Ends probe patience start) :
    ∃ m ≤ n, turn.EndsAt probe length patience start m := by
  classical
  have hex : ∃ m, (turn.after probe length m).Ends probe patience start := ⟨n, h⟩
  exact ⟨Nat.find hex, Nat.find_min' hex h, fun _ hi => Nat.find_min hex hi, Nat.find_spec hex⟩

/-- How the loop comes out with the question of a turn, when that ends it after `made` others. -/
def verdict (probe : Option α → Act τ σ ε (Probe α)) (made : Nat) (turn : Turn τ σ ε α) :
    Except Halt (Option (Polled α)) × Session τ σ ε :=
  ((turn.ask probe).1.map fun seen => some ⟨seen.done, seen.value, made + 1⟩,
    (turn.ask probe).2)

end Turn

/-! ### The loop -/

theorem perform_expired (s : Session τ σ ε) :
    (patience.expired start : Act τ σ ε Bool).perform s
      = (.ok (Clock.hasReached (Clock.elapsed start s.now) patience.timeout), s) := rfl

/-- One round of the loop. -/
theorem run_step (fuel made : Nat) (turn : Turn τ σ ε α) :
    (run probe (patience.expired start) (Act.pause length) (fuel + 1) made turn.last).perform
        turn.session
      = match turn.ask probe with
        | (.error halt, t) => (.error halt, t)
        | (.ok seen, t) =>
          if seen.done then (.ok (some ⟨true, seen.value, made + 1⟩), t)
          else if Clock.hasReached (Clock.elapsed start t.now) patience.timeout then
            (.ok (some ⟨false, seen.value, made + 1⟩), t)
          else
            (run probe (patience.expired start) (Act.pause length) fuel (made + 1)
              (some seen.value)).perform (t.paused length) := by
  have hask : (probe turn.last).perform turn.session = turn.ask probe := rfl
  rw [run, Act.perform_bind, hask]
  cases turn.ask probe with
  | mk r t =>
    cases r with
    | error halt => rfl
    | ok seen =>
      cases hdone : seen.done with
      | true => simp [hdone]
      | false =>
        simp only [hdone, Bool.false_eq_true, if_false]
        rw [Act.perform_bind, perform_expired]
        cases Clock.hasReached (Clock.elapsed start t.now) patience.timeout with
        | true => simp
        | false => simp [Act.perform_bind]

theorem run_of_ends (fuel made : Nat) (h : turn.Ends probe patience start) :
    (run probe (patience.expired start) (Act.pause length) (fuel + 1) made turn.last).perform
        turn.session
      = turn.verdict probe made := by
  rw [run_step, Turn.verdict]
  unfold Turn.Ends Turn.IsLate at h
  cases hask : turn.ask probe with
  | mk r t =>
    rw [hask] at h
    cases r with
    | error halt => rfl
    | ok seen =>
      cases hdone : seen.done with
      | true => simp [hdone, Except.map]
      | false =>
        have hlate : Clock.hasReached (Clock.elapsed start t.now) patience.timeout = true := by
          simpa [hdone] using h
        simp [hdone, hlate, Except.map]

theorem run_of_not_ends (fuel made : Nat) (h : ¬ turn.Ends probe patience start) :
    (run probe (patience.expired start) (Act.pause length) (fuel + 1) made turn.last).perform
        turn.session
      = (run probe (patience.expired start) (Act.pause length) fuel (made + 1)
          (turn.next probe length).last).perform (turn.next probe length).session := by
  obtain ⟨seen, hseen, hdone, hlate⟩ := Turn.not_ends_iff.mp h
  rw [run_step, Turn.next]
  unfold Turn.IsLate at hlate
  cases hask : turn.ask probe with
  | mk r t =>
    rw [hask] at hseen hlate
    obtain rfl : r = .ok seen := hseen
    simp [hdone, hlate]

/-- **The loop comes out as the first turn that ends it.** -/
theorem run_first {n fuel : Nat} (made : Nat) (h : turn.EndsAt probe length patience start n)
    (hfuel : n < fuel) :
    (run probe (patience.expired start) (Act.pause length) fuel made turn.last).perform
        turn.session
      = (turn.after probe length n).verdict probe (made + n) := by
  induction n generalizing turn fuel made with
  | zero =>
    obtain ⟨fuel, rfl⟩ := Nat.exists_eq_succ_of_ne_zero (Nat.ne_of_gt hfuel)
    exact run_of_ends fuel made h.ends
  | succ n ih =>
    obtain ⟨fuel, rfl⟩ := Nat.exists_eq_succ_of_ne_zero (Nat.ne_of_gt (Nat.zero_lt_of_lt hfuel))
    have hnext : (turn.next probe length).EndsAt probe length patience start n :=
      ⟨fun i hi => h.goesOn (i + 1) (by omega), h.ends⟩
    have hgoesOn : ¬ turn.Ends probe patience start := h.goesOn 0 (by omega)
    rw [run_of_not_ends fuel made hgoesOn, ih (made + 1) hnext (by omega)]
    rw [show made + 1 + n = made + (n + 1) by omega]
    rfl

/-- A loop that no turn ends asks as often as it may. -/
theorem run_none {fuel : Nat} (made : Nat)
    (h : ∀ i < fuel, ¬ (turn.after probe length i).Ends probe patience start) :
    (run probe (patience.expired start) (Act.pause length) fuel made turn.last).perform
        turn.session
      = (.ok none, (turn.after probe length fuel).session) := by
  induction fuel generalizing turn made with
  | zero => rfl
  | succ fuel ih =>
    have hgoesOn : ¬ turn.Ends probe patience start := h 0 (by omega)
    rw [run_of_not_ends fuel made hgoesOn]
    exact ih (made + 1) fun i hi => h (i + 1) (by omega)

/-! ### The wait around it -/

/-- How a wait closes: it logs how it came out, which for one that was given up takes a timeout that
can be written. -/
def report (patience : Patience) (what : String) (polled : Polled α) (s : Session τ σ ε) :
    Except Halt (Polled α) × Session τ σ ε :=
  let checks := toString polled.attempts ++ " check(s)"
  if polled.succeeded then
    (.ok polled, s.add (.log ⟨.debug, .wait, what ++ " satisfied after " ++ checks⟩))
  else
    match patience.timeout.tenths? with
    | some seconds =>
      (.ok polled,
        s.add (.log ⟨.warning, .wait,
          what ++ " not satisfied after " ++ checks ++ " in " ++ seconds ++ "s"⟩))
    | none => (.error (.failed .tooLargeForDouble), s)

variable {s : Session τ σ ε}

omit [Clock τ] in
/-- A wait closes with a record, when its timeout can be written. -/
theorem report_of_tenths (what : String) (polled : Polled α) (s : Session τ σ ε)
    (hseconds : patience.timeout.tenths?.isSome = true) :
    ∃ entry, report patience what polled s = (.ok polled, s.add (.log entry)) := by
  obtain ⟨seconds, hseconds⟩ := Option.isSome_iff_exists.mp hseconds
  unfold report
  split
  · exact ⟨_, rfl⟩
  · rw [hseconds]
    exact ⟨_, rfl⟩

/-- Every way of waiting reads its clock, asks, and reports. -/
theorem waitWith_perform (what : String) {clock : Act τ σ ε τ}
    {ask : τ → τ → Act τ σ ε (Option (Polled α))} {t : Session τ σ ε}
    (hclock : clock.perform s = (.ok start, t))
    (hlength : Clock.pause? patience.interval = some length) :
    (patience.waitWith what clock ask).perform s
      = match (ask start length).perform t with
        | (.error halt, u) => (.error halt, u)
        | (.ok none, u) => (.error .cutOff, u)
        | (.ok (some polled), u) => report patience what polled u := by
  rw [Patience.waitWith, Act.perform_bind_ok hclock, hlength,
    Act.perform_bind_ok (Act.perform_orTooLarge_some length t), Act.perform_bind]
  cases (ask start length).perform t with
  | mk r t =>
    match r with
    | .error halt => rfl
    | .ok none => rfl
    | .ok (some polled) =>
      unfold report
      cases hdone : polled.succeeded with
      | true => simp only [if_true, hdone, Act.perform_bind, Act.perform_log, Act.perform_pure]
      | false =>
        cases hseconds : patience.timeout.tenths? with
        | none =>
          simp only [Bool.false_eq_true, if_false, hdone, Act.perform_bind,
            Act.perform_orTooLarge_none]
        | some seconds =>
          simp only [Bool.false_eq_true, if_false, hdone, Act.perform_bind,
            Act.perform_orTooLarge_some, Act.perform_log, Act.perform_pure]

theorem retryUntil_perform (what : String)
    (hlength : Clock.pause? patience.interval = some length) :
    (retryUntil patience what probe).perform s
      = match (run probe (patience.expired s.now) (Act.pause length) patience.limit 0 none).perform
          s with
        | (.error halt, t) => (.error halt, t)
        | (.ok none, t) => (.error .cutOff, t)
        | (.ok (some polled), t) => report patience what polled t := by
  rw [retryUntil_eq_waitInLoop]
  exact waitWith_perform what (Act.perform_now s) hlength

theorem retryUntil_tooLarge (what : String)
    (hlength : Clock.pause? (τ := τ) patience.interval = none) :
    (retryUntil patience what probe).perform s = (.error (.failed .tooLargeForDouble), s) := by
  rw [retryUntil, Act.perform_bind_ok (Act.perform_now s), hlength]
  exact Act.perform_bind_error (Act.perform_orTooLarge_none s)

/-- **A wait comes out as its first turn that ends it.** -/
theorem retryUntil_ends (what : String)
    (hlength : Clock.pause? patience.interval = some length) {n : Nat}
    (h : Turn.EndsAt probe length patience s.now ⟨none, s⟩ n) (hn : n < patience.limit) :
    (retryUntil patience what probe).perform s
      = match (Turn.after probe length ⟨none, s⟩ n).ask probe with
        | (.error halt, t) => (.error halt, t)
        | (.ok seen, t) => report patience what ⟨seen.done, seen.value, n + 1⟩ t := by
  rw [retryUntil_perform what hlength, run_first 0 h hn, Turn.verdict, Nat.zero_add]
  cases (Turn.after probe length ⟨none, s⟩ n).ask probe with
  | mk r t => cases r <;> rfl

theorem retryUntil_cutOff (what : String)
    (hlength : Clock.pause? patience.interval = some length)
    (h : ∀ i < patience.limit,
      ¬ (Turn.after probe length ⟨none, s⟩ i).Ends probe patience s.now) :
    (retryUntil patience what probe).perform s
      = (.error .cutOff, (Turn.after probe length ⟨none, s⟩ patience.limit).session) := by
  have hrun := run_none 0 h
  rw [retryUntil_perform what hlength, hrun]

/-! ### What every wait keeps -/

/-- The loop rule.  `before` holds ahead of every question and `answered` behind every one. -/
theorem run_goes {before : List (Event τ ε) → Option α → Session τ σ ε → Prop}
    {answered : List (Event τ ε) → Except Halt (Probe α) → Session τ σ ε → Prop}
    (hask : ∀ l last t, before l last t →
      (probe last).Goes t fun more r u => answered (l ++ more) r u)
    (hnext : ∀ l seen t, seen.done = false → answered l (.ok seen) t →
      before (l ++ [.pause length]) (some seen.value) (t.paused length))
    (fuel made : Nat) (l : List (Event τ ε)) (last : Option α) (t : Session τ σ ε)
    (h : before l last t) :
    (run probe (patience.expired start) (Act.pause length) fuel made last).Goes t
      fun more r u => match r with
        | .ok (some polled) => answered (l ++ more) (.ok ⟨polled.value, polled.succeeded⟩) u
        | .ok none => ∃ last, before (l ++ more) last u
        | .error halt => answered (l ++ more) (.error halt) u := by
  induction fuel generalizing made l last t with
  | zero => exact Act.Goes.pure ⟨last, by simpa using h⟩
  | succ fuel ih =>
    rw [run]
    refine (hask l last t h).bind ?_ (fun _ _ _ hanswer => hanswer)
    intro more seen u hanswer
    cases hdone : seen.done with
    | true =>
      refine Act.Goes.pure ?_
      simpa [← hdone] using hanswer
    | false =>
      simp only [Bool.false_eq_true, if_false]
      refine Act.Goes.bind_silent (perform_expired u) ?_
      cases Clock.hasReached (Clock.elapsed start u.now) patience.timeout with
      | true =>
        refine Act.Goes.pure ?_
        simpa [← hdone] using hanswer
      | false =>
        refine Act.Goes.bind_ok [.pause length] (Act.perform_pause length u) (by simp) ?_
        refine (ih (made + 1) _ _ _ (hnext _ _ _ hdone hanswer)).mono fun added r v hpost => ?_
        simpa only [List.append_assoc] using hpost

/-- The same for the wait around the loop, which adds a record, or none where it halts. -/
theorem retryUntil_goes {what : String}
    (before : List (Event τ ε) → Option α → Session τ σ ε → Prop)
    (answered : List (Event τ ε) → Except Halt (Probe α) → Session τ σ ε → Prop)
    {post : List (Event τ ε) → Except Halt (Polled α) → Session τ σ ε → Prop}
    (hstart : before [] none s)
    (hask : ∀ l last t, before l last t →
      (probe last).Goes t fun more r u => answered (l ++ more) r u)
    (hnext : ∀ length l seen t, seen.done = false → answered l (.ok seen) t →
      before (l ++ [.pause length]) (some seen.value) (t.paused length))
    (hstopped : ∀ l last t halt, halt = .cutOff ∨ halt = .failed .tooLargeForDouble →
      before l last t → post l (.error halt) t)
    (hhalted : ∀ l halt t, answered l (.error halt) t → post l (.error halt) t)
    (hunwritten : ∀ l seen t, patience.timeout.tenths? = none → seen.done = false →
      answered l (.ok seen) t → post l (.error (.failed .tooLargeForDouble)) t)
    (hended : ∀ l seen attempts t entry, answered l (.ok seen) t →
      post (l ++ [.log entry]) (.ok ⟨seen.done, seen.value, attempts⟩) (t.add (.log entry))) :
    (retryUntil patience what probe).Goes s post := by
  rw [retryUntil]
  refine Act.Goes.bind_silent (Act.perform_now s) ?_
  cases hpause : Clock.pause? (τ := τ) patience.interval with
  | none =>
    exact Act.Goes.of_perform [] (Act.perform_bind_error (Act.perform_orTooLarge_none s))
      (by simp) (hstopped _ _ _ _ (.inr rfl) hstart)
  | some length =>
    refine Act.Goes.bind_silent (Act.perform_orTooLarge_some length s) ?_
    refine (run_goes hask (hnext length) patience.limit 0 [] none s hstart).bind ?_ ?_
    · intro l result t hresult
      match result with
      | none =>
        obtain ⟨last, hlast⟩ := hresult
        exact Act.Goes.throw (by simpa using hstopped _ _ _ _ (.inl rfl) hlast)
      | some polled =>
        have hclosed : ∀ attempts entry, post (l ++ [.log entry])
            (.ok ⟨polled.succeeded, polled.value, attempts⟩) (t.add (.log entry)) :=
          fun attempts entry => hended _ _ attempts _ entry hresult
        cases hdone : polled.succeeded with
        | true =>
          simp only [hdone, if_true]
          refine Act.Goes.bind_ok _ (Act.perform_log _ _ _ t) (Session.events_add _ _) ?_
          exact Act.Goes.pure (by simpa [← hdone] using hclosed _ _)
        | false =>
          simp only [hdone, Bool.false_eq_true, if_false]
          cases hseconds : patience.timeout.tenths? with
          | none =>
            exact Act.Goes.of_perform [] (Act.perform_bind_error (Act.perform_orTooLarge_none t))
              (by simp) (by simpa using hunwritten _ _ _ hseconds hdone hresult)
          | some seconds =>
            refine Act.Goes.bind_silent (Act.perform_orTooLarge_some seconds t) ?_
            refine Act.Goes.bind_ok _ (Act.perform_log _ _ _ t) (Session.events_add _ _) ?_
            exact Act.Goes.pure (by simpa [← hdone] using hclosed _ _)
    · intro l halt t hhalt
      exact hhalted _ _ _ hhalt

end Poll

end ComputeNodes
