/-
Waits on tapes.

All that a wait comes to see are answers and readings of its clock, and a `Tape` holds both,
whatever they are.  On a tape every look at the clock and every question is noted, so that the
session of a wait shows which of them it made, and in which order.

A wait goes on behind an answer that is neither good nor late, and `Tape.EndsAt` names the first
answer behind which it does not.  The induction is on the rounds before that one: `Poll.run` is
followed from the session ahead of one question to the session ahead of the next
(`run_of_goesOn`, `run_ahead`), and the round that ends it is opened once (`run_ends`).
-/
import ComputeNodes.Proofs.Number.Double
import ComputeNodes.Proofs.Run.Attempts
import ComputeNodes.Proofs.Run.Poll

namespace ComputeNodes

/-- The answers that a wait gets, and what its clock reads whenever it looks. -/
structure Tape (τ α : Type) where
  answers : Nat → Except Error (Probe α)
  readings : Nat → τ

namespace Tape

variable {τ α : Type}

/-- What a wait takes from a tape. -/
inductive Take where
  | reading
  | answer
  deriving DecidableEq, Repr

/-- How much was taken from a tape. -/
structure Place where
  answers : Nat := 0
  readings : Nat := 0

/-- The next reading of the clock. -/
def clock (tape : Tape τ α) : Act τ Place Take τ := do
  Act.note (.call .reading)
  let place ← Act.world
  Act.setWorld { place with readings := place.readings + 1 }
  return tape.readings place.readings

/-- The next answer, whatever the one before. -/
def question (tape : Tape τ α) (_ : Option α) : Act τ Place Take (Probe α) := do
  Act.note (.call .answer)
  let place ← Act.world
  Act.setWorld { place with answers := place.answers + 1 }
  Act.ofExcept (tape.answers place.answers)

/-- A session after a look at the clock. -/
def looked (s : Session τ Place Take) : Session τ Place Take :=
  { s.add (.call .reading) with world := { s.world with readings := s.world.readings + 1 } }

/-- A session after a question. -/
def asked (s : Session τ Place Take) : Session τ Place Take :=
  { s.add (.call .answer) with world := { s.world with answers := s.world.answers + 1 } }

/-- A session after the answer that ends a wait, which looks at the clock only if that is not
good. -/
def closed (tape : Tape τ α) (n : Nat) (s : Session τ Place Take) : Session τ Place Take :=
  match tape.answers n with
  | .ok ⟨_, false⟩ => looked (asked s)
  | _ => asked s

/-- What a wait makes of the answer that ends it, which is the last of its questions. -/
def result (tape : Tape τ α) (n : Nat) : Except Halt (Polled α) :=
  match tape.answers n with
  | .ok seen => .ok ⟨seen.done, seen.value, n + 1⟩
  | .error error => .error (.failed error)

@[simp] theorem clock_perform (tape : Tape τ α) (s : Session τ Place Take) :
    tape.clock.perform s = (.ok (tape.readings s.world.readings), looked s) := rfl

@[simp] theorem question_perform (tape : Tape τ α) (last : Option α) (s : Session τ Place Take) :
    (tape.question last).perform s
      = ((tape.answers s.world.answers).mapError .failed, asked s) := by
  simp only [question, Act.perform_bind, Act.perform_note, Act.perform_world, Act.perform_setWorld,
    Act.perform_ofExcept]
  rfl

/-! ### Rounds -/

/-- Everything that is done before a question: a look at the clock, and then round by round a
question, another look and a pause. -/
def rounds (length : τ) (n : Nat) : List (Event τ Take) :=
  .call .reading :: (List.replicate n [.call .answer, .call .reading, .pause length]).flatten

/-- What is done at the answer that ends a wait. -/
def lastRound (tape : Tape τ α) (n : Nat) : List (Event τ Take) :=
  match tape.answers n with
  | .ok ⟨_, false⟩ => [.call .answer, .call .reading]
  | _ => [.call .answer]

theorem rounds_succ (length : τ) (n : Nat) :
    rounds length (n + 1) = rounds length n ++ [.call .answer, .call .reading, .pause length] := by
  simp [rounds, List.replicate_succ', List.flatten_append]

@[simp] theorem pauses_rounds (length : τ) (n : Nat) :
    Event.pauses (rounds length n) = List.replicate n length := by
  induction n with
  | zero => rfl
  | succ n ih => rw [rounds_succ, Event.pauses_append, ih, List.replicate_succ']; rfl

@[simp] theorem pauses_lastRound (tape : Tape τ α) (n : Nat) :
    Event.pauses (tape.lastRound n) = [] := by
  unfold lastRound
  split <;> rfl

@[simp] theorem events_closed (tape : Tape τ α) (n : Nat) (s : Session τ Place Take) :
    (tape.closed n s).events.toList = s.events.toList ++ tape.lastRound n := by
  unfold closed lastRound
  split <;> simp [asked, looked]

@[simp] theorem answers_closed (tape : Tape τ α) (n : Nat) (s : Session τ Place Take) :
    (tape.closed n s).world.answers = s.world.answers + 1 := by
  unfold closed
  split <;> rfl

theorem pauses_records (records : List Logging.Entry) :
    Event.pauses (records.map (.log : _ → Event τ Take)) = [] := by
  induction records with
  | nil => rfl
  | cons entry records ih => exact ih

section

variable [Clock τ] (tape : Tape τ α) (timeout : Seconds)

/-- Whether the time is up at the look behind an answer.  There was one look before the first
question, and one behind each answer since. -/
def IsLate (n : Nat) : Prop :=
  Clock.hasReached (Clock.elapsed (tape.readings 0) (tape.readings (n + 1))) timeout = true

/-- Whether a wait goes on behind an answer: it is not good, and the time is not up. -/
def GoesOn (n : Nat) : Prop :=
  ∃ value, tape.answers n = .ok ⟨value, false⟩ ∧ ¬ tape.IsLate timeout n

/-- Whether a wait goes on up to an answer, and ends there. -/
structure EndsAt (n : Nat) : Prop where
  goesOn : ∀ i < n, tape.GoesOn timeout i
  ends : ¬ tape.GoesOn timeout n

/-- The session of a wait ahead of a question. -/
def ahead (length now : τ) : Nat → Session τ Place Take
  | 0 => looked { now, world := {} }
  | n + 1 => (looked (asked (ahead length now n))).paused length

end

section

variable [Clock τ] {tape : Tape τ α} {patience : Patience} {length now : τ}

@[simp] theorem world_ahead (n : Nat) : (ahead length now n).world = ⟨n, n + 1⟩ := by
  induction n with
  | zero => rfl
  | succ n ih =>
    simp only [ahead, Session.world_paused, looked, asked, ih]

@[simp] theorem events_ahead (n : Nat) :
    (ahead length now n).events.toList = rounds length n := by
  induction n with
  | zero => rfl
  | succ n ih =>
    rw [rounds_succ, ← ih]
    simp [ahead, looked, asked]

theorem begin_perform (length : τ) :
    tape.clock.perform { now, world := {} } = (.ok (tape.readings 0), ahead length now 0) := rfl

/-- A wait that goes on behind an answer comes to the next question. -/
theorem run_of_goesOn {n : Nat} (h : tape.GoesOn patience.timeout n) (fuel : Nat)
    (last : Option α) : ∃ value,
    (Poll.run tape.question (patience.expiredBy tape.clock (tape.readings 0)) (Act.pause length)
        (fuel + 1) n last).perform (ahead length now n)
      = (Poll.run tape.question (patience.expiredBy tape.clock (tape.readings 0)) (Act.pause length)
        fuel (n + 1) (some value)).perform (ahead length now (n + 1)) := by
  obtain ⟨value, hanswer, hlate⟩ := h
  refine ⟨value, ?_⟩
  have hworld : (asked (ahead length now n)).world.readings = n + 1 := by simp [asked]
  simp only [Poll.run, Act.perform_bind, question_perform, world_ahead, hanswer,
    Act.mapError_failed_ok, Bool.false_eq_true, if_false, Patience.expiredBy, clock_perform,
    hworld, Act.perform_pure]
  rw [IsLate, Bool.not_eq_true] at hlate
  simp only [hlate, Bool.false_eq_true, if_false, Act.perform_bind, Act.perform_pause]
  rfl

/-- A wait that goes on behind the first answers comes to the question after them. -/
theorem run_ahead (length now : τ) {n : Nat} (h : ∀ i < n, tape.GoesOn patience.timeout i)
    (fuel : Nat) : ∃ last,
    (Poll.run tape.question (patience.expiredBy tape.clock (tape.readings 0)) (Act.pause length)
        (fuel + n) 0 none).perform (ahead length now 0)
      = (Poll.run tape.question (patience.expiredBy tape.clock (tape.readings 0)) (Act.pause length)
        fuel n last).perform (ahead length now n) := by
  induction n generalizing fuel with
  | zero => exact ⟨none, rfl⟩
  | succ n ih =>
    obtain ⟨last, hlast⟩ := ih (fun i hi => h i (by omega)) (fuel + 1)
    obtain ⟨value, hvalue⟩ := run_of_goesOn (h n (by omega)) fuel last
    exact ⟨some value, by rw [← hvalue, ← hlast, show fuel + 1 + n = fuel + (n + 1) by omega]⟩

/-- A wait that does not go on behind an answer ends there. -/
theorem run_ends {n : Nat} (h : ¬ tape.GoesOn patience.timeout n) (fuel : Nat) (last : Option α) :
    (Poll.run tape.question (patience.expiredBy tape.clock (tape.readings 0)) (Act.pause length)
        (fuel + 1) n last).perform (ahead length now n)
      = ((tape.result n).map some, tape.closed n (ahead length now n)) := by
  have hworld : (asked (ahead length now n)).world.readings = n + 1 := by simp [asked]
  simp only [Poll.run, Act.perform_bind, question_perform, world_ahead, result, closed]
  rcases hanswer : tape.answers n with error | ⟨value, done⟩
  · rfl
  · cases done with
    | true => rfl
    | false =>
      have hlate : tape.IsLate patience.timeout n := by
        by_contra hlate
        exact h ⟨value, hanswer, hlate⟩
      rw [IsLate] at hlate
      simp only [Act.mapError_failed_ok, Bool.false_eq_true, if_false, Patience.expiredBy,
        Act.perform_bind, clock_perform, hworld, Act.perform_pure, hlate, if_true]
      rfl

/-! ### Waits -/

/-- How a wait comes out that ends at an answer: with that answer, which is the last of its
questions, and with a pause between any two of them.  Records are all that is left to be made. -/
structure ComesOut (tape : Tape τ α) (length : τ) (n : Nat)
    (came : Except Halt (Polled α) × Session τ Place Take) : Prop where
  result : came.1 = tape.result n
  events : ∃ records : List Logging.Entry,
    came.2.events.toList = rounds length n ++ tape.lastRound n ++ records.map .log
  asked : came.2.world.answers = n + 1
  pauses : came.2.pauses = List.replicate n length

omit [Clock τ] in
theorem ComesOut.of_events {n : Nat} {r : Except Halt (Polled α)} {t : Session τ Place Take}
    (hresult : r = tape.result n)
    (records : List Logging.Entry)
    (hevents : t.events.toList = rounds length n ++ tape.lastRound n ++ records.map .log)
    (hasked : t.world.answers = n + 1) : tape.ComesOut length n (r, t) where
  result := hresult
  events := ⟨records, hevents⟩
  asked := hasked
  pauses := by
    rw [Session.pauses, hevents, Event.pauses_append, Event.pauses_append, pauses_rounds,
      pauses_lastRound, pauses_records, List.append_nil, List.append_nil]

/-- **A wait comes out as the first answer behind which it does not go on.** -/
theorem waitInLoop_comesOut (what : String)
    (hlength : Clock.pause? patience.interval = some length)
    (hseconds : patience.timeout.tenths?.isSome = true) {n : Nat} (hn : n < patience.limit)
    (h : tape.EndsAt patience.timeout n) :
    tape.ComesOut length n
      ((waitInLoop patience what tape.clock Act.pause tape.question).perform
        { now, world := {} }) := by
  obtain ⟨fuel, hfuel⟩ : ∃ fuel, patience.limit = fuel + 1 + n := ⟨patience.limit - 1 - n, by omega⟩
  obtain ⟨last, hlast⟩ := run_ahead length now h.goesOn (fuel + 1)
  have hrun := hlast.trans (run_ends h.ends fuel last)
  rw [waitInLoop, Poll.waitWith_perform what (begin_perform length) hlength, hfuel, hrun]
  cases hresult : tape.result n with
  | error halt =>
    exact .of_events hresult.symm [] (by simp) (by simp)
  | ok polled =>
    obtain ⟨entry, hentry⟩ := Poll.report_of_tenths what polled (tape.closed n (ahead length now n))
      hseconds
    change ComesOut tape length n (Poll.report patience what polled _)
    rw [hentry]
    exact .of_events hresult.symm [entry] (by simp) (by simp)

/-- A wait that goes on behind every answer it may get is cut off. -/
theorem waitInLoop_cutOff (what : String) (hlength : Clock.pause? patience.interval = some length)
    (h : ∀ n < patience.limit, tape.GoesOn patience.timeout n) :
    (waitInLoop patience what tape.clock Act.pause tape.question).perform { now, world := {} }
      = (.error .cutOff, ahead length now patience.limit) := by
  obtain ⟨last, hlast⟩ := run_ahead length now h 0
  rw [Nat.zero_add] at hlast
  rw [waitInLoop, Poll.waitWith_perform what (begin_perform length) hlength, hlast]
  rfl

end

/-! ### Waits by a clock of doubles -/

section

variable {tape : Tape Float α} {timeout : Seconds}

/-- Whether the clock of a tape never goes backwards: it starts at a time, and from one reading to
the next it stays where it is or moves on. -/
structure GoesForward (tape : Tape Float α) : Prop where
  started : (tape.readings 0).isFinite = true
  le_next : ∀ n, tape.readings n ≤ tape.readings (n + 1)

/-- By such a clock a timeout of zero or less is over at once. -/
theorem GoesForward.isLate (h : tape.GoesForward) (htimeout : timeout.isZeroOrLess = true) :
    tape.IsLate timeout 0 :=
  Seconds.isAtMost_of_isZeroOrLess htimeout (Double.zero_le_sub h.started (h.le_next 0))

theorem GoesForward.endsAt (h : tape.GoesForward) (htimeout : timeout.isZeroOrLess = true) :
    tape.EndsAt timeout 0 where
  goesOn _ hi := absurd hi (Nat.not_lt_zero _)
  ends := fun ⟨_, _, hlate⟩ => hlate (h.isLate htimeout)

/-- A question that is answered well the second time, a second later. -/
def secondTime : Tape Float Nat where
  answers n := .ok ⟨n, n != 0⟩
  readings n := if n = 0 then 0.0 else 1.0

theorem secondTime_goesForward : secondTime.GoesForward where
  started := rfl
  le_next n := by
    unfold secondTime
    dsimp only
    rw [if_neg (Nat.succ_ne_zero n)]
    split <;> decide

end

end Tape

end ComputeNodes
