/-
Waits for operations on tapes.

The outside world of a wait is written down as a tape of re-readings, each with the time it takes.
Views, readings of the clock and the end of the wait are functions of the tape alone, and
`Watch.Standing` ties them to the turns of the wait that is run on it: right before a turn as many
re-readings have been used up, and the kept view and the clock are the tape's.  It is the invariant
of all that follows.
-/
import ComputeNodes.Proofs.Provider.Await

namespace ComputeNodes

/-- A re-reading of an operation: how long it takes, and its answer. -/
structure Reread (τ : Type) where
  takes : τ
  answer : Except Error (Option Operation)

namespace Reread

variable {τ : Type}

/-- Whether a re-reading raises an error. -/
def Raises (r : Reread τ) : Prop := ∃ error, r.answer = .error error

/-- Whether a re-reading finds a done operation. -/
def FindsDone (r : Reread τ) : Prop := ∃ fresh, r.answer = .ok (some fresh) ∧ fresh.isDone = true

/-- What a re-reading finds. -/
def found? (r : Reread τ) : Option Operation :=
  match r.answer with
  | .ok answer => answer
  | .error _ => none

theorem found?_of_answer {r : Reread τ} {answer : Option Operation} (h : r.answer = .ok answer) :
    r.found? = answer := by
  rw [found?, h]

theorem not_raises {r : Reread τ} {answer : Option Operation} (h : r.answer = .ok answer) :
    ¬ r.Raises := fun ⟨error, herror⟩ => by
  rw [h] at herror
  cases herror

end Reread

/-- A lookup in a project whose re-readings are those of a tape, in order.  The outside world is how
many of them have been used up. -/
def Lookup.onTape {τ : Type} [Clock τ] (project : Value) (tape : Nat → Reread τ) :
    Lookup τ Nat (Value × Value × Value) where
  project := pure project
  find project zone name := do
    Act.note (.call (project, zone, name))
    let used ← Act.world
    Act.setWorld (used + 1)
    Act.takeTime (tape used).takes
    Act.ofExcept (tape used).answer

/-- A wait for an operation, with a tape of all its re-readings. -/
structure Watch (τ : Type) where
  project : Value
  operation : Operation
  tape : Nat → Reread τ
  timeout : Seconds
  interval : Seconds
  start : τ

namespace Watch

/-! ### Views -/

section

variable {τ : Type}

/-- The view that is kept after so many re-readings. -/
def view (w : Watch τ) : Nat → Operation
  | 0 => w.operation
  | n + 1 => (w.view n).keep (w.tape n).found?

variable {w : Watch τ} {n : Nat}

/-- As long as nothing is found, what was submitted is kept. -/
theorem view_of_absent (h : ∀ i < n, (w.tape i).answer = .ok none) : w.view n = w.operation := by
  induction n with
  | zero => rfl
  | succ n ih =>
    rw [view, Reread.found?_of_answer (h n (Nat.lt_succ_self n)), Operation.keep_none]
    exact ih fun i hi => h i (Nat.lt_succ_of_lt hi)

/-- Nothing that was kept is lost that is done. -/
theorem isDone_view (h : w.operation.isDone = true) (n : Nat) : (w.view n).isDone = true := by
  induction n with
  | zero => exact h
  | succ n ih => exact Operation.isDone_keep_of_isDone ih _

/-- A done view that no look took for good was submitted, and nothing was found since. -/
theorem absent_of_isDone_view
    (h : ∀ i < n, ∃ answer, (w.tape i).answer = .ok answer ∧ ((w.view i).seen answer).done = false)
    (hdone : (w.view n).isDone = true) :
    w.operation.isDone = true ∧ ∀ i < n, (w.tape i).answer = .ok none := by
  induction n with
  | zero => exact ⟨hdone, by simp⟩
  | succ n ih =>
    obtain ⟨answer, hanswer, hseen⟩ := h n (Nat.lt_succ_self n)
    rw [view, Reread.found?_of_answer hanswer] at hdone
    cases answer with
    | some fresh =>
      rw [Operation.keep_isDone, ← Operation.seen_done_some, hseen] at hdone
      cases hdone
    | none =>
      obtain ⟨hsubmitted, habsent⟩ := ih (fun i hi => h i (Nat.lt_succ_of_lt hi)) hdone
      refine ⟨hsubmitted, fun i hi => ?_⟩
      rcases Nat.lt_succ_iff_lt_or_eq.mp hi with hlt | rfl
      · exact habsent i hlt
      · exact hanswer

end

variable {τ : Type} [Clock τ]

section

variable (w : Watch τ)

/-! ### The wait and its tape -/

def lookup : Lookup τ Nat (Value × Value × Value) := Lookup.onTape w.project w.tape

def patience (limit : Nat) : Patience := ⟨w.timeout, w.interval, limit⟩

def session : Session τ Nat (Value × Value × Value) := { now := w.start, world := 0 }

/-- How the wait comes out when it may use up so many re-readings, and the session it leaves. -/
def wait (limit : Nat) : Except Halt Operation × Session τ Nat (Value × Value × Value) :=
  (w.lookup.await (w.patience limit) w.operation).perform w.session

/-- What is asked for to read an operation again. -/
def call (o : Operation) : Value × Value × Value := (w.project, o.zone, o.name)

/-- The clock right before a re-reading, for pauses of the given length. -/
def askedAt (length : τ) : Nat → τ
  | 0 => w.start
  | n + 1 => Clock.advance (Clock.advance (askedAt length n) (w.tape n).takes) length

/-- The clock right after a re-reading. -/
def answeredAt (length : τ) (n : Nat) : τ := Clock.advance (w.askedAt length n) (w.tape n).takes

/-- Whether the time is up after a re-reading. -/
def IsLate (length : τ) (n : Nat) : Prop :=
  Clock.hasReached (Clock.elapsed w.start (w.answeredAt length n)) w.timeout = true

/-- Whether a re-reading raises an error, finds the operation done or uses up the time. -/
def Ends (length : τ) (n : Nat) : Prop :=
  (w.tape n).Raises ∨ (w.tape n).FindsDone ∨ w.IsLate length n

/-- Whether a re-reading is the first such one. -/
structure EndsAt (length : τ) (n : Nat) : Prop where
  goesOn : ∀ i < n, ¬ w.Ends length i
  ends : w.Ends length n

/-- What the wait comes to with a re-reading that ends it. -/
def outcome (n : Nat) : Except Error Operation :=
  match (w.tape n).answer with
  | .error error => .error error
  | .ok none => .error (.operationTimeout (w.view (n + 1)) w.timeout)
  | .ok (some fresh) =>
    if fresh.isDone then
      match fresh.httpError with
      | some error => .error (.operationFailed error.statusCode error.message (some fresh))
      | none => .ok fresh
    else .error (.operationTimeout (w.view (n + 1)) w.timeout)

/-- The turns of the wait. -/
def turn (length : τ) (n : Nat) : Poll.Turn τ Nat (Value × Value × Value) Operation :=
  .after (w.lookup.again w.operation) length ⟨none, w.session⟩ n

/-- The question of a turn. -/
def ask (length : τ) (n : Nat) :
    Except Halt (Probe Operation) × Session τ Nat (Value × Value × Value) :=
  (w.turn length n).ask (w.lookup.again w.operation)

/-- Where the wait stands right before a turn. -/
structure Standing (length : τ) (n : Nat) : Prop where
  kept : (w.turn length n).last.getD w.operation = w.view n
  used : (w.turn length n).session.world = n
  now : (w.turn length n).session.now = w.askedAt length n
  calls : (w.turn length n).session.calls.length = n
  pauses : (w.turn length n).session.pauses = List.replicate n length

/-- Whether a re-reading is answered, with a status that can be compared with the kept one. -/
def Reads (n : Nat) : Prop :=
  ∃ answer, (w.tape n).answer = .ok answer ∧
    ∀ fresh, answer = some fresh → fresh.status.IsKnown ∧ (w.view n).status.IsKnown

/-- How the question of a turn comes out, and where it leaves the wait. -/
structure Asked (length : τ) (n : Nat) : Prop where
  used : (w.ask length n).2.world = n + 1
  now : (w.ask length n).2.now = w.answeredAt length n
  calls : (w.ask length n).2.calls.length = n + 1
  pauses : (w.ask length n).2.pauses = List.replicate n length
  raised : ∀ error, (w.tape n).answer = .error error →
    (w.ask length n).1 = .error (.failed error)
  answered : ∀ answer, (w.tape n).answer = .ok answer →
    (w.ask length n).1 = .ok ((w.view n).seen answer) ∨
      ∃ error, (w.ask length n).1 = .error (.failed error) ∧ ∀ o t, error ≠ .operationTimeout o t

end

variable {w : Watch τ} {length : τ} {n limit : Nat}

theorem exists_endsAt (h : w.Ends length n) : ∃ m, w.EndsAt length m := by
  classical
  have hex : ∃ m, w.Ends length m := ⟨n, h⟩
  exact ⟨Nat.find hex, fun _ hi => Nat.find_min hex hi, Nat.find_spec hex⟩

/-! ### Turns and their places on the tape -/

theorem reread_perform (w : Watch τ) (kept : Operation)
    (s : Session τ Nat (Value × Value × Value)) :
    ∃ t, (w.lookup.reread kept).perform s = ((w.tape s.world).answer.mapError .failed, t) ∧
      t.world = s.world + 1 ∧ t.now = Clock.advance s.now (w.tape s.world).takes ∧
      t.events.toList = s.events.toList ++ [.call (w.call kept)] := by
  refine ⟨{ s.add (.call (w.call kept)) with
      world := s.world + 1
      now := Clock.advance s.now (w.tape s.world).takes }, ?_, rfl, rfl, Session.events_add _ _⟩
  simp [Lookup.reread, lookup, Lookup.onTape, call, Act.perform_bind]

theorem Standing.reread (h : w.Standing length n) :
    ∃ t, (w.lookup.reread (w.view n)).perform (w.turn length n).session
        = ((w.tape n).answer.mapError .failed, t) ∧
      t.world = n + 1 ∧ t.now = w.answeredAt length n ∧
      t.calls.length = n + 1 ∧ t.pauses = List.replicate n length := by
  obtain ⟨t, hreread, hused, hnow, hevents⟩ :=
    w.reread_perform (w.view n) (w.turn length n).session
  rw [h.used] at hreread hused hnow
  rw [h.now] at hnow
  have hcalls : t.calls = (w.turn length n).session.calls ++ [w.call (w.view n)] :=
    Session.calls_of_events hevents
  have hpauses : t.pauses = (w.turn length n).session.pauses := by
    rw [Session.pauses, hevents, Event.pauses_append, Event.pauses_call, List.append_nil]
    rfl
  exact ⟨t, hreread, hused, hnow, by rw [hcalls, List.length_append, h.calls]; rfl,
    hpauses.trans h.pauses⟩

theorem Standing.ask_eq (h : w.Standing length n) :
    w.ask length n = (w.lookup.look (w.view n)).perform (w.turn length n).session := by
  rw [← h.kept]; rfl

/-- The question of a turn is answered from its place on the tape. -/
theorem Standing.asked (h : w.Standing length n) : w.Asked length n := by
  obtain ⟨t, hreread, hused, hnow, hcalls, hpauses⟩ := h.reread
  have hsession := Lookup.look_session hreread
  rw [← h.ask_eq] at hsession
  obtain ⟨hworld, hclock, hmade, hslept⟩ := hsession
  refine ⟨hworld.trans hused, hclock.trans hnow, (congrArg List.length hmade).trans hcalls,
    hslept.trans hpauses, fun error herror => ?_, fun answer hanswer => ?_⟩
  · rw [herror] at hreread
    rw [h.ask_eq, Lookup.look_halted hreread]
  · rw [hanswer] at hreread
    rw [h.ask_eq]
    rcases Lookup.look_answered hreread with ⟨entry, hlook⟩ | ⟨error, hlook, hother⟩
    · exact .inl (by rw [hlook])
    · exact .inr ⟨error, by rw [hlook], hother⟩

theorem Asked.answer_of_ok (h : w.Asked length n) {seen : Probe Operation}
    (hseen : (w.ask length n).1 = .ok seen) :
    ∃ answer, (w.tape n).answer = .ok answer ∧ seen = (w.view n).seen answer := by
  cases hanswer : (w.tape n).answer with
  | error error => rw [h.raised error hanswer] at hseen; cases hseen
  | ok answer =>
    rcases h.answered answer hanswer with hok | ⟨error, herror, -⟩
    · rw [hok] at hseen
      cases hseen
      exact ⟨answer, rfl, rfl⟩
    · rw [herror] at hseen; cases hseen

/-- What is read with a status that can be compared is kept by the rule. -/
theorem Standing.ask_of_reads (h : w.Standing length n) {answer : Option Operation}
    (hanswer : (w.tape n).answer = .ok answer) (hreads : w.Reads n) :
    (w.ask length n).1 = .ok ((w.view n).seen answer) := by
  obtain ⟨t, hreread, -⟩ := h.reread
  obtain ⟨found, hfound, hknown⟩ := hreads
  rw [hanswer] at hreread hfound
  cases hfound
  obtain ⟨entry, hlook⟩ := Lookup.look_known hreread hknown
  rw [h.ask_eq, hlook]

theorem standing_zero (w : Watch τ) (length : τ) : w.Standing length 0 :=
  ⟨rfl, rfl, rfl, rfl, rfl⟩

theorem Standing.succ (h : w.Standing length n) {seen : Probe Operation}
    (hseen : (w.ask length n).1 = .ok seen) : w.Standing length (n + 1) := by
  have hasked := h.asked
  have hnext : w.turn length (n + 1) = (w.turn length n).next (w.lookup.again w.operation) length :=
    Poll.Turn.after_succ n
  have hlast : (w.turn length (n + 1)).last = some seen.value := by
    rw [hnext, Poll.Turn.next_last hseen]
  have hsession : (w.turn length (n + 1)).session = (w.ask length n).2.paused length := by
    rw [hnext]; rfl
  refine ⟨?_, ?_, ?_, ?_, ?_⟩
  · obtain ⟨answer, hanswer, rfl⟩ := hasked.answer_of_ok hseen
    rw [hlast, view, Reread.found?_of_answer hanswer]
    rfl
  · rw [hsession, Session.world_paused, hasked.used]
  · rw [hsession, Session.now_paused, hasked.now]; rfl
  · rw [hsession, Session.calls_paused, hasked.calls]
  · rw [hsession, Session.pauses_paused, hasked.pauses, List.replicate_succ']

/-- A wait stands where the tape has it as long as its turns do not end it. -/
theorem standing_of_goesOn
    (h : ∀ i < n,
      ¬ (w.turn length i).Ends (w.lookup.again w.operation) (w.patience limit) w.start) :
    w.Standing length n := by
  induction n with
  | zero => exact w.standing_zero length
  | succ n ih =>
    obtain ⟨seen, hseen, -⟩ := Poll.Turn.not_ends_iff.mp (h n (Nat.lt_succ_self n))
    exact (ih fun i hi => h i (Nat.lt_succ_of_lt hi)).succ hseen

/-- A wait stands where the tape has it as long as everything is read. -/
theorem standing_of_reads (h : ∀ i < n, w.Reads i) : w.Standing length n := by
  induction n with
  | zero => exact w.standing_zero length
  | succ n ih =>
    have hreads := h n (Nat.lt_succ_self n)
    have hstanding := ih fun i hi => h i (Nat.lt_succ_of_lt hi)
    have ⟨answer, hanswer, _⟩ := hreads
    exact hstanding.succ (hstanding.ask_of_reads hanswer hreads)

theorem Asked.isLate_iff (h : w.Asked length n) :
    (w.turn length n).IsLate (w.lookup.again w.operation) (w.patience limit) w.start
      ↔ w.IsLate length n := by
  rw [IsLate, ← h.now]; rfl

theorem exists_first_turn
    (h : (w.turn length n).Ends (w.lookup.again w.operation) (w.patience limit) w.start) :
    ∃ m ≤ n, Poll.Turn.EndsAt (w.lookup.again w.operation) length (w.patience limit) w.start
      (w.turn length 0) m :=
  Poll.Turn.exists_endsAt h

/-- A wait comes out as the first of its turns that ends it. -/
theorem wait_of_turns (w : Watch τ) (hlength : Clock.pause? w.interval = some length)
    (h : Poll.Turn.EndsAt (w.lookup.again w.operation) length (w.patience limit) w.start
      (w.turn length 0) n) (hlimit : n < limit) :
    (w.wait limit).1
        = (w.ask length n).1.bind (fun seen =>
            (Lookup.settle (w.patience limit) seen).mapError .failed) ∧
      (w.wait limit).2.calls = (w.ask length n).2.calls ∧
      (w.wait limit).2.pauses = (w.ask length n).2.pauses := by
  have hask : (Poll.Turn.after (w.lookup.again w.operation) length ⟨none, w.session⟩ n).ask
      (w.lookup.again w.operation) = ((w.ask length n).1, (w.ask length n).2) := rfl
  have hpause : Clock.pause? (w.patience limit).interval = some length := hlength
  exact Lookup.await_ends hpause h hlimit hask

theorem wait_cutOff_of_turns (w : Watch τ) (hlength : Clock.pause? w.interval = some length)
    (h : ∀ i < limit,
      ¬ (w.turn length i).Ends (w.lookup.again w.operation) (w.patience limit) w.start) :
    (w.wait limit).1 = .error .cutOff := by
  have hpause : Clock.pause? (w.patience limit).interval = some length := hlength
  exact Lookup.await_cutOff hpause h

end Watch

end ComputeNodes
