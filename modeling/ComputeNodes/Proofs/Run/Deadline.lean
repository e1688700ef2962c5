/-
How long waits take on a clock that loses nothing.

A clock of doubles may stand still when a small pause is added to a large reading, so what is said
here is said of a clock of fractions.  On it, a wait whose questions take no time back has moved the
clock on by as many pauses as it has made, and that is the measure by which it ends: before its
turn `n` at least `n` pauses have passed (`Turn.now_after`), and a turn behind the deadline is the
last one (`Turn.exists_endsAt_le`).

A `Course` is a list of answers that take their time.  A wait on it notes when it asks, so that the
session shows how often it asked and how late (`Course.retryUntil_inTime`).

Whatever else a question may add to a session, a wait adds at most as often as it asks.
`Act.Within` says so of any computation, with a rule for every way in which computations are put
together.
-/
import ComputeNodes.Number.Binary
import ComputeNodes.Proofs.Run.Poll
import Mathlib.Data.Rat.Floor
import Mathlib.Tactic.Linarith

namespace ComputeNodes

/-! ### A clock of fractions -/

/-- How long a length of time is exactly, if it is finite. -/
def Seconds.exact? : Seconds → Option ℚ
  | .whole n => some n
  | .double x =>
    match Binary.ofFloat x with
    | .finite negative mantissa exponent =>
      let (top, bottom) := Binary.ratio mantissa exponent
      some (Binary.signed negative top / bottom)
    | _ => none

/-- A clock that counts seconds in fractions.  It cannot pause for a time that is not finite, and
reaches none but minus infinity. -/
instance : Clock ℚ where
  pause? length := length.exact?.map (max 0)
  advance now length := now + length
  elapsed start now := now - start
  hasReached elapsed length :=
    match length.exact? with
    | some exact => exact ≤ elapsed
    | none => length.isZeroOrLess

namespace Poll.Turn

variable {σ ε α : Type} {probe : Option α → Act ℚ σ ε (Probe α)} {patience : Patience}
  {length start timeout : ℚ} {turn : Turn ℚ σ ε α}

/-! ### Turns -/

/-- Before its turn `n` a wait has made `n` pauses. -/
theorem now_after (turn : Turn ℚ σ ε α) (length : ℚ)
    (hforward : ∀ last s, s.now ≤ ((probe last).perform s).2.now) (n : Nat) :
    turn.session.now + n * length ≤ (turn.after probe length n).session.now := by
  induction n with
  | zero => simp
  | succ n ih =>
    rw [after_succ]
    have hask : (turn.after probe length n).session.now
        ≤ ((turn.after probe length n).ask probe).2.now := hforward _ _
    change _ ≤ ((turn.after probe length n).ask probe).2.now + length
    push_cast
    linarith

/-- Where questions take no time, that is all the time that has passed. -/
theorem now_after_still (turn : Turn ℚ σ ε α) (length : ℚ)
    (hstill : ∀ last s, ((probe last).perform s).2.now = s.now) (n : Nat) :
    (turn.after probe length n).session.now = turn.session.now + n * length := by
  induction n with
  | zero => simp
  | succ n ih =>
    rw [after_succ]
    have hask : ((turn.after probe length n).ask probe).2.now
        = (turn.after probe length n).session.now := hstill _ _
    change ((turn.after probe length n).ask probe).2.now + length = _
    rw [hask, ih]
    push_cast
    ring

theorem isLate_iff (htimeout : patience.timeout.exact? = some timeout) :
    turn.IsLate probe patience start ↔ timeout ≤ (turn.ask probe).2.now - start := by
  unfold IsLate
  change (match patience.timeout.exact? with
    | some exact => decide (exact ≤ (turn.ask probe).2.now - start)
    | none => patience.timeout.isZeroOrLess) = true ↔ _
  rw [htimeout]
  exact decide_eq_true_iff

theorem lt_of_not_ends (htimeout : patience.timeout.exact? = some timeout)
    (h : ¬ turn.Ends probe patience start) : (turn.ask probe).2.now < start + timeout := by
  obtain ⟨seen, -, -, hlate⟩ := not_ends_iff.mp h
  rw [isLate_iff htimeout] at hlate
  linarith

theorem ends_of_isLate (h : turn.IsLate probe patience start) :
    turn.Ends probe patience start := by
  unfold Ends
  split
  · trivial
  · exact .inr h

/-- **A wait ends** once as many pauses have passed as fit into its timeout. -/
theorem exists_endsAt_le (turn : Turn ℚ σ ε α)
    (htimeout : patience.timeout.exact? = some timeout) (hlength : 0 < length)
    (hforward : ∀ last s, s.now ≤ ((probe last).perform s).2.now) :
    ∃ n ≤ ⌈timeout / length⌉₊, turn.EndsAt probe length patience turn.session.now n := by
  refine exists_endsAt (ends_of_isLate ((isLate_iff htimeout).mpr ?_))
  have hpauses : timeout ≤ ⌈timeout / length⌉₊ * length :=
    (div_le_iff₀ hlength).mp (Nat.le_ceil _)
  have hpassed := now_after turn length hforward ⌈timeout / length⌉₊
  have hask : (turn.after probe length ⌈timeout / length⌉₊).session.now
      ≤ ((turn.after probe length ⌈timeout / length⌉₊).ask probe).2.now := hforward _ _
  linarith

/-- Every question but the first one is asked less than a pause behind the deadline. -/
theorem now_lt (htimeout : patience.timeout.exact? = some timeout) {n k : Nat}
    (h : turn.EndsAt probe length patience start n) (hk : k < n) :
    (turn.after probe length (k + 1)).session.now < start + timeout + length := by
  rw [after_succ]
  have hlate := lt_of_not_ends htimeout (h.goesOn k hk)
  change ((turn.after probe length k).ask probe).2.now + length < _
  linarith

end Poll.Turn

/-! ### The end of a wait -/

namespace Poll.Turn

variable {τ σ ε α : Type}

/-- How a wait comes out with the question of a turn, which is its last one after `made` others: it
halts as the question does, or says how often it asked, or cannot write its timeout. -/
inductive Closes (probe : Option α → Act τ σ ε (Probe α)) (made : Nat) (turn : Turn τ σ ε α) :
    Except Halt (Polled α) → Session τ σ ε → Prop
  | halted {halt : Halt} (asked : (turn.ask probe).1 = .error halt) :
    Closes probe made turn (.error halt) (turn.ask probe).2
  | logged {seen : Probe α} (asked : (turn.ask probe).1 = .ok seen) (entry : Logging.Entry) :
    Closes probe made turn (.ok ⟨seen.done, seen.value, made + 1⟩)
      ((turn.ask probe).2.add (.log entry))
  | unwritten {seen : Probe α} (asked : (turn.ask probe).1 = .ok seen) :
    Closes probe made turn (.error (.failed .tooLargeForDouble)) (turn.ask probe).2

variable {probe : Option α → Act τ σ ε (Probe α)} {made : Nat} {turn : Turn τ σ ε α}
  {r : Except Halt (Polled α)} {t : Session τ σ ε}

namespace Closes

theorem adds (h : turn.Closes probe made r t) :
    ∃ added, t.events.toList = (turn.ask probe).2.events.toList ++ added ∧
      Event.calls added = [] := by
  cases h with
  | halted asked => exact ⟨[], by simp, rfl⟩
  | logged asked entry => exact ⟨_, Session.events_add _ _, rfl⟩
  | unwritten asked => exact ⟨[], by simp, rfl⟩

theorem now_eq (h : turn.Closes probe made r t) : t.now = (turn.ask probe).2.now := by
  cases h <;> rfl

theorem ne_cutOff (h : turn.Closes probe made r t) (hask : (turn.ask probe).1 ≠ .error .cutOff) :
    r ≠ .error .cutOff := by
  rintro rfl
  cases h with
  | halted asked => exact hask asked

theorem attempts_eq {polled : Polled α} (h : turn.Closes probe made (.ok polled) t) :
    polled.attempts = made + 1 := by
  cases h
  rfl

theorem of_report {seen : Probe α} (h : turn.ask probe = (.ok seen, t)) (patience : Patience)
    (what : String) (made : Nat) :
    turn.Closes probe made (report patience what ⟨seen.done, seen.value, made + 1⟩ t).1
      (report patience what ⟨seen.done, seen.value, made + 1⟩ t).2 := by
  have hasked : (turn.ask probe).1 = .ok seen := by rw [h]
  obtain rfl : t = (turn.ask probe).2 := by rw [h]
  unfold report
  split
  · exact .logged hasked _
  · split
    · exact .logged hasked _
    · exact .unwritten hasked

end Closes

theorem EndsAt.closes [Clock τ] {patience : Patience} {length : τ} {s : Session τ σ ε} {n : Nat}
    (h : EndsAt probe length patience s.now ⟨none, s⟩ n) (what : String)
    (hlength : Clock.pause? patience.interval = some length) (hn : n < patience.limit) :
    (Turn.after probe length ⟨none, s⟩ n).Closes probe n
      ((retryUntil patience what probe).perform s).1
      ((retryUntil patience what probe).perform s).2 := by
  rw [retryUntil_ends what hlength h hn]
  rcases hask : (Turn.after probe length ⟨none, s⟩ n).ask probe with ⟨halt | seen, t⟩
  · have hhalted : Closes probe n _ _ _ := .halted (congrArg Prod.fst hask)
    rwa [hask] at hhalted
  · exact .of_report hask patience what n

end Poll.Turn

/-! ### Computations that end in time -/

namespace Act

variable {σ ε α β : Type}

/-- Whether a computation takes no time back, makes at most `n` of the calls that count, and is not
cut off. -/
def Within (act : Act ℚ σ ε α) (counts : ε → Bool) (n : Nat) : Prop :=
  ∀ s, act.Goes s fun added r t =>
    s.now ≤ t.now ∧ (Event.calls added).countP counts ≤ n ∧ r ≠ .error .cutOff

namespace Within

variable {counts : ε → Bool} {n m : Nat} {x : Act ℚ σ ε α} {f : α → Act ℚ σ ε β}

theorem mono (h : x.Within counts n) (hle : n ≤ m) : x.Within counts m :=
  fun s => (h s).mono fun _ _ _ ⟨hnow, hcount, hcut⟩ => ⟨hnow, hcount.trans hle, hcut⟩

theorem now_le (h : x.Within counts n) (s : Session ℚ σ ε) : s.now ≤ (x.perform s).2.now := by
  obtain ⟨added, -, hnow, -, -⟩ := h s
  exact hnow

theorem pure (a : α) : (Pure.pure a : Act ℚ σ ε α).Within counts 0 :=
  fun _ => Goes.pure ⟨le_rfl, by simp, nofun⟩

theorem fail (error : Error) : (Act.fail error : Act ℚ σ ε α).Within counts 0 :=
  fun _ => Goes.fail ⟨le_rfl, by simp, nofun⟩

theorem ofExcept (r : Except Error α) : (Act.ofExcept r : Act ℚ σ ε α).Within counts 0 := by
  cases r with
  | error error => exact fail error
  | ok a => exact pure a

theorem log (level : Logging.Level) (source : Logging.Source) (text : String) :
    (Act.log level source text : Act ℚ σ ε Unit).Within counts 0 :=
  fun s => Goes.of_perform _ (perform_log _ _ _ s) (Session.events_add _ _) ⟨le_rfl, by simp, nofun⟩

/-- **What is put together makes the calls of its parts.** -/
theorem bind (hx : x.Within counts n) (hf : ∀ a, (f a).Within counts m) :
    (x >>= f).Within counts (n + m) := by
  intro s
  refine (hx s).bind ?_ ?_
  · intro added a t ⟨hnow, hcount, _⟩
    refine (hf a t).mono fun more r u ⟨hnow', hcount', hcut⟩ => ⟨hnow.trans hnow', ?_, hcut⟩
    rw [Event.calls_append, List.countP_append]
    exact Nat.add_le_add hcount hcount'
  · intro added halt t ⟨hnow, hcount, hcut⟩
    refine ⟨hnow, hcount.trans (Nat.le_add_right _ _), fun h => hcut ?_⟩
    cases h
    rfl

theorem silent_bind (hx : x.Within counts 0) (hf : ∀ a, (f a).Within counts n) :
    (x >>= f).Within counts n := by
  simpa only [Nat.zero_add] using hx.bind hf

theorem bind_silent (hx : x.Within counts n) (hf : ∀ a, (f a).Within counts 0) :
    (x >>= f).Within counts n :=
  hx.bind hf

theorem world : (Act.world : Act ℚ σ ε σ).Within counts 0 :=
  fun s => Goes.of_perform [] (perform_world s) (by simp) ⟨le_rfl, by simp, nofun⟩

theorem setWorld (world : σ) : (Act.setWorld world : Act ℚ σ ε Unit).Within counts 0 :=
  fun s => Goes.of_perform [] (perform_setWorld world s) (by simp) ⟨le_rfl, by simp, nofun⟩

end Within

end Act

/-- What bounds a wait: a timeout and an interval that are finite, the latter positive, and a limit
of more questions than pauses fit into the timeout. -/
structure Patience.Bounds (patience : Patience) (timeout interval : ℚ) : Prop where
  exact_timeout : patience.timeout.exact? = some timeout
  exact_interval : patience.interval.exact? = some interval
  positive : 0 < interval
  ceil_lt : ⌈timeout / interval⌉₊ < patience.limit

namespace Patience.Bounds

variable {σ ε α : Type} {patience : Patience} {timeout interval : ℚ}
  {probe : Option α → Act ℚ σ ε (Probe α)} {counts : ε → Bool} {n : Nat}

theorem pause? (h : patience.Bounds timeout interval) :
    Clock.pause? patience.interval = some interval := by
  change patience.interval.exact?.map (max 0) = _
  rw [h.exact_interval, Option.map_some, max_eq_right h.positive.le]

/-- **A wait ends** with one of its first questions. -/
theorem retryUntil_closes (h : patience.Bounds timeout interval) (what : String)
    (hforward : ∀ last s, s.now ≤ ((probe last).perform s).2.now) (s : Session ℚ σ ε) :
    ∃ n ≤ ⌈timeout / interval⌉₊,
      Poll.Turn.EndsAt probe interval patience s.now ⟨none, s⟩ n ∧
      (Poll.Turn.after probe interval ⟨none, s⟩ n).Closes probe n
        ((retryUntil patience what probe).perform s).1
        ((retryUntil patience what probe).perform s).2 := by
  obtain ⟨n, hn, hends⟩ := Poll.Turn.exists_endsAt_le ⟨none, s⟩ h.exact_timeout
    h.positive hforward
  exact ⟨n, hn, hends, hends.closes what h.pause? (hn.trans_lt h.ceil_lt)⟩

/-- Before its turn `k` a wait has asked `k` times. -/
theorem after_adds (interval : ℚ) (hprobe : ∀ last, (probe last).Within counts n)
    (s : Session ℚ σ ε) (k : Nat) :
    ∃ added, (Poll.Turn.after probe interval ⟨none, s⟩ k).session.events.toList
        = s.events.toList ++ added ∧ (Event.calls added).countP counts ≤ k * n := by
  induction k with
  | zero => exact ⟨[], by simp, by simp⟩
  | succ k ih =>
    obtain ⟨added, hadded, hcount⟩ := ih
    obtain ⟨more, hmore, -, hcount', -⟩ := hprobe
      (Poll.Turn.after probe interval ⟨none, s⟩ k).last
      (Poll.Turn.after probe interval ⟨none, s⟩ k).session
    refine ⟨added ++ more ++ [.pause interval], ?_, ?_⟩
    · rw [Poll.Turn.after_succ]
      change (Session.paused (Act.perform _ _).2 interval).events.toList = _
      rw [Session.events_paused, hmore, hadded]
      simp
    · simp only [Event.calls_append, Event.calls_pause, List.append_nil, List.countP_append]
      rw [Nat.succ_mul]
      exact Nat.add_le_add hcount hcount'

/-- **A wait ends in time**, and makes the calls of its questions once more than pauses fit into its
timeout. -/
theorem retryUntil_within (h : patience.Bounds timeout interval) (what : String)
    (hprobe : ∀ last, (probe last).Within counts n) :
    (retryUntil patience what probe).Within counts ((⌈timeout / interval⌉₊ + 1) * n) := by
  intro s
  have hforward (last : Option α) := (hprobe last).now_le
  obtain ⟨k, hk, -, hcloses⟩ := h.retryUntil_closes what hforward s
  obtain ⟨added, hadded, hcount⟩ := after_adds interval hprobe s k
  obtain ⟨more, hmore, hnow, hcount', hcut⟩ := hprobe
    (Poll.Turn.after probe interval ⟨none, s⟩ k).last
    (Poll.Turn.after probe interval ⟨none, s⟩ k).session
  obtain ⟨rest, hrest, hsilent⟩ := hcloses.adds
  have hpassed := Poll.Turn.now_after ⟨none, s⟩ interval hforward k
  have hpauses : 0 ≤ k * interval := mul_nonneg k.cast_nonneg h.positive.le
  refine ⟨added ++ more ++ rest, ?_, ?_, ?_, ?_⟩
  · rw [hrest]
    change (Act.perform _ _).2.events.toList ++ rest = _
    rw [hmore, hadded]
    simp
  · rw [hcloses.now_eq]
    change s.now + k * interval ≤ _ at hpassed
    change s.now ≤ (Act.perform _ _).2.now
    linarith
  · rw [Event.calls_append, Event.calls_append, hsilent, List.append_nil, List.countP_append]
    refine (Nat.add_le_add hcount hcount').trans ?_
    rw [← Nat.succ_mul]
    exact Nat.mul_le_mul_right n (Nat.succ_le_succ hk)
  · exact hcloses.ne_cutOff hcut

end Patience.Bounds

/-! ### Questions that take their time -/

/-- The answers that a wait gets, and how long each of them takes. -/
structure Course (α : Type) where
  answers : Nat → Except Error (Probe α)
  takes : Nat → ℚ

namespace Course

variable {α : Type} {course : Course α} {patience : Patience} {timeout interval start : ℚ}

/-- The next answer, whatever the one before.  It is noted when it is asked for. -/
def question (course : Course α) (_ : Option α) : Act ℚ Nat ℚ (Probe α) := do
  Act.note (.call (← Act.now))
  let place ← Act.world
  Act.setWorld (place + 1)
  Act.takeTime (course.takes place)
  Act.ofExcept (course.answers place)

theorem question_perform (course : Course α) (last : Option α) (s : Session ℚ Nat ℚ) :
    (course.question last).perform s
      = ((course.answers s.world).mapError .failed,
        { s.add (.call s.now) with
          now := s.now + course.takes s.world
          world := s.world + 1 }) := by
  simp only [question, Act.perform_bind, Act.perform_now, Act.perform_note, Act.perform_world,
    Act.perform_setWorld, Act.perform_takeTime, Act.perform_ofExcept]
  rfl

/-- A wait on a course right before its question `n`. -/
def turn (course : Course α) (interval start : ℚ) (n : Nat) : Poll.Turn ℚ Nat ℚ α :=
  Poll.Turn.after course.question interval ⟨none, { now := start, world := 0 }⟩ n

theorem ask_turn (n : Nat) : (course.turn interval start n).ask course.question
    = (course.question (course.turn interval start n).last).perform
        (course.turn interval start n).session := rfl

theorem turn_succ (n : Nat) :
    (course.turn interval start (n + 1)).session
      = ((course.turn interval start n).ask course.question).2.paused interval := by
  rw [turn, Poll.Turn.after_succ]
  rfl

theorem world_turn (n : Nat) : (course.turn interval start n).session.world = n := by
  induction n with
  | zero => rfl
  | succ n ih => rw [turn_succ, ask_turn, question_perform, Session.world_paused, ih]

/-- When a question was asked is what the clock read right before it. -/
theorem calls_turn (n : Nat) : (course.turn interval start n).session.calls
    = (List.range n).map fun k => (course.turn interval start k).session.now := by
  induction n with
  | zero => rfl
  | succ n ih =>
    rw [turn_succ, ask_turn, question_perform, Session.calls_paused, List.range_succ,
      List.map_append, ← ih]
    exact Session.calls_add _ _

/-- A wait that ends with question `n` asked that one and those before it. -/
theorem calls_of_closes {n : Nat} {r : Except Halt (Polled α)} {t : Session ℚ Nat ℚ}
    (h : (course.turn interval start n).Closes course.question n r t) :
    t.calls = (List.range (n + 1)).map fun k => (course.turn interval start k).session.now := by
  obtain ⟨added, hadded, hsilent⟩ := h.adds
  rw [Session.calls_of_events hadded, hsilent, List.append_nil, ← calls_turn, turn_succ,
    Session.calls_paused]

/-- Where no answer is good and none takes any time, no question but the last one ends a wait. -/
theorem ceil_le_of_endsAt (htimeout : patience.timeout.exact? = some timeout)
    (hinterval : 0 < interval) (hanswers : ∀ n, ∃ value, course.answers n = .ok ⟨value, false⟩)
    (htakes : ∀ n, course.takes n = 0) {n : Nat}
    (h : Poll.Turn.EndsAt course.question interval patience start
      ⟨none, { now := start, world := 0 }⟩ n) : ⌈timeout / interval⌉₊ ≤ n := by
  have hstill : ∀ last (s : Session ℚ Nat ℚ),
      ((course.question last).perform s).2.now = s.now := by
    intro last s
    rw [question_perform]
    exact (congrArg (s.now + ·) (htakes _)).trans (add_zero _)
  have hnow : ((course.turn interval start n).ask course.question).2.now
      = start + n * interval := by
    rw [ask_turn, hstill]
    exact Poll.Turn.now_after_still _ interval hstill n
  obtain ⟨value, hvalue⟩ := hanswers n
  have hasked : ((course.turn interval start n).ask course.question).1 = .ok ⟨value, false⟩ := by
    rw [ask_turn, question_perform, world_turn, hvalue]
    rfl
  have hlate : (course.turn interval start n).IsLate course.question patience start := by
    rcases (Poll.Turn.ends_iff_of_ok hasked).mp h.ends with hdone | hlate
    · cases hdone
    · exact hlate
  rw [Poll.Turn.isLate_iff htimeout, hnow, add_sub_cancel_left] at hlate
  exact Nat.ceil_le.mpr ((div_le_iff₀ hinterval).mpr hlate)

/-- How a wait on a course comes out in time. -/
structure InTime (course : Course α) (timeout interval start : ℚ)
    (came : Except Halt (Polled α) × Session ℚ Nat ℚ) : Prop where
  ends : came.1 ≠ .error .cutOff
  attempts : ∀ polled, came.1 = .ok polled → polled.attempts = came.2.calls.length
  length_le : (came.2.calls.length : ℤ) ≤ max 1 (⌈timeout / interval⌉ + 1)
  /-- Every question but the first one is asked less than a pause behind the deadline. -/
  tail_lt : ∀ asked ∈ came.2.calls.tail, asked < start + timeout + interval
  /-- A wait that gets no good answer, and every answer at once, asks as often as it may. -/
  length_eq : (∀ n, ∃ value, course.answers n = .ok ⟨value, false⟩) → (∀ n, course.takes n = 0) →
    0 < timeout → (came.2.calls.length : ℤ) = ⌈timeout / interval⌉ + 1

/-- **A wait comes out in time**, whatever it is answered and however long that takes. -/
theorem retryUntil_inTime (h : patience.Bounds timeout interval) (course : Course α)
    (hforward : ∀ n, 0 ≤ course.takes n) (what : String) (start : ℚ) :
    course.InTime timeout interval start
      ((retryUntil patience what course.question).perform { now := start, world := 0 }) := by
  have hquestion : ∀ last (s : Session ℚ Nat ℚ),
      s.now ≤ ((course.question last).perform s).2.now := by
    intro last s
    rw [question_perform]
    exact le_add_of_nonneg_right (hforward _)
  obtain ⟨n, hn, hends, hcloses⟩ := h.retryUntil_closes what hquestion { now := start, world := 0 }
  change (course.turn interval start n).Closes _ _ _ _ at hcloses
  have hcalls := calls_of_closes hcloses
  have hlength := congrArg List.length hcalls
  rw [List.length_map, List.length_range] at hlength
  refine ⟨hcloses.ne_cutOff ?_, fun polled hpolled => ?_, ?_, ?_, fun hanswers htakes hpos => ?_⟩
  · rw [ask_turn, question_perform]
    cases course.answers _ <;> exact nofun
  · rw [hpolled] at hcloses
    rw [hlength, hcloses.attempts_eq]
  · rw [hlength]
    rw [← Int.ceil_toNat] at hn
    omega
  · rw [hcalls, List.range_succ_eq_map]
    simp only [List.map_cons, List.tail_cons, List.map_map, List.mem_map, List.mem_range]
    rintro _ ⟨k, hk, rfl⟩
    exact Poll.Turn.now_lt h.exact_timeout hends hk
  · have hreached := ceil_le_of_endsAt h.exact_timeout h.positive hanswers htakes hends
    rw [hlength, ← Int.natCast_ceil_eq_ceil (div_pos hpos h.positive).le, le_antisymm hn hreached]
    push_cast
    rfl

end Course

end ComputeNodes
