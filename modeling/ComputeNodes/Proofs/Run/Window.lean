/-
How waits come out for something to be there.

Such a wait has a window of time, which opens with its first reading.  Its readings are numbered as
if none closed the window (`Window.reading`), and one is made when all before it found nothing and
were in time (`Window.Makes`).  The first one that is made and is not such a reading closes the
window: it halts, finds the thing, or is late.

`wait_of_makes` gives the outcome for each of them, and `makes_limit_or` says that there is no
other.
-/
import ComputeNodes.Proofs.Run.Poll

namespace ComputeNodes

variable {τ σ ε α β : Type}

/-- A wait for something to be there: how it is read, how long the wait and its pauses are, and the
session in which its time begins. -/
structure Window (τ σ ε α : Type) where
  read : Act τ σ ε (Option α)
  patience : Patience
  length : τ
  opened : Session τ σ ε

namespace Window

variable [Clock τ]

section

variable (w : Window τ σ ε α)

/-- The readings of a wait, and the session that each leaves. -/
def reading : Nat → Except Halt (Option α) × Session τ σ ε
  | 0 => w.read.perform w.opened
  | n + 1 => w.read.perform ((reading n).2.paused w.length)

/-- Whether a reading is over when the time is up. -/
def IsLate (n : Nat) : Prop :=
  Clock.hasReached (Clock.elapsed w.opened.now (w.reading n).2.now) w.patience.timeout = true

/-- Whether the window stays open after a reading. -/
def StaysOpen (n : Nat) : Prop := (w.reading n).1 = .ok none ∧ ¬ w.IsLate n

/-- Whether a reading is made. -/
def Makes (n : Nat) : Prop := ∀ i < n, w.StaysOpen i

/-- The question of the wait. -/
def probe (_ : Option (Option α)) : Act τ σ ε (Probe (Option α)) := do
  let value ← w.read
  return { value, done := value.isSome }

/-- The turns of the wait. -/
def turn (n : Nat) : Poll.Turn τ σ ε (Option α) := .after w.probe w.length ⟨none, w.opened⟩ n

/-- How the wait comes out. -/
def wait (what : String) : Except Halt (Polled (Option α)) × Session τ σ ε :=
  (pollUntilPresent w.patience what w.read).perform w.opened

end

variable {w : Window τ σ ε α} {what : String} {n : Nat}

/-! ### Turns and readings -/

omit [Clock τ] in
theorem probe_perform (w : Window τ σ ε α) (last : Option (Option α)) (s : Session τ σ ε) :
    (w.probe last).perform s
      = ((w.read.perform s).1.map fun value => ⟨value, value.isSome⟩, (w.read.perform s).2) := by
  rw [probe, Act.perform_bind]
  rcases w.read.perform s with ⟨r, t⟩
  cases r <;> rfl

theorem turn_ask (w : Window τ σ ε α) (n : Nat) :
    (w.turn n).ask w.probe
      = ((w.reading n).1.map fun value => ⟨value, value.isSome⟩, (w.reading n).2) := by
  induction n with
  | zero => exact w.probe_perform none w.opened
  | succ n ih =>
    have hsession : (w.turn (n + 1)).session = (w.reading n).2.paused w.length := by
      rw [turn, Poll.Turn.after_succ, Poll.Turn.next]
      change ((w.turn n).ask w.probe).2.paused w.length = _
      rw [ih]
    rw [Poll.Turn.ask, probe_perform, hsession, reading]

theorem not_staysOpen (h : (w.reading n).1 ≠ .ok none) : ¬ w.StaysOpen n := fun hopen =>
  h hopen.1

theorem ends_iff : (w.turn n).Ends w.probe w.patience w.opened.now ↔ ¬ w.StaysOpen n := by
  have hlate : (w.turn n).IsLate w.probe w.patience w.opened.now ↔ w.IsLate n := by
    rw [Poll.Turn.IsLate, turn_ask, IsLate]
  cases hreading : (w.reading n).1 with
  | error halt =>
    have hask : ((w.turn n).ask w.probe).1 = .error halt := by rw [turn_ask, hreading]; rfl
    exact iff_of_true (Poll.Turn.ends_of_error hask) (not_staysOpen (by rw [hreading]; nofun))
  | ok value =>
    have hask : ((w.turn n).ask w.probe).1 = .ok ⟨value, value.isSome⟩ := by
      rw [turn_ask, hreading]; rfl
    rw [Poll.Turn.ends_iff_of_ok hask, hlate, StaysOpen, hreading]
    cases value <;> simp

/-! ### The outcome -/

/-- The reading that closes the window is how the wait comes out. -/
theorem wait_of_makes (what : String)
    (hlength : Clock.pause? w.patience.interval = some w.length) (hmakes : w.Makes n)
    (hcloses : ¬ w.StaysOpen n) (hlimit : n < w.patience.limit) :
    w.wait what = match w.reading n with
      | (.error halt, t) => (.error halt, t)
      | (.ok value, t) => Poll.report w.patience what ⟨value.isSome, value, n + 1⟩ t := by
  have hends : Poll.Turn.EndsAt w.probe w.length w.patience w.opened.now ⟨none, w.opened⟩ n :=
    ⟨fun i hi h => ends_iff.mp h (hmakes i hi), ends_iff.mpr hcloses⟩
  have hask : (Poll.Turn.after w.probe w.length ⟨none, w.opened⟩ n).ask w.probe = _ := w.turn_ask n
  have hwait := Poll.retryUntil_ends what hlength hends hlimit
  rw [hask] at hwait
  rw [wait, pollUntilPresent]
  refine hwait.trans ?_
  rcases w.reading n with ⟨r, t⟩
  cases r <;> rfl

theorem wait_of_error (what : String)
    (hlength : Clock.pause? w.patience.interval = some w.length) (hmakes : w.Makes n)
    (hlimit : n < w.patience.limit) {halt : Halt} {t : Session τ σ ε}
    (hreading : w.reading n = (.error halt, t)) : w.wait what = (.error halt, t) := by
  have hcloses : ¬ w.StaysOpen n := not_staysOpen (by rw [hreading]; nofun)
  rw [wait_of_makes what hlength hmakes hcloses hlimit, hreading]

theorem wait_of_some (what : String)
    (hlength : Clock.pause? w.patience.interval = some w.length) (hmakes : w.Makes n)
    (hlimit : n < w.patience.limit) {value : α} {t : Session τ σ ε}
    (hreading : w.reading n = (.ok (some value), t)) :
    ∃ entry, w.wait what = (.ok ⟨true, some value, n + 1⟩, t.add (.log entry)) := by
  have hcloses : ¬ w.StaysOpen n := not_staysOpen (by rw [hreading]; nofun)
  rw [wait_of_makes what hlength hmakes hcloses hlimit, hreading]
  exact ⟨_, rfl⟩

theorem wait_of_late (what : String)
    (hlength : Clock.pause? w.patience.interval = some w.length)
    (htimeout : w.patience.timeout.tenths?.isSome = true) (hmakes : w.Makes n)
    (hlimit : n < w.patience.limit) {t : Session τ σ ε}
    (hreading : w.reading n = (.ok none, t)) (hlate : w.IsLate n) :
    ∃ entry, w.wait what = (.ok ⟨false, none, n + 1⟩, t.add (.log entry)) := by
  obtain ⟨seconds, hseconds⟩ := Option.isSome_iff_exists.mp htimeout
  rw [wait_of_makes what hlength hmakes (fun hopen => hopen.2 hlate) hlimit, hreading]
  exact ⟨_, by simp [Poll.report, hseconds]; rfl⟩

/-- A window that stays open for all the readings that may be made is cut off. -/
theorem wait_of_makes_limit (what : String)
    (hlength : Clock.pause? w.patience.interval = some w.length)
    (hmakes : w.Makes w.patience.limit) : (w.wait what).1 = .error .cutOff := by
  have hwait := Poll.retryUntil_cutOff (s := w.opened) what hlength fun i hi h =>
    ends_iff.mp h (hmakes i hi)
  exact congrArg Prod.fst hwait

/-- Some reading that is made closes the window, or all that may be made leave it open. -/
theorem makes_limit_or (w : Window τ σ ε α) (limit : Nat) :
    w.Makes limit ∨ ∃ n < limit, w.Makes n ∧ ¬ w.StaysOpen n := by
  classical
  by_cases h : w.Makes limit
  · exact .inl h
  · right
    have hex : ∃ n, n < limit ∧ ¬ w.StaysOpen n := by
      simpa [Makes] using h
    refine ⟨Nat.find hex, (Nat.find_spec hex).1, fun i hi => ?_, (Nat.find_spec hex).2⟩
    by_contra hcloses
    exact Nat.find_min hex hi ⟨Nat.lt_trans hi (Nat.find_spec hex).1, hcloses⟩

/-- What the reading that closes a window makes of it: `found` of what was found, or the error
`late`. -/
def settle (found : α → β) (late : Error) : Except Halt (Option α) → Except Halt β
  | .ok (some value) => .ok (found value)
  | .ok none => .error (.failed late)
  | .error halt => .error halt

/-- Whether an outcome is the one that the readings of a window decide on. -/
structure Decides (w : Window τ σ ε α) (found : α → β) (late : Error) (outcome : Except Halt β) :
    Prop where
  /-- Something is given just when some reading that is made finds it. -/
  gives_iff : (∃ given, outcome = .ok given) ↔
    ∃ n < w.patience.limit, w.Makes n ∧ ∃ value, (w.reading n).1 = .ok (some value)
  /-- It is what that reading finds. -/
  gives : ∀ n < w.patience.limit, w.Makes n → ∀ value, (w.reading n).1 = .ok (some value) →
    outcome = .ok (found value)
  /-- It is late just when no reading finds anything before the time is up, short of a reading that
  raises this very error. -/
  late_iff : outcome = .error (.failed late) ↔ ∃ n < w.patience.limit, w.Makes n ∧
    ((w.reading n).1 = .ok none ∧ w.IsLate n ∨ (w.reading n).1 = .error (.failed late))
  /-- A reading that halts is handed on. -/
  halts : ∀ n < w.patience.limit, w.Makes n → ∀ halt, (w.reading n).1 = .error halt →
    outcome = .error halt
  /-- There is no other outcome as long as readings may be made. -/
  cutOff : w.Makes w.patience.limit → outcome = .error .cutOff

/-- An outcome is decided on when every reading that closes the window settles it. -/
theorem decides_of_settles {found : α → β} {late : Error} {outcome : Except Halt β}
    (hsettles : ∀ n < w.patience.limit, w.Makes n → ¬ w.StaysOpen n →
      outcome = settle found late (w.reading n).1)
    (hcutOff : w.Makes w.patience.limit → outcome = .error .cutOff) :
    w.Decides found late outcome := by
  have hgives : ∀ n < w.patience.limit, w.Makes n → ∀ value, (w.reading n).1 = .ok (some value) →
      outcome = .ok (found value) := by
    intro n hn hmakes value hvalue
    have hcloses : ¬ w.StaysOpen n := not_staysOpen (by rw [hvalue]; nofun)
    rw [hsettles n hn hmakes hcloses, hvalue, settle]
  have hhalts : ∀ n < w.patience.limit, w.Makes n → ∀ halt, (w.reading n).1 = .error halt →
      outcome = .error halt := by
    intro n hn hmakes halt hhalt
    have hcloses : ¬ w.StaysOpen n := not_staysOpen (by rw [hhalt]; nofun)
    rw [hsettles n hn hmakes hcloses, hhalt, settle]
  refine ⟨⟨fun ⟨given, hgiven⟩ => ?_, fun ⟨n, hn, hmakes, value, hvalue⟩ => ?_⟩, hgives,
    ⟨fun hlate => ?_, fun ⟨n, hn, hmakes, hcase⟩ => ?_⟩, hhalts, hcutOff⟩
  · rcases w.makes_limit_or w.patience.limit with hopen | ⟨n, hn, hmakes, hcloses⟩
    · rw [hcutOff hopen] at hgiven
      cases hgiven
    · refine ⟨n, hn, hmakes, ?_⟩
      rw [hsettles n hn hmakes hcloses] at hgiven
      match hreading : (w.reading n).1 with
      | .ok (some value) => exact ⟨value, rfl⟩
      | .ok none => rw [hreading] at hgiven; cases hgiven
      | .error halt => rw [hreading] at hgiven; cases hgiven
  · exact ⟨_, hgives n hn hmakes value hvalue⟩
  · rcases w.makes_limit_or w.patience.limit with hopen | ⟨n, hn, hmakes, hcloses⟩
    · rw [hcutOff hopen] at hlate
      cases hlate
    · refine ⟨n, hn, hmakes, ?_⟩
      rw [hsettles n hn hmakes hcloses] at hlate
      match hreading : (w.reading n).1 with
      | .ok (some value) => rw [hreading] at hlate; cases hlate
      | .ok none =>
        refine .inl ⟨rfl, ?_⟩
        by_contra hintime
        exact hcloses ⟨hreading, hintime⟩
      | .error halt =>
        rw [hreading, settle] at hlate
        cases hlate
        exact .inr rfl
  · rcases hcase with ⟨hnone, hlate⟩ | herror
    · rw [hsettles n hn hmakes fun hopen => hopen.2 hlate, hnone, settle]
    · exact hhalts n hn hmakes _ herror

end Window

end ComputeNodes
