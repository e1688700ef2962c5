/-
Asking again until the answer is good or the time is up.

`Poll.run` is the loop by itself, in any monad: it asks at once, stops when the answer is good,
looks at the time only after an answer that is not, and otherwise pauses and asks again.  Giving up
is an outcome like any other.  A question sees the answer before it, so that it can go on from
there.

The loop need not end, so it takes the number of questions it may ask; `none` says that it was cut
off.  `retryUntil` runs it in a session, against the session's clock.
-/
import ComputeNodes.Run.Session

namespace ComputeNodes

/-- One answer, and whether it is good. -/
structure Probe (α : Type) where
  value : α
  done : Bool
  deriving Repr

/-- How a wait came out: its last answer, and the number of questions. -/
structure Polled (α : Type) where
  succeeded : Bool
  value : α
  attempts : Nat
  deriving Repr

namespace Poll

/-- Asks until an answer is good or `expired` says so, pausing in between.  The fuel is the number
of questions that may still be asked, `made` the number of those asked already. -/
def run {m : Type → Type} [Monad m] {α : Type} (probe : Option α → m (Probe α))
    (expired : m Bool) (pause : m Unit) : Nat → Nat → Option α → m (Option (Polled α))
  | 0, _, _ => pure none
  | fuel + 1, made, last => do
    let seen ← probe last
    if seen.done then
      return some ⟨true, seen.value, made + 1⟩
    else if ← expired then
      return some ⟨false, seen.value, made + 1⟩
    else
      pause
      run probe expired pause fuel (made + 1) (some seen.value)

end Poll

/-- How long to wait, and how often to ask. -/
structure Patience where
  timeout : Seconds
  interval : Seconds
  /-- The most questions that one wait asks. -/
  limit : Nat
  deriving Repr

section

variable {τ σ ε α : Type} [Clock τ]

/-- Whether the time is up for a wait that began at `start`. -/
def Patience.expired (patience : Patience) (start : τ) : Act τ σ ε Bool := do
  return Clock.hasReached (Clock.elapsed start (← Act.now)) patience.timeout

/-- Asks until an answer is good or the time is up, and logs which. -/
def retryUntil (patience : Patience) (what : String) (probe : Option α → Act τ σ ε (Probe α)) :
    Act τ σ ε (Polled α) := do
  let start ← Act.now
  let length ← Act.orTooLarge (Clock.pause? (τ := τ) patience.interval)
  let result ← Poll.run probe (patience.expired start) (Act.pause length) patience.limit 0 none
  match result with
  | none => throw .cutOff
  | some polled =>
    let checks := toString polled.attempts ++ " check(s)"
    if polled.succeeded then
      Act.log .debug .wait (what ++ " satisfied after " ++ checks)
    else
      let seconds ← Act.orTooLarge patience.timeout.tenths?
      Act.log .warning .wait (what ++ " not satisfied after " ++ checks ++ " in " ++ seconds ++ "s")
    return polled

/-- Reads something until it is there or the time is up. -/
def pollUntilPresent (patience : Patience) (what : String) (read : Act τ σ ε (Option α)) :
    Act τ σ ε (Polled (Option α)) :=
  retryUntil patience what fun _ => do
    let value ← read
    return { value, done := value.isSome }

end

end ComputeNodes
