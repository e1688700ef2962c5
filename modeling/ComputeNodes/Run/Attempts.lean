/-
Waits by attempts under a policy.

A wait need not bring its own loop.  It can hand over its question together with a policy — which
outcomes call for another attempt, when to stop all the same, how long to pause, what to give then —
to something that makes attempts and knows nothing of waits.  `Attempts` is whatever does so, and
`Attempts.Protocol` is all that is relied on: one attempt after the other, and after each of them
the outcome is looked at first, then the policy may stop, and only then comes a pause.

The number of attempts is part of no policy, so the wait counts them itself, in a tally of its own
that it keeps next to the session.
-/
import ComputeNodes.Run.Poll

namespace ComputeNodes

/-- What is done about the outcomes of attempts. -/
structure Policy (m : Type → Type) (τ α : Type) where
  /-- Whether an outcome calls for another attempt. -/
  again : Except Halt α → Bool
  /-- Whether to stop when another attempt is called for. -/
  stop : m Bool
  /-- What to give when that is so. -/
  giveUp : Except Halt α → m α
  /-- How long to pause before another attempt. -/
  wait : τ
  sleep : τ → m Unit

/-- Makes attempts under a policy, so many at most; `none` when there were to be more. -/
abbrev Attempts (m : Type → Type) (τ α : Type) := Policy m τ α → m α → Nat → m (Option α)

namespace Attempts

variable {m : Type → Type} [Monad m] [MonadExceptOf Halt m] {τ α : Type}

/-- How an attempt comes out, be it with an error. -/
def caught (attempt : m α) : m (Except Halt α) :=
  tryCatch (do return .ok (← attempt)) fun halt => return .error halt

/-- Comes out as an attempt did. -/
def comeOut : Except Halt α → m α
  | .ok a => pure a
  | .error halt => throw halt

/-- One attempt, and what the policy says about it; `next` makes the attempts that follow. -/
def round (policy : Policy m τ α) (attempt : m α) (next : m (Option α)) : m (Option α) := do
  let outcome ← caught attempt
  if policy.again outcome then
    if ← policy.stop then
      return some (← policy.giveUp outcome)
    else
      policy.sleep policy.wait
      next
  else
    return some (← comeOut outcome)

/-- What is relied on of something that makes attempts. -/
structure Protocol (attempts : Attempts m τ α) : Prop where
  none_left : ∀ policy attempt, attempts policy attempt 0 = pure none
  some_left : ∀ policy attempt left,
    attempts policy attempt (left + 1) = round policy attempt (attempts policy attempt left)

/-- Makes attempts round by round. -/
def inRounds : Attempts m τ α
  | _, _, 0 => pure none
  | policy, attempt, left + 1 => round policy attempt (inRounds policy attempt left)

theorem inRounds_protocol : Protocol (inRounds : Attempts m τ α) where
  none_left _ _ := rfl
  some_left _ _ _ := rfl

end Attempts

/-- What a wait keeps count of: its questions so far, and the answer to the last one. -/
structure Tally (α : Type) where
  asked : Nat := 0
  last : Option α := none

/-- A computation in a session, with a tally next to it. -/
abbrev Tallied (τ σ ε α β : Type) := ExceptT Halt (StateT (Tally α) (StateM (Session τ σ ε))) β

section

variable {τ σ ε α β : Type}

/-- A computation that leaves the tally as it is. -/
def Act.tallied (act : Act τ σ ε β) : Tallied τ σ ε α β := ExceptT.mk (StateT.lift act.run)

/-- Starts a tally, and gives it together with the value. -/
def Tallied.counting (act : Tallied τ σ ε α β) (tally : Tally α) : Act τ σ ε (β × Tally α) :=
  ExceptT.mk do
    let (result, tally) ← act.run.run tally
    return result.map (·, tally)

/-- Asks a question, and counts it. -/
def Tally.ask (probe : Option α → Act τ σ ε (Probe α)) : Tallied τ σ ε α (Probe α) := do
  modify fun tally => { tally with asked := tally.asked + 1 }
  let seen ← Act.tallied (probe (← getThe (Tally α)).last)
  modify fun tally => { tally with last := some seen.value }
  return seen

variable [Clock τ]

/-- Whether the time is up by a given clock, for a wait that began at `start`. -/
def Patience.expiredBy (patience : Patience) (clock : Act τ σ ε τ) (start : τ) :
    Act τ σ ε Bool := do
  return Clock.hasReached (Clock.elapsed start (← clock)) patience.timeout

/-- The policy of a wait: an answer that is not good calls for another attempt, an error for none;
it stops when the time is up, and then comes out as the last attempt did. -/
def Patience.policy (patience : Patience) (clock : Act τ σ ε τ) (sleep : τ → Act τ σ ε Unit)
    (start length : τ) : Policy (Tallied τ σ ε α) τ (Probe α) where
  again
    | .ok seen => !seen.done
    | .error _ => false
  stop := Act.tallied (patience.expiredBy clock start)
  giveUp := Attempts.comeOut
  wait := length
  sleep length := Act.tallied (sleep length)

/-- What is common to all ways of waiting: the clock is read, the pause is measured, and in the end
the outcome is logged.  In between, `ask` asks until the wait is over. -/
def Patience.waitWith (patience : Patience) (what : String) (clock : Act τ σ ε τ)
    (ask : τ → τ → Act τ σ ε (Option (Polled α))) : Act τ σ ε (Polled α) := do
  let start ← clock
  let length ← Act.orTooLarge (Clock.pause? (τ := τ) patience.interval)
  match ← ask start length with
  | none => throw .cutOff
  | some polled =>
    let checks := toString polled.attempts ++ " check(s)"
    if polled.succeeded then
      Act.log .debug .wait (what ++ " satisfied after " ++ checks)
    else
      let seconds ← Act.orTooLarge patience.timeout.tenths?
      Act.log .warning .wait (what ++ " not satisfied after " ++ checks ++ " in " ++ seconds ++ "s")
    return polled

/-- Waits with a loop of its own, by a given clock and with a given way to pause. -/
def waitInLoop (patience : Patience) (what : String) (clock : Act τ σ ε τ)
    (sleep : τ → Act τ σ ε Unit) (probe : Option α → Act τ σ ε (Probe α)) :
    Act τ σ ε (Polled α) :=
  patience.waitWith what clock fun start length =>
    Poll.run probe (patience.expiredBy clock start) (sleep length) patience.limit 0 none

/-- Waits by attempts, by a given clock and with a given way to pause. -/
def waitByAttempts (attempts : Attempts (Tallied τ σ ε α) τ (Probe α)) (patience : Patience)
    (what : String) (clock : Act τ σ ε τ) (sleep : τ → Act τ σ ε Unit)
    (probe : Option α → Act τ σ ε (Probe α)) : Act τ σ ε (Polled α) :=
  patience.waitWith what clock fun start length => do
    let (last, tally) ← Tallied.counting
      (attempts (patience.policy clock sleep start length) (Tally.ask probe) patience.limit) {}
    return last.map fun last => ⟨last.done, last.value, tally.asked⟩

/-- A wait reads the clock of its session and pauses in it. -/
theorem retryUntil_eq_waitInLoop (patience : Patience) (what : String)
    (probe : Option α → Act τ σ ε (Probe α)) :
    retryUntil patience what probe = waitInLoop patience what Act.now Act.pause probe := rfl

end

end ComputeNodes
