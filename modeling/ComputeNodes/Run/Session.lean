/-
Runs against the outside world.

Whatever the library does to the outside world — calls, pauses, log records — is an event of a
session, in the order in which it happened, and what the outside world is itself is a state that
the calls act on.  An `Act` is a computation in a session; it ends with a value or halts, with an
error or because it was cut off, and in either case leaves the session with everything that
happened up to that point.

The clock is a parameter.  Real sessions run on doubles, whose sums are rounded; the laws about how
long waits take are stated on clocks with exact sums.  `Clock` is all that is asked of either.
-/
import ComputeNodes.Error
import ComputeNodes.Logging.Entry

namespace ComputeNodes

/-- Readings of a clock. -/
class Clock (τ : Type) where
  /-- How far a pause of that length, or none where it is negative, moves the clock; `none` when
  the length is too large for this clock. -/
  pause? : Seconds → Option τ
  /-- The reading after a clock moved on. -/
  advance : τ → τ → τ
  /-- How far a clock moved from one reading to another. -/
  elapsed : τ → τ → τ
  /-- Whether a clock moved at least that far. -/
  hasReached : τ → Seconds → Bool

/-- A clock that counts seconds in doubles. -/
instance : Clock Float where
  pause? length := length.atLeastZero.toDouble?
  advance now length := now + length
  elapsed start now := now - start
  hasReached elapsed length := length.isAtMost elapsed

/-- Something that happened in a session. -/
inductive Event (τ ε : Type) where
  | call (what : ε)
  | pause (length : τ)
  | log (entry : Logging.Entry)

/-- The state of a session: the clock, the outside world, and what happened so far. -/
structure Session (τ σ ε : Type) where
  now : τ
  world : σ
  events : Array (Event τ ε) := #[]

/-- How a computation ends early. -/
inductive Halt where
  | failed (error : Error)
  /-- A loop was cut off by its limit. -/
  | cutOff

/-- A computation in a session. -/
abbrev Act (τ σ ε α : Type) := ExceptT Halt (StateM (Session τ σ ε)) α

namespace Act

variable {τ σ ε α : Type}

/-- Ends with an error. -/
def fail (error : Error) : Act τ σ ε α := throw (.failed error)

/-- A value, or an error to end with. -/
def ofExcept : Except Error α → Act τ σ ε α
  | .ok a => pure a
  | .error error => fail error

/-- A value, or the error of a number that is too large for a double. -/
def orTooLarge : Option α → Act τ σ ε α
  | some a => pure a
  | none => fail .tooLargeForDouble

/-- The reading of the clock. -/
def now : Act τ σ ε τ := do return (← get).now

/-- The outside world. -/
def world : Act τ σ ε σ := do return (← get).world

/-- Changes the outside world. -/
def setWorld (world : σ) : Act τ σ ε Unit := modify fun s => { s with world }

/-- Sets the clock to what it reads when something outside is over. -/
def setNow (now : τ) : Act τ σ ε Unit := modify fun s => { s with now }

/-- Moves the clock on. -/
def takeTime [Clock τ] (length : τ) : Act τ σ ε Unit :=
  modify fun s => { s with now := Clock.advance s.now length }

/-- Notes that something happened. -/
def note (event : Event τ ε) : Act τ σ ε Unit :=
  modify fun s => { s with events := s.events.push event }

/-- Pauses. -/
def pause [Clock τ] (length : τ) : Act τ σ ε Unit := do
  note (.pause length)
  takeTime length

/-- Logs a record. -/
def log (level : Logging.Level) (source : Logging.Source) (text : String) : Act τ σ ε Unit :=
  note (.log { level, source, text })

/-- A computation whose "no such thing" is an answer and not an error. -/
def found? (act : Act τ σ ε α) : Act τ σ ε (Option α) :=
  tryCatch (do return some (← act)) fun
    | .failed error => if error.isNotFound then pure none else fail error
    | .cutOff => throw .cutOff

end Act

end ComputeNodes
