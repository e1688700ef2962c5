/-
Operations: the service's handles for work that goes on after a request was answered.

An operation moves from pending over running to done.  A failed operation is done as well; what
went wrong is in its error.

What the library only hands on is kept as the service gave it, and may be any value.
-/
import ComputeNodes.Value

namespace ComputeNodes

/-- How far an operation is. -/
inductive Status where
  | pending
  | running
  | done
  /-- A value that names no status. -/
  | other (word : Value) (unknown : word ≠ "PENDING" ∧ word ≠ "RUNNING" ∧ word ≠ "DONE")
  deriving DecidableEq, Repr

namespace Status

def ofWord (word : Value) : Status :=
  if pending : word = "PENDING" then .pending
  else if running : word = "RUNNING" then .running
  else if done : word = "DONE" then .done
  else .other word ⟨pending, running, done⟩

def word : Status → Value
  | .pending => "PENDING"
  | .running => "RUNNING"
  | .done => "DONE"
  | .other word _ => word

/-- The place of a status on the way from pending to done. -/
def rank? : Status → Option Nat
  | .pending => some 0
  | .running => some 1
  | .done => some 2
  | .other .. => none

@[simp] theorem word_ofWord (v : Value) : (ofWord v).word = v := by
  unfold ofWord
  split
  · simp [word, *]
  · split
    · simp [word, *]
    · split <;> simp [word, *]

/-- A status is told by its word. -/
@[simp] theorem ofWord_word (status : Status) : ofWord status.word = status := by
  cases status with
  | pending => simp [word, ofWord]
  | running => simp [word, ofWord]
  | done => simp [word, ofWord]
  | other word unknown => simp [Status.word, ofWord, unknown]

end Status

/-- What an operation that failed says about it. -/
structure HttpError where
  statusCode : Value
  message : Value
  deriving DecidableEq, Repr

/-- An operation as it was last seen. -/
structure Operation where
  name : Value
  status : Status
  targetLink : Value := ""
  /-- The zone of a zonal operation; a global one has none. -/
  zone : Value := .null
  id : Value := ""
  selfLink : Value := ""
  operationType : Value := ""
  progress : Value := .int 0
  httpError : Option HttpError := none
  deriving DecidableEq, Repr

namespace Operation

def isDone (o : Operation) : Bool := o.status == .done

/-- What went wrong; nothing is said to have gone wrong before an operation is done. -/
def failure? (o : Operation) : Option HttpError := if o.isDone then o.httpError else none

def hasFailed (o : Operation) : Bool := o.failure?.isSome

end Operation

end ComputeNodes
