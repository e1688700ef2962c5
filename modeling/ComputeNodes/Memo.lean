/-
Values that are computed once.

A memo computes its value when it is first asked for and keeps it from then on.  A computation that
fails leaves nothing behind, so the next question computes again.
-/

namespace ComputeNodes

/-- A value, once it has been computed. -/
structure Memo (α : Type) where
  value : Option α := none
  deriving Repr

namespace Memo

/-- A memo that has forgotten its value. -/
def reset {α : Type} (_ : Memo α) : Memo α := {}

/-- The value of a memo, computed if there is none.  The memo is kept wherever `read` and `write`
find it. -/
def force {m : Type → Type} [Monad m] {α : Type} (read : m (Memo α)) (write : Memo α → m Unit)
    (compute : m α) : m α := do
  match (← read).value with
  | some value => return value
  | none =>
    let value ← compute
    write { value := some value }
    return value

end Memo

end ComputeNodes
