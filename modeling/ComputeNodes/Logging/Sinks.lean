/-
Where log records end up.

Sinks are added and removed by number.  Numbers count up from one and are never given out again,
so a number always means the same sink, also after it is gone.  `registry` is what can be removed
and `attached` is what records are handed to; the two change together, and handlers that others
have attached stay where they are.
-/
import ComputeNodes.Logging.Level

namespace ComputeNodes.Logging

/-- What a console sink prints to. -/
inductive Stream where
  | standardError
  /-- A stream that was handed in. -/
  | supplied
  deriving DecidableEq, Repr

inductive Target where
  | console (stream : Stream)
  | file (path : String)
  deriving DecidableEq, Repr

/-- Where records go, and the number of the least level that goes there. -/
structure Sink where
  target : Target
  threshold : Nat
  deriving DecidableEq, Repr

/-- Whatever records are handed to. -/
inductive Handler where
  | own (id : Nat) (sink : Sink)
  /-- A handler attached by someone else. -/
  | foreign (name : String)
  deriving DecidableEq, Repr

/-- The sink of a handler, and the number it was added under. -/
def Handler.own? : Handler → Option (Nat × Sink)
  | .own id sink => some (id, sink)
  | .foreign _ => none

structure Sinks where
  /-- The number of the sink that was added last. -/
  lastId : Nat := 0
  registry : List (Nat × Sink) := []
  attached : List Handler := []
  deriving DecidableEq, Repr

namespace Sinks

/-- Adds a sink, and gives its number. -/
def add (s : Sinks) (target : Target) (threshold : Nat) : Nat × Sinks :=
  let id := s.lastId + 1
  let sink : Sink := { target, threshold }
  (id,
    { lastId := id
      registry := s.registry ++ [(id, sink)]
      attached := s.attached ++ [.own id sink] })

/-- Detaches the handlers of the given numbers. -/
def detach (handlers : List Handler) (ids : List Nat) : List Handler :=
  handlers.filter fun
    | .own id _ => !ids.contains id
    | .foreign _ => true

/-- Removes the sink of a number, if there is one. -/
def remove (s : Sinks) (id : Nat) : Sinks :=
  if id ∈ s.registry.map Prod.fst then
    { s with
      registry := s.registry.filter fun entry => entry.1 != id
      attached := detach s.attached [id] }
  else s

/-- Removes all sinks. -/
def removeAll (s : Sinks) : Sinks :=
  { s with registry := [], attached := detach s.attached (s.registry.map Prod.fst) }

/-- The attached sinks, with their numbers. -/
def own (s : Sinks) : List (Nat × Sink) := s.attached.filterMap Handler.own?

end Sinks

end ComputeNodes.Logging
