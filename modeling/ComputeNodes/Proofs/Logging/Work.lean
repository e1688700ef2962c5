/-
What computations do to the log.

`Work.perform` runs a computation on a log.  Where it fails, what it did before is still done, and
nothing behind that is.  For every computation on sinks there is one equation that says all that it
does, so nothing further on looks into them.
-/
import ComputeNodes.Logging.Log

namespace ComputeNodes.Logging

/-! ### Sinks -/

namespace Sinks

/-- The sinks that take the place of others: one on the console, and behind it one in a file if
there is a path. -/
def replacements (s : Sinks) (threshold : Nat) (path : Option String) : List (Nat × Sink) :=
  (s.lastId + 1, ⟨.console .standardError, threshold⟩) ::
    (path.map fun path => (s.lastId + 2, ⟨.file path, threshold⟩)).toList

/-- Sinks that have been replaced.  Handlers of others stay where they are. -/
def replaced (s : Sinks) (threshold : Nat) (path : Option String) : Sinks where
  lastId := s.lastId + (s.replacements threshold path).length
  registry := s.replacements threshold path
  attached := detach s.attached (s.registry.map Prod.fst)
    ++ (s.replacements threshold path).map fun (id, sink) => .own id sink

theorem replaced_add (s : Sinks) (threshold : Nat) (path : String) :
    ((s.replaced threshold none).add (.file path) threshold).2
      = s.replaced threshold (some path) := by
  simp [add, replaced, replacements]

theorem lastId_lt_replaced (s : Sinks) (threshold : Nat) (path : Option String) :
    s.lastId < (s.replaced threshold path).lastId :=
  Nat.lt_add_of_pos_right (Nat.succ_pos _)

/-- Sinks that take the place of others are never the same ones. -/
theorem replaced_ne (s : Sinks) (threshold : Nat) (path : Option String) :
    s.replaced threshold path ≠ s :=
  fun h => absurd (s.lastId_lt_replaced threshold path) (by simp [h])

end Sinks

/-- A log that nothing is attached to. -/
def Log.bare : Log := { sinks := {} }

/-- A log in which a log file has been opened. -/
def Log.opened (log : Log) (path : String) : Log :=
  { log with files := if log.files.contains path then log.files else log.files ++ [path] }

/-- A log with other sinks. -/
def Log.withSinks (log : Log) (sinks : Sinks) : Log := { log with sinks }

namespace Work

variable {α β : Type} {log log' : Log}

/-- How a computation comes out on a log, and the log that it leaves. -/
def perform (work : Work α) (log : Log) : Except Error α × Log := work.run.run log

@[simp] theorem perform_pure (a : α) (log : Log) : (pure a : Work α).perform log = (.ok a, log) :=
  rfl

@[simp] theorem perform_ofExcept (r : Except Error α) (log : Log) :
    (ofExcept r).perform log = (r, log) := rfl

@[simp] theorem perform_changeSinks (change : Sinks → Sinks) (log : Log) :
    (changeSinks change).perform log = (.ok (), log.withSinks (change log.sinks)) := rfl

theorem perform_bind (x : Work α) (f : α → Work β) (log : Log) :
    (x >>= f).perform log = match x.perform log with
      | (.ok a, log') => (f a).perform log'
      | (.error error, log') => (.error error, log') := by
  simp only [perform, ExceptT.run_bind, StateT.run_bind]
  cases x.run.run log with
  | mk r t => cases r <;> rfl

/-- What comes behind a computation that returns is done on the log it leaves. -/
theorem perform_bind_ok {x : Work α} {f : α → Work β} {a : α}
    (h : x.perform log = (.ok a, log')) : (x >>= f).perform log = (f a).perform log' := by
  rw [perform_bind, h]

/-- What comes behind a computation that fails is not done. -/
theorem perform_bind_error {x : Work α} {f : α → Work β} {error : Error}
    (h : x.perform log = (.error error, log')) : (x >>= f).perform log = (.error error, log') := by
  rw [perform_bind, h]

theorem perform_ofExcept_bind {r : Except Error α} {f : α → Work β} {a : α} (h : r = .ok a)
    (log : Log) : (ofExcept r >>= f).perform log = (f a).perform log := by
  rw [perform_bind, perform_ofExcept, h]

theorem perform_ofExcept_bind_error {r : Except Error α} {f : α → Work β} {error : Error}
    (h : r = .error error) (log : Log) :
    (ofExcept r >>= f).perform log = (.error error, log) := by
  rw [perform_bind, perform_ofExcept, h]

/-! ### Sinks that are added and replaced -/

@[simp] theorem perform_openConsole (stream : Stream) (log : Log) :
    (openTarget (.console stream)).perform log = (.ok (.console stream), log) :=
  perform_pure (Target.console stream) log

theorem perform_openFile {path : String} (h : '\x00' ∉ path.toList) (log : Log) :
    (openTarget (.file path)).perform log
      = (.ok (.file (shortestPath path)), log.opened (shortestPath path)) := by
  rw [openTarget, filePath, if_neg h]
  rfl

theorem perform_openFile_broken {path : String} (h : '\x00' ∈ path.toList) (log : Log) :
    (openTarget (.file path)).perform log = (.error .brokenPath, log) := by
  rw [openTarget, filePath, if_pos h]
  rfl

/-- A sink is added when its target has been opened. -/
theorem perform_add {level : Value} {threshold : Nat} (hlevel : thresholdOf level = .ok threshold)
    {target opened : Target} (hopen : (openTarget target).perform log = (.ok opened, log')) :
    (add target level).perform log
      = (.ok (log'.sinks.lastId + 1), log'.withSinks (log'.sinks.add opened threshold).2) := by
  rw [add, perform_ofExcept_bind hlevel, perform_bind_ok hopen]
  rfl

theorem perform_add_unopened {level : Value} {threshold : Nat}
    (hlevel : thresholdOf level = .ok threshold) {target : Target} {error : Error}
    (hopen : (openTarget target).perform log = (.error error, log')) :
    (add target level).perform log = (.error error, log') := by
  rw [add, perform_ofExcept_bind hlevel, perform_bind_error hopen]

/-- The sink on the console takes the place of all others before the one in a file is opened. -/
theorem perform_configure (level : String) (path : Option String) (log : Log) :
    (configure (.text level) path).perform log = match path.bind nonEmpty? with
      | none => (.ok (), log.withSinks (log.sinks.replaced (Level.threshold level) none))
      | some path =>
        if '\x00' ∈ path.toList then
          (.error .brokenPath, log.withSinks (log.sinks.replaced (Level.threshold level) none))
        else
          (.ok (), (log.opened (shortestPath path)).withSinks
            (log.sinks.replaced (Level.threshold level) (some (shortestPath path)))) := by
  have hlevel : thresholdOf (.text level) = .ok (Level.threshold level) := rfl
  have hremove : (remove .null).perform log = (.ok (), log.withSinks log.sinks.removeAll) :=
    perform_changeSinks Sinks.removeAll log
  have hconsole := perform_add hlevel
    (perform_openConsole .standardError (log.withSinks log.sinks.removeAll))
  rw [configure, perform_bind_ok hremove, perform_bind_ok hconsole]
  cases path.bind nonEmpty? with
  | none => rfl
  | some path =>
    dsimp only
    split
    next hbroken =>
      exact perform_bind_error (perform_add_unopened hlevel (perform_openFile_broken hbroken _))
    next hwhole =>
      have hfile := perform_add hlevel (perform_openFile hwhole
        (log.withSinks (log.sinks.replaced (Level.threshold level) none)))
      rw [← Sinks.replaced_add]
      exact perform_bind_ok hfile

end Work

end ComputeNodes.Logging
