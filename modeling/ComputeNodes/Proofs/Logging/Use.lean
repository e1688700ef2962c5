/-
Everything that is done with a log.

`Use` lists it: sinks are added, removed and replaced, loggers are enabled and disabled, and records
are logged.  Someone else may attach a handler in between.  Uses may fail; where one does, the log
is left as it is then, and the next use goes on from there (`Log.through`).

What each kind of use leaves is said by one equation.  From these it can be read off that a use
changes either the sinks or the loggers: what enables, disables or logs leaves the sinks alone, and
what adds or removes a sink leaves the loggers alone.
-/
import ComputeNodes.Proofs.Logging.Delivery

namespace ComputeNodes.Logging

/-- A handler of someone else is attached once. -/
def Sinks.attach (s : Sinks) (name : String) : Sinks :=
  if .foreign name ∈ s.attached then s else { s with attached := s.attached ++ [.foreign name] }

/-- Something that is done with a log. -/
inductive Use where
  | add (target : Target) (level : String)
  | remove (number : Value)
  | configure (level : String) (path : Option String)
  /-- Someone else attaches a handler. -/
  | attach (name : String)
  | enable (name : Value)
  | disable (name : Value)
  | log (caller : Caller) (call : LogCall)

namespace Use

/-- A use as a computation, which gives the number of a sink that is added. -/
def work : Use → Work (Option Nat)
  | .add target level => do return some (← Work.add target (.text level))
  | .remove number => do
    Work.remove number
    return none
  | .configure level path => do
    Work.configure (.text level) path
    return none
  | .attach name => do
    Work.changeSinks (·.attach name)
    return none
  | .enable name => do
    Work.enable name
    return none
  | .disable name => do
    Work.disable name
    return none
  | .log caller call => do
    Work.log caller call
    return none

end Use

namespace Log

/-- Where a use leaves a log, also one that fails. -/
def after (log : Log) (use : Use) : Log := (use.work.perform log).2

/-- Where uses leave a log, one after the other. -/
def through (log : Log) (uses : List Use) : Log := uses.foldl after log

@[simp] theorem through_nil (log : Log) : log.through [] = log := rfl

@[simp] theorem through_cons (log : Log) (use : Use) (later : List Use) :
    log.through (use :: later) = (log.after use).through later := rfl

theorem through_append (log : Log) (uses later : List Use) :
    log.through (uses ++ later) = (log.through uses).through later :=
  List.foldl_append

end Log

namespace Work

variable {α β : Type} {log : Log}

/-- What a computation leaves does not depend on what is made of its value. -/
theorem perform_return (x : Work α) (f : α → β) (log : Log) :
    ((do return f (← x) : Work β).perform log).2 = (x.perform log).2 := by
  rw [perform_bind]
  rcases x.perform log with ⟨r, t⟩
  cases r <;> rfl

end Work

/-- A function of the module `gcenode.app`. -/
def emitter : Caller where
  module := some "gcenode.app"
  file := "emit"
  function := "emit"
  line := 2

/-! ### What uses do to sinks -/

namespace Log

variable (log : Log)

theorem after_add (target : Target) (level : String) :
    log.after (.add target level) = ((Work.add target (.text level)).perform log).2 :=
  Work.perform_return _ some log

theorem perform_addConsole (stream : Stream) (level : String) :
    (Work.add (.console stream) (.text level)).perform log
      = (.ok (log.sinks.lastId + 1),
          log.withSinks (log.sinks.add (.console stream) (Level.threshold level)).2) :=
  Work.perform_add rfl (Work.perform_openConsole stream log)

theorem perform_addFile {path : String} (h : '\x00' ∉ path.toList) (level : String) :
    (Work.add (.file path) (.text level)).perform log
      = (.ok (log.sinks.lastId + 1), (log.opened (shortestPath path)).withSinks
          (log.sinks.add (.file (shortestPath path)) (Level.threshold level)).2) :=
  Work.perform_add rfl (Work.perform_openFile h log)

theorem perform_addFile_broken {path : String} (h : '\x00' ∈ path.toList) (level : String) :
    (Work.add (.file path) (.text level)).perform log = (.error .brokenPath, log) :=
  Work.perform_add_unopened rfl (Work.perform_openFile_broken h log)

theorem after_removeAll : log.after (.remove .null) = log.withSinks log.sinks.removeAll := rfl

/-- Only the number of a sink removes anything. -/
theorem after_remove {number : Value} (h : number ≠ .null) :
    log.after (.remove number) = match Work.sinkNumber? number with
      | .ok (some id) => log.withSinks (log.sinks.remove id)
      | _ => log := by
  have hafter : log.after (.remove number) = ((Work.remove number).perform log).2 :=
    Work.perform_return _ (fun _ => none) log
  rw [hafter]
  unfold Work.remove
  split
  · exact absurd rfl h
  · cases Work.sinkNumber? number with
    | error error => rfl
    | ok id? => cases id? <;> rfl

theorem after_attach (name : String) :
    log.after (.attach name) = log.withSinks (log.sinks.attach name) := rfl

end Log

/-- The uses that a use is made of: all sinks are replaced by removing and adding. -/
def Use.parts : Use → List Use
  | .configure level path =>
    [.remove .null, .add (.console .standardError) level]
      ++ ((path.bind nonEmpty?).map fun path => .add (.file path) level).toList
  | use => [use]

/-- A use does what its parts do, one after the other. -/
theorem Log.through_parts (log : Log) (use : Use) : log.through use.parts = log.after use := by
  cases use with
  | configure level path =>
    have hafter : log.after (.configure level path)
        = ((Work.configure (.text level) path).perform log).2 :=
      Work.perform_return _ (fun _ => none) log
    rw [hafter, Work.perform_configure, Use.parts, through_append, through_cons, through_cons,
      after_removeAll, after_add, perform_addConsole]
    cases path.bind nonEmpty? with
    | none => rfl
    | some path =>
      dsimp only [Option.map_some, Option.toList_some, through_cons, through_nil]
      rw [after_add]
      by_cases hbroken : '\x00' ∈ path.toList
      · rw [if_pos hbroken, perform_addFile_broken _ hbroken]
        rfl
      · rw [if_neg hbroken, perform_addFile _ hbroken, ← Sinks.replaced_add]
        rfl
  | add | remove | attach | enable | disable | log => rfl

theorem Log.through_flatMap_parts (log : Log) (uses : List Use) :
    log.through (uses.flatMap Use.parts) = log.through uses := by
  induction uses generalizing log with
  | nil => rfl
  | cons use uses ih => rw [List.flatMap_cons, through_append, through_parts, ih, through_cons]

/-! ### What uses do to loggers -/

namespace Log

variable (log : Log)

theorem after_enable (name : Value) :
    log.after (.enable name) = match loggerNamed name with
      | .ok logger => log.withLoggers (log.loggers.enable logger)
      | .error _ => log := by
  have hafter : log.after (.enable name) = ((Work.enable name).perform log).2 :=
    Work.perform_return _ (fun _ => none) log
  rw [hafter, Work.enable]
  cases loggerNamed name <;> rfl

theorem after_disable (name : Value) :
    log.after (.disable name) = match loggerNamed name with
      | .ok logger => log.withLoggers (log.loggers.disable logger)
      | .error _ => log := by
  have hafter : log.after (.disable name) = ((Work.disable name).perform log).2 :=
    Work.perform_return _ (fun _ => none) log
  rw [hafter, Work.disable]
  cases loggerNamed name <;> rfl

theorem after_log (caller : Caller) (call : LogCall) :
    log.after (.log caller call)
      = (log.withLoggers (log.loggersBehind caller call)).noted
          (log.reportOf caller call).noted := by
  have hafter : log.after (.log caller call) = ((Work.log caller call).perform log).2 :=
    Work.perform_return _ (fun _ => none) log
  rw [hafter, Work.perform_log]

end Log

end ComputeNodes.Logging
