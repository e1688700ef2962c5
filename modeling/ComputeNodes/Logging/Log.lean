/-
The log.

Every record goes to the logger of the module that logs it, and from there up to the root of this
library's loggers, whose sinks it is delivered to.  A logger that is disabled takes no records, but
records of the loggers below it still pass.  Modules outside the library log elsewhere: their
records never reach the sinks here.

A message is filled in only if its record is taken, so a fault in it goes unnoticed otherwise.  At
the root a record is handed to one handler after the other, to sinks and to handlers of others;
where one fails, what happened before stays as it is and nothing more happens.

What others do with a record is up to them.  A log has an onlooker at its root unless something else
is said of it, and the onlooker notes every record that gets there.
-/
import ComputeNodes.Logging.Path
import ComputeNodes.Logging.Sinks
import ComputeNodes.Logging.Written

namespace ComputeNodes.Logging

/-- A record as it reaches the root. -/
structure Row where
  level : Value
  logger : Value
  words : String
  extras : Table
  /-- Whether the record shows the error being handled, which may be none. -/
  showsError : Bool
  error : Option Kind
  deriving Repr

/-- Something that happens to a record. -/
inductive Outcome where
  | reached (row : Row)
  | printed (stream : Stream)
  /-- A line of a log file. -/
  | written (path line : String)
  deriving Repr

/-- How something that is done with a record comes out, and what is noted of it. -/
structure Report where
  result : Except Error Unit := .ok ()
  noted : List Outcome := []

namespace Record

/-- Whether a record's level is at least the given one. -/
def reaches (r : Record) (threshold : Nat) : Except Error Bool := do
  let some number := r.number | throw (.use (.lacks "LogRecord" "levelno"))
  match Message.Part.whole? number, number with
  | some n, _ => return threshold ≤ n
  | none, .float x => return Binary.intLe threshold x
  | none, v => throw (.use (.notCompared v.typeName))

/-- The row of a record. -/
def row (r : Record) : Except Error Row := do
  r.ask ["levelname", "name"]
  let words ← r.words
  r.ask ["exc_info"]
  let (showsError, error) ← r.trace.kind
  return { level := r.level, logger := r.logger, words, extras := r.extras, showsError, error }

/-- What an onlooker does with a record. -/
def lookedAt (r : Record) : Report :=
  let row? : Except Error (Option Row) := do
    if ← r.reaches 0 then return some (← r.row)
    return none
  match row? with
  | .ok row? => { noted := (row?.map .reached).toList }
  | .error error => { result := .error error }

end Record

/-- The handler of the onlooker. -/
def onlooker : Handler := .foreign "onlooker"

/-- The log: its sinks, its loggers, the log files, and what has become of its records. -/
structure Log where
  sinks : Sinks := { attached := [onlooker] }
  loggers : Loggers := {}
  files : List String := []
  outcomes : Array Outcome := #[]
  /-- What the handlers of others do with a record, by their names. -/
  foreign : String → Record → Report := fun _ => Record.lookedAt

/-- A computation on the log, which may fail on the way. -/
abbrev Work (α : Type) := ExceptT Error (StateM Log) α

namespace Work

variable {α : Type}

/-- A value, or an error to end with. -/
def ofExcept (r : Except Error α) : Work α := ExceptT.mk (pure r)

/-- Notes what became of a record. -/
def note (outcome : Outcome) : Work Unit :=
  modify fun log => { log with outcomes := log.outcomes.push outcome }

/-- Changes the sinks. -/
def changeSinks (change : Sinks → Sinks) : Work Unit :=
  modify fun log => { log with sinks := change log.sinks }

/-- Changes the loggers. -/
def changeLoggers (change : Loggers → Loggers) : Work Unit :=
  modify fun log => { log with loggers := change log.loggers }

/-! ### Sinks -/

/-- Opens the log file of a sink, and gives the sink's target by the path of the file. -/
def openTarget : Target → Work Target
  | .console stream => pure (.console stream)
  | .file path => do
    let path ← ofExcept (filePath path)
    modify fun log =>
      { log with files := if log.files.contains path then log.files else log.files ++ [path] }
    return .file path

/-- The threshold that a value stands for, which must be the name of a level. -/
def thresholdOf : Value → Except Error Nat
  | .text name => .ok (Level.threshold name)
  | v => .error (.use (.lacks v.typeName "upper"))

/-- Adds a sink, and gives its number. -/
def add (target : Target) (level : Value) : Work Nat := do
  let threshold ← ofExcept (thresholdOf level)
  let target ← openTarget target
  let (id, sinks) := (← get).sinks.add target threshold
  changeSinks fun _ => sinks
  return id

/-- The number of a sink that a value gives, if it can be one. -/
def sinkNumber? (v : Value) : Except Error (Option Nat) :=
  if v.canBeKey then .ok (v.amount?.bind Int.toNat?)
  else .error (.use (.notKey v.typeName))

/-- Removes a sink, or all of them where no number is given. -/
def remove : Value → Work Unit
  | .null => changeSinks Sinks.removeAll
  | number => do
    if let some id ← ofExcept (sinkNumber? number) then
      changeSinks fun sinks => sinks.remove id

/-- Replaces all sinks by one on the console and perhaps one in a file. -/
def configure (level : Value) (path : Option String) : Work Unit := do
  remove .null
  let _ ← add (.console .standardError) level
  if let some path := path.bind nonEmpty? then
    let _ ← add (.file path) level

/-! ### Loggers -/

/-- Enables a logger. -/
def enable (name : Value) : Work Unit := do
  let name ← ofExcept (loggerNamed name)
  changeLoggers fun loggers => loggers.enable name

/-- Disables a logger. -/
def disable (name : Value) : Work Unit := do
  let name ← ofExcept (loggerNamed name)
  changeLoggers fun loggers => loggers.disable name

/-- Whether a logger takes records of a level. -/
def takes (logger : String) (level : Level) : Work Bool := do
  let (answer, loggers) := (← get).loggers.takes logger level
  changeLoggers fun _ => loggers
  return answer

/-! ### Records -/

/-- Does what a report says. -/
def report (r : Report) : Work Unit := do
  r.noted.forM note
  ofExcept r.result

/-- Hands a record to a sink. -/
def handToSink (r : Record) (sink : Sink) : Work Unit := do
  if ← ofExcept (r.reaches sink.threshold) then
    match sink.target with
    | .console stream =>
      if ← ofExcept r.isPrinted then
        note (.printed stream)
    | .file path =>
      match r.lines with
      | .ok lines => lines.forM fun line => note (.written path line)
      | .error _ => pure ()

/-- Hands a record to a handler. -/
def handTo (r : Record) : Handler → Work Unit
  | .own _ sink => handToSink r sink
  | .foreign name => do report ((← get).foreign name r)

/-- The last resort for a record that nobody handles shows it elsewhere, if its level is that of a
warning. -/
def resort (r : Record) : Work Unit := do
  let _ ← ofExcept (r.reaches Level.warning.number)

/-- Delivers a record to the handlers at the root. -/
def deliver (r : Record) : Work Unit := do
  match (← get).sinks.attached with
  | [] => resort r
  | handlers => handlers.forM (handTo r)

/-- Logs a record. -/
def log (caller : Caller) (call : LogCall) : Work Unit := do
  let logger ← ofExcept caller.logger
  if ← takes logger call.level then
    let message ← ofExcept call.filled
    let record ← ofExcept (call.record caller logger message)
    if (← get).loggers.isBelowRoot logger then
      deliver record
    else
      resort record

end Work

end ComputeNodes.Logging
