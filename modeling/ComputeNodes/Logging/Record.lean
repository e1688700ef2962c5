/-
Log records and the calls that make them.

A record goes to the logger of the module that logs it.  Its message is a pattern that is filled in
with the arguments of the call.  Bound fields go onto every record, and replace what the record
says itself where they have the same name; they may be any values, so whatever is made of a record
later on may find that it cannot be made.
-/
import ComputeNodes.Logging.Loggers
import ComputeNodes.Value.Whole

namespace ComputeNodes.Logging

/-- Where a record is logged from. -/
structure Caller where
  /-- The name of a module; a module may have none. -/
  module : Option Value
  file : String
  function : String
  line : Nat
  deriving Repr

/-- The logger of a caller. -/
def Caller.logger (caller : Caller) : Except Error String :=
  match caller.module with
  | some name => loggerNamed name
  | none => .ok rootName

/-- Binds fields over others.  What is bound to cannot be named among them. -/
def bind (outer fields : Table) : Except Error Table :=
  if fields.keys.contains "self" then .error (.call (.twice "BoundLogger.bind" "self"))
  else .ok (Entries.ofPairs (outer ++ fields))

/-- A call for a record. -/
structure LogCall where
  level : Level
  /-- The fields bound to the logger that is called. -/
  bound : Table := []
  message : Value
  arguments : Message.Arguments
  /-- The error that is being handled during the call. -/
  handled : Option Error := none

/-- The error that a record shows. -/
inductive Trace where
  | absent
  /-- The error being handled during the call, which may be none. -/
  | handled (error : Option Error)
  /-- A bound value that takes its place. -/
  | bound (v : Value)
  deriving Repr

structure Record where
  level : Value
  /-- The number of the level, if the record still has one. -/
  number : Option Value
  logger : Value
  message : Value
  /-- What the message is filled in with once more. -/
  arguments : Value
  function : Value
  line : Value
  /-- The path of the caller's file. -/
  path : Value
  /-- When the record was made, where it does not say so itself. -/
  created : Option Value
  milliseconds : Option Value
  trace : Trace
  /-- The trace as text, where it has been written already. -/
  traceText : Value
  stack : Value
  /-- What stands in place of the words. -/
  wording : Option Value
  highlighter : Option Value
  /-- Whether the words are marked up. -/
  markup : Value
  extras : Table
  /-- The fields that the record has lost, for all of them may be replaced at once. -/
  lost : List String
  deriving Repr

namespace LogCall

/-- The name of the argument that asks for the error being handled. -/
def errorArgument : String := "exc_info"

/-- Fills a message in. -/
def fill (message : Value) (arguments : Message.Arguments) : Except Error Value :=
  match message with
  | .text pattern => ((Message.fill arguments pattern).mapError .pattern).map .text
  | v => .error (.use (.lacks v.typeName "format"))

/-- The message of a call: its pattern filled in with its named arguments, or else with its
positional ones.  Without either the pattern is the message. -/
def filled (call : LogCall) : Except Error Value :=
  let named := call.arguments.named.filter fun entry => entry.1 != errorArgument
  if !named.isEmpty then fill call.message { positional := [], named }
  else if !call.arguments.positional.isEmpty then
    fill call.message { positional := call.arguments.positional, named := [] }
  else .ok call.message

/-- The error that the call asks to be shown. -/
def trace (call : LogCall) : Trace :=
  match call.arguments.named.find? errorArgument with
  | some value => if value.isNothing then .absent else .handled call.handled
  | none => .absent

/-- The name of the field that stands for all fields at once. -/
def allFields : String := "__dict__"

/-- Whether a field can be bound at all. -/
def checkField (entry : String × Value) : Except Error Unit :=
  match entry with
  | ("__class__", v) => .error (.use (.notType v.typeName))
  | (name, v) =>
    if name ≠ allFields then .ok ()
    else match v with
      | .table _ => .ok ()
      | v => .error (.use (.notFields v.typeName))

/-- The fields that take the place of all that a record has: those that are bound at once, and the
ones bound behind them. -/
def replaced? (bound : Table) : Option Table :=
  match bound.dropWhile fun entry => entry.1 != allFields with
  | (_, .table fields) :: later =>
    some (later.foldl (fun fields (name, v) => fields.put name v) fields)
  | _ => none

/-- The fields, besides the number of its level, that a record has by itself and may be asked
for. -/
def usualFields : List String :=
  ["levelname", "name", "msg", "args", "exc_info", "exc_text", "stack_info", "funcName", "lineno",
    "pathname", "created", "msecs"]

/-- The record that a call makes. -/
def record (call : LogCall) (caller : Caller) (logger : String) (message : Value) :
    Except Error Record := do
  call.bound.forM checkField
  let replaced := replaced? call.bound
  let fields := replaced.getD call.bound
  let field (name : String) (usual : Value) : Value := (fields.find? name).getD usual
  return {
    level := field "levelname" call.level.name
    number :=
      if replaced.isSome then fields.find? "levelno"
      else some (field "levelno" (.int call.level.number))
    logger := field "name" logger
    message := field "msg" message
    arguments := field "args" .null
    function := field "funcName" caller.function
    line := field "lineno" (.int caller.line)
    path := field "pathname" caller.file
    created := fields.find? "created"
    milliseconds := fields.find? "msecs"
    trace := ((fields.find? "exc_info").map .bound).getD call.trace
    traceText := field "exc_text" .null
    stack := field "stack_info" .null
    wording := fields.find? "getMessage"
    highlighter := fields.find? "highlighter"
    markup := field "markup" (.bool false)
    extras := call.bound
    lost :=
      if replaced.isSome then usualFields.filter fun name => (fields.find? name).isNone else [] }

end LogCall

/-- Asks a record for fields. -/
def Record.ask (r : Record) (names : List String) : Except Error Unit :=
  match names.find? r.lost.contains with
  | some name => .error (.use (.lacks "LogRecord" name))
  | none => .ok ()

/-- The words of a record. -/
def Record.words (r : Record) : Except Error String := do
  if let some v := r.wording then
    throw (.use (.notCallable v.typeName))
  r.ask ["msg", "args"]
  if r.arguments.isNothing then
    return r.message.plain
  (Message.Percent.fill r.message.plain r.arguments).mapError .percent

/-! ### The error that a record shows -/

namespace Trace

/-- Whether there is anything to show. -/
def isGiven : Trace → Bool
  | .absent => false
  | .handled _ => true
  | .bound v => !v.isNothing

/-- One of the three parts of a bound trace: what kind of error, which one, and where from. -/
def part (v : Value) (index : Nat) : Except Error Value :=
  (Message.Part.itemOfValue v (.position index)).mapError fun fault => .pattern (.part fault)

/-- Whether a trace is given, and the kind of error that it shows. -/
def kind (trace : Trace) : Except Error (Bool × Option Kind) :=
  match trace with
  | .absent => .ok (false, none)
  | .handled error => .ok (true, error.map Error.kind)
  | .bound v =>
    if v.isNothing then .ok (false, none)
    else do
      match ← part v 0 with
      | .null => return (true, none)
      | first => throw (.use (.lacks first.typeName "__name__"))

/-- Checks that a trace can be written: a bound one has three parts, all of them null. -/
def checkWritten : Trace → Except Error Unit
  | .bound v => do
    let place ← part v 2
    let _ ← part v 0
    let error ← part v 1
    if place != .null then
      throw (.use (.lacks place.typeName "tb_frame"))
    if error != .null then
      throw (.use (.lacks error.typeName "__suppress_context__"))
  | _ => .ok ()

/-- What is written of a trace, but for where the error comes from and for the name of its kind,
which never look like a line of a log. -/
def text : Trace → String
  | .absent => ""
  | .handled (some error) => ": " ++ error.message
  | _ => Value.null.typeName ++ ": " ++ Value.null.plain

/-- Checks that a trace can be drawn: a bound one shows no error. -/
def checkDrawn : Trace → Except Error Unit
  | .bound (.list parts) =>
    if parts.length < 3 then .error (.trace (.tooFewParts parts.length))
    else if 3 < parts.length then .error (.trace .tooManyParts)
    else .error (.trace .noError)
  | _ => .ok ()

end Trace

end ComputeNodes.Logging
