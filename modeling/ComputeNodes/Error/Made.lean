/-
Errors made from arguments.

An error of any kind can be made by hand from what it is about.  Errors that tell of one certain
thing take fixed arguments and keep them; the others take any number of arguments and show them.
Time-outs are errors of the system: from two arguments on, the first ones are a number and what it
stands for, and a name may follow.
-/
import ComputeNodes.Error

namespace ComputeNodes

/-- What an error can be made of. -/
inductive Argument where
  | value (v : Value)
  | operation (o : Operation)
  deriving Repr

namespace Argument

/-- An operation as it is shown. -/
def operationText (o : Operation) : String :=
  let error (e : HttpError) : String :=
    "HttpError(status_code=" ++ e.statusCode.shown ++ ", message=" ++ e.message.shown ++ ")"
  let fields : Entries String :=
    [("name", o.name.shown), ("status", o.status.word.shown),
     ("target_link", o.targetLink.shown), ("zone", o.zone.shown), ("id", o.id.shown),
     ("self_link", o.selfLink.shown), ("operation_type", o.operationType.shown),
     ("progress", o.progress.shown),
     ("http_error", o.httpError.elim Value.null.shown error)]
  "Operation(" ++ ", ".intercalate (fields.map fun (name, text) => name ++ "=" ++ text) ++ ")"

/-- An argument as it is shown among others. -/
def shown : Argument → String
  | .value v => v.shown
  | .operation o => operationText o

/-- An argument as it is shown on its own. -/
def plain : Argument → String
  | .value v => v.plain
  | .operation o => operationText o

/-- Whether an argument is something other than null. -/
def isGiven : Argument → Bool
  | .value .null => false
  | _ => true

def typeName : Argument → String
  | .value v => v.typeName
  | .operation _ => "Operation"

/-- The operation that an argument is. -/
def asOperation : Argument → Except Error Operation
  | .operation o => .ok o
  | .value v => .error (.use (.lacks v.typeName "name"))

/-- An argument as a length of time inside an error. -/
def length : Argument → Except Error String
  | .operation _ => .error (.pattern (.layout (.notLaidOut "Operation")))
  | .value v =>
    ((Message.Layout.apply ".1f".toList v).mapError fun fault => .pattern (.layout fault)).map
      (· ++ "s")

/-- The things that an argument can be walked by, as they are shown together. -/
def items : Argument → Except Error (List Value)
  | .value (.list l) => .ok l
  | .value (.text s) => .ok (s.toList.map fun c => .text c.toString)
  | .value (.table t) => .ok (t.map fun entry => .text entry.1)
  | other => .error (.use (.notList other.typeName))

end Argument

/-- An error made from arguments. -/
structure MadeError where
  kind : Kind
  words : String
  /-- The arguments that it keeps, by name. -/
  kept : Entries Argument := []
  deriving Repr

namespace MadeError

/-- Arguments as they are shown by an error that takes any. -/
def shownTogether : List Argument → String
  | [] => ""
  | [a] => a.plain
  | arguments => "(" ++ ", ".intercalate (arguments.map Argument.shown) ++ ")"

/-- What an error of the system says. -/
def ofSystem : List Argument → String
  | number :: reason :: rest =>
    let start := "[Errno " ++ number.plain ++ "] " ++ reason.plain
    match rest with
    | [] => start
    | name :: more =>
      if more.length ≤ 2 then
        if !name.isGiven then start
        else match more[1]? with
          | some other =>
            start ++ ": " ++ name.shown ++ (if other.isGiven then " -> " ++ other.shown else "")
          | none => start ++ ": " ++ name.shown
      else shownTogether (number :: reason :: rest)
  | arguments => shownTogether arguments

/-- What an error of the service says, with details where there are some. -/
def ofService (status : ServiceStatus) (message : Argument) : List Argument →
    Except Error String
  | errors :: details => do
    let text := toString status.code ++ " " ++ message.plain
    let detail ← match details.head? with
      | some d => d.items
      | none => pure []
    if detail.isEmpty then
      let _ ← errors.items
      return text
    else
      return text ++ " " ++ (Value.list detail).shown
  | [] => .ok (toString status.code ++ " " ++ message.plain)

/-- What the errors take that take fixed arguments. -/
def signature? : Kind → Option Signature
  | .operationFailed =>
    some ⟨"OperationFailedError.__init__", ["status_code", "message"], 1⟩
  | .operationTimeout => some ⟨"OperationTimeoutError.__init__", ["operation", "timeout"], 0⟩
  | .visibilityTimeout =>
    some ⟨"VisibilityTimeoutError.__init__", ["zone", "name", "timeout"], 0⟩
  | .service _ => some ⟨"GoogleAPICallError.__init__", ["message"], 4⟩
  | _ => none

/-- Makes an error of a kind. -/
def ofArguments (kind : Kind) (arguments : List Argument) : Except Error MadeError := do
  if let some fault := (signature? kind).bind (·.fault? arguments.length) then
    throw (.call fault)
  match kind, arguments with
  | .operationFailed, code :: message :: rest =>
    let operation := rest.headD (.value .null)
    return { kind, words := Error.failureText code.plain message.plain,
             kept := [("status_code", code), ("operation", operation)] }
  | .operationTimeout, [operation, timeout] =>
    let o ← operation.asOperation
    return { kind, words := Error.lateText o (← timeout.length),
             kept := [("operation", operation), ("timeout", timeout)] }
  | .visibilityTimeout, [zone, name, timeout] =>
    return { kind, words := Error.invisibleText zone.plain name.plain (← timeout.length),
             kept := [("zone", zone), ("name", name), ("timeout", timeout)] }
  | .service status, message :: rest =>
    return { kind, words := ← ofService status message rest }
  | .pollTimeout, _ => return { kind, words := ofSystem arguments }
  | .timeout, _ => return { kind, words := ofSystem arguments }
  | .key, [key] => return { kind, words := key.shown }
  | _, _ => return { kind, words := shownTogether arguments }

end MadeError

end ComputeNodes
