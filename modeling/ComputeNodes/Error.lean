/-
What can go wrong, and how it is said.

An error says what happened in terms of the library; `Error.message` puts it into words and
`Error.kind` says which kind of error it is.  Errors of the service, and any other error that only
passes through, are `raised`: a kind and its own words.
-/
import ComputeNodes.Error.Fault
import ComputeNodes.Error.Kind
import ComputeNodes.Error.Signature
import ComputeNodes.Markup.Marked
import ComputeNodes.Message.Pattern
import ComputeNodes.Message.Percent
import ComputeNodes.Number.Seconds
import ComputeNodes.Resource.Operation
import ComputeNodes.Value.Alike

namespace ComputeNodes

/-- What went wrong. -/
inductive Error where
  /-- An error that comes from elsewhere and is passed on as it is. -/
  | raised (kind : Kind) (words : String)
  | configuration (fault : ConfigurationFault)
  | template (fault : TemplateFault)
  | paging (fault : PagingFault)
  | unsupported (action : LifecycleAction)
  | machineTypeNotFound (name project zone : String)
  | operationFailed (code message : Value) (operation : Option Operation)
  | operationTimeout (operation : Operation) (timeout : Seconds)
  | visibilityTimeout (zone name : String) (timeout : Seconds)
  | malformedNodeId (text : String)
  /-- There is nothing under this key. -/
  | unknownKey (key : Value)
  | tooLargeForDouble
  | whole (fault : WholeFault)
  /-- A value is used for what its type does not allow. -/
  | use (fault : UseFault)
  | call (fault : CallFault)
  | unmade (fault : MessageFault)
  | pattern (fault : Message.PatternFault)
  | percent (fault : Message.PercentFault)
  | clock (fault : ClockFault)
  | trace (fault : TraceFault)
  | markup (fault : Markup.MarkupFault)
  /-- A path holds a character that ends it. -/
  | brokenPath
  | undecodable
  /-- Something is nested too deeply. -/
  | tooDeep
  deriving Repr

namespace Error

/-- What is said of an operation that failed. -/
def failureText (code message : String) : String :=
  "operation failed. Http Error Code: " ++ code ++ " HttpError: " ++ message

/-- What is said of an operation that was not done within a length of time. -/
def lateText (operation : Operation) (length : String) : String :=
  "operation " ++ operation.name.plain ++ " did not reach DONE state within " ++ length
    ++ " (last status: " ++ operation.status.word.plain ++ ")"

/-- What is said of an instance that was not visible within a length of time. -/
def invisibleText (zone name length : String) : String :=
  "instance " ++ zone ++ "/" ++ name ++ " not visible after " ++ length

/-- A length of time as errors say it.  Lengths too large for a double have been refused before any
error is made of them. -/
def within (timeout : Seconds) : String := timeout.tenths?.getD "" ++ "s"

/-- The kind of a fault in laying out. -/
def layoutKind : Message.LayoutFault → Kind
  | .notLaidOut _ => .type
  | .tooLargeForDouble => .overflow
  | .tooLargeForWord => .overflow
  | .notACharacter => .overflow
  | .outOfMemory => .outOfMemory
  | _ => .value

/-- The kind of a fault in going on into a value. -/
def partKind : Message.PartFault → Kind
  | .noFeature .. => .attributeMissing
  | .notOfType .. => .attributeMissing
  | .notAbstract => .attributeMissing
  | .noEntry _ => .key
  | .pastEnd _ => .index
  | _ => .type

/-- The kind of a value that cannot be read as a whole number. -/
def wholeKind : WholeFault → Kind
  | .notNumber _ => .type
  | .infinite => .overflow
  | _ => .value

/-- The kind of a fault in a pattern. -/
def patternKind : Message.PatternFault → Kind
  | .noValue _ => .key
  | .noPosition _ => .index
  | .part fault => partKind fault
  | .layout fault => layoutKind fault
  | _ => .value

/-- The kind of a fault in a pattern with percent signs. -/
def percentKind : Message.PercentFault → Kind
  | .part fault => partKind fault
  | .whole fault => wholeKind fault
  | .layout fault => layoutKind fault
  | .incompleteKey => .value
  | .incomplete => .value
  | .widthTooBig => .value
  | .precisionTooBig => .value
  | .unknownConversion .. => .value
  | .starTooLarge _ => .overflow
  | .precisionTooLarge => .overflow
  | _ => .type

/-- The kind of an error. -/
def kind : Error → Kind
  | .raised kind _ => kind
  | .configuration _ => .configuration
  | .template _ => .invalidTemplate
  | .paging _ => .paginationScope
  | .unsupported _ => .unsupportedOperation
  | .machineTypeNotFound .. => .provisioning
  | .operationFailed .. => .operationFailed
  | .operationTimeout .. => .operationTimeout
  | .visibilityTimeout .. => .visibilityTimeout
  | .malformedNodeId _ => .value
  | .unknownKey _ => .key
  | .tooLargeForDouble => .overflow
  | .whole fault => wholeKind fault
  | .use (.lacks ..) => .attributeMissing
  | .use _ => .type
  | .call _ => .type
  | .unmade (.outOfRange _) => .value
  | .unmade .table => .attributeMissing
  | .unmade (.halves _) => .unencodable
  | .unmade _ => .type
  | .pattern fault => patternKind fault
  | .percent fault => percentKind fault
  | .clock .outsideClock => .overflow
  | .clock .outsideSystem => .system
  | .clock _ => .value
  | .markup (.color fault) => wholeKind fault
  | .markup _ => .markup
  | .trace .noError => .assertion
  | .trace _ => .value
  | .brokenPath => .value
  | .undecodable => .undecodable
  | .tooDeep => .recursion

/-- What an error says. -/
def message : Error → String
  | .raised (.service status) words => toString status.code ++ " " ++ words
  | .raised .key words => Text.quoted words
  | .raised _ words => words
  | .configuration fault => fault.text
  | .template fault => fault.text
  | .paging fault => fault.text
  | .unsupported action => action.text ++ " is not supported by GCE"
  | .machineTypeNotFound name project zone =>
    "machine type " ++ name ++ " not found in " ++ project ++ "/" ++ zone
  | .operationFailed code message _ => failureText code.plain message.plain
  | .operationTimeout operation timeout => lateText operation (within timeout)
  | .visibilityTimeout zone name timeout => invisibleText zone name (within timeout)
  | .malformedNodeId text => "expected <zone>/<name>, got " ++ Text.quoted text
  | .unknownKey key => key.shown
  | .tooLargeForDouble => "int too large to convert to float"
  | .whole fault => fault.text
  | .use fault => fault.text
  | .call fault => fault.text
  | .unmade fault => fault.text
  | .pattern fault => fault.text
  | .percent fault => fault.text
  | .clock fault => fault.text
  | .trace fault => fault.text
  | .markup fault => fault.text
  | .brokenPath => "embedded null byte"
  | .undecodable => ""
  | .tooDeep => "maximum recursion depth exceeded"

/-- Whether the service answered that there is no such thing. -/
def isNotFound (e : Error) : Bool := e.kind == .service .notFound

/-- The error of an operation that was not done in time, for a length of time that can be named. -/
def operationTimeout? (operation : Operation) (timeout : Seconds) : Except Error Error :=
  match timeout.tenths? with
  | some _ => .ok (.operationTimeout operation timeout)
  | none => .error .tooLargeForDouble

/-- The error of an instance that was not visible in time, for a length of time that can be
named. -/
def visibilityTimeout? (zone name : String) (timeout : Seconds) : Except Error Error :=
  match timeout.tenths? with
  | some _ => .ok (.visibilityTimeout zone name timeout)
  | none => .error .tooLargeForDouble

theorem bind_eq_ok {α β : Type} {x : Except Error α} {f : α → Except Error β} {b : β} :
    x >>= f = .ok b ↔ ∃ a, x = .ok a ∧ f a = .ok b := by
  cases x with
  | error error => exact ⟨nofun, nofun⟩
  | ok a => exact ⟨fun h => ⟨a, rfl, h⟩, fun ⟨_, ha, h⟩ => by cases ha; exact h⟩

end Error

/-- The place of the status that a value names. -/
def Status.placeOf (word : Value) : Except Error Nat :=
  if word.canBeKey then
    match (Status.ofWord word).rank? with
    | some place => .ok place
    | none => .error (.unknownKey word)
  else
    .error (.use (.notKey word.typeName))

end ComputeNodes
