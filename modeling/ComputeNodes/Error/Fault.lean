/-
Faults: what is wrong with something that is handed in, and how it is said.

Every part of the library that turns something down has a type of faults of its own.  The wording
is in one place for each of them, and the rest of the library works with the fault itself.
-/
import ComputeNodes.Node.Template
import ComputeNodes.Number.Numeral

namespace ComputeNodes

/-- What can be wrong with settings. -/
inductive ConfigurationFault where
  | providerNotTable (typeName : String)
  | unknownSettings (names known : List String)
  | notSeconds (name typeName shown : String)
  | notPositive (name shown : String)
  | notText (name typeName : String)
  | invalidDocument (file : String)
  | loggingNotTable (typeName : String)
  | logFileNotText
  | noCredentials (reason : String)
  | noProject
  | projectNotFound (id identity : String)
  deriving DecidableEq, Repr

namespace ConfigurationFault

def text : ConfigurationFault → String
  | .providerNotTable typeName => "[provider] must be a table, got " ++ typeName
  | .unknownSettings names known =>
    "Unknown provider settings: " ++ ", ".intercalate names ++ ". Valid: "
      ++ ", ".intercalate known
  | .notSeconds name typeName shown =>
    name ++ " must be a number of seconds, got " ++ typeName ++ " " ++ shown
  | .notPositive name shown => name ++ " must be positive, got " ++ shown
  | .notText name typeName => name ++ " must be a string, got " ++ typeName
  | .invalidDocument file => "invalid TOML in " ++ file
  | .loggingNotTable typeName =>
    "[logging] must be a table with level and file keys, got " ++ typeName
  | .logFileNotText => "[logging] file must be a path string"
  | .noCredentials reason => "no GCE identity configured: " ++ reason
  | .noProject =>
    "No GCE project found. Set GOOGLE_CLOUD_PROJECT, pass identity= to GCE(), or configure "
      ++ "Application Default Credentials."
  | .projectNotFound id identity =>
    "project " ++ Text.quoted id ++ " from identity " ++ Text.quoted identity ++ " not found"

end ConfigurationFault

/-- Why a template is turned down before any request is made for it. -/
inductive TemplateFault where
  | lacksCapabilities (typeName : String)
  | noNetwork
  | notZone (location : Location)
  | imageWithoutUri (id : String)
  deriving DecidableEq, Repr

namespace TemplateFault

def text : TemplateFault → String
  | .lacksCapabilities typeName =>
    "template options " ++ typeName ++ " lack the GCE capability set"
  | .noNetwork => "network was not present in template options"
  | .notZone location =>
    "location must be a ZONE, this location is not valid: " ++ location.text
  | .imageWithoutUri id => "image " ++ id ++ " has no URI"

end TemplateFault

/-- Why the pages of a listing cannot be continued. -/
inductive PagingFault where
  /-- A page has a marker, but the listing has nothing to fetch with. -/
  | cannotFetch
  /-- A listing with more pages was issued without a project. -/
  | noProject
  deriving DecidableEq, Repr

def PagingFault.text : PagingFault → String
  | .cannotFetch =>
    "programming error: page has a continuation marker but no way to fetch it"
  | .noProject => "programming error: a paged listing must be issued with a project scope"

/-- How halves of pairs are turned down that are to be written as bytes. -/
def halvesText (halves : Text.Halves) : String :=
  let what := match halves.characters with
    | [c] => " '" ++ String.ofList (Text.numbered (Text.code c)) ++ "' in position "
        ++ toString halves.place
    | cs => "s in position " ++ toString halves.place ++ "-"
        ++ toString (halves.place + cs.length - 1)
  "'utf-8' codec can't encode character" ++ what ++ ": surrogates not allowed"

/-- Why a message cannot be made of what it is to hold. -/
inductive MessageFault where
  /-- One of its texts is none. -/
  | notText (message : String)
  | halves (found : Text.Halves)
  /-- One of its numbers is none. -/
  | notWhole (message typeName : String)
  | outOfRange (count : Int)
  /-- A table is in the place of a text or a number. -/
  | table
  deriving DecidableEq, Repr

namespace MessageFault

/-- What is said of a message that cannot be made. -/
def failed (message reason : String) : String :=
  "Failed to initialize " ++ message ++ ". Underlying error: " ++ reason

def text : MessageFault → String
  | .notText message => failed message "bad argument type for built-in operation"
  | .halves found => halvesText found
  | .notWhole message typeName =>
    failed message ("'" ++ typeName ++ "' object cannot be interpreted as an integer")
  | .outOfRange count => "Value out of range: " ++ toString count
  | .table => "'ProtoType' object has no attribute 'DESCRIPTOR'"

end MessageFault

/-- What the service has no request for. -/
inductive LifecycleAction where
  | reboot
  | resume
  | suspend
  deriving DecidableEq, Repr

def LifecycleAction.text : LifecycleAction → String
  | .reboot => "reboot"
  | .resume => "resume"
  | .suspend => "suspend"

/-- Why a value cannot be read as a whole number, or a whole number not be written. -/
inductive WholeFault where
  | notNumeral (text : String)
  | tooManyDigits (count : Nat)
  /-- A number is to be written that has no numeral. -/
  | noNumeral
  | notNumber (typeName : String)
  | infinite
  | notANumber
  deriving DecidableEq, Repr

/-- How a number is turned down that has too many digits. -/
def limitText (details : String) : String :=
  "Exceeds the limit (" ++ toString Numeral.mostDigits ++ " digits) for integer string conversion"
    ++ details ++ "; use sys.set_int_max_str_digits() to increase the limit"

/-- How a numeral is turned down that has too many digits. -/
def excessText (count : Nat) : String :=
  limitText (": value has " ++ toString count ++ " digits")

/-- The most characters that are shown of a text that is no numeral. -/
def mostShown : Nat := 200

def WholeFault.text : WholeFault → String
  | .notNumeral text =>
    "invalid literal for int() with base 10: "
      ++ String.ofList ((Text.quoted text).toList.take mostShown)
  | .tooManyDigits count => excessText count
  | .noNumeral => limitText ""
  | .notNumber typeName =>
    "int() argument must be a string, a bytes-like object or a real number, not '" ++ typeName
      ++ "'"
  | .infinite => "cannot convert float infinity to integer"
  | .notANumber => "cannot convert float NaN to integer"

/-- What a value is used for that its type does not allow. -/
inductive UseFault where
  /-- A field that has to be there is not, or a value has no fields at all. -/
  | lacks (typeName name : String)
  /-- It cannot be walked item by item. -/
  | notList (typeName : String)
  /-- One of the texts that are put together is none. -/
  | notText (index : Nat) (typeName : String)
  /-- It is put behind a text and is none. -/
  | notJoined (typeName : String)
  | notIndexed (typeName : String)
  | notCallable (typeName : String)
  /-- It is compared with a number. -/
  | notCompared (typeName : String)
  | notPath (typeName : String)
  | notWhole (typeName : String)
  | notKey (typeName : String)
  | notLoggerName
  | notType (typeName : String)
  | notFields (typeName : String)
  deriving DecidableEq, Repr

def UseFault.text : UseFault → String
  | .lacks typeName name => "'" ++ typeName ++ "' object has no attribute '" ++ name ++ "'"
  | .notList typeName => "'" ++ typeName ++ "' object is not iterable"
  | .notText index typeName =>
    "sequence item " ++ toString index ++ ": expected str instance, " ++ typeName ++ " found"
  | .notJoined typeName => "can only concatenate str (not \x22" ++ typeName ++ "\x22) to str"
  | .notIndexed typeName => "'" ++ typeName ++ "' object is not subscriptable"
  | .notCallable typeName => "'" ++ typeName ++ "' object is not callable"
  | .notCompared typeName =>
    "'>=' not supported between instances of '" ++ typeName ++ "' and 'int'"
  | .notPath typeName => "expected str, bytes or os.PathLike object, not " ++ typeName
  | .notWhole typeName => "'" ++ typeName ++ "' object cannot be interpreted as an integer"
  | .notKey typeName => "unhashable type: '" ++ typeName ++ "'"
  | .notLoggerName => "A logger name must be a string"
  | .notType typeName => "__class__ must be set to a class, not '" ++ typeName ++ "' object"
  | .notFields typeName =>
    "__dict__ must be set to a dictionary, not a '" ++ typeName ++ "'"

/-- Why a number of seconds is no moment of the calendar. -/
inductive ClockFault where
  | notANumber
  | outsideCalendar (year : Int)
  | outsideClock
  | outsideSystem
  deriving DecidableEq, Repr

def ClockFault.text : ClockFault → String
  | .notANumber => "Invalid value NaN (not a number)"
  | .outsideCalendar year => "year " ++ toString year ++ " is out of range"
  | .outsideClock => "timestamp out of range for platform time_t"
  | .outsideSystem => "[Errno 75] Value too large for defined data type"

/-- Why the three parts of an error's trace cannot be told apart. -/
inductive TraceFault where
  | tooFewParts (count : Nat)
  | tooManyParts
  | noError
  deriving DecidableEq, Repr

def TraceFault.text : TraceFault → String
  | .tooFewParts count =>
    "not enough values to unpack (expected 3, got " ++ toString count ++ ")"
  | .tooManyParts => "too many values to unpack (expected 3)"
  | .noError => ""

end ComputeNodes
