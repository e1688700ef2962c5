/-
Levels of log records.
-/
import ComputeNodes.Text.LetterCase

namespace ComputeNodes.Logging

inductive Level where
  | trace
  | debug
  | info
  | warning
  | error
  | critical
  deriving DecidableEq, Repr

namespace Level

def number : Level → Nat
  | .trace => 5
  | .debug => 10
  | .info => 20
  | .warning => 30
  | .error => 40
  | .critical => 50

def name : Level → String
  | .trace => "TRACE"
  | .debug => "DEBUG"
  | .info => "INFO"
  | .warning => "WARNING"
  | .error => "ERROR"
  | .critical => "CRITICAL"

/-- The names that thresholds are given by, some of them other names of the same level. -/
def named : List (String × Nat) :=
  [("CRITICAL", 50), ("FATAL", 50), ("ERROR", 40), ("WARNING", 30), ("WARN", 30), ("INFO", 20),
    ("DEBUG", 10), ("TRACE", 5), ("NOTSET", 0)]

/-- The threshold a name stands for, in whatever case; every other text stands for debug. -/
def threshold (name : String) : Nat := (named.lookup (Text.upper name)).getD debug.number

end Level

end ComputeNodes.Logging
