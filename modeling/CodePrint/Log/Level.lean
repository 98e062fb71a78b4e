/-! # Log levels

How important a log entry is. An entry passes a threshold if its level is at least as high.
-/

namespace CodePrint

/-- The importance of a log entry. -/
inductive LogLevel where
  | debug
  | info
  | warning
  | error
  | critical
deriving DecidableEq, Repr

namespace LogLevel

/-- All levels, from the lowest. -/
def all : List LogLevel :=
  [.debug, .info, .warning, .error, .critical]

/-- The level as entries show it. -/
def name : LogLevel → String
  | .debug => "debug"
  | .info => "info"
  | .warning => "warning"
  | .error => "error"
  | .critical => "critical"

/-- The level as settings name it. -/
def setting : LogLevel → String
  | .debug => "DEBUG"
  | .info => "INFO"
  | .warning => "WARNING"
  | .error => "ERROR"
  | .critical => "CRITICAL"

/-- The height of a level. -/
def rank : LogLevel → Nat
  | .debug => 0
  | .info => 1
  | .warning => 2
  | .error => 3
  | .critical => 4

/-- The level that entries show under a name. -/
def ofName? (name : String) : Option LogLevel :=
  all.find? (·.name == name)

/-- The level that settings name. -/
def ofSetting? (setting : String) : Option LogLevel :=
  all.find? (·.setting == setting)

/-- Whether a level passes a threshold. -/
def passes (level threshold : LogLevel) : Bool :=
  threshold.rank ≤ level.rank

end LogLevel

end CodePrint
