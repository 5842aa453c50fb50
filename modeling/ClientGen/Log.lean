/-!
# The log

What happens during a run is put on record with a level.
-/

namespace ClientGen

/-- How much a record matters. -/
inductive LogLevel where
  | debug
  | info
  | warning
  | error
  deriving Repr, DecidableEq, Ord

namespace LogLevel

/-- The word for a level. -/
def name : LogLevel → String
  | debug => "DEBUG"
  | info => "INFO"
  | warning => "WARNING"
  | error => "ERROR"

/-- The rank of a level: the higher, the more it matters. -/
def rank : LogLevel → Nat
  | debug => 0
  | info => 1
  | warning => 2
  | error => 3

/-- The lowest level that is shown. -/
def threshold (verbose quiet : Bool) : LogLevel :=
  if verbose then debug else if quiet then error else warning

end LogLevel

/-- A record of the log. -/
structure LogRecord where
  level : LogLevel
  message : String
  deriving Repr, DecidableEq

/-- Whether a record is shown where the lowest level shown is given. -/
def LogRecord.isShown (least : LogLevel) (record : LogRecord) : Bool :=
  least.rank ≤ record.level.rank

end ClientGen
