/-!
# StringCatalog.Log

What the compiler reports while it works: records of a level and a message, and
of the part of the work that they come from.  Work that reports returns its
records, in order, beside its result.
-/

namespace StringCatalog

/-- How much a record matters. -/
inductive Level where
  | debug
  | info
  | warning
  | error
  deriving DecidableEq, Repr

def Level.label : Level → String
  | .debug => "DEBUG"
  | .info => "INFO"
  | .warning => "WARNING"
  | .error => "ERROR"

/-- Whether a level is one that is always shown. -/
def Level.isAlert : Level → Bool
  | .debug | .info => false
  | .warning | .error => true

/-- The parts of the work that report. -/
inductive Source where
  | settings
  | discovery
  | catalog
  | compilation
  | package
  | command
  deriving DecidableEq, Repr

/-- One reported line. -/
structure Record where
  source : Source
  level : Level
  message : String
  deriving DecidableEq, Repr

/-- The records of a stretch of work, in order. -/
abbrev Log := List Record

end StringCatalog
